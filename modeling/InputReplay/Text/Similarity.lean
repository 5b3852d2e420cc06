/-! How alike two words are: the characters they share in runs, the longest run first, as a part of all
their characters. -/

namespace InputReplay
namespace Similarity

/-- A run that stands in two words: where it starts in each, and its length. -/
structure Shared where
  first : Nat
  second : Nat
  length : Nat

def common : List Char → List Char → Nat
  | a :: as, b :: bs => if a = b then common as bs + 1 else 0
  | _, _ => 0

def longer (x y : Shared) : Shared := if x.length < y.length then y else x

/-- The longest run shared; of several, the one that starts first. -/
def longest (a b : List Char) : Shared :=
  let starts := (List.range a.length).flatMap fun i => (List.range b.length).map fun j => (i, j)
  starts.foldl (fun best (i, j) => longer best ⟨i, j, common (a.drop i) (b.drop j)⟩) ⟨0, 0, 0⟩

/-- How many characters stand in shared runs: in the longest, and before and after it. -/
def sharedCount : Nat → List Char → List Char → Nat
  | 0, _, _ => 0
  | fuel + 1, a, b =>
    let s := longest a b
    if s.length = 0 then 0
    else s.length + sharedCount fuel (a.take s.first) (b.take s.second) +
      sharedCount fuel (a.drop (s.first + s.length)) (b.drop (s.second + s.length))

structure Score where
  word : String
  shared : Nat
  all : Nat

def score (target word : String) : Score :=
  let a := word.toList
  let b := target.toList
  ⟨word, sharedCount (a.length + 1) a b, a.length + b.length⟩

/-- Words are alike when they share six tenths of their characters. -/
def Score.isClose (s : Score) : Bool := decide (3 * s.all ≤ 10 * s.shared)

/-- Whether a word is more alike than another; of equals the later in order counts. -/
def Score.exceeds (s t : Score) : Bool :=
  t.shared * s.all < s.shared * t.all || (t.shared * s.all == s.shared * t.all && t.word < s.word)

/-- The three words most like a given one, in their own order. -/
def closest (target : String) (words : List String) : List String :=
  let close := (words.map (score target)).filter Score.isClose
  ((close.mergeSort fun s t => !t.exceeds s).take 3).map (·.word) |>.mergeSort (· ≤ ·)

end Similarity
end InputReplay
