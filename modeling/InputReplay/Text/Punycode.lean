import InputReplay.Text.Fields

/-! Punycode: a text as its ASCII characters and a list of numbers. The other characters are inserted
in the order of their codes and, of equal ones, from left to right; each number says how many pairs
of a code and a place lie between an insertion and the one before it. Texts are lists of codes here,
since a number may lead to a code that no character has. -/

namespace InputReplay
namespace Punycode

/-- Where insertions stand: the next pair that may be inserted, and the bias of the digits. -/
structure State where
  code : Nat
  place : Nat
  bias : Nat
  isFirst : Bool

def start : State := ⟨128, 0, 72, true⟩

/-- A digit of this weight or more goes on at its place; one below ends the number. -/
def threshold (place bias : Nat) : Nat := max 1 (min 26 (36 * (place + 1) - bias))

/-- Divides by 35 until a number is small, and counts 36 for each time. -/
def shrink (n : Nat) : Nat × Nat :=
  if 455 < n then
    let (small, steps) := shrink (n / 35)
    (small, steps + 36)
  else (n, 0)
termination_by n
decreasing_by omega

/-- The bias after a number was used to make a text of a length. -/
def nextBias (number length : Nat) (isFirst : Bool) : Nat :=
  let n := if isFirst then number / 700 else number / 2
  let (small, steps) := shrink (n + n / length)
  steps + 36 * small / (small + 38)

def digitChar (d : Nat) : Char := Char.ofNat (if d < 26 then 'a'.toNat + d else '0'.toNat + d - 26)

def digitValue? (c : Char) : Option Nat :=
  if 'a' ≤ c ∧ c ≤ 'z' then some (c.toNat - 'a'.toNat)
  else if 'A' ≤ c ∧ c ≤ 'Z' then some (c.toNat - 'A'.toNat)
  else if c.isDigit then some (c.toNat - '0'.toNat + 26)
  else none

def digits (bias place n : Nat) : List Char :=
  let t := threshold place bias
  if n < t then [digitChar n]
  else digitChar (t + (n - t) % (36 - t)) :: digits bias (place + 1) ((n - t) / (36 - t))
termination_by n
decreasing_by
  have : 1 ≤ threshold place bias := by unfold threshold; omega
  calc (n - threshold place bias) / (36 - threshold place bias)
      ≤ n - threshold place bias := Nat.div_le_self _ _
    _ < n := by omega

/-- Reads a number, whose digits so far are worth `n`, and hands back the rest. -/
def number? (bias place weight n : Nat) : List Char → Option (Nat × List Char)
  | [] => none
  | c :: rest =>
    match digitValue? c with
    | none => none
    | some d =>
      let t := threshold place bias
      if d < t then some (n + d * weight, rest)
      else number? bias (place + 1) (weight * (36 - t)) (n + d * weight) rest

theorem number?_shorter {bias place weight n m : Nat} {digits rest : List Char}
    (h : number? bias place weight n digits = some (m, rest)) : rest.length < digits.length := by
  induction digits generalizing place weight n with
  | nil => simp [number?] at h
  | cons c more ih =>
    simp only [number?] at h
    split at h
    · simp at h
    · split at h
      · simp only [Option.some.injEq, Prod.mk.injEq] at h
        simp [h.2]
      · have := ih h
        simp only [List.length_cons]
        omega

/-- The state after a character was put at a place of a text of `length` others. -/
def State.next (s : State) (number code place length : Nat) : State :=
  ⟨code, place + 1, nextBias number (length + 1) s.isFirst, false⟩

/-- The insertions that make a text of its ASCII characters: each with its code, its place, and how
many characters are there before it. -/
def insertions (text : List Nat) : List (Nat × Nat × Nat) :=
  let placed := text.zipIdx
  let others := (placed.filter fun (code, _) => decide (128 ≤ code)).mergeSort fun a b =>
    decide (a.1 < b.1) || (a.1 == b.1 && decide (a.2 ≤ b.2))
  others.map fun (code, i) =>
    let earlier := placed.filter fun (d, j) => decide (d < code) || (d == code && decide (j < i))
    (code, (earlier.filter fun (_, j) => decide (j < i)).length, earlier.length)

def encodeFrom (s : State) : List (Nat × Nat × Nat) → List Char
  | [] => []
  | (code, place, length) :: rest =>
    let number := (code - s.code) * (length + 1) + place - s.place
    digits s.bias 0 number ++ encodeFrom (s.next number code place length) rest

def encode (text : List Nat) : List Char :=
  let plain := (text.filter fun code => decide (code < 128)).map Char.ofNat
  (if plain = [] then [] else plain ++ ['-']) ++ encodeFrom start (insertions text)

def codeLimit : Nat := 0x110000

def decodeFrom (s : State) (text : List Nat) (digits : List Char) : Option (List Nat) :=
  match digits with
  | [] => some text
  | c :: more =>
    match _h : number? s.bias 0 1 0 (c :: more) with
    | none => none
    | some (number, rest) =>
      let n := s.place + number
      let code := s.code + n / (text.length + 1)
      let place := n % (text.length + 1)
      if code < codeLimit then
        decodeFrom (s.next number code place text.length)
          (text.take place ++ code :: text.drop place) rest
      else none
termination_by digits.length
decreasing_by exact number?_shorter _h

/-- The text of an ASCII form: what stands before its last hyphen, with what the digits insert. -/
def decode? (form : List Char) : Option (List Nat) :=
  match (fields '-' form).reverse with
  | digits :: plain => decodeFrom start ((joinFields '-' plain.reverse).map Char.toNat) digits
  | [] => none

end Punycode
end InputReplay
