import InputReplay.Domain.LabelTable
import InputReplay.Text.Ascii
import InputReplay.Text.JoiningTable
import InputReplay.Text.LowerCase
import InputReplay.Text.MarkTable
import InputReplay.Text.NormalForm
import InputReplay.Text.Punycode

/-! The labels of a domain name. A label holds small letters, digits, marks and hyphens of any script,
and a few characters only where their neighbours allow them; one that is read from the right keeps
its directions apart. A label beyond ASCII also has a coded form, a mark and its Punycode. -/

namespace InputReplay

inductive LabelFault where
  | empty
  | tooLong
  | notNormal
  | innerHyphens
  | outerHyphen
  | leadingMark
  | forbidden (code place : Nat) (label : List Nat)
  | misplaced (code place : Nat) (label : List Nat)
  | misplacedJoiner (code place : Nat) (label : List Nat)
  /-- A joiner behind a character that has no name. -/
  | joinerAfterUnnamed (code place : Nat) (label : List Nat)
  | unknownDirection (place : Nat) (label : List Nat)
  | undirectedStart (label : List Nat)
  /-- A character read from the other side than its label. -/
  | wrongWay (fromRight : Bool) (place : Nat)
  | mixedDigits
  | undirectedEnd
  | emptyCode
  | codeEndsInHyphen
  | notCode
  /-- A coded form other than the one that its label has. -/
  | otherCode
deriving DecidableEq

namespace LabelFault

/-- The code of a character, as faults show it. -/
def number (code : Nat) : String :=
  let digits := (Nat.toDigits 16 code).map Char.toUpper
  "U+" ++ String.ofList (List.replicate (4 - digits.length) '0' ++ digits)

def message : LabelFault → String
  | empty => "Empty Label"
  | tooLong => "Label too long"
  | notNormal => "Label must be in Normalization Form C"
  | innerHyphens => "Label has disallowed hyphens in 3rd and 4th position"
  | outerHyphen => "Label must not start or end with a hyphen"
  | leadingMark => "Label begins with an illegal combining character"
  | forbidden code place label =>
    s!"Codepoint {number code} at position {place} of {quotedCodes label} not allowed"
  | misplaced code place label =>
    s!"Codepoint {number code} not allowed at position {place} in {quotedCodes label}"
  | misplacedJoiner code place label =>
    s!"Joiner {number code} not allowed at position {place} in {quotedCodes label}"
  | joinerAfterUnnamed code place label =>
    s!"Unknown codepoint adjacent to joiner {number code} at position {place} in " ++
      quotedCodes label
  | unknownDirection place label =>
    s!"Unknown directionality in label {quotedCodes label} at position {place}"
  | undirectedStart label =>
    s!"First codepoint in label {quotedCodes label} must be directionality L, R or AL"
  | wrongWay fromRight place =>
    s!"Invalid direction for codepoint at position {place} in a " ++
      (if fromRight then "right-to-left label" else "left-to-right label")
  | mixedDigits => "Can not mix numeral types in a right-to-left label"
  | undirectedEnd => "Label ends with illegal codepoint directionality"
  | emptyCode => "Malformed A-label, no Punycode eligible content found"
  | codeEndsInHyphen => "A-label must not end with a hyphen"
  | notCode => "Invalid A-label"
  | otherCode => "A-label is not the canonical Punycode encoding of its U-label"

def kind : LabelFault → String
  | forbidden .. => "InvalidCodepoint"
  | misplaced .. | misplacedJoiner .. => "InvalidCodepointContext"
  | unknownDirection .. | undirectedStart _ | wrongWay .. | mixedDigits | undirectedEnd => "IDNABidiError"
  | _ => "IDNAError"

end LabelFault

/-- Which way a character of a label is read. -/
inductive Direction where
  | left
  | right
  | digit
  | arabicDigit
  /-- A mark goes with the character that it is put on. -/
  | mark
  | neutral
  | unknown
deriving DecidableEq

namespace Label

def isNonspacing (code : Nat) : Bool := inRanges nonspacingRanges code

def isMark (code : Nat) : Bool := isNonspacing code || inRanges spacingRanges code

/-- Whether a letter has no capital form of its own to give way to. Of the Cherokee letters it is the
capitals that do not give way. -/
def isSmall (c : Char) : Bool := lowerChar c == [c] || inRanges [(0x13a0, 0x13f5)] c.toNat

/-- Whether a character came after Unicode 14. It has no printed form, name or direction yet. -/
def isLater (code : Nat) : Bool := inRanges laterLabelRanges code

/-- Whether a character may stand anywhere in a label. -/
def isOrdinary (code : Nat) : Bool :=
  let c := Char.ofNat code
  isLater code || (isPrintable c && isSmall c && inRanges labelRanges code)

def isArabicDigit (code : Nat) : Bool := inRanges [(0x660, 0x669)] code

def isEasternDigit (code : Nat) : Bool := inRanges [(0x6f0, 0x6f9)] code

def isVirama (code : Nat) : Bool := combiningClass (Char.ofNat code) == 9

/-- Whether a character that may stand in a label has no name: the later ones, and the ideographs of
Tangut. -/
def isUnnamed (code : Nat) : Bool :=
  isLater code || inRanges [(0x17000, 0x187f7), (0x18d00, 0x18d08)] code

/-- Whether the letters around a character join as if it were not there: those of the table, and every
nonspacing mark but one. -/
def isTransparent (code : Nat) : Bool :=
  (isNonspacing code && code != 0x1171e) || inRanges joinedAcrossRanges code

def joinsForward (code : Nat) : Bool :=
  inRanges bothJoiningRanges code || inRanges forwardJoiningRanges code

def joinsBackward (code : Nat) : Bool :=
  inRanges bothJoiningRanges code || inRanges backwardJoiningRanges code

/-- Whether the zero-width joiner may stand behind a part of a label, backwards: after a virama. -/
def allowsJoiner (before : List Nat) : Bool := before.head?.any isVirama

/-- Whether the zero-width non-joiner may stand between two parts of a label, the first one backwards:
after a virama, and between letters that would join. -/
def allowsNonJoiner (before after : List Nat) : Bool :=
  allowsJoiner before ||
    ((before.dropWhile isTransparent).head?.any joinsForward &&
      (after.dropWhile isTransparent).head?.any joinsBackward)

def nonJoiner : Nat := 0x200c

def joiner : Nat := 0x200d

/-- Whether one of the characters that need the right neighbours has them, between what stands before,
backwards, and after; none if the character is not one of them. -/
def inContext? (before : List Nat) (code : Nat) (after : List Nat) : Option Bool :=
  let c := Char.ofNat code
  if c = '·' then some (before.head? = some 'l'.toNat && after.head? = some 'l'.toNat)
  else if c = '͵' then some (after.head?.any (inRanges greekRanges ·))
  else if c = '׳' ∨ c = '״' then some (before.head?.any (inRanges hebrewRanges ·))
  else if c = '・' then some ((before ++ after).any (inRanges japaneseRanges ·))
  else if isArabicDigit code then some (!(before ++ after).any isEasternDigit)
  else if isEasternDigit code then some (!(before ++ after).any isArabicDigit)
  else none

/-- Checks each character of a label that follows the characters `before`, backwards. -/
def checkEach (before : List Nat) : List Nat → Except LabelFault Unit
  | [] => .ok ()
  | code :: after => do
    let place := before.length + 1
    let label := before.reverse ++ code :: after
    if isOrdinary code then pure ()
    else if code = nonJoiner ∨ code = joiner then
      if before.head?.any isUnnamed then throw (.joinerAfterUnnamed code place label)
      let isAllowed := if code = joiner then allowsJoiner before else allowsNonJoiner before after
      unless isAllowed do throw (.misplacedJoiner code place label)
    else match inContext? before code after with
      | some true => pure ()
      | some false => throw (.misplaced code place label)
      | none => throw (.forbidden code place label)
    checkEach (code :: before) after

/-- The nonspacing marks that are read like letters. -/
def readMarks : List Nat := [0xcbf, 0xcc6, 0x11a07, 0x11a08, 0x11c3f]

def direction (code : Nat) : Direction :=
  if isLater code then .unknown
  else if isNonspacing code && !readMarks.contains code then .mark
  else if isArabicDigit code || inRanges [(0x10d30, 0x10d39)] code then .arabicDigit
  else if (Char.ofNat code).isDigit || isEasternDigit code then .digit
  else if inRanges rightRanges code then .right
  else if inRanges neutralRanges code then .neutral
  else .left

/-- Checks the directions in a label from a place on; `digit` is the first kind of digit in it. -/
def checkWay (fromRight : Bool) (digit : Option Direction) (place : Nat) :
    List Direction → Except LabelFault Unit
  | [] => .ok ()
  | d :: rest =>
    let isWrong := if fromRight then d == .left else d == .right || d == .arabicDigit
    if isWrong then .error (.wrongWay fromRight place)
    else if fromRight ∧ (d = .digit ∨ d = .arabicDigit) then
      if digit.any (· ≠ d) then .error .mixedDigits
      else checkWay fromRight (some d) (place + 1) rest
    else checkWay fromRight digit (place + 1) rest

/-- Whether a label read in one direction may end in a character of another. -/
def mayEnd (fromRight : Bool) (d : Direction) : Bool :=
  d == .digit || (if fromRight then d == .right || d == .arabicDigit else d == .left)

/-- Checks that the directions in a label are known and, if one of its characters is read from the
right, that they go together. -/
def checkDirections (label : List Nat) : Except LabelFault Unit := do
  let directions := label.map direction
  match directions.findIdx? (· = .unknown) with
  | some i => throw (.unknownDirection (i + 1) label)
  | none => pure ()
  if directions.any fun d => d == .right || d == .arabicDigit then
    let first := directions.headD .neutral
    let fromRight := first == .right
    unless fromRight || first == .left do throw (.undirectedStart label)
    checkWay fromRight none 1 directions
    unless (directions.reverse.find? (· ≠ .mark)).any (mayEnd fromRight) do throw .undirectedEnd

/-- Checks a label. A code that no character has counts as one that is not allowed. -/
def check (label : List Nat) : Except LabelFault Unit := do
  if label = [] then throw .empty
  if 254 < label.length then throw .tooLong
  unless isNormal (label.map Char.ofNat) do throw .notNormal
  let hyphen := '-'.toNat
  if (label.drop 2).take 2 = [hyphen, hyphen] then throw .innerHyphens
  if label.head? = some hyphen ∨ label.getLast? = some hyphen then throw .outerHyphen
  if label.head?.any isMark then throw .leadingMark
  checkEach [] label
  checkDirections label

/-- What a coded label starts with. -/
def codeMark : List Char := ['x', 'n', '-', '-']

/-- Checks a label in ASCII, which may be coded. -/
def checkPlain (label : List Char) : Except LabelFault Unit := do
  let label := label.map Char.toLower
  if codeMark.isPrefixOf label then
    let code := label.drop codeMark.length
    if code = [] then throw .emptyCode
    if code.getLast? = some '-' then throw .codeEndsInHyphen
    match Punycode.decode? code with
    | some decoded =>
      unless Punycode.encode decoded = code do throw .otherCode
      check decoded
    | none => throw .notCode
  else check (label.map Char.toNat)

def longest : Nat := 63

def encode (label : List Char) : Except LabelFault (List Char) := do
  let isPlain := isAscii label
  let codes := label.map Char.toNat
  if isPlain then checkPlain label else check codes
  let form := if isPlain then label else codeMark ++ Punycode.encode codes
  if longest < form.length then throw .tooLong
  return form

end Label

end InputReplay
