import InputReplay.Document.Yaml.Flaw
import InputReplay.Text.Lines
import InputReplay.Text.Wording

/-! Tokens of a YAML text and the scanner that finds them. A scanner has a place in the text and a queue
of tokens that nobody has taken yet. What a colon makes a key is only known once the colon comes, so a
place where a key may have begun is remembered by its number among all tokens. -/

namespace InputReplay
namespace Yaml

/-- What a line says that stands before a document. -/
inductive Directive where
  | version (major : Nat)
  /-- What a handle stands for at the start of tags. -/
  | handle (handle meaning : String)
  | other
deriving DecidableEq

inductive Token where
  | documentStart | documentEnd | directive (d : Directive)
  | sequenceStart | mappingStart | blockEnd
  | openList | closeList | openMapping | closeMapping
  | key | value | entry | comma
  | alias (name : String)
  | anchor (name : String)
  | tag (handle : Option String) (suffix : String)
  | scalar (text : Wording) (isPlain : Bool)
  | textEnd
deriving DecidableEq

structure Cursor where
  rest : List Char
  index : Nat
  line : Nat
  column : Nat

/-- Stands for the character after the last. -/
def pastEnd : Char := '\x00'

def isBreak (c : Char) : Bool := c == '\n' || c == '\x85' || c == '\u2028' || c == '\u2029'

def endsLine (c : Char) : Bool := c == pastEnd || isBreak c

def isSpace (c : Char) : Bool := c == ' ' || c == '\t'

/-- Whether a character ends a word: a blank, a line end or the end of the text. -/
def isGap (c : Char) : Bool := isSpace c || endsLine c

def isNameChar (c : Char) : Bool := c.isAlphanum || c == '-' || c == '_'

/-- The place after the next character. The mark of the byte order takes no column. -/
def Cursor.next (c : Cursor) : Cursor :=
  match c.rest with
  | [] => c
  | ch :: rest =>
    if isBreak ch then ⟨rest, c.index + 1, c.line + 1, 0⟩
    else ⟨rest, c.index + 1, c.line, if ch = '\ufeff' then c.column else c.column + 1⟩

/-- A place where a key may have begun. It must have when it stands where entries of the innermost
block begin. -/
structure PossibleKey where
  number : Nat
  required : Bool
  index : Nat
  line : Nat
  column : Nat

structure Scanner where
  cursor : Cursor
  /-- Whether the text goes on with a part that cannot be read. -/
  isCut : Bool
  queue : List Token
  /-- How many tokens were taken. -/
  taken : Nat
  /-- Whether the end of the text is among the tokens. -/
  ended : Bool
  /-- The columns of the open blocks, the innermost first. -/
  indents : List Nat
  /-- How many flow collections are open. -/
  flow : Nat
  keyAllowed : Bool
  /-- One place for every open flow collection, the innermost first, and one for the blocks. -/
  keys : List (Option PossibleKey)

abbrev Scan := StateT Scanner (Except Flaw)

namespace Scan

/-- Nothing may begin here, or what began here is not ended. -/
def fail {α : Type} : Scan α := throw .badMark

def cursor : Scan Cursor := do return (← get).cursor

def remaining : Scan Nat := do return (← cursor).rest.length

def peekAt (n : Nat) : Scan Char := do
  let s ← get
  match s.cursor.rest.drop n with
  | c :: _ => return c
  | [] => if s.isCut then throw .badCharacter else return pastEnd

def peek : Scan Char := peekAt 0

/-- Goes on by some characters; the one after them must be readable. -/
def skip (n : Nat) : Scan Unit := do
  let s ← get
  let after := n.repeat Cursor.next s.cursor
  if s.isCut ∧ after.rest = [] then throw .badCharacter
  set { s with cursor := after }

def takeWhile (p : Char → Bool) : Scan (List Char) := do
  let run := (← cursor).rest.takeWhile p
  skip run.length
  return run

def skipWhile (p : Char → Bool) : Scan Unit := discard (takeWhile p)

def lineBreak : Scan (List Char) := do
  let c ← peek
  if isBreak c then
    skip 1
    return [if c = '\x85' then '\n' else c]
  else return []

/-- Whether three such marks, which part documents, stand here alone. -/
def startsRule (mark : Char) : Scan Bool := do
  let _ ← peekAt 2
  if (← cursor).rest.take 3 = [mark, mark, mark] then return isGap (← peekAt 3)
  else return false

def startsAnyRule : Scan Bool := startsRule '-' <||> startsRule '.'

/-- Goes over blanks and a comment to the end of the line. -/
def endLine : Scan Unit := do
  skipWhile (· == ' ')
  if (← peek) = '#' then skipWhile (!isBreak ·)
  if !endsLine (← peek) then fail
  discard lineBreak

/-! Tokens and possible keys -/

def allowKey (b : Bool) : Scan Unit := modify fun s => { s with keyAllowed := b }

def emit (t : Token) : Scan Unit := modify fun s => { s with queue := s.queue ++ [t] }

def insertAt (number : Nat) (ts : List Token) : Scan Unit :=
  modify fun s =>
    let place := number - s.taken
    { s with queue := s.queue.take place ++ ts ++ s.queue.drop place }

def setKey (k : Option PossibleKey) : Scan Unit :=
  modify fun s => { s with keys := k :: s.keys.drop 1 }

def currentKey : Scan (Option PossibleKey) := do return (← get).keys.head?.join

/-- Gives up the place where a key may have begun; one that must have may not be given up. -/
def dropKey : Scan Unit := do
  match ← currentKey with
  | some k => if k.required then fail else setKey none
  | none => pure ()

def saveKey : Scan Unit := do
  let s ← get
  let required := s.flow == 0 && s.indents.head? == some s.cursor.column
  if s.keyAllowed then
    dropKey
    setKey (some ⟨s.taken + s.queue.length, required, s.cursor.index, s.cursor.line, s.cursor.column⟩)

/-- The most characters of a key that no mark announces. -/
def keyLimit : Nat := 1024

/-- A key that no mark announces does not go over lines and is not too long. -/
def dropStaleKeys : Scan Unit := do
  let s ← get
  let stale (k : PossibleKey) : Bool :=
    k.line != s.cursor.line || decide (keyLimit < s.cursor.index - k.index)
  if s.keys.any (·.any fun k => stale k && k.required) then fail
  else set { s with keys := s.keys.map (Option.filter (!stale ·)) }

/-- Opens a block at a column, if it lies to the right of the innermost. -/
def openBlock (column : Nat) : Scan Bool := do
  let s ← get
  let inner := match s.indents.head? with
    | some indent => decide (indent < column)
    | none => true
  if inner then set { s with indents := column :: s.indents }
  return inner

/-- Ends the blocks to the right of a column, or all of them. None ends within a flow collection. -/
def closeBlocks (column : Option Nat) : Scan Unit :=
  modify fun s =>
    if s.flow ≠ 0 then s
    else
      let ended := s.indents.takeWhile fun indent => column.all fun c => decide (c < indent)
      { s with
        indents := s.indents.drop ended.length
        queue := s.queue ++ List.replicate ended.length Token.blockEnd }

end Scan

end Yaml
end InputReplay
