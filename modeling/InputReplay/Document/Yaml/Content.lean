import InputReplay.Document.Json
import InputReplay.Document.Yaml.Token

/-! The texts of scalars, as they are written: plain, between quotes, or in a block of lines of their
own. Line ends within a text are folded: one is read as a blank, and each more as itself. -/

namespace InputReplay
namespace Yaml
namespace Scan

/-- What a line end and the breaks after it are read as. -/
def folded (first breaks : List Char) : List Char :=
  if first ≠ ['\n'] then first ++ breaks else if breaks = [] then [' '] else breaks

/-! Plain -/

def plainLength (inFlow : Bool) : List Char → Nat
  | [] => 0
  | c :: rest =>
    let next := rest.headD pastEnd
    if isGap c || (c == ':' && (isGap next || (inFlow && ",[]\x7b\x7d".toList.contains next)))
        || (inFlow && ",?[]\x7b\x7d".toList.contains c) then 0
    else plainLength inFlow rest + 1

/-- The line ends before the next word; none, if a rule comes first. -/
def plainBreaks : Nat → Scan (Option (List Char))
  | 0 => return none
  | fuel + 1 => do
    skipWhile (· == ' ')
    if isBreak (← peek) then
      let found ← lineBreak
      if ← startsAnyRule then return none
      return (← plainBreaks fuel).map (found ++ ·)
    else return some []

/-- What parts two words of a plain scalar, unless a rule comes. -/
def plainSpaces : Scan (List Char) := do
  let blanks ← takeWhile (· == ' ')
  if isBreak (← peek) then
    let first ← lineBreak
    allowKey true
    if ← startsAnyRule then return []
    return (← plainBreaks ((← remaining) + 1)).elim [] (folded first)
  else return blanks

/-- The words of a plain scalar. Outside flow collections they stand at or after the column `least`. -/
def plainWords (least : Nat) (spaces : List Char) : Nat → Scan (List Char)
  | 0 => return []
  | fuel + 1 => do
    if (← peek) = '#' then return []
    let s ← get
    let length := plainLength (s.flow != 0) s.cursor.rest
    if length = 0 then return []
    allowKey false
    skip length
    let word := spaces ++ s.cursor.rest.take length
    let more ← plainSpaces
    if more = [] ∨ (← peek) = '#' ∨ (s.flow = 0 ∧ (← cursor).column < least) then return word
    else return word ++ (← plainWords least more fuel)

/-! Between quotes -/

def quotedBreaks : Nat → Scan (List Char)
  | 0 => return []
  | fuel + 1 => do
    if ← startsAnyRule then fail
    skipWhile isSpace
    if isBreak (← peek) then
      let found ← lineBreak
      return found ++ (← quotedBreaks fuel)
    else return []

def quotedSpaces : Scan (List Char) := do
  let blanks ← takeWhile isSpace
  if (← peek) = pastEnd then fail
  else if isBreak (← peek) then
    let first ← lineBreak
    return folded first (← quotedBreaks ((← remaining) + 1))
  else return blanks

def escapes : List (Char × Char) := [
  ('0', '\x00'), ('a', '\x07'), ('b', '\x08'), ('t', '\t'), ('\t', '\t'), ('n', '\n'),
  ('v', '\x0b'), ('f', '\x0c'), ('r', '\r'), ('e', '\x1b'), (' ', ' '), ('"', '"'), ('/', '/'),
  ('\\', '\\'), ('N', '\x85'), ('_', '\xa0'), ('L', '\u2028'), ('P', '\u2029')]

def escapeLengths : List (Char × Nat) := [('x', 2), ('u', 4), ('U', 8)]

/-- The code of an escape with its number, which may be half of a pair that stands for a character. -/
def numbered (n : Nat) : Scan Nat :=
  if 0x10ffff < n then throw (.noCharacter n) else return n

/-- The codes of an escape, after its backslash. -/
def escaped : Scan (List Nat) := do
  let mark ← peek
  match escapes.lookup mark, escapeLengths.lookup mark with
  | some ch, _ => do
    skip 1
    return [ch.toNat]
  | none, some n => do
    skip 1
    let digits := (← cursor).rest.take n
    match digits.mapM Json.hexDigit? with
    | some values =>
      if values.length < n then fail
      else
        let code ← numbered (values.foldl (fun v d => 16 * v + d) 0)
        skip n
        return [code]
    | none => fail
  | none, none =>
    if isBreak mark then
      discard lineBreak
      return (← quotedBreaks ((← remaining) + 1)).map Char.toNat
    else fail

/-- The codes of a quoted scalar, up to its quote. -/
def quotedText (quote : Char) : Nat → Scan (List Nat)
  | 0 => fail
  | fuel + 1 => do
    let ch ← peek
    if isGap ch then
      let spaces ← quotedSpaces
      return spaces.map Char.toNat ++ (← quotedText quote fuel)
    else if ch = quote then
      if quote = '\'' ∧ (← peekAt 1) = quote then
        skip 2
        return quote.toNat :: (← quotedText quote fuel)
      else
        skip 1
        return []
    else if quote = '"' ∧ ch = '\\' then
      skip 1
      let part ← escaped
      return part ++ (← quotedText quote fuel)
    else
      skip 1
      return ch.toNat :: (← quotedText quote fuel)

/-! Blocks of lines -/

/-- What is kept of the line ends after a block scalar. -/
inductive Chomping where
  | strip
  | clip
  | keep
deriving DecidableEq

def chomping? : Scan (Option Chomping) := do
  let ch ← peek
  if ch = '+' then
    skip 1
    return some .keep
  else if ch = '-' then
    skip 1
    return some .strip
  else return none

/-- By how much a block scalar is indented, if that is written. -/
def depth? : Scan (Option Nat) := do
  let ch ← peek
  if ch = '0' then fail
  else if ch.isDigit then
    skip 1
    return some (ch.toNat - '0'.toNat)
  else return none

/-- The marks after the mark of a block scalar, up to the end of the line. -/
def blockHeader : Scan (Chomping × Option Nat) := do
  let (chomping, depth) ← (do
    match ← chomping? with
    | some chomping => return (some chomping, ← depth?)
    | none =>
      match ← depth? with
      | some n => return (← chomping?, some n)
      | none => return (none, none))
  let ch ← peek
  if ch ≠ ' ' ∧ !endsLine ch then fail
  endLine
  return (chomping.getD .clip, depth)

/-- The lines before the first that is not empty, and the greatest column that blanks lead to. -/
def leadingLines (most : Nat) : Nat → Scan (List Char × Nat)
  | 0 => return ([], most)
  | fuel + 1 => do
    let ch ← peek
    if ch = ' ' then
      skipWhile (· == ' ')
      leadingLines (max most (← cursor).column) fuel
    else if isBreak ch then
      let found ← lineBreak
      let (more, most) ← leadingLines most fuel
      return (found ++ more, most)
    else return ([], most)

/-- Empty lines, of which at most `indent` blanks do not count. -/
def emptyLines (indent : Nat) : Nat → Scan (List Char)
  | 0 => return []
  | fuel + 1 => do
    let c ← cursor
    let blanks := c.rest.takeWhile (· == ' ')
    skip (min blanks.length (indent - c.column))
    if isBreak (← peek) then
      let found ← lineBreak
      return found ++ (← emptyLines indent fuel)
    else return []

/-- Whether a line of a block scalar begins here. -/
def atLine (indent : Nat) : Scan Bool := do
  return (← cursor).column == indent && (← peek) != pastEnd

/-- The lines of a block scalar from the one that begins here on, the end of the last, and the empty
lines after it. -/
def blockLines (folds : Bool) (indent : Nat) : Nat → Scan (List Char × List Char × List Char)
  | 0 => return ([], [], [])
  | fuel + 1 => do
    let first ← peek
    let line ← takeWhile (!isBreak ·)
    let ending ← lineBreak
    let breaks ← emptyLines indent ((← remaining) + 1)
    if ← atLine indent then
      let joins := folds && ending == ['\n'] && !isSpace first && !isSpace (← peek)
      let between := if joins then (if breaks = [] then [' '] else []) else ending
      let (more, last, after) ← blockLines folds indent fuel
      return (line ++ between ++ breaks ++ more, last, after)
    else return (line, ending, breaks)

def blockText (folds : Bool) : Scan (List Char) := do
  let (chomping, depth) ← blockHeader
  let least := match (← get).indents.head? with
    | some indent => indent + 1
    | none => 1
  let fuel := (← remaining) + 1
  let (leading, indent) ← (match depth with
    | some n => do return (← emptyLines (least + n - 1) fuel, least + n - 1)
    | none => do
      let (leading, most) ← leadingLines 0 fuel
      return (leading, max least most))
  let (text, ending, breaks) ← (do
    if ← atLine indent then
      let (text, ending, breaks) ← blockLines folds indent fuel
      return (leading ++ text, ending, breaks)
    else return ([], [], leading))
  return match chomping with
    | .strip => text
    | .clip => text ++ ending
    | .keep => text ++ ending ++ breaks

end Scan
end Yaml
end InputReplay
