import InputReplay.Document.Yaml.Content
import InputReplay.Text.Utf8

/-! What is said about nodes and documents: the names of anchors, the tags of nodes, and directives. A
tag begins with a handle, which directives give a meaning, or stands whole between angle brackets. -/

namespace InputReplay
namespace Yaml
namespace Scan

/-- A name and what must not be missing from it. -/
def name : Scan String := do
  let found ← takeWhile isNameChar
  if found = [] then fail
  return String.ofList found

/-- What may follow the name of an anchor. -/
def endsAnchor (c : Char) : Bool := isGap c || "?:,]\x7d%@\x60".toList.contains c

def anchorName : Scan String := do
  skip 1
  let found ← name
  if !endsAnchor (← peek) then fail
  return found

/-! Tags -/

def isTagChar (c : Char) : Bool := c.isAlphanum || "-;/?:@&=+$,_.!~*'()[]".toList.contains c

def escapedBytes : Nat → Scan (List UInt8)
  | 0 => return []
  | fuel + 1 => do
    if (← peek) = '%' then
      skip 1
      let digits := (← cursor).rest.take 2
      match digits.mapM Json.hexDigit? with
      | some [a, b] => do
        skip 2
        return UInt8.ofNat (16 * a + b) :: (← escapedBytes fuel)
      | _ => fail
    else return []

def tagChars : Nat → Scan (List Char)
  | 0 => return []
  | fuel + 1 => do
    let plain ← takeWhile isTagChar
    if (← peek) = '%' then
      match Utf8.decode (← escapedBytes ((← remaining) + 1)) with
      | .ok chars => return plain ++ chars ++ (← tagChars fuel)
      | .error _ => fail
    else return plain

/-- The rest of a tag after its handle, or what a handle stands for. An escape may stand for nothing
that is seen, but something must be there. -/
def tagText : Scan String := do
  let before := (← cursor).index
  let found ← tagChars ((← remaining) + 1)
  if (← cursor).index = before then fail
  return String.ofList found

/-- A handle: a mark alone, or a name between two marks. -/
def tagHandle : Scan String := do
  if (← peek) ≠ '!' then fail
  skip 1
  if (← peek) = ' ' then return "!"
  let inner ← takeWhile isNameChar
  if (← peek) ≠ '!' then fail
  skip 1
  return String.ofList ('!' :: inner ++ ['!'])

def tag : Scan Token := do
  let next ← peekAt 1
  let (handle, suffix) ← (do
    if next = '<' then
      skip 2
      let text ← tagText
      if (← peek) ≠ '>' then fail
      skip 1
      return (none, text)
    else if isGap next then
      skip 1
      return (none, "!")
    else
      let word := ((← cursor).rest.drop 1).takeWhile fun c => c != ' ' && !endsLine c
      if word.contains '!' then
        let handle ← tagHandle
        return (some handle, ← tagText)
      else
        skip 1
        return (some "!", ← tagText))
  let after ← peek
  if after ≠ ' ' ∧ !endsLine after then fail
  return .tag handle suffix

/-! Directives -/

def versionNumber : Scan Nat := do
  let digits ← takeWhile Char.isDigit
  if digits = [] then fail
  if numeralLimit < digits.length then throw (.integer (.tooLong ⟨digits.length⟩))
  return numeral digits

def atWordEnd : Scan Bool := do
  let c ← peek
  return c == ' ' || endsLine c

def directiveValue (name : String) : Scan Directive := do
  match name with
  | "YAML" => do
    skipWhile (· == ' ')
    let major ← versionNumber
    if (← peek) ≠ '.' then fail
    skip 1
    discard versionNumber
    if !(← atWordEnd) then fail
    return .version major
  | "TAG" => do
    skipWhile (· == ' ')
    let handle ← tagHandle
    if (← peek) ≠ ' ' then fail
    skipWhile (· == ' ')
    let meaning ← tagText
    if !(← atWordEnd) then fail
    return .handle handle meaning
  | _ => do
    skipWhile (!endsLine ·)
    return .other

/-- A directive, which fills its line. -/
def directive : Scan Directive := do
  skip 1
  let found ← name
  if !(← atWordEnd) then fail
  let d ← directiveValue found
  endLine
  return d

end Scan
end Yaml
end InputReplay
