import InputReplay.Document.Yaml.Property

/-! Finding tokens one after another: the marks of flow collections, the scalars, and the begins and
ends of block collections, which follow from indentation. A token is only looked for when it is asked
for, or when one before it may yet turn out to be a key. -/

namespace InputReplay
namespace Yaml
namespace Scan

/-- Goes over blanks, comments and line ends up to the next token. -/
def skipGaps : Nat → Scan Unit
  | 0 => pure ()
  | fuel + 1 => do
    skipWhile (· == ' ')
    if (← peek) = '#' then skipWhile (!isBreak ·)
    if isBreak (← peek) then
      discard lineBreak
      if (← get).flow = 0 then allowKey true
      skipGaps fuel

/-- A rule or a directive ends all blocks. -/
def endBlocks : Scan Unit := do
  closeBlocks none
  dropKey
  allowKey false

def rule (t : Token) : Scan Unit := do
  endBlocks
  skip 3
  emit t

def openFlow (t : Token) : Scan Unit := do
  saveKey
  modify fun s => { s with flow := s.flow + 1, keys := none :: s.keys }
  allowKey true
  skip 1
  emit t

def closeFlow (t : Token) : Scan Unit := do
  dropKey
  modify fun s => { s with flow := s.flow - 1, keys := if s.flow = 0 then s.keys else s.keys.drop 1 }
  allowKey false
  skip 1
  emit t

def comma : Scan Unit := do
  allowKey true
  dropKey
  skip 1
  emit .comma

/-- Opens a block here, where one must be allowed, unless a flow collection is open. -/
def openHere (t : Token) : Scan Unit := do
  let s ← get
  if s.flow = 0 then
    if !s.keyAllowed then fail
    if ← openBlock s.cursor.column then emit t

def entry : Scan Unit := do
  openHere .sequenceStart
  allowKey true
  dropKey
  skip 1
  emit .entry

def key : Scan Unit := do
  openHere .mappingStart
  allowKey ((← get).flow = 0)
  dropKey
  skip 1
  emit .key

/-- A colon makes what stands at the remembered place a key. -/
def value : Scan Unit := do
  match ← currentKey with
  | some k => do
    setKey none
    let opened ← if (← get).flow = 0 then openBlock k.column else pure false
    insertAt k.number (if opened then [.mappingStart, .key] else [.key])
    allowKey false
  | none => do
    openHere .mappingStart
    allowKey ((← get).flow = 0)
    dropKey
  skip 1
  emit .value

/-- A token that may begin a key. -/
def keyPart (read : Scan Token) : Scan Unit := do
  saveKey
  allowKey false
  emit (← read)

def quotedScalar (quote : Char) : Scan Token := do
  skip 1
  return .scalar (.ofCodes (← quotedText quote (2 * (← remaining) + 1))) false

def plainScalar : Scan Token := do
  let s ← get
  let least := match s.indents.head? with
    | some indent => indent + 1
    | none => 0
  return .scalar (.whole (String.ofList (← plainWords least [] ((← remaining) + 1)))) true

/-- A key may follow a block scalar, but not begin with it. -/
def blockScalar (folds : Bool) : Scan Unit := do
  allowKey true
  dropKey
  skip 1
  emit (.scalar (.whole (String.ofList (← blockText folds))) false)

/-- A character that has a meaning of its own at the start of a token. -/
def isIndicator (c : Char) : Bool := "-?:,[]\x7b\x7d#&*!|>'\"%@\x60".toList.contains c

def tokenAt (ch : Char) : Scan Unit := do
  let s ← get
  let inFlow := s.flow != 0
  let gapNext : Scan Bool := do return isGap (← peekAt 1)
  if ch = '%' ∧ s.cursor.column = 0 then
    endBlocks
    emit (.directive (← directive))
  else if ← pure (ch == '-' && s.cursor.column == 0) <&&> startsRule '-' then rule .documentStart
  else if ← pure (ch == '.' && s.cursor.column == 0) <&&> startsRule '.' then rule .documentEnd
  else if ch = '[' then openFlow .openList
  else if ch = '\x7b' then openFlow .openMapping
  else if ch = ']' then closeFlow .closeList
  else if ch = '\x7d' then closeFlow .closeMapping
  else if ch = ',' then comma
  else if ← pure (ch == '-') <&&> gapNext then entry
  else if ← pure (ch == '?') <&&> (pure inFlow <||> gapNext) then key
  else if ← pure (ch == ':') <&&> (pure inFlow <||> gapNext) then value
  else if ch = '*' then keyPart do return .alias (← anchorName)
  else if ch = '&' then keyPart do return .anchor (← anchorName)
  else if ch = '!' then keyPart tag
  else if ch = '|' ∧ !inFlow then blockScalar false
  else if ch = '>' ∧ !inFlow then blockScalar true
  else if ch = '\'' ∨ ch = '"' then keyPart (quotedScalar ch)
  else if ch ≠ '\t' ∧ !isIndicator ch then keyPart plainScalar
  else if ← pure (ch == '-' || (!inFlow && (ch == '?' || ch == ':'))) <&&> (! ·) <$> gapNext then
    keyPart plainScalar
  else fail

def endText : Scan Unit := do
  closeBlocks none
  dropKey
  modify fun s => { s with ended := true, keyAllowed := false, keys := [] }
  emit .textEnd

/-- Finds the next token, with the ends of blocks before it. -/
def findToken : Scan Unit := do
  if (← cursor).index = 0 ∧ (← peek) = '\ufeff' then skip 1
  skipGaps ((← remaining) + 1)
  dropStaleKeys
  closeBlocks (some (← cursor).column)
  let ch ← peek
  if ch = pastEnd then endText else tokenAt ch

/-- Whether more of the text has to be seen before the next token is known. -/
def wantsMore : Scan Bool := do
  let s ← get
  if s.ended then return false
  else if s.queue = [] then return true
  else
    dropStaleKeys
    let s ← get
    return (s.keys.filterMap (·.map PossibleKey.number)).min? == some s.taken

def findTokens : Nat → Scan Unit
  | 0 => pure ()
  | fuel + 1 => do
    if ← wantsMore then
      findToken
      findTokens fuel

/-- The next token. After the end of the text there is none. -/
def next? : Scan (Option Token) := do
  findTokens ((← remaining) + 2)
  return (← get).queue.head?

def take : Scan Unit :=
  modify fun s => { s with queue := s.queue.drop 1, taken := s.taken + 1 }

end Scan

/-- Whether a character may stand in a text at all. -/
def isAllowed (c : Char) : Bool :=
  let n := c.toNat
  n == 9 || n == 10 || n == 13 || (0x20 ≤ n && n ≤ 0x7e) || n == 0x85 || (0xa0 ≤ n && n ≤ 0xd7ff) ||
    (0xe000 ≤ n && n ≤ 0xfffd) || 0x10000 ≤ n

/-- How many characters of a text are looked through first, and then each time they are wanted. -/
def firstPart : Nat := 8192

def laterPart : Nat := 4096

/-- The scanner at the start of a text. A character that may not stand in it spoils the part it is
in. -/
def Scanner.start (text : List Char) : Except Flaw Scanner := do
  let text := plainEnds false text
  let scanner (text : List Char) (isCut : Bool) : Scanner :=
    ⟨⟨text, 0, 0, 0⟩, isCut, [], 0, false, [], 0, true, [none]⟩
  match text.findIdx? (!isAllowed ·) with
  | none => return scanner text false
  | some i =>
    if i < firstPart then throw .badCharacter
    else return scanner (text.take (firstPart + (i - firstPart) / laterPart * laterPart)) true

end Yaml
end InputReplay
