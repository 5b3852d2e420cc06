import InputReplay.Document.Yaml.Scalar

/-! Writing a value as YAML text, where it holds neither bytes nor sets: block collections, mappings in
the order of their keys, and texts in ASCII. A text is written plain if it can be read back that way,
else between single quotes, else between double quotes. Past the eightieth column a text goes on in
the next line at a blank. -/

namespace InputReplay
namespace Yaml

def widthLimit : Nat := 80

def blanks (n : Nat) : List Char := List.replicate n ' '

/-- The number of a float is marked as one by a point. -/
def realText : Binary64 → String
  | .nan => ".nan"
  | .infinite negative => if negative then "-.inf" else ".inf"
  | x =>
    let text := x.text.toList
    match splitFirst? 'e' text with
    | some (mantissa, exponent) =>
      if mantissa.contains '.' then x.text
      else String.ofList (mantissa ++ ".0e".toList ++ exponent)
    | none => x.text

def isAsciiPrintable (c : Char) : Bool := ' ' ≤ c && c ≤ '~'

/-- Whether a colon or a number sign would be taken for a mark. `before` is the character before. -/
def hasMark (before : Char) : List Char → Bool
  | [] => false
  | c :: rest =>
    (c == ':' && rest.headD ' ' == ' ') || (c == '#' && before == ' ') || hasMark c rest

def beginsAsMark : List Char → Bool
  | [] => false
  | c :: rest =>
    "#,[]\x7b\x7d&*!|>'\"%@\x60".toList.contains c ||
      ("?:-".toList.contains c && rest.headD ' ' == ' ')

def isPlain (text : List Char) : Bool :=
  tagOfWord (String.ofList text) = .text && text.all isAsciiPrintable &&
    text.head? != some ' ' && text.getLast? != some ' ' &&
    !"---".toList.isPrefixOf text && !"...".toList.isPrefixOf text &&
    !beginsAsMark text && !hasMark 'a' text

/-- Blanks beside a line end would be lost. -/
def hasEdge : List Char → Bool
  | a :: b :: rest => (a == ' ' && b == '\n') || (a == '\n' && b == ' ') || hasEdge (b :: rest)
  | _ => false

def isSingleQuotable (text : List Char) : Bool :=
  (text.all fun c => c == '\n' || isAsciiPrintable c) && !hasEdge text

/-- What comes of a line end, or of the end of several: they are written twice at first, because a
single one is read as a blank. -/
def lineEnd (indent : Nat) (before : Option Char) (rest : List Char) : List Char :=
  (if before = some '\n' then [] else ['\n']) ++ '\n' ::
    (if rest.head? = some '\n' then [] else blanks indent)

/-- A plain or single-quoted text from a column on. A blank that stands alone may become a line end. -/
def folded (double : Char → Bool) (indent : Nat) (before : Option Char) (column : Nat) :
    List Char → List Char
  | [] => []
  | c :: rest =>
    if c = '\n' then lineEnd indent before rest ++ folded double indent (some c) indent rest
    else if c = ' ' ∧ before.any (· ≠ ' ') ∧ rest.head?.any (· ≠ ' ') ∧ widthLimit < column then
      '\n' :: blanks indent ++ folded double indent (some c) indent rest
    else if double c then c :: c :: folded double indent (some c) (column + 2) rest
    else c :: folded double indent (some c) (column + 1) rest

def writtenEscapes : List (Char × Char) := [
  ('\x00', '0'), ('\x07', 'a'), ('\x08', 'b'), ('\t', 't'), ('\n', 'n'), ('\x0b', 'v'),
  ('\x0c', 'f'), ('\r', 'r'), ('\x1b', 'e'), ('"', '"'), ('\\', '\\'), ('\x85', 'N'),
  ('\xa0', '_'), ('\u2028', 'L'), ('\u2029', 'P')]

def upperHex (width n : Nat) : List Char := (hexText width n).map Char.toUpper

def escape? (c : Char) : Option (List Char) :=
  match writtenEscapes.lookup c with
  | some mark => some ['\\', mark]
  | none =>
    let n := c.toNat
    if isAsciiPrintable c then none
    else if n ≤ 0xff then some ('\\' :: 'x' :: upperHex 2 n)
    else if n ≤ 0xffff then some ('\\' :: 'u' :: upperHex 4 n)
    else some ('\\' :: 'U' :: upperHex 8 n)

/-- Goes on in the next line; a blank that comes first there is escaped. -/
def continued (indent : Nat) (atBlank : Bool) : List Char :=
  '\\' :: '\n' :: blanks indent ++ (if atBlank then ['\\'] else [])

/-- A double-quoted text from a column on. It may be broken before a blank and around an escape. -/
def escapedText (indent : Nat) (isFirst afterEscape : Bool) (column : Nat) :
    List Char → List Char
  | [] => []
  | c :: rest =>
    let isInner := !isFirst && rest != []
    match escape? c with
    | some escape =>
      let after := column + escape.length
      if isInner ∧ widthLimit + 1 < after then
        let atBlank := rest.head? == some ' '
        escape ++ continued indent atBlank ++
          escapedText indent false true (indent + atBlank.toNat) rest
      else escape ++ escapedText indent false true after rest
    | none =>
      if isInner ∧ (c = ' ' ∨ afterEscape) ∧ widthLimit < column then
        let atBlank := c == ' '
        continued indent atBlank ++
          c :: escapedText indent false false (indent + atBlank.toNat + 1) rest
      else c :: escapedText indent false false (column + 1) rest

def textFrom (indent column : Nat) (s : String) : List Char :=
  let text := s.toList
  if isPlain text then folded (fun _ => false) indent none column text
  else if isSingleQuotable text then
    '\'' :: folded (· = '\'') indent none (column + 1) text ++ ['\'']
  else '"' :: escapedText indent true true (column + 1) text ++ ['"']

def scalarFrom (indent column : Nat) : Value → List Char
  | .null => "null".toList
  | .bool b => (if b then "true" else "false").toList
  | .int n => (toString n).toList
  | .real x => (realText x).toList
  | .undefined => (realText .nan).toList
  | .text s => textFrom indent column s
  | .broken codes => textFrom indent column (Wording.broken codes).text
  | .date word => word.toList
  | .bytes content => (Value.bytes content).shown.toList
  | .list _ | .set _ => "[]".toList
  | .mapping _ => "\x7b\x7d".toList

mutual

/-- The lines of a value, indented, each with its end. -/
def blockText (indent : Nat) : Value → List Char
  | .list (v :: rest) => itemsText indent (v :: rest)
  | .mapping (e :: rest) =>
    (((entriesText indent (e :: rest)).mergeSort fun a b => a.1 ≤ b.1).map (·.2)).flatten
  | v => blanks indent ++ scalarFrom indent indent v ++ ['\n']

/-- A mark stands in the place of the first blanks of an item. -/
def itemsText (indent : Nat) : List Value → List Char
  | [] => []
  | v :: rest =>
    blanks indent ++ '-' :: ' ' :: (blockText (indent + 2) v).drop (indent + 2) ++
      itemsText indent rest

def entriesText (indent : Nat) : List (Value × Value) → List (String × List Char)
  | [] => []
  | (key, v) :: rest =>
    let name := scalarFrom indent indent key
    let head := blanks indent ++ name ++ [':']
    let lines := match v with
      | .list (_ :: _) => head ++ '\n' :: blockText indent v
      | .mapping (_ :: _) => head ++ '\n' :: blockText (indent + 2) v
      | _ => head ++ ' ' :: scalarFrom (indent + 2) (head.length + 1) v ++ ['\n']
    (String.ofList name, lines) :: entriesText indent rest

end

def render (v : Value) : String := String.ofList (blockText 0 v)

end Yaml
end InputReplay
