import InputReplay.Document.Value

/-! JSON texts. The reader knows the words for the numbers that are not finite, keeps the last of
several values under one key and rejects control characters inside strings; the writer leaves every
character raw that needs no escape. Both work in one pass: the reader cuts a text into tokens and
then follows the tokens with a stack of open containers. -/

namespace InputReplay
namespace Json

inductive Token where
  | openList | closeList | openObject | closeObject | comma | colon
  | text (w : Wording)
  | literal (v : Value)

structure Malformed where

abbrev Parse := Except Malformed

/-- A number that is written without fraction and exponent and without needless zeros. -/
def isIntegerWord (digits : List Char) : Bool :=
  digits ≠ [] && digits.all Char.isDigit && (digits.head? ≠ some '0' || digits.length == 1)

def wholeDigits (word : List Char) : List Char :=
  (match word with
    | '-' :: rest => rest
    | all => all).takeWhile Char.isDigit

/-- Whether a fraction or exponent is written with digits wherever they are due. -/
def hasProperTail (word : List Char) : Bool :=
  match word.dropWhile Char.isDigit with
  | '.' :: c :: _ => c.isDigit
  | '.' :: [] => false
  | _ => true

/-- The longest integer that is read. -/
def integerLimit : Nat := 4300

def wordValue (word : List Char) : Parse Value :=
  let unsigned := match word with
    | '-' :: rest => rest
    | all => all
  if word = "true".toList then .ok (.bool true)
  else if word = "false".toList then .ok (.bool false)
  else if word = "null".toList then .ok .null
  else if word = "NaN".toList then .ok (.real .nan)
  else if word = "Infinity".toList then .ok (.real (.infinite false))
  else if word = "-Infinity".toList then .ok (.real (.infinite true))
  else if isIntegerWord unsigned then
    if integerLimit < unsigned.length then .error ⟨⟩
    else .ok (.int (if word = unsigned then numeral unsigned else -(numeral unsigned : Int)))
  else if isIntegerWord (wholeDigits word) ∧ hasProperTail unsigned then
    match Decimal.read? word with
    | some d => .ok (.real d.toBinary64)
    | none => .error ⟨⟩
  else .error ⟨⟩

/-- What the lexer is inside of. Text is kept backwards as its codes, with a first half of a surrogate
pair that still waits for its second. -/
inductive Mode where
  | between
  | word (read : List Char)
  | text (read : List Nat) (high : Option Nat)
  | escape (read : List Nat) (high : Option Nat)
  | hex (read : List Nat) (high : Option Nat) (left : Nat) (value : Nat)

/-- Closes a surrogate pair that did not get its second half: the first stays alone. -/
def settle (read : List Nat) : Option Nat → List Nat
  | some h => h :: read
  | none => read

/-- Adds a UTF-16 unit to what was read. -/
def addUnit (read : List Nat) (high : Option Nat) (unit : Nat) : List Nat × Option Nat :=
  if 0xd800 ≤ unit ∧ unit < 0xdc00 then (settle read high, some unit)
  else if 0xdc00 ≤ unit ∧ unit < 0xe000 then
    match high with
    | some h => ((0x10000 + (h - 0xd800) * 0x400 + (unit - 0xdc00)) :: read, none)
    | none => (unit :: read, none)
  else (unit :: settle read high, none)

def hexDigit? (c : Char) : Option Nat :=
  if c.isDigit then some (c.toNat - '0'.toNat)
  else if 'a' ≤ c ∧ c ≤ 'f' then some (c.toNat - 'a'.toNat + 10)
  else if 'A' ≤ c ∧ c ≤ 'F' then some (c.toNat - 'A'.toNat + 10)
  else none

def simpleEscape? : Char → Option Char
  | '"' => some '"'
  | '\\' => some '\\'
  | '/' => some '/'
  | 'b' => some '\x08'
  | 'f' => some '\x0c'
  | 'n' => some '\n'
  | 'r' => some '\r'
  | 't' => some '\t'
  | _ => none

/-- The token that a character makes on its own, if it ends a word. -/
def punctuation? : Char → Option (List Token)
  | '[' => some [.openList]
  | ']' => some [.closeList]
  | '{' => some [.openObject]
  | '}' => some [.closeObject]
  | ',' => some [.comma]
  | ':' => some [.colon]
  | ' ' | '\t' | '\n' | '\r' => some []
  | _ => none

/-- One character of the text: the tokens it completes and the mode after it. -/
def advance (c : Char) : Mode → Parse (List Token × Mode)
  | .between =>
    if c = '"' then .ok ([], .text [] none)
    else match punctuation? c with
      | some tokens => .ok (tokens, .between)
      | none => .ok ([], .word [c])
  | .word read =>
    match punctuation? c with
    | some tokens => do
      let value ← wordValue read.reverse
      return (.literal value :: tokens, .between)
    | none => if c = '"' then .error ⟨⟩ else .ok ([], .word (c :: read))
  | .text read high =>
    if c = '"' then .ok ([.text (.ofCodes (settle read high).reverse)], .between)
    else if c = '\\' then .ok ([], .escape read high)
    else if c.toNat < 0x20 then .error ⟨⟩
    else .ok ([], .text (c.toNat :: settle read high) none)
  | .escape read high =>
    if c = 'u' then .ok ([], .hex read high 4 0)
    else match simpleEscape? c with
      | some e => .ok ([], .text (e.toNat :: settle read high) none)
      | none => .error ⟨⟩
  | .hex read high left value =>
    match hexDigit? c with
    | none => .error ⟨⟩
    | some d =>
      if left ≤ 1 then
        let (read, high) := addUnit read high (16 * value + d)
        .ok ([], .text read high)
      else .ok ([], .hex read high (left - 1) (16 * value + d))

def tokens : Mode → List Char → Parse (List Token)
  | .between, [] => .ok []
  | .word read, [] => do return [.literal (← wordValue read.reverse)]
  | _, [] => .error ⟨⟩
  | mode, c :: rest => do
    let (done, mode) ← advance c mode
    return done ++ (← tokens mode rest)

/-- A container whose end has not come: its items backwards, or its entries and the key in use. -/
inductive Frame where
  | list (items : List Value)
  | object (entries : List (Value × Value)) (key : Value)

/-- What may come next. -/
inductive Expect where
  | value
  | valueOrClose
  | key (entries : List (Value × Value))
  | keyOrClose
  | colon (entries : List (Value × Value)) (key : Value)
  | commaOrClose
  | done (v : Value)

/-- A value is complete: the document, or an item of the innermost container. -/
def complete (v : Value) : List Frame → List Frame × Expect
  | [] => ([], .done v)
  | .list items :: outer => (.list (v :: items) :: outer, .commaOrClose)
  | .object entries key :: outer =>
    (.object (Value.setEntry key v entries) key :: outer, .commaOrClose)

def step (stack : List Frame) : Expect → Token → Parse (List Frame × Expect)
  | .value, .text w | .valueOrClose, .text w => .ok (complete (.ofWording w) stack)
  | .value, .literal v | .valueOrClose, .literal v => .ok (complete v stack)
  | .value, .openList | .valueOrClose, .openList => .ok (.list [] :: stack, .valueOrClose)
  | .value, .openObject | .valueOrClose, .openObject => .ok (stack, .keyOrClose)
  | .valueOrClose, .closeList =>
    match stack with
    | .list items :: outer => .ok (complete (.list items.reverse) outer)
    | _ => .error ⟨⟩
  | .keyOrClose, .closeObject => .ok (complete (.mapping []) stack)
  | .keyOrClose, .text w => .ok (stack, .colon [] (.ofWording w))
  | .key entries, .text w => .ok (stack, .colon entries (.ofWording w))
  | .colon entries key, .colon => .ok (.object entries key :: stack, .value)
  | .commaOrClose, .comma =>
    match stack with
    | .list items :: outer => .ok (.list items :: outer, .value)
    | .object entries _ :: outer => .ok (outer, .key entries)
    | [] => .error ⟨⟩
  | .commaOrClose, .closeList =>
    match stack with
    | .list items :: outer => .ok (complete (.list items.reverse) outer)
    | _ => .error ⟨⟩
  | .commaOrClose, .closeObject =>
    match stack with
    | .object entries _ :: outer => .ok (complete (.mapping entries) outer)
    | _ => .error ⟨⟩
  | _, _ => .error ⟨⟩

def follow (stack : List Frame) (expect : Expect) : List Token → Parse Value
  | [] =>
    match expect with
    | .done v => .ok v
    | _ => .error ⟨⟩
  | t :: rest => do
    let (stack, expect) ← step stack expect t
    follow stack expect rest

def parse (text : List Char) : Parse Value := do
  follow [] .value (← tokens .between text)

def escaped (c : Char) : List Char :=
  match c with
  | '"' => ['\\', '"']
  | '\\' => ['\\', '\\']
  | '\n' => ['\\', 'n']
  | '\r' => ['\\', 'r']
  | '\t' => ['\\', 't']
  | '\x08' => ['\\', 'b']
  | '\x0c' => ['\\', 'f']
  | c => if c.toNat < 0x20 then ['\\', 'u'] ++ hexText 4 c.toNat else [c]

def string (s : String) : String :=
  String.ofList ('"' :: s.toList.flatMap escaped ++ ['"'])

def realText : Binary64 → String
  | .nan => "NaN"
  | .infinite s => if s then "-Infinity" else "Infinity"
  | x => x.text

def keyText : Value → String
  | .text s => string s
  | v => string v.shown

mutual

def render : Value → String
  | .null => "null"
  | .bool b => if b then "true" else "false"
  | .int n => toString n
  | .real x => realText x
  | .undefined => realText .nan
  | .text s => string s
  | .broken codes => string (Wording.broken codes).text
  | .bytes content => string (Value.bytes content).shown
  | .date word => string word
  | .set items => "[" ++ ", ".intercalate (renderEach items) ++ "]"
  | .list items => "[" ++ ", ".intercalate (renderEach items) ++ "]"
  | .mapping entries => "\x7b" ++ ", ".intercalate (renderEntries entries) ++ "\x7d"

def renderEach : List Value → List String
  | [] => []
  | v :: rest => render v :: renderEach rest

def renderEntries : List (Value × Value) → List String
  | [] => []
  | (key, v) :: rest => (keyText key ++ ": " ++ render v) :: renderEntries rest

end

end Json
end InputReplay
