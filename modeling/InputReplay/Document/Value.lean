import InputReplay.Number.Digits
import InputReplay.Text.Wording

/-! Values of documents: what JSON and YAML texts hold. A mapping keeps its entries in the order in
which their keys first came; a date, which may have a time of the day, is kept as it was written. -/

namespace InputReplay

inductive Value where
  | null
  | bool (b : Bool)
  | int (n : Int)
  | real (x : Binary64)
  /-- The mark for what is no number: unlike other such values, it is one value everywhere. -/
  | undefined
  | text (s : String)
  /-- A text of codes, some of which no character has. -/
  | broken (codes : List Nat)
  | bytes (content : List UInt8)
  | date (word : String)
  | list (items : List Value)
  | set (items : List Value)
  | mapping (entries : List (Value × Value))
deriving Inhabited

namespace Value

/-- The mapping with text keys. -/
def object (entries : List (String × Value)) : Value :=
  mapping (entries.map fun e => (text e.1, e.2))

def ofOption {α : Type} (f : α → Value) : Option α → Value
  | some a => f a
  | none => null

def ofWording : Wording → Value
  | .whole s => text s
  | .broken codes => broken codes

/-- The text that a value is, if it is one, with a replacement for each code that no character has. -/
def text? : Value → Option String
  | text s => some s
  | broken codes => some (Wording.broken codes).text
  | _ => none

def isText (key : String) : Value → Bool
  | text s => s == key
  | _ => false

def isSameText : Value → Value → Bool
  | text s, text t => s == t
  | broken codes, broken others => codes == others
  | _, _ => false

/-- The value under a text key. -/
def get? (key : String) : Value → Option Value
  | mapping entries => (entries.find? fun e => e.1.isText key).map (·.2)
  | _ => none

/-- Enters a value under a key: in the place of an earlier one, if the key is a text, or at the end. -/
def setEntry (key value : Value) : List (Value × Value) → List (Value × Value)
  | [] => [(key, value)]
  | e :: rest => if e.1.isSameText key then (e.1, value) :: rest else e :: setEntry key value rest

/-- The name of a value's kind. A date without a time has ten characters at most. -/
def kind : Value → String
  | null => "NoneType"
  | bool _ => "bool"
  | int _ => "int"
  | real _ | undefined => "float"
  | text _ | broken _ => "str"
  | bytes _ => "bytes"
  | date word => if word.length ≤ 10 then "datetime.date" else "datetime.datetime"
  | list _ => "list"
  | set _ => "set"
  | mapping _ => "dict"

mutual

/-- A value as messages show it. -/
def shown : Value → String
  | null => "None"
  | bool b => if b then "True" else "False"
  | int n => toString n
  | real x => x.text
  | undefined => Binary64.nan.text
  | text s => quoted s
  | broken codes => quotedCodes codes
  | bytes content => "b'" ++ String.ofList (content.flatMap fun b => '\\' :: 'x' :: hexText 2 b.toNat) ++ "'"
  | date word => word
  | list items => "[" ++ ", ".intercalate (shownEach items) ++ "]"
  | set items => "\x7b" ++ ", ".intercalate (shownEach items) ++ "\x7d"
  | mapping entries => "\x7b" ++ ", ".intercalate (shownEntries entries) ++ "\x7d"

def shownEach : List Value → List String
  | [] => []
  | v :: rest => v.shown :: shownEach rest

def shownEntries : List (Value × Value) → List String
  | [] => []
  | (key, v) :: rest => (key.shown ++ ": " ++ v.shown) :: shownEntries rest

end

end Value

end InputReplay
