import InputReplay.Document.Value
import InputReplay.Document.Yaml.Flaw
import InputReplay.Text.Ascii
import InputReplay.Text.Base64
import InputReplay.Text.Fields
import InputReplay.Text.LowerCase

/-! Scalars of a YAML text, read as values. A tag tells what a scalar is; a plain one without a tag is
what it is written as. -/

namespace InputReplay
namespace Yaml

/-- What a node is said to be. Two marks that are written as scalars have tags of their own: the one
that merges mappings, and the one for the value of a mapping. -/
inductive Tag where
  | null | truth | integer | real | text | date | bytes
  | list | mapping | set | pairs
  | merge | default
  | unknown
deriving DecidableEq

namespace Tag

def names : List (String × Tag) := [
  ("null", null), ("bool", truth), ("int", integer), ("float", real), ("str", text),
  ("timestamp", date), ("binary", bytes), ("seq", list), ("map", mapping), ("set", set),
  ("omap", pairs), ("pairs", pairs), ("merge", merge), ("value", default)]

def beginning : String := "tag:yaml.org,2002:"

def ofName (name : String) : Tag :=
  if beginning.toList.isPrefixOf name.toList then
    (names.lookup (String.ofList (name.toList.drop beginning.length))).getD unknown
  else unknown

/-- Whether a node with a tag holds others. -/
def isCollection : Tag → Bool
  | list | mapping | set | pairs => true
  | _ => false

end Tag

/-! What a plain scalar is written as -/

def truthWords : List String := [
  "yes", "Yes", "YES", "no", "No", "NO", "true", "True", "TRUE", "false", "False", "FALSE",
  "on", "On", "ON", "off", "Off", "OFF"]

def emptyWords : List String := ["", "~", "null", "Null", "NULL"]

/-- Underscores may stand among digits to group them. -/
def isGrouped (isDigit : Char → Bool) (word : List Char) : Bool :=
  word.all fun c => c == '_' || isDigit c

/-- A minute or a second: a number below sixty. -/
def isSixtieth : List Char → Bool
  | [c] => c.isDigit
  | [b, c] => '0' ≤ b && b ≤ '5' && c.isDigit
  | _ => false

/-- A whole number without its sign: binary, octal, hexadecimal, decimal, or in base sixty. -/
def isNatural (word : List Char) : Bool :=
  match word with
  | '0' :: 'b' :: digits => digits != [] && isGrouped (fun c => c == '0' || c == '1') digits
  | '0' :: 'x' :: digits => digits != [] && isGrouped isHexDigit digits
  | '0' :: digits => isGrouped (fun c => '0' ≤ c && c ≤ '7') digits
  | first :: _ =>
    match fields ':' word with
    | whole :: parts => first.isDigit && isGrouped Char.isDigit whole && parts.all isSixtieth
    | [] => false
  | [] => false

/-- An exponent has a sign. -/
def isExponent : List Char → Bool
  | [] => true
  | e :: sign :: digits =>
    (e == 'e' || e == 'E') && (sign == '+' || sign == '-') && digits != [] && digits.all Char.isDigit
  | _ => false

/-- A number with a point, without its sign. -/
def isReal (word : List Char) : Bool :=
  match splitFirst? '.' word with
  | none => false
  | some (whole, after) =>
    let isPart (c : Char) : Bool := c == '_' || c.isDigit
    let fraction := after.takeWhile isPart
    let exponent := after.dropWhile isPart
    match fields ':' whole with
    | [] => false
    | [_] =>
      (if whole = [] then (fraction.headD ' ').isDigit else (whole.headD ' ').isDigit) &&
        isGrouped Char.isDigit whole && isExponent exponent
    | first :: parts =>
      (first.headD ' ').isDigit && isGrouped Char.isDigit first && parts.all isSixtieth &&
        exponent == []

def infinityWords : List String := [".inf", ".Inf", ".INF"]

def nanWords : List String := [".nan", ".NaN", ".NAN"]

def isSignedReal (word : List Char) : Bool :=
  let rest := (takeSign word).2
  nanWords.contains (String.ofList word) || infinityWords.contains (String.ofList rest) ||
    ((rest.head? != some '.' || rest == word) && isReal rest)

/-- A date alone has all its digits. -/
def isDate (word : List Char) : Bool :=
  (WrittenDate.read? word).any fun d => d.time.isSome || word.length == 10

/-- A text without the line end that it may have behind it; a line end alone stays. -/
def withoutLineEnd (text : List Char) : List Char :=
  if 1 < text.length ∧ text.getLast? = some '\n' then text.dropLast else text

/-- The tag of a plain scalar. A line end after it does not count. -/
def tagOfWord (text : String) : Tag :=
  let chars := withoutLineEnd text.toList
  let word := String.ofList chars
  if truthWords.contains word then .truth
  else if emptyWords.contains word then .null
  else if word = "<<" then .merge
  else if word = "=" then .default
  else if word = "!" ∨ word = "&" ∨ word = "*" then .unknown
  else if isSignedReal chars then .real
  else if isNatural (takeSign chars).2 then .integer
  else if isDate chars then .date
  else .text

/-! Values -/

/-- The word of a number: without the underscores that group it, and without its sign. -/
def takeNumberSign (text : List Char) : Except Flaw (Bool × List Char) :=
  match text.filter (· ≠ '_') with
  | [] => .error .emptyNumber
  | word => .ok (takeSign word)

def sixties (parts : List Int) : Int := parts.foldl (fun n part => 60 * n + part) 0

/-- An integer, in the base that it begins with. -/
def naturalValue (word : List Char) : Except Flaw Int :=
  let inBase (base : Base) (digits : List Char) := (NumberWord.integer base digits).mapError .integer
  match word with
  | [] => .error .emptyNumber
  | ['0'] => .ok 0
  | '0' :: 'b' :: digits => inBase .two digits
  | '0' :: 'x' :: digits => inBase .sixteen digits
  | '0' :: _ => inBase .eight word
  | _ =>
    if word.contains ':' then do
      return sixties (← (fields ':' word).mapM (inBase .ten))
    else inBase .ten word

def integerValue (text : List Char) : Except Flaw Int := do
  let (negative, word) ← takeNumberSign text
  let n ← naturalValue word
  return if negative then -n else n

def partValue (word : List Char) : Except Flaw Binary64 :=
  match NumberWord.number? word with
  | some x => .ok x
  | none => .error (.notNumber (String.ofList word))

/-- The sum of parts in base sixty, the last first, where a unit stands for the first of them. The units
are exact, but have to be numbers when they are multiplied. -/
def addSixties (sum : Binary64) (unit : Nat) : List Binary64 → Except Flaw Binary64
  | [] => .ok sum
  | part :: rest =>
    if (Binary64.ofNat unit).isFinite then
      addSixties (sum.add (part.mul (.ofNat unit))) (60 * unit) rest
    else .error .hugeNumber

def realValue (text : List Char) : Except Flaw Value := do
  let (negative, word) ← takeNumberSign (lowerCase (String.ofList text)).toList
  if word = ".nan".toList then return .undefined
  let x ← if word = ".inf".toList then pure (.infinite false)
    else if word.contains ':' then do
      addSixties .zero 1 (← (fields ':' word).mapM partValue).reverse
    else partValue word
  return .real (if negative then x.neg else x)

def truthValue (text : String) : Except Flaw Bool :=
  let word := lowerCase text
  if ["yes", "true", "on"].contains word then .ok true
  else if ["no", "false", "off"].contains word then .ok false
  else .error (.notTruth word)

/-- A line end after a date does not count. -/
def dateValue (text : String) : Except Flaw Value :=
  let word := withoutLineEnd text.toList
  match WrittenDate.read? word with
  | none => .error .notDate
  | some d =>
    match d.fault? with
    | none => .ok (.date (String.ofList word))
    | some fault => .error (.date fault)

def bytesValue (text : List Char) : Except Flaw Value :=
  match Base64.decode? text with
  | some content => if isAscii text then .ok (.bytes content) else .error .badValue
  | none => .error .badValue

def scalarValue (tag : Tag) (wording : Wording) : Except Flaw Value :=
  let text := wording.text
  match tag with
  | .null => .ok .null
  | .truth => .bool <$> truthValue text
  | .integer => .int <$> integerValue text.toList
  | .real => realValue text.toList
  | .text => .ok (.ofWording wording)
  | .date => dateValue text
  | .bytes => bytesValue text.toList
  | _ => .error .badValue

end Yaml
end InputReplay
