import InputReplay.Document.Yaml.Printer
import InputReplay.Document.Yaml.Reader
import InputReplay.Settings.Form

/-! Files of settings: YAML documents in the form of settings. A file that says nothing leaves every
setting at its standard value. -/

namespace InputReplay

/-- Why a file holds no settings. -/
inductive SettingsFault where
  | text (flaw : Yaml.Flaw)
  | notMapping (kind : String)
  | namelessEntry
  | invalid (issues : List Issue)

/-- A count has more digits than are written. -/
structure CountTooLong where

def CountTooLong.message : String :=
  s!"Exceeds the limit ({numeralLimit} digits) for integer string conversion; use " ++
    "sys.set_int_max_str_digits() to increase the limit"

/-- Whether a document says nothing: null, false, zero, or empty. -/
def Value.isVoid : Value → Bool
  | null => true
  | bool b => !b
  | int n => n == 0
  | real x => x.isZero
  | text s => s.isEmpty
  | bytes content => content.isEmpty
  | undefined | broken _ | date _ => false
  | list items | set items => items.isEmpty
  | mapping entries => entries.isEmpty

namespace Settings

def ofValue : Value → Except SettingsFault Settings
  | .mapping entries =>
    let named (key : Value) : Bool := match key with
      | .text _ | .broken _ => true
      | _ => false
    if entries.all fun e => named e.1 then
      match check (.mapping entries) with
      | .sound s => .ok s
      | .faulty issues => .error (.invalid issues)
    else .error .namelessEntry
  | v => .error (.notMapping v.kind)

def ofDocument (v : Value) : Except SettingsFault Settings :=
  ofValue (if v.isVoid then .object [] else v)

def read (text : String) : Except SettingsFault Settings := do
  ofDocument (← (Yaml.parse text.toList).mapError .text)

def counts (s : Settings) : List Nat := [s.play.dragSteps.val, s.replay.keepResults, s.queueSize.val]

def save (s : Settings) : Except CountTooLong String :=
  if s.counts.all (· < pow10 numeralLimit) then .ok (Yaml.render s.toValue) else .error ⟨⟩

end Settings

end InputReplay
