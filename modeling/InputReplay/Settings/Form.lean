import InputReplay.Document.Checked
import InputReplay.Settings.Basic

/-! The document form of settings. A missing field has its standard value and an unknown field is
passed over; all else that is wrong is reported together, field by field. -/

namespace InputReplay

open Value

def Value.asSection {α : Type} (read : Value → Checked α) (v : Value) : Checked α :=
  match v with
  | mapping _ => read v
  | _ => .complain .notMapping

/-- A number that is zero or above; what is not a number is neither. -/
def Value.asSpan (v : Value) : Checked Binary64 :=
  v.asNumber.andThen fun x => if Binary64.zero.le x then .sound x else .complain .belowLeast

def Value.asPositive (v : Value) : Checked Binary64 :=
  v.asNumber.andThen fun x => if Binary64.zero.lt x then .sound x else .complain .notAbove

def Value.asCount (v : Value) : Checked Count :=
  v.asInteger.andThen fun n =>
    if h : 0 < n.toNat then .sound ⟨n.toNat, h⟩ else .complain .belowLeast

def Value.asNatural (v : Value) : Checked Nat :=
  v.asInteger.andThen fun n => if n < 0 then .complain .belowLeast else .sound n.toNat

def Value.asScroll : Value → Checked ScrollAmount
  | .undefined => .sound .undefined
  | v => .exactly <$> v.asNumber

def gestureStyles : List (String × GestureStyle) := [("chord", .chord), ("applescript", .script)]

def GestureStyle.name : GestureStyle → String
  | chord => "chord"
  | script => "applescript"

def PlaySettings.check (v : Value) : Checked (PlaySettings Binary64) :=
  PlaySettings.mk
    <$> v.field "click_settle" asSpan standard.clickSettle
    <*> v.field "drag_duration" asSpan standard.dragDuration
    <*> v.field "drag_steps" asCount standard.dragSteps
    <*> v.field "scroll_to_amount" asScroll standard.scrollToAmount
    <*> v.field "autocomplete_settle" asSpan standard.autocompleteSettle
    <*> v.field "gesture_backend" (asChoice gestureStyles) standard.gestures

def ReplaySettings.check (v : Value) : Checked (ReplaySettings Binary64) :=
  ReplaySettings.mk
    <$> v.field "min_interval" asSpan standard.minInterval
    <*> v.field "end_sentinel" asText standard.endSentinel
    <*> v.field "keep_results" asNatural standard.keepResults

def BackendSettings.check (v : Value) : Checked BackendSettings :=
  BackendSettings.mk
    <$> v.field "backend_url" asText standard.url
    <*> v.field "screenshot_interval" asSpan standard.screenshotInterval
    <*> v.field "timeout" asPositive standard.timeout

def Settings.checkQueue (v : Value) : Checked Count :=
  v.field "queue_size" asCount standard.queueSize

def Settings.check (v : Value) : Checked Settings :=
  Settings.mk
    <$> v.field "dispatcher" (asSection PlaySettings.check) standard.play
    <*> v.field "replay" (asSection ReplaySettings.check) standard.replay
    <*> v.field "session" (asSection BackendSettings.check) standard.backend
    <*> v.field "telemetry" (asSection checkQueue) standard.queueSize
    <*> v.field "fail_safe" asFlag standard.failSafe
    <*> v.field "verbose" asFlag standard.verbose

def ScrollAmount.toValue : ScrollAmount → Value
  | standard => .int standardScroll
  | exactly delta => .real delta
  | undefined => .undefined

/-- Whether amounts agree; the mark for what is no number agrees with itself alone. -/
def ScrollAmount.agrees : ScrollAmount → ScrollAmount → Bool
  | undefined, undefined => true
  | s, t => s.value.eqv t.value

/-- The document of settings, every field written out. -/
def Settings.toValue (s : Settings) : Value := .object [
  ("dispatcher", .object [
    ("click_settle", .real s.play.clickSettle),
    ("drag_duration", .real s.play.dragDuration),
    ("drag_steps", .int s.play.dragSteps.val),
    ("scroll_to_amount", s.play.scrollToAmount.toValue),
    ("autocomplete_settle", .real s.play.autocompleteSettle),
    ("gesture_backend", .text s.play.gestures.name)]),
  ("replay", .object [
    ("min_interval", .real s.replay.minInterval),
    ("end_sentinel", .text s.replay.endSentinel),
    ("keep_results", .int s.replay.keepResults)]),
  ("session", .object [
    ("backend_url", .text s.backend.url),
    ("screenshot_interval", .real s.backend.screenshotInterval),
    ("timeout", .real s.backend.timeout)]),
  ("telemetry", .object [("queue_size", .int s.queueSize.val)]),
  ("fail_safe", .bool s.failSafe),
  ("verbose", .bool s.verbose)]

/-- Whether settings agree in every value; elsewhere what is not a number agrees with nothing. -/
def Settings.agree (s t : Settings) : Bool :=
  s.play.clickSettle.eqv t.play.clickSettle && s.play.dragDuration.eqv t.play.dragDuration &&
  s.play.dragSteps == t.play.dragSteps &&
  s.play.scrollToAmount.agrees t.play.scrollToAmount &&
  s.play.autocompleteSettle.eqv t.play.autocompleteSettle && s.play.gestures == t.play.gestures &&
  s.replay.minInterval.eqv t.replay.minInterval &&
  s.replay.endSentinel == t.replay.endSentinel && s.replay.keepResults == t.replay.keepResults &&
  s.backend.url == t.backend.url &&
  s.backend.screenshotInterval.eqv t.backend.screenshotInterval &&
  s.backend.timeout.eqv t.backend.timeout &&
  s.queueSize == t.queueSize && s.failSafe == t.failSafe && s.verbose == t.verbose

end InputReplay
