import InputReplay.Time.Duration

/-! Settings, and what they are unless a document says otherwise. Times are in seconds. -/

namespace InputReplay

/-- A number of things of which there is at least one. -/
structure Count where
  val : Nat
  pos : 0 < val
deriving DecidableEq

/-- How far a scroll goes that does not say so: a standard way, a configured one, or one that was
configured by the mark for what is no number. -/
inductive ScrollAmount where
  | standard
  | exactly (delta : Binary64)
  | undefined
deriving DecidableEq

/-- The standard way is a whole number. -/
def standardScroll : Nat := 300

def ScrollAmount.value : ScrollAmount → Binary64
  | standard => .ofNat standardScroll
  | exactly delta => delta
  | undefined => .nan

/-- How gestures are performed: as key chords, or by a script of the host. -/
inductive GestureStyle where
  | chord
  | script
deriving DecidableEq

structure PlaySettings (τ : Type) where
  /-- The pause between repeated clicks. -/
  clickSettle : τ
  /-- The time a whole drag takes. -/
  dragDuration : τ
  /-- How many points a drag passes, its end included. -/
  dragSteps : Count
  scrollToAmount : ScrollAmount
  /-- The pause before the completion of a text. -/
  autocompleteSettle : τ
  gestures : GestureStyle

structure ReplaySettings (τ : Type) where
  /-- The least time from the start of one recorded command to the start of the next. -/
  minInterval : τ
  endSentinel : String
  /-- How many of the last results a summary keeps. -/
  keepResults : Nat

structure BackendSettings where
  url : String
  screenshotInterval : Binary64
  timeout : Binary64

structure Settings where
  play : PlaySettings Binary64
  replay : ReplaySettings Binary64
  backend : BackendSettings
  /-- How many observed events are kept at most. -/
  queueSize : Count
  failSafe : Bool
  verbose : Bool

/-- A tenth of a second. -/
def shortPause : Binary64 := .ofRatio false 1 10

def PlaySettings.standard : PlaySettings Binary64 where
  clickSettle := shortPause
  dragDuration := .ofNat 1
  dragSteps := ⟨5, by decide⟩
  scrollToAmount := .standard
  autocompleteSettle := shortPause
  gestures := .chord

def ReplaySettings.standard : ReplaySettings Binary64 where
  minInterval := shortPause
  endSentinel := "END"
  keepResults := 100

def BackendSettings.standard : BackendSettings where
  url := "http://localhost:8000"
  screenshotInterval := .ofNat 3
  timeout := .ofNat 30

def Settings.standard : Settings where
  play := .standard
  replay := .standard
  backend := .standard
  queueSize := ⟨1024, by decide⟩
  failSafe := true
  verbose := false

end InputReplay
