import InputReplay.Observe.Recorder

/-! The recorder as a bounded queue. Whatever calls come in whatever order, what was taken out and what is still
buffered are together the events that were accepted, in order and each once. One call keeps this, and so does
any sequence of them. -/

namespace InputReplay
namespace Recorder

inductive Call where
  | publish (time : Moment) (event : ObservedEvent)
  | drain

inductive Reply where
  | published (accepted : Bool)
  | drained (events : List RecordedEvent)
deriving DecidableEq

def answer (r : Recorder) : Call → Reply × Recorder
  | .publish time event => (.published (r.publish time event).1, (r.publish time event).2)
  | .drain => (.drained r.drain.1, r.drain.2)

/-- Makes calls one after another: each with its reply, and the recorder they leave. -/
def history (r : Recorder) : List Call → List (Call × Reply) × Recorder
  | [] => ([], r)
  | call :: rest =>
    let (made, last) := (r.answer call).2.history rest
    ((call, (r.answer call).1) :: made, last)

theorem history_cons (r : Recorder) (call : Call) (rest : List Call) :
    r.history (call :: rest) =
      ((call, (r.answer call).1) :: ((r.answer call).2.history rest).1, ((r.answer call).2.history rest).2) :=
  rfl

/-! What calls and their replies tell. -/

def acceptedBy : Call × Reply → List RecordedEvent
  | (.publish time event, .published true) => [⟨time.logText, event⟩]
  | _ => []

def takenBy : Call × Reply → List RecordedEvent
  | (_, .drained events) => events
  | _ => []

/-- The events that were accepted, in order. -/
def accepted (made : List (Call × Reply)) : List RecordedEvent := made.flatMap acceptedBy

/-- The events that were taken out, in order. -/
def taken (made : List (Call × Reply)) : List RecordedEvent := made.flatMap takenBy

/-- How many events were refused. -/
def refused (made : List (Call × Reply)) : Nat := made.countP (·.2 = .published false)

def take? (r : Recorder) : Option (RecordedEvent × Recorder) :=
  match r.buffer with
  | [] => none
  | e :: rest => some (e, { r with buffer := rest })

/-- Taking events out one by one until there is none. -/
inductive TakenOut : Recorder → List RecordedEvent → Recorder → Prop
  | done {r} (empty : r.take? = none) : TakenOut r [] r
  | next {r e r' events r''} (first : r.take? = some (e, r')) (rest : TakenOut r' events r'') :
      TakenOut r (e :: events) r''

/-- What a recorder of a size keeps to. -/
structure IsWithin (r : Recorder) (size : Nat) : Prop where
  limit : r.limit = some size
  fits : r.buffer.length ≤ size

variable {r : Recorder} {size : Nat}

theorem isWithin_ofSize (positive : 1 ≤ size) : (ofSize size).IsWithin size := by
  have limited : ¬ (size : Int) ≤ 0 := by omega
  constructor
  · unfold ofSize
    rw [if_neg limited]
    rfl
  · exact Nat.zero_le size

namespace IsWithin

theorem isFull_iff (h : r.IsWithin size) : r.isFull = true ↔ r.buffer.length = size := by
  have := h.fits
  unfold isFull
  rw [h.limit]
  simp only [decide_eq_true_eq]
  omega

theorem publish_eq (h : r.IsWithin size) (time : Moment) (event : ObservedEvent) :
    r.publish time event =
      if r.buffer.length = size then (false, { r with dropped := r.dropped + 1 })
      else (true, { r with buffer := r.buffer ++ [⟨time.logText, event⟩] }) := by
  unfold publish
  by_cases full : r.buffer.length = size
  · rw [if_pos (h.isFull_iff.2 full), if_pos full]
  · rw [if_neg (mt h.isFull_iff.1 full), if_neg full]

end IsWithin

/-- What one call does: nothing is lost and nothing made up, and a refusal is counted. -/
structure Keeps (r : Recorder) (size : Nat) (made : Call × Reply) (r' : Recorder) : Prop where
  within : r'.IsWithin size
  conserved : takenBy made ++ r'.buffer = r.buffer ++ acceptedBy made
  counted : r'.dropped = r.dropped + refused [made]

theorem IsWithin.keeps (h : r.IsWithin size) (call : Call) :
    r.Keeps size (call, (r.answer call).1) (r.answer call).2 := by
  cases call with
  | drain => exact ⟨⟨h.limit, Nat.zero_le size⟩, rfl, rfl⟩
  | publish time event =>
    simp only [answer, h.publish_eq]
    have fits := h.fits
    split
    · exact ⟨⟨h.limit, fits⟩, (List.append_nil _).symm, rfl⟩
    · next room =>
      refine ⟨⟨h.limit, ?_⟩, rfl, rfl⟩
      rw [List.length_append, List.length_singleton]
      omega

/-- What any calls do. -/
theorem IsWithin.history (h : r.IsWithin size) (calls : List Call) :
    (r.history calls).2.IsWithin size ∧
    taken (r.history calls).1 ++ (r.history calls).2.buffer = r.buffer ++ accepted (r.history calls).1 ∧
    (r.history calls).2.dropped = r.dropped + refused (r.history calls).1 := by
  induction calls generalizing r with
  | nil => exact ⟨h, (List.append_nil _).symm, rfl⟩
  | cons call rest ih =>
    have step := h.keeps call
    obtain ⟨within, conserved, counted⟩ := ih step.within
    rw [history_cons]
    refine ⟨within, ?_, ?_⟩
    · rw [taken, accepted, List.flatMap_cons, List.flatMap_cons, List.append_assoc]
      calc takenBy _ ++ (taken _ ++ _)
        _ = takenBy _ ++ ((r.answer call).2.buffer ++ accepted _) := by rw [conserved]
        _ = r.buffer ++ (acceptedBy _ ++ accepted _) := by
          rw [← List.append_assoc, step.conserved, List.append_assoc]
    · rw [counted, step.counted]
      simp only [refused, List.countP_cons, List.countP_nil]
      omega

theorem takenOut_drain (r : Recorder) : TakenOut r r.drain.1 r.drain.2 := by
  obtain ⟨limit, buffer, dropped⟩ := r
  induction buffer with
  | nil => exact .done rfl
  | cons e rest ih => exact .next rfl ih

/-- A recorder of a positive size is a bounded queue, whatever was called before. -/
theorem queued_history (size : Nat) (positive : 1 ≤ size) (calls : List Call) :
    let (made, r) := (ofSize size).history calls
    r.buffer.length ≤ size ∧
    taken made ++ r.buffer = accepted made ∧
    r.dropped = refused made ∧
    (∀ time event,
      ((r.publish time event).1 = false ↔ r.buffer.length = size) ∧
      ((r.publish time event).1 = false → (r.publish time event).2 = { r with dropped := r.dropped + 1 })) ∧
    TakenOut r r.drain.1 r.drain.2 ∧ r.drain.2.buffer = [] := by
  obtain ⟨within, conserved, counted⟩ := (isWithin_ofSize positive).history calls
  refine ⟨within.fits, conserved, counted.trans (Nat.zero_add _), fun time event => ?_, takenOut_drain _, rfl⟩
  rw [within.publish_eq]
  split
  · next full => exact ⟨by simp [full], fun _ => rfl⟩
  · next room => exact ⟨by simp [room], by simp⟩

/-- Three events where there is room for two, and one more after the two were taken out. -/
def crowdedCalls (time : Moment) : List Call :=
  [.publish time (.scroll 1), .publish time (.scroll 2), .publish time (.scroll 3), .drain,
    .publish time (.scroll 4)]

theorem queued_history_crowdedCalls :
    let time := Moment.ofDay 0
    let (made, r) := (ofSize 2).history (crowdedCalls time)
    1 ≤ 2 ∧
    made.map (·.2) = [.published true, .published true, .published false,
      .drained [⟨time.logText, .scroll 1⟩, ⟨time.logText, .scroll 2⟩], .published true] ∧
    taken made ++ r.buffer =
      [⟨time.logText, .scroll 1⟩, ⟨time.logText, .scroll 2⟩, ⟨time.logText, .scroll 4⟩] ∧
    r.dropped = 1 := by
  obtain ⟨-, conserved, counted, -⟩ := queued_history 2 (by decide) (crowdedCalls (Moment.ofDay 0))
  exact ⟨by decide, rfl, conserved, counted⟩

end Recorder
end InputReplay
