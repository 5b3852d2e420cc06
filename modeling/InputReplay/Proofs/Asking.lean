import InputReplay.Proofs.DryRun

/-! What programs may come to ask. A predicate on requests that holds of all that a program may make, whatever is
replied, is checked rule by rule; here the events that are posted have finite numbers if those of the action have. -/

namespace InputReplay

open Program

variable {τ σ α β : Type}

/-- A program that makes only requests of a kind, whatever is replied to them. -/
inductive Asks (P : PlayRequest τ → Prop) : Play τ α → Prop
  | finish (result) : Asks P (.finish result)
  | ask {r k} (h : P r) (more : ∀ reply, Asks P (k reply)) : Asks P (.ask r k)

theorem Asks.acts {P : PlayRequest τ → Prop} {q : Play τ α} (h : Asks P q) (inj : Injector τ σ) (s : σ) :
    ∀ a ∈ inj.acts q s, P a.request := by
  induction h generalizing s with
  | finish result => simp [Injector.acts]
  | @ask r k hr _ ih =>
    intro a ha
    unfold Injector.acts at ha
    rcases List.mem_append.1 ha with ha | ha
    · split at ha
      · rw [List.mem_singleton.1 ha]
        exact hr
      · cases ha
    · exact ih _ _ a ha

namespace Asks

variable {P : PlayRequest τ → Prop} {q : Play τ α}

theorem request {r : PlayRequest τ} (h : P r) : Asks P (Program.request (S := playing τ) r) :=
  .ask h fun reply => .finish reply

theorem next {f : Except Fault α → Play τ β} (h : Asks P q) (h' : ∀ x, Asks P (f x)) : Asks P (q.next f) := by
  induction h with
  | finish result => exact h' result
  | ask hr _ ih => exact .ask hr ih

theorem throw (fault : Fault) : Asks P (.throw fault : Play τ α) := .finish _

theorem value (a : α) : Asks P (pure a : Play τ α) := .finish _

theorem bind {f : α → Play τ β} (h : Asks P q) (h' : ∀ a, Asks P (f a)) : Asks P (q >>= f) := by
  refine next h fun x => ?_
  cases x with
  | ok a => exact h' a
  | error fault => exact throw fault

theorem map (f : α → β) (h : Asks P q) : Asks P (f <$> q) := bind h fun a => value (f a)

theorem post {e : Event} (h : P (.post e)) : Asks P (Play.post e : Play τ Unit) := request (r := .post e) h

theorem pause [Duration τ] {time : τ} (h : P (.pause time)) : Asks P (Play.pause time) := by
  rcases Play.pause_cases time with ⟨-, asks⟩ | ⟨-, skips⟩
  · rw [asks]
    exact request h
  · rw [skips]
    exact value ()

theorem releaseEach {releases : List Event} (h : ∀ e ∈ releases, P (.post e)) :
    Asks P (Play.releaseEach releases : Play τ (Option Fault)) := by
  induction releases with
  | nil => exact value none
  | cons e rest ih =>
    obtain ⟨first, others⟩ := List.forall_mem_cons.1 h
    refine next (post first) fun x => ?_
    cases x with
    | ok _ => exact ih others
    | error fault =>
      by_cases hf : fault.isInjection = true
      · simp only [if_pos hf]
        exact map _ (ih others)
      · simp only [if_neg hf]
        exact throw fault

theorem releaseAfter {releases : List Event} (h : ∀ e ∈ releases, P (.post e)) (fault : Fault) :
    Asks P (Play.releaseAfter releases fault : Play τ α) := bind (releaseEach h) fun _ => throw fault

theorem releaseFinally {releases : List Event} (h : ∀ e ∈ releases, P (.post e)) :
    Asks P (Play.releaseFinally releases : Play τ Unit) := by
  refine bind (releaseEach h) fun refused => ?_
  cases refused with
  | none => exact value ()
  | some fault => exact throw fault

theorem whileHeld {releases : List Event} (h : ∀ e ∈ releases, P (.post e)) {body : Play τ Unit}
    (hb : Asks P body) : Asks P (Play.whileHeld releases body) := by
  refine next hb fun x => ?_
  cases x with
  | ok _ => exact releaseFinally h
  | error fault => exact releaseAfter h fault

theorem chordOver (keys : ∀ key down, P (.post (.key (.code key) down))) {releases : List Event}
    (h : ∀ e ∈ releases, P (.post e)) (pressed : List KeyCode) :
    Asks P (Play.chordOver releases pressed : Play τ Unit) := by
  induction pressed generalizing releases with
  | nil => exact releaseFinally h
  | cons key rest ih =>
    refine next (post (keys key true)) fun x => ?_
    cases x with
    | ok _ => exact ih (List.forall_mem_cons.2 ⟨keys key false, h⟩)
    | error fault => exact releaseAfter h fault

theorem locked (enter : P .enter) (leave : P .leave) {body : Play τ α} (h : Asks P body) :
    Asks P (Play.locked body) := by
  refine bind (request enter) fun free => ?_
  cases free with
  | true => exact next h fun result => bind (request leave) fun _ => .finish result
  | false => exact throw _

end Asks

abbrev AsksFinite (q : Play τ α) : Prop := Asks PlayRequest.IsFinite q

namespace Player

variable {P : PlayRequest τ → Prop}

theorem typeEach_asks (texts : ∀ text down, P (.post (.key (.text text) down))) (text : List Char) :
    Asks P (typeEach text : Play τ Unit) := by
  induction text with
  | nil => exact .value ()
  | cons c rest ih => exact .bind (.post (texts _ _)) fun _ => .bind (.post (texts _ _)) fun _ => ih

theorem report_asks {label : String} {body : Play τ Unit} (h : Asks P body) : Asks P (report label body) := by
  refine .next h fun x => ?_
  cases x with
  | ok _ => exact .value _
  | error fault => cases fault <;> exact .finish _

theorem dragPoints_asks [Duration τ] {start finish : Point} {steps i more : Nat} (pause : τ)
    (each : ∀ j, i ≤ j → j < i + more → (start.lerp finish (.ofRatio false j steps)).IsFinite) :
    AsksFinite (dragPoints start finish pause steps i more) := by
  induction more generalizing i with
  | zero => exact .value ()
  | succ more ih =>
    refine .bind (.post (each i (Nat.le_refl i) (by omega))) fun _ => .bind (.pause trivial) fun _ => ih ?_
    intro j first last
    exact each j (by omega) (by omega)

variable [Duration τ] (p : Player τ)

theorem clicks_asks {point : Point} (h : point.IsFinite) (button : Button) (index more : Nat) :
    AsksFinite (p.clicks point button index more) := by
  induction more generalizing index with
  | zero => exact .value ()
  | succ more ih =>
    refine .bind (.post h) fun _ => .bind (.post h) fun _ => ?_
    split
    · exact .bind (.pause trivial) fun _ => ih _
    · exact .bind (.value ()) fun _ => ih _

/-- An action whose events have finite numbers under the settings. -/
def StaysFinite : Action → Prop
  | .click point _ _ | .move point | .holdClick point _ _ => point.IsFinite
  | .drag start stop => start.IsFinite ∧ stop.IsFinite ∧ ∀ i, 1 ≤ i → i ≤ p.settings.dragSteps.val →
      (start.lerp stop (.ofRatio false i p.settings.dragSteps.val)).IsFinite
  | .scroll delta => delta.isFinite = true
  | .scrollTo point => point.IsFinite ∧ p.settings.scrollToAmount.value.isFinite = true
  | _ => True

theorem perform_asks (hg : p.gestures = chordGestures) {action : Action} (h : p.StaysFinite action) :
    AsksFinite (p.perform action) := by
  cases action with
  | key code down => exact .post trivial
  | press code => exact .bind (.post trivial) fun _ => .post trivial
  | type text => exact typeEach_asks (fun _ _ => trivial) text.toList
  | click point button count => exact p.clicks_asks h button 1 count.toNat
  | move point => exact .post h
  | drag start stop =>
    obtain ⟨hs, hf, between⟩ := h
    unfold perform drag
    dsimp only
    split
    · exact .throw _
    · next pause _ =>
      have points : AsksFinite (dragPoints start stop pause p.settings.dragSteps.val 1 p.settings.dragSteps.val) :=
        dragPoints_asks pause fun j first last => between j first (by omega)
      have lifts : ∀ e ∈ [mouse .up stop], e.IsFinite := List.forall_mem_singleton.2 hf
      exact .bind (.post hs) fun _ => .whileHeld lifts points
  | scroll delta => exact .post ⟨h, by simp⟩
  | scrollTo point =>
    refine .bind (.post h.1) fun _ => .post ⟨h.2, ?_⟩
    rintro other ⟨⟩
    exact h.1
  | shortcut codes => exact .chordOver (fun _ _ => trivial) (by simp) codes
  | holdClick point modifier count =>
    have lifts : ∀ e ∈ [Play.releaseKey modifier], e.IsFinite := List.forall_mem_singleton.2 trivial
    refine .bind (.post trivial) fun _ => .whileHeld lifts ?_
    exact .bind (.post h) fun _ => p.clicks_asks h .left 1 count.toNat
  | autocomplete typed full =>
    have texts : ∀ text down, PlayRequest.IsFinite (.post (.key (.text text) down) : PlayRequest τ) := fun _ _ => trivial
    exact .bind (typeEach_asks texts _) fun _ => .bind (.pause trivial) fun _ => typeEach_asks texts _
  | gesture kind =>
    rw [perform, hg]
    exact .chordOver (fun _ _ => trivial) (by simp) kind.chord
  | batch commands => exact .value ()

theorem runEach_asks {commands : List String} (each : ∀ c ∈ commands, AsksFinite (p.run c)) :
    AsksFinite (p.runEach commands) := by
  induction commands with
  | nil => exact .value []
  | cons command rest ih =>
    obtain ⟨first, others⟩ := List.forall_mem_cons.1 each
    exact .bind first fun r => .bind (ih others) fun results => .value (r :: results)

end Player

end InputReplay
