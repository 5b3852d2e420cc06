import InputReplay.Proofs.Release

/-! What a failed action leaves behind. An action whose releases are refused by nothing but injection
failures attempts exactly its requests up to the first that raises, and then the releases of what is
down there, the last press first; the first fault is the one that is told. Where releases may raise
anything, this can fail only by a release that raises something else. -/

namespace InputReplay

open Program

variable {τ σ α : Type}

/-- Whether an action lifts all that it presses by itself. -/
def Action.isSelfContained : Action → Bool
  | .key .. | .batch .. => false
  | _ => true

namespace Injector

/-- No release raises anything but an injection failure. Whatever else is asked may raise any fault. -/
def RefusesReleases (inj : Injector τ σ) : Prop :=
  ∀ e s fault, e.lifted? ≠ none → faultOf (inj.post e s).1 = some fault → fault.isInjection = true

variable (inj : Injector τ σ) (s : σ)

/-! The lock is not seen. -/

theorem run_locked (body : Play τ α) : inj.run (Play.locked body) s = inj.run body s := by
  change inj.run (body.afterwards Play.leave) s = _
  exact inj.run_next s body _

theorem acts_locked (body : Play τ α) : inj.acts (Play.locked body) s = inj.acts body s := by
  change inj.acts (body.afterwards Play.leave) s = _
  refine (inj.acts_next s body _).trans ?_
  exact List.append_nil _

end Injector

/-- What is told of a single action by its end. -/
def settled (label : String) : Except Fault Unit → Except Fault Result
  | .ok _ => .ok (.succeeded label)
  | .error (.failure f) => .ok (.failed label f)
  | .error fault => .error fault

theorem settled_error_injective {label : String} {f g : Fault}
    (h : settled label (.error f) = settled label (.error g)) : f = g := by
  cases f <;> cases g <;> simp_all [settled]

namespace Player

theorem run_report (inj : Injector τ σ) (s : σ) (label : String) (body : Play τ Unit) :
    inj.run (report label body) s = (settled label (inj.run body s).1, (inj.run body s).2) := by
  unfold report
  rw [inj.run_next]
  generalize inj.run body s = out
  obtain ⟨result, s'⟩ := out
  cases result with
  | ok _ => rfl
  | error fault => cases fault <;> rfl

theorem acts_report (inj : Injector τ σ) (s : σ) (label : String) (body : Play τ Unit) :
    inj.acts (report label body) s = inj.acts body s := by
  unfold report
  rw [inj.acts_next]
  generalize inj.run body s = out
  obtain ⟨result, s'⟩ := out
  cases result with
  | ok _ => exact List.append_nil _
  | error fault => cases fault <;> exact List.append_nil _

variable [Duration τ] (p : Player τ)

/-- What a result calls an action. -/
def labelOf (action : Action) (command : String) : String :=
  if command = "" then action.label else command

theorem execute_single {action : Action} (single : ∀ commands, action ≠ .batch commands)
    (command : String) :
    p.execute action command =
      Play.locked (report (labelOf action command) (p.perform action)) := by
  unfold execute labelOf
  rw [play]
  exact single

/-- Whether a drag is asked for in more parts than can be counted. -/
def isUncountable : Action → Bool
  | .drag .. => (Duration.part p.settings.dragDuration p.settings.dragSteps.val).isNone
  | _ => false

theorem isUncountable_drag
    (h : Duration.part p.settings.dragDuration p.settings.dragSteps.val = none) (start finish : Point) :
    p.isUncountable (.drag start finish) = true := by
  simp only [isUncountable, h, Option.isNone_none]

theorem perform_uncountable {action : Action} (h : p.isUncountable action = true) :
    p.perform action = .throw .tooManyParts := by
  cases action with
  | drag start finish =>
    have none := Option.isNone_iff_eq_none.1 h
    simp only [perform, drag, none]
  | _ => simp [isUncountable] at h

theorem perform_releasing {action : Action}
    (hg : ∀ kind, action = .gesture kind → p.gestures = chordGestures)
    (hs : action.isSelfContained = true) (hc : p.isUncountable action = false) :
    Releasing (p.perform action) := by
  cases action with
  | key | batch => simp [Action.isSelfContained] at hs
  | press code =>
    have pair : Steady (do Play.post (Play.pressKey code); Play.post (Play.releaseKey code) : Play τ Unit) :=
      ⟨_, .pair (h := .key (.code code)) rfl rfl .done, .andThen (.post _) (.post _)⟩
    exact pair.releasing
  | type text => exact (typeEach_steady text.toList).releasing
  | click point button count => exact (p.clicks_steady point button 1 count.toNat).releasing
  | move point =>
    have steady : Steady (Play.post (mouse .move point) : Play τ Unit) := .post rfl rfl
    exact steady.releasing
  | drag start finish =>
    obtain ⟨pause, hpause⟩ := Option.isSome_iff_exists.1 (Option.isNone_eq_false_iff.1 hc)
    have points := dragPoints_steady start finish pause p.settings.dragSteps.val 1 p.settings.dragSteps.val
    have held := points.held (d := mouse .down start) (u := mouse .up finish) (h := .button .left) rfl rfl
    simpa only [perform, drag, hpause] using held
  | scroll delta =>
    have steady : Steady (Play.post (.scroll (.exactly delta) none) : Play τ Unit) := .post rfl rfl
    exact steady.releasing
  | scrollTo point =>
    have steady : Steady (do Play.post (mouse .move point); Play.post (.scroll p.settings.scrollToAmount (some point)) : Play τ Unit) :=
      .andThen (.post rfl rfl) (.post rfl rfl)
    exact steady.releasing
  | shortcut codes => exact chord_releasing codes
  | holdClick point modifier count =>
    have steady : Steady (do Play.post (mouse .move point); p.click point .left count) :=
      .andThen (.post rfl rfl) (p.clicks_steady point .left 1 count.toNat)
    exact steady.held (h := .key (.code modifier)) rfl rfl
  | autocomplete typed full =>
    have steady : Steady (do type typed; Play.pause p.settings.autocompleteSettle; type (completion typed full)) :=
      .andThen (typeEach_steady _) (.andThen (.pause _) (typeEach_steady _))
    exact steady.releasing
  | gesture kind =>
    simp only [perform, hg kind rfl]
    exact chord_releasing kind.chord

end Player

/-! What follows from how requests end. -/

/-- After the first fault what is down is lifted, the last press first and each once, and nothing else
is attempted. -/
def LiftsInOrder (made : List (Attempt τ)) : Prop :=
  ∀ before a after, made = before ++ a :: after → (∀ b ∈ before, b.fault? = none) →
    a.fault? ≠ none → after.map (·.request.lifted?) = (downAfter (before ++ [a])).map some

theorem CutShort.liftsInOrder {whole : List (PlayRequest τ)} {made : List (Attempt τ)}
    {first : Option Fault} (hn : Nested [] whole) (cut : CutShort whole made first) :
    LiftsInOrder made := by
  intro before a after hm quiet ha
  cases cut with
  | accepted made none _ =>
    have mem : a ∈ made := by simp [hm]
    exact absurd (none a mem) ha
  | raised before' r fault after' rest quiet' reached lifts _ =>
    obtain ⟨rfl, rfl, rfl⟩ := first_fault_unique hm quiet' quiet (by simp) ha
    rw [reached] at hn
    have owes := (hn.of_accepted quiet).owed_lifts fault
    rw [← lifts, List.map_map] at owes
    rw [downAfter, List.foldl_append]
    exact owes

/-- When requests are cut short nothing stays down. -/
theorem CutShort.downAfter_nil {whole : List (PlayRequest τ)} {made : List (Attempt τ)}
    {first : Option Fault} (hn : Nested [] whole) (cut : CutShort whole made first) :
    downAfter made = [] := by
  have inOrder := cut.liftsInOrder hn
  cases cut with
  | accepted made quiet all =>
    rw [← all, ← List.append_nil (made.map _)] at hn
    have rest := hn.of_accepted quiet
    cases h : made.foldl Attempt.hold [] with
    | nil => exact h
    | cons k below =>
      rw [h] at rest
      cases rest
  | raised before r fault after rest quiet _ _ _ =>
    have lifts := inOrder before _ after rfl quiet (by simp)
    rw [← List.singleton_append, ← List.append_assoc, downAfter, List.foldl_append]
    exact foldl_hold_of_lifts lifts

theorem Ends.requests_accepting {whole : List (PlayRequest τ)} {made : List (Attempt τ)}
    {result : Except Fault Unit} (h : Ends whole made result) (quiet : ∀ a ∈ made, a.fault? = none) :
    made.map (·.request) = whole := by
  cases h with
  | short cut =>
    cases cut with
    | accepted _ _ all => exact all
    | raised before r fault after =>
      have raised := quiet ⟨r, some fault⟩ (by simp)
      simp at raised
  | @broken before r _ fault =>
    have raised := quiet ⟨r, some fault⟩ (by simp)
    simp at raised

/-- An injector that refuses releases breaks nothing off. -/
theorem Ends.cutShort {whole : List (PlayRequest τ)} {q : Play τ Unit} {inj : Injector τ σ} {s : σ}
    (hi : inj.RefusesReleases) (h : Ends whole (inj.acts q s) (inj.run q s).1) :
    ∃ first, CutShort whole (inj.acts q s) first ∧ (inj.run q s).1 = first.elim (.ok ()) .error := by
  generalize hm : inj.acts q s = made at h ⊢
  generalize (inj.run q s).1 = result at h ⊢
  cases h with
  | short cut => exact ⟨_, cut, rfl⟩
  | @broken before r k fault hl hf =>
    have mem : ⟨r, some fault⟩ ∈ inj.acts q s := by simp [hm]
    obtain ⟨s', raised⟩ := inj.raised_of_mem_acts s q mem rfl
    cases r with
    | post e =>
      have lifts : e.lifted? ≠ none := by
        rw [show e.lifted? = some k from hl]
        simp
      rw [hi e s' fault lifts raised] at hf
      cases hf
    | _ => cases hl

namespace Player

variable [Duration τ] (p : Player τ)

theorem acts_execute {action : Action} (single : ∀ commands, action ≠ .batch commands)
    (command : String) (inj : Injector τ σ) (s : σ) :
    inj.acts (p.execute action command) s = inj.acts (p.perform action) s := by
  rw [p.execute_single single, inj.acts_locked, acts_report]

theorem run_execute {action : Action} (single : ∀ commands, action ≠ .batch commands)
    (command : String) (inj : Injector τ σ) (s : σ) :
    inj.run (p.execute action command) s =
      (settled (labelOf action command) (inj.run (p.perform action) s).1,
        (inj.run (p.perform action) s).2) := by
  rw [p.execute_single single, inj.run_locked, run_report]

theorem not_batch {action : Action} (hs : action.isSelfContained = true) (commands : List String) :
    action ≠ .batch commands := by
  rintro rfl
  cases hs

/-- Let the requests of an action be those it makes of an injector that accepts everything. Of any
injector whose releases are refused by injection failures alone it attempts these requests up to the
first that raises, then the releases of what is down there, and nothing else; and what is told is
settled by the first fault. A drag in more parts than can be counted attempts nothing. -/
theorem execute_cutShort (hg : p.gestures = chordGestures) {action : Action}
    (hs : action.isSelfContained = true) (command : String) (inj : Injector τ σ)
    (hi : inj.RefusesReleases) (s : σ) :
    ∃ first,
      CutShort ((Injector.accepting.acts (p.execute action command) ()).map (·.request))
        (inj.acts (p.execute action command) s) first ∧
      LiftsInOrder (inj.acts (p.execute action command) s) ∧
      (inj.run (p.execute action command) s).1 =
        if p.isUncountable action then .error .tooManyParts
        else settled (labelOf action command) (first.elim (.ok ()) .error) := by
  have single := not_batch hs
  rw [p.acts_execute single, p.acts_execute single, p.run_execute single]
  cases hc : p.isUncountable action with
  | true =>
    rw [p.perform_uncountable hc]
    refine ⟨none, .accepted [] (by simp) rfl, ?_, rfl⟩
    intro before a after hm
    simp [Injector.acts, Program.throw] at hm
  | false =>
    obtain ⟨whole, nested, ends⟩ := p.perform_releasing (fun _ _ => hg) hs hc
    have all := (ends Unit .accepting ()).requests_accepting
      fun a ha => Injector.accepting_raises _ ha
    obtain ⟨first, cut, result⟩ := (ends σ inj s).cutShort hi
    rw [all, result]
    exact ⟨first, cut, cut.liftsInOrder nested, rfl⟩

/-- Two keys are down when the third is denied, and one of them is stuck; the other is lifted all the
same, and it is the denial that leaves. -/
def deniedPress : Nat → Event → Option Fault
  | _, .key (.code .c) true => some (.host "OSError" "denied")
  | _, .key (.code .commandLeft) false => some (.injection (.other "stuck"))
  | _, _ => none

theorem shortcut_denied_cutShort :
    (Injector.ruled (τ := Binary64) deniedPress).RefusesReleases ∧
    ∃ first,
      CutShort [.post (Play.pressKey .shiftLeft), .post (Play.pressKey .commandLeft),
        .post (Play.pressKey .c), .post (Play.releaseKey .c), .post (Play.releaseKey .commandLeft),
        .post (Play.releaseKey .shiftLeft)]
      [⟨.post (Play.pressKey .shiftLeft), none⟩, ⟨.post (Play.pressKey .commandLeft), none⟩,
        ⟨.post (Play.pressKey .c), some (.host "OSError" "denied")⟩,
        ⟨.post (Play.releaseKey .commandLeft), some (.injection (.other "stuck"))⟩,
        (⟨.post (Play.releaseKey .shiftLeft), none⟩ : Attempt Binary64)] first ∧
      settled "Shortcut" (first.elim (.ok ()) .error) = .error (.host "OSError" "denied") := by
  have refuses : (Injector.ruled (τ := Binary64) deniedPress).RefusesReleases := by
    intro e n fault lifts raised
    rw [Injector.ruled_raises] at raised
    unfold deniedPress at raised
    split at raised
    · exact absurd rfl lifts
    · cases raised
      rfl
    · cases raised
  refine ⟨refuses, ?_⟩
  have single : (Action.shortcut [.shiftLeft, .commandLeft, .c]).isSelfContained = true := rfl
  have h := execute_cutShort ⟨.standard, chordGestures⟩ rfl single "" _ refuses 0
  rw [acts_execute _ (by simp), acts_execute _ (by simp), run_execute _ (by simp)] at h
  obtain ⟨first, cut, -, result⟩ := h
  exact ⟨first, cut, result.symm⟩

/-- A drag has so many points that they have no number among the times. -/
def overfine : PlaySettings Binary64 :=
  { PlaySettings.standard with dragSteps := ⟨2 ^ 1024, Nat.two_pow_pos 1024⟩ }

/-- Nothing that was attempted raised, and still there is no result. -/
theorem drag_overfine_without_result :
    let q := Player.execute ⟨overfine, chordGestures⟩ (.drag ⟨.zero, .zero⟩ ⟨.zero, .zero⟩) ""
    ¬ ((∃ r, (Injector.accepting.run q ()).1 = .ok r ∧ r.isOk = true) ↔
      ∀ a ∈ Injector.accepting.acts q (), a.fault? = none) := by
  intro q h
  have large : (Binary64.ofNat overfine.dragSteps.val).isFinite = false := by decide +kernel
  have none : Duration.part overfine.dragDuration overfine.dragSteps.val = none :=
    if_neg (ne_true_of_eq_false large)
  have quiet : ∀ a ∈ Injector.accepting.acts q (), a.fault? = Option.none := fun a ha =>
    Injector.accepting_raises _ ha
  obtain ⟨r, hr, -⟩ := h.2 quiet
  have uncountable := isUncountable_drag ⟨overfine, chordGestures⟩ none ⟨.zero, .zero⟩ ⟨.zero, .zero⟩
  rw [run_execute _ (by simp), perform_uncountable _ uncountable] at hr
  cases hr

end Player

end InputReplay
