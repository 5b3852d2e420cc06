import InputReplay.Proofs.Cleanup

/-! What a release does that raises something else than an injection failure. It ends an action at
once: what else was down stays down, and a fault that a press or a step had raised before is not told.
Nothing but such a release does either. -/

namespace InputReplay

variable {τ σ : Type}

/-- The first fault of all, when a press or a step raised it and not a release. -/
def FirstRaised (made : List (Attempt τ)) (fault : Fault) : Prop :=
  ∃ before a after, made = before ++ a :: after ∧ (∀ b ∈ before, b.fault? = none) ∧
    a.fault? = some fault ∧ a.request.lifted? = none

/-- The last attempt is a release that raised something else than an injection failure, while another
thing was down that had not been lifted or after a press or a step had raised another fault. -/
def BrokenOff (made : List (Attempt τ)) : Prop :=
  ∃ before r h fault, made = before ++ [⟨r, some fault⟩] ∧ r.lifted? = some h ∧
    fault.isInjection = false ∧
    ((∃ k, k ≠ h ∧ Unlifted before k) ∨ ∃ f, f ≠ fault ∧ FirstRaised before f)

theorem Unlifted.append {before after : List (Attempt τ)} {h : Held} (hu : Unlifted before h)
    (hl : ∀ a ∈ after, a.request.lifted? ≠ some h) : Unlifted (before ++ after) h := by
  obtain ⟨pre, a, post, rfl, ha, hp, hpost⟩ := hu
  refine ⟨pre, a, post ++ after, by simp, ha, hp, fun b hb => ?_⟩
  exact (List.mem_append.1 hb).elim (hpost b) (hl b)

theorem FirstRaised.append {before : List (Attempt τ)} {fault : Fault} (hf : FirstRaised before fault)
    (after : List (Attempt τ)) : FirstRaised (before ++ after) fault := by
  obtain ⟨pre, a, post, rfl, quiet, ha, hl⟩ := hf
  exact ⟨pre, a, post ++ after, by simp, quiet, ha, hl⟩

/-- A place in attempts with one more at their end is that end or a place before it. -/
theorem concat_eq_append_cons {before pre post : List (Attempt τ)} {a b : Attempt τ}
    (h : before ++ [b] = pre ++ a :: post) :
    a = b ∨ ∃ init, post = init ++ [b] ∧ before = pre ++ a :: init := by
  rcases List.eq_nil_or_concat post with rfl | ⟨init, c, rfl⟩
  · obtain ⟨-, last⟩ := List.append_inj' h rfl
    cases last
    exact .inl rfl
  · rw [List.concat_eq_append, ← List.cons_append, ← List.append_assoc] at h
    obtain ⟨rfl, last⟩ := List.append_inj' h rfl
    cases last
    exact .inr ⟨init, List.concat_eq_append, rfl⟩

/-- An attempt that raised is no press that was accepted. -/
theorem Unlifted.of_concat {before : List (Attempt τ)} {r : PlayRequest τ} {fault : Fault} {h k : Held}
    (hl : r.lifted? = some k) (hu : Unlifted (before ++ [⟨r, some fault⟩]) h) :
    h ≠ k ∧ Unlifted before h := by
  obtain ⟨pre, a, post, hm, ha, hp, hpost⟩ := hu
  rcases concat_eq_append_cons hm with rfl | ⟨init, rfl, rfl⟩
  · cases ha
  · refine ⟨?_, pre, a, init, rfl, ha, hp, fun b hb => hpost b (by simp [hb])⟩
    rintro rfl
    exact hpost ⟨r, some fault⟩ (by simp) hl

theorem FirstRaised.of_concat {before : List (Attempt τ)} {r : PlayRequest τ} {fault f : Fault}
    {k : Held} (hl : r.lifted? = some k) (hf : FirstRaised (before ++ [⟨r, some fault⟩]) f) :
    FirstRaised before f := by
  obtain ⟨pre, a, post, hm, quiet, ha, none⟩ := hf
  rcases concat_eq_append_cons hm with rfl | ⟨init, rfl, rfl⟩
  · rw [hl] at none
    cases none
  · exact ⟨pre, a, init, rfl, quiet, ha, none⟩

/-- Requests that are cut short tell the first fault. -/
theorem CutShort.first_of_firstRaised {whole : List (PlayRequest τ)} {made : List (Attempt τ)}
    {first : Option Fault} {fault : Fault} (cut : CutShort whole made first)
    (hf : FirstRaised made fault) : first = some fault := by
  obtain ⟨pre, a, post, hm, quiet, ha, -⟩ := hf
  cases cut with
  | accepted made none _ =>
    rw [none a (by simp [hm])] at ha
    cases ha
  | raised before r f after rest quiet' _ _ _ =>
    obtain ⟨rfl, rfl, rfl⟩ := first_fault_unique hm quiet' quiet (by simp) (by simp [ha])
    exact ha

/-- Where nothing but releases raises after the first fault, the last of them raises no more than an
injection failure. -/
theorem CutShort.not_broken {whole : List (PlayRequest τ)} {before : List (Attempt τ)}
    {r : PlayRequest τ} {first : Option Fault} {fault f : Fault}
    (cut : CutShort whole (before ++ [⟨r, some fault⟩]) first) (hi : fault.isInjection = false)
    (hf : FirstRaised before f) : False := by
  obtain ⟨pre, a, post, rfl, quiet, ha, -⟩ := hf
  generalize hm : pre ++ a :: post ++ [⟨r, some fault⟩] = made at cut
  cases cut with
  | accepted _ none _ =>
    rw [none a (by simp [← hm])] at ha
    cases ha
  | raised before' r' fault' after' rest quiet' _ _ refused =>
    rw [List.append_assoc, List.cons_append] at hm
    obtain ⟨-, -, rfl⟩ := first_fault_unique hm quiet quiet' (by simp [ha]) (by simp)
    rw [refused ⟨r, some fault⟩ (by simp) fault rfl] at hi
    cases hi

/-- However requests end: all that went down was lifted and the fault that came first is told, unless
they were broken off. -/
theorem Ends.kept_iff {whole : List (PlayRequest τ)} {made : List (Attempt τ)}
    {result : Except Fault Unit} (hn : Nested [] whole) (ends : Ends whole made result)
    (label : String) :
    ((∀ h, ¬ Unlifted made h) ∧
      ∀ fault, FirstRaised made fault → settled label result = settled label (.error fault)) ↔
    ¬ BrokenOff made := by
  constructor
  · rintro ⟨lifted, told⟩ ⟨before, r, k, fault, rfl, hl, hi, ⟨h, ne, hu⟩ | ⟨f, ne, hf⟩⟩
    · -- the release that broke off is the last attempt, and it lifts something else
      refine lifted h (hu.append fun a ha => ?_)
      rw [List.mem_singleton.1 ha, hl]
      simpa using ne.symm
    · have same := told f (hf.append _)
      generalize hm : before ++ [⟨r, some fault⟩] = made at ends
      cases ends with
      | short cut =>
        subst hm
        exact cut.not_broken hi hf
      | broken before' =>
        obtain ⟨-, last⟩ := List.append_inj' hm rfl
        cases last
        exact ne (settled_error_injective same).symm
  · intro unbroken
    cases ends with
    | short cut =>
      refine ⟨fun h hu => ?_, fun fault hf => ?_⟩
      · have down := hu.mem_downAfter
        rw [cut.downAfter_nil hn] at down
        cases down
      · rw [cut.first_of_firstRaised hf]
        rfl
    | @broken before r k fault hl hi =>
      refine ⟨fun h hu => ?_, fun f hf => ?_⟩
      · obtain ⟨ne, hu⟩ := hu.of_concat hl
        exact unbroken ⟨before, r, k, fault, rfl, hl, hi, .inl ⟨h, ne, hu⟩⟩
      · by_cases same : f = fault
        · rw [same]
        · exact absurd ⟨before, r, k, fault, rfl, hl, hi, .inr ⟨f, same, hf.of_concat hl⟩⟩ unbroken

namespace Player

variable [Duration τ] (p : Player τ)

/-- Any injector may raise anything anywhere. All that an action pressed is lifted, and a fault that a
press or a step raised first is the one that is told, exactly when the action was not broken off. -/
theorem execute_kept_iff (hg : p.gestures = chordGestures) {action : Action}
    (hs : action.isSelfContained = true) (command : String) (inj : Injector τ σ) (s : σ) :
    ((∀ h, ¬ Unlifted (inj.acts (p.execute action command) s) h) ∧
      ∀ fault, FirstRaised (inj.acts (p.execute action command) s) fault →
        (inj.run (p.execute action command) s).1 = settled (labelOf action command) (.error fault)) ↔
    ¬ BrokenOff (inj.acts (p.execute action command) s) := by
  have single := not_batch hs
  rw [p.acts_execute single, p.run_execute single]
  cases hc : p.isUncountable action with
  | true =>
    rw [p.perform_uncountable hc]
    have nothing : inj.acts (Program.throw .tooManyParts : Play τ Unit) s = [] := rfl
    rw [nothing]
    refine ⟨fun _ => ?_, fun _ => ⟨?_, ?_⟩⟩
    · rintro ⟨before, r, h, fault, hm, -⟩
      simp at hm
    · rintro h ⟨before, a, after, hm, -⟩
      simp at hm
    · rintro fault ⟨before, a, after, hm, -⟩
      simp at hm
  | false =>
    obtain ⟨whole, nested, ends⟩ := p.perform_releasing (fun _ _ => hg) hs hc
    exact (ends σ inj s).kept_iff nested _

theorem shortcut_denied_kept :
    let q := Player.execute ⟨.standard, chordGestures⟩ (.shortcut [.shiftLeft, .commandLeft, .c]) ""
    let inj := Injector.ruled (τ := Binary64) deniedPress
    (∀ h, ¬ Unlifted (inj.acts q 0) h) ∧ (inj.run q 0).1 = .error (.host "OSError" "denied") := by
  intro q inj
  have made : inj.acts q 0 =
      [⟨.post (Play.pressKey .shiftLeft), none⟩, ⟨.post (Play.pressKey .commandLeft), none⟩,
        ⟨.post (Play.pressKey .c), some (.host "OSError" "denied")⟩,
        ⟨.post (Play.releaseKey .commandLeft), some (.injection (.other "stuck"))⟩] ++
      [⟨.post (Play.releaseKey .shiftLeft), none⟩] :=
    acts_execute _ (by simp) "" inj 0
  have unbroken : ¬ BrokenOff (inj.acts q 0) := by
    rintro ⟨before, r, h, fault, hm, -⟩
    obtain ⟨-, last⟩ := List.append_inj' (made.symm.trans hm) rfl
    cases last
  have kept := (execute_kept_iff ⟨.standard, chordGestures⟩ rfl rfl "" inj 0).2 unbroken
  refine ⟨kept.1, kept.2 (.host "OSError" "denied") ?_⟩
  rw [made]
  exact ⟨[_, _], ⟨.post (Play.pressKey .c), _⟩, _, rfl, by simp, rfl, rfl⟩

/-- The third press of a chord is refused, and the first release then raises what is no injection
failure. -/
def stuckRelease : Nat → Event → Option Fault
  | _, .key (.code .c) true => some (.injection (.refused (Play.pressKey .c)))
  | _, .key (.code .commandLeft) false => some (.host "OSError" "rule 1")
  | _, _ => none

/-- Shift stays down, and the refusal of the press is lost. -/
theorem shortcut_stuck_broken :
    let q := Player.execute ⟨.standard, chordGestures⟩ (.shortcut [.shiftLeft, .commandLeft, .c]) ""
    let inj := Injector.ruled (τ := Binary64) stuckRelease
    ¬ (∀ h, ¬ Unlifted (inj.acts q 0) h) ∧
    ¬ ∀ fault, FirstRaised (inj.acts q 0) fault → (inj.run q 0).1 = settled "Shortcut" (.error fault) := by
  intro q inj
  have made : inj.acts q 0 =
      [⟨.post (Play.pressKey .shiftLeft), none⟩, ⟨.post (Play.pressKey .commandLeft), none⟩,
        ⟨.post (Play.pressKey .c), some (.injection (.refused (Play.pressKey .c)))⟩,
        ⟨.post (Play.releaseKey .commandLeft), some (.host "OSError" "rule 1")⟩] :=
    acts_execute _ (by simp) "" inj 0
  have result : (inj.run q 0).1 = .error (.host "OSError" "rule 1") := by
    rw [run_execute _ (by simp) "" inj 0]
    rfl
  rw [made, result]
  refine ⟨fun lifted => ?_, fun told => ?_⟩
  · refine lifted (.key (.code .shiftLeft)) ⟨[], _, _, rfl, rfl, rfl, ?_⟩
    simp [PlayRequest.lifted?, Event.lifted?, Play.pressKey, Play.releaseKey]
  · have refusal := told (.injection (.refused (Play.pressKey .c)))
      ⟨[_, _], ⟨.post (Play.pressKey .c), _⟩, _, rfl, by simp, rfl, rfl⟩
    cases refusal

end Player

end InputReplay
