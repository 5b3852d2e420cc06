import InputReplay.Proofs.Steady

/-! Programs that go on after a fault, to release what is down. They attempt their requests up to the
first that raises and then the releases that are owed there. Only a release that raises something else
than an injection failure ends this before its time. -/

namespace InputReplay

open Program

variable {τ : Type}

/-- What is attempted of a sequence of requests when the first fault, if any, is raised: all of it, or
what stands before the request that raises, that request, and the releases that are owed there. None
of these releases raises anything but an injection failure. -/
inductive CutShort (whole : List (PlayRequest τ)) : List (Attempt τ) → Option Fault → Prop
  | accepted (made) (quiet : ∀ a ∈ made, a.fault? = none) (all : made.map (·.request) = whole) :
      CutShort whole made none
  | raised (before r fault after rest) (quiet : ∀ a ∈ before, a.fault? = none)
      (reached : whole = before.map (·.request) ++ r :: rest)
      (lifts : after.map (·.request) = owed r rest)
      (refused : ∀ a ∈ after, ∀ f, a.fault? = some f → f.isInjection = true) :
      CutShort whole (before ++ ⟨r, some fault⟩ :: after) (some fault)

/-- How requests end: cut short at the first fault, which leaves, or broken off by a release that
raises something else than an injection failure. -/
inductive Ends (whole : List (PlayRequest τ)) : List (Attempt τ) → Except Fault Unit → Prop
  | short {made first} (cut : CutShort whole made first) :
      Ends whole made (first.elim (.ok ()) .error)
  | broken (before) {r h fault} (hl : r.lifted? = some h) (hf : fault.isInjection = false) :
      Ends whole (before ++ [⟨r, some fault⟩]) (.error fault)

/-- A program that lifts what it presses, as far as its releases let it. -/
def Releasing (q : Play τ Unit) : Prop :=
  ∃ whole, Nested [] whole ∧
    ∀ (σ : Type) (inj : Injector τ σ) (s : σ), Ends whole (inj.acts q s) (inj.run q s).1

theorem Ends.after {before made : List (Attempt τ)} {I : List (PlayRequest τ)}
    {result : Except Fault Unit} (quiet : ∀ a ∈ before, a.fault? = none) (h : Ends I made result) :
    Ends (before.map (·.request) ++ I) (before ++ made) result := by
  cases h with
  | short cut =>
    cases cut with
    | accepted _ more all =>
      refine .short (.accepted _ (fun a ha => (List.mem_append.1 ha).elim (quiet a) (more a)) ?_)
      rw [List.map_append, all]
    | raised _ _ _ _ rest more reached lifts refused =>
      rw [← List.append_assoc]
      refine .short (.raised _ _ _ _ rest (fun a ha => (List.mem_append.1 ha).elim (quiet a) (more a)) ?_
        lifts refused)
      rw [reached, List.map_append, List.append_assoc]
  | broken _ hl hf =>
    rw [← List.append_assoc]
    exact .broken _ hl hf

theorem Steady.releasing {q : Play τ Unit} (hq : Steady q) : Releasing q := by
  obtain ⟨I, hp, hs⟩ := hq
  refine ⟨I, hp.nested, fun σ inj s => ?_⟩
  have stops := hs σ inj s
  generalize inj.acts q s = made at stops ⊢
  generalize (inj.run q s).1 = result at stops ⊢
  cases stops with
  | ran _ quiet => exact .short (.accepted _ quiet rfl)
  | raised _ _ _ rest quiet =>
    exact .short (.raised _ _ _ [] rest quiet rfl (by rw [hp.owed_nil rfl]; rfl) (by simp))

/-- What comes of releases that are attempted one after another. -/
inductive Released (releases : List Event) : List (Attempt τ) → Except Fault (Option Fault) → Prop
  | all (made) (each : made.map (·.request) = releases.map .post)
      (refused : ∀ a ∈ made, ∀ f, a.fault? = some f → f.isInjection = true) :
      Released releases made (.ok (made.findSome? (·.fault?)))
  | broken (before) {e fault} (he : e ∈ releases) (hf : fault.isInjection = false) :
      Released releases (before ++ [⟨.post e, some fault⟩]) (.error fault)

variable {σ : Type} (inj : Injector τ σ)

namespace Released

variable {e : Event} {releases : List Event} {made : List (Attempt τ)}
  {result : Except Fault (Option Fault)}

theorem accepted (h : Released releases made result) :
    Released (e :: releases) (⟨.post e, none⟩ :: made) result := by
  cases h with
  | all _ each refused =>
    exact .all (⟨.post e, none⟩ :: made) (by rw [List.map_cons, each]; rfl)
      (List.forall_mem_cons.2 ⟨by simp, refused⟩)
  | broken _ he hf =>
    rw [← List.cons_append]
    exact .broken _ (List.mem_cons_of_mem _ he) hf

/-- The first release that was refused is the one that is told. -/
theorem refused {fault : Fault} (hf : fault.isInjection = true) (h : Released releases made result) :
    Released (e :: releases) (⟨.post e, some fault⟩ :: made) (result.map fun _ => some fault) := by
  cases h with
  | all _ each refused =>
    exact .all (⟨.post e, some fault⟩ :: made) (by rw [List.map_cons, each]; rfl)
      (List.forall_mem_cons.2 ⟨by simpa using hf, refused⟩)
  | broken _ he hf =>
    rw [← List.cons_append]
    exact .broken _ (List.mem_cons_of_mem _ he) hf

end Released

theorem releaseEach_released (releases : List Event) (s : σ) :
    Released releases (inj.acts (Play.releaseEach releases) s)
      (inj.run (Play.releaseEach releases) s).1 := by
  induction releases generalizing s with
  | nil => exact .all [] rfl (by simp)
  | cons e rest ih =>
    rw [Play.releaseEach, inj.acts_next, inj.run_next, inj.acts_post, inj.run_post]
    generalize inj.post e s = out
    obtain ⟨result, s'⟩ := out
    cases result with
    | ok _ => exact (ih s').accepted
    | error fault =>
      simp only
      cases hf : fault.isInjection with
      | true =>
        rw [if_pos rfl, inj.acts_map, inj.run_map]
        exact (ih s').refused hf
      | false =>
        rw [if_neg (by simp)]
        exact .broken [] List.mem_cons_self hf

/-- What is only made of releases. -/
def Lifting (releases : List Event) : Prop := ∀ e ∈ releases, e.lifted? ≠ none

theorem Lifting.requests {releases : List Event} (hr : Lifting releases) :
    ∀ r ∈ (releases.map .post : List (PlayRequest τ)), r.lifted? ≠ none :=
  List.forall_mem_map.2 hr

/-- The releases after a fault end what was begun, as long as nothing else was owed. -/
theorem releaseAfter_ends {releases : List Event} (hr : Lifting releases)
    {r : PlayRequest τ} {rest : List (PlayRequest τ)} (ho : owed r rest = releases.map .post)
    (fault : Fault) (s : σ) :
    Ends (r :: rest) (⟨r, some fault⟩ :: inj.acts (Play.releaseAfter releases fault : Play τ Unit) s)
      (inj.run (Play.releaseAfter releases fault : Play τ Unit) s).1 := by
  unfold Play.releaseAfter
  rw [inj.acts_bind, inj.run_bind]
  have released := releaseEach_released inj releases s
  generalize inj.acts (Play.releaseEach releases) s = made at released ⊢
  generalize inj.run (Play.releaseEach releases) s = out at released ⊢
  obtain ⟨result, s'⟩ := out
  cases released with
  | all _ each refused =>
    change Ends _ (_ :: (made ++ [])) (.error fault)
    rw [List.append_nil]
    exact .short (.raised [] r fault made rest (by simp) rfl (each.trans ho.symm) refused)
  | broken _ he hf =>
    change Ends _ (_ :: (_ ++ [_] ++ [])) (.error _)
    rw [List.append_nil, ← List.cons_append]
    obtain ⟨h, hl⟩ := Option.ne_none_iff_exists'.1 (hr _ he)
    exact .broken (h := h) _ hl hf

theorem releaseFinally_ends {releases : List Event} (hr : Lifting releases) (s : σ) :
    Ends (releases.map .post) (inj.acts (Play.releaseFinally releases) s)
      (inj.run (Play.releaseFinally releases) s).1 := by
  unfold Play.releaseFinally
  rw [inj.acts_bind, inj.run_bind]
  have released := releaseEach_released inj releases s
  generalize inj.acts (Play.releaseEach releases) s = made at released ⊢
  generalize inj.run (Play.releaseEach releases) s = out at released ⊢
  obtain ⟨result, s'⟩ := out
  cases released with
  | all _ each refused =>
    cases first : made.findSome? (·.fault?) with
    | none =>
      change Ends _ (made ++ []) (.ok ())
      rw [List.append_nil]
      exact .short (.accepted _ (List.findSome?_eq_none_iff.1 first) each)
    | some fault =>
      obtain ⟨before, a, after, rfl, ha, quiet⟩ := List.findSome?_eq_some_iff.1 first
      obtain ⟨r, fault?⟩ := a
      simp only at ha
      subst ha
      change Ends _ (_ ++ []) (.error fault)
      rw [List.append_nil]
      have parts : before.map (·.request) ++ r :: after.map (·.request) = releases.map .post := by
        rw [← each, List.map_append, List.map_cons]
      have lifts : ∀ u ∈ r :: after.map (·.request), u.lifted? ≠ none := fun u hu =>
        hr.requests u (parts ▸ List.mem_append_right _ hu)
      obtain ⟨hl, hafter⟩ := List.forall_mem_cons.1 lifts
      obtain ⟨h, hl⟩ := Option.ne_none_iff_exists'.1 hl
      refine .short (.raised _ _ _ _ (after.map (·.request)) quiet parts.symm ?_ ?_)
      · rw [owed_of_not_press (PlayRequest.pressed?_of_lifted? hl), openReleases_of_lifts hafter]
      · exact fun b hb => refused b (by simp [hb])
  | broken _ he hf =>
    change Ends _ (_ ++ [_] ++ []) (.error _)
    rw [List.append_nil]
    obtain ⟨h, hl⟩ := Option.ne_none_iff_exists'.1 (hr _ he)
    exact .broken (h := h) _ hl hf

/-- A press that raises before all else owes nothing. -/
theorem Ends.first {r : PlayRequest τ} {rest : List (PlayRequest τ)} (ho : owed r rest = [])
    (fault : Fault) : Ends (r :: rest) [⟨r, some fault⟩] (.error fault) :=
  .short (.raised [] r fault [] rest (by simp) rfl (by rw [ho]; rfl) (by simp))

theorem whileHeld_ends {releases : List Event} (hr : Lifting releases) {q : Play τ Unit}
    {I : List (PlayRequest τ)} (hp : Paired I) (hs : Straight q I) (s : σ) :
    Ends (I ++ releases.map .post) (inj.acts (Play.whileHeld releases q) s)
      (inj.run (Play.whileHeld releases q) s).1 := by
  unfold Play.whileHeld
  rw [inj.acts_next, inj.run_next]
  have stops := hs σ inj s
  generalize inj.acts q s = made at stops ⊢
  generalize inj.run q s = out at stops ⊢
  obtain ⟨result, s'⟩ := out
  cases stops with
  | ran _ quiet => exact (releaseFinally_ends inj hr s').after quiet
  | raised before r fault rest quiet =>
    rw [List.append_assoc, List.append_assoc, List.cons_append, List.singleton_append]
    refine Ends.after quiet (releaseAfter_ends inj hr ?_ fault s')
    have part := hp.nested.of_accepted quiet
    rw [part.owed_append, hp.owed_nil rfl]
    exact openReleases_of_lifts hr.requests

/-- What is steady may stand between a press and its release. -/
theorem Steady.held {q : Play τ Unit} (hq : Steady q) {d u : Event} {h : Held}
    (hd : d.pressed? = some h) (hu : u.lifted? = some h) :
    Releasing (do Play.post d; Play.whileHeld [u] q : Play τ Unit) := by
  obtain ⟨I, hp, hs⟩ := hq
  have nested : Nested [] (.post d :: (I ++ [.post u])) :=
    .press (h := h) hd (hp.nested.append (.lift (h := h) hu .done))
  refine ⟨_, nested, fun σ inj s => ?_⟩
  rw [inj.acts_bind, inj.run_bind, inj.acts_post, inj.run_post]
  generalize inj.post d s = out
  obtain ⟨pressed, s'⟩ := out
  cases pressed with
  | error fault =>
    have lifts := nested.owed_lifts fault
    exact .first (by simpa [Attempt.hold, PlayRequest.pressed?, hd] using lifts) fault
  | ok _ =>
    have single : Lifting [u] := by simp [Lifting, hu]
    have quiet : ∀ a ∈ [(⟨.post d, none⟩ : Attempt τ)], a.fault? = none := by simp
    exact (whileHeld_ends inj single hp hs s').after quiet

/-! Chords. -/

/-- The requests of a chord, when what was pressed before it is released at its end. -/
def chordRequests (releases : List Event) : List KeyCode → List (PlayRequest τ)
  | [] => releases.map .post
  | key :: rest =>
    .post (Play.pressKey key) :: chordRequests (Play.releaseKey key :: releases) rest

theorem Lifting.releaseKey {releases : List Event} (hr : Lifting releases) (key : KeyCode) :
    Lifting (Play.releaseKey key :: releases) :=
  List.forall_mem_cons.2 ⟨by simp [Play.releaseKey, Event.lifted?], hr⟩

/-- A key that was not pressed is not released. -/
theorem owed_pressKey {key : KeyCode} {releases : List Event} {I : List (PlayRequest τ)}
    (ho : openReleases I = (Play.releaseKey key :: releases).map .post) :
    owed (.post (Play.pressKey key)) I = releases.map .post := by
  rw [owed_press (h := .key (.code key)) rfl, ho, List.map_cons, List.eraseP_cons_of_pos]
  simp [PlayRequest.lifted?, Event.lifted?, Play.releaseKey]

/-- Each press of a chord has its release in it, which leaves the releases of what was down before. -/
theorem openReleases_chordRequests {releases : List Event} (hr : Lifting releases)
    (keys : List KeyCode) :
    openReleases (chordRequests releases keys) = (releases.map .post : List (PlayRequest τ)) := by
  induction keys generalizing releases with
  | nil => exact openReleases_of_lifts hr.requests
  | cons key rest ih =>
    rw [chordRequests, openReleases_press (h := .key (.code key)) rfl]
    exact owed_pressKey (ih (hr.releaseKey key))

theorem chordOver_ends {releases : List Event} (hr : Lifting releases) (keys : List KeyCode) (s : σ) :
    Ends (chordRequests releases keys) (inj.acts (Play.chordOver releases keys) s)
      (inj.run (Play.chordOver releases keys) s).1 := by
  induction keys generalizing releases s with
  | nil => exact releaseFinally_ends inj hr s
  | cons key rest ih =>
    unfold Play.chordOver
    rw [inj.acts_next, inj.run_next, inj.acts_post, inj.run_post]
    generalize inj.post (Play.pressKey key) s = out
    obtain ⟨pressed, s'⟩ := out
    cases pressed with
    | error fault =>
      exact releaseAfter_ends inj hr
        (owed_pressKey (openReleases_chordRequests (hr.releaseKey key) rest)) fault s'
    | ok _ =>
      have quiet : ∀ a ∈ [(⟨.post (Play.pressKey key), none⟩ : Attempt τ)], a.fault? = none := by
        simp
      exact (ih (hr.releaseKey key) s').after quiet

theorem nested_chordRequests {releases : List Event} {down : List Held}
    (hl : releases.map (·.lifted?) = down.map some) (keys : List KeyCode) :
    Nested down (chordRequests releases keys : List (PlayRequest τ)) := by
  induction keys generalizing releases down with
  | nil =>
    induction releases generalizing down with
    | nil =>
      rw [List.map_eq_nil_iff.1 hl.symm]
      exact .done
    | cons e rest ih =>
      obtain ⟨h, below, rfl, he, hb⟩ := List.map_eq_cons_iff.1 hl.symm
      exact .lift he.symm (ih hb.symm)
  | cons key rest ih =>
    refine .press (h := .key (.code key)) rfl (ih ?_)
    rw [List.map_cons, List.map_cons, hl]
    rfl

theorem chord_releasing (keys : List KeyCode) : Releasing (Play.chord keys : Play τ Unit) :=
  ⟨chordRequests [] keys, nested_chordRequests rfl keys, fun _ inj s =>
    chordOver_ends inj (by simp [Lifting]) keys s⟩

end InputReplay
