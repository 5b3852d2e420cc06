import InputReplay.Proofs.Attempt

/-! What presses hold down and releases lift. A sequence of requests is nested when every release in
it lifts what went down last; then the releases that are open at any point of it are those of what is
down there, the last one first. -/

namespace InputReplay

/-- What is held down by a press: a key, a text as a key would type it, or a button. -/
inductive Held where
  | key (payload : KeyPayload)
  | button (button : Button)
deriving DecidableEq

namespace Event

def pressed? : Event → Option Held
  | key payload true => some (.key payload)
  | mouse .down _ button _ => some (.button button)
  | _ => none

def lifted? : Event → Option Held
  | key payload false => some (.key payload)
  | mouse .up _ button _ => some (.button button)
  | _ => none

theorem pressed?_of_lifted? {e : Event} {h : Held} (hl : e.lifted? = some h) : e.pressed? = none := by
  unfold lifted? at hl
  split at hl <;> first | rfl | cases hl

end Event

variable {τ : Type}

namespace PlayRequest

def pressed? : PlayRequest τ → Option Held
  | post e => e.pressed?
  | _ => none

def lifted? : PlayRequest τ → Option Held
  | post e => e.lifted?
  | _ => none

theorem pressed?_of_lifted? {r : PlayRequest τ} {h : Held} (hl : r.lifted? = some h) :
    r.pressed? = none := by
  cases r with
  | post e => exact Event.pressed?_of_lifted? hl
  | _ => rfl

end PlayRequest

/-- What is down after an attempt. A press that was accepted is down; a release ends the last press of
the same thing, even when it was refused. -/
def Attempt.hold (down : List Held) (a : Attempt τ) : List Held :=
  match a.request.pressed? with
  | some h => if a.fault? = none then h :: down else down
  | none =>
    match a.request.lifted? with
    | some h => down.erase h
    | none => down

/-- What is down after attempts, the last press first. -/
def downAfter (made : List (Attempt τ)) : List Held := made.foldl Attempt.hold []

/-- The releases of a sequence whose presses stand before it. A press takes the first release of the
same thing that follows it and is left. -/
def openReleases : List (PlayRequest τ) → List (PlayRequest τ)
  | [] => []
  | r :: rest =>
    match r.pressed? with
    | some h => (openReleases rest).eraseP (·.lifted? = some h)
    | none => if r.lifted? = none then openReleases rest else r :: openReleases rest

/-- The releases that are still to be made when `r` raises with `rest` to come: those of `rest` whose
presses stand before `r`. -/
def owed (r : PlayRequest τ) (rest : List (PlayRequest τ)) : List (PlayRequest τ) :=
  match r.pressed? with
  | some h => (openReleases rest).eraseP (·.lifted? = some h)
  | none => openReleases rest

/-- Requests that lift what is down at their beginning and all that they press, the last press
first. -/
inductive Nested : List Held → List (PlayRequest τ) → Prop
  | done : Nested [] []
  | press {r rest h down} (hp : r.pressed? = some h) (hr : Nested (h :: down) rest) :
      Nested down (r :: rest)
  | lift {r rest h down} (hl : r.lifted? = some h) (hr : Nested down rest) :
      Nested (h :: down) (r :: rest)
  | other {r rest down} (hp : r.pressed? = none) (hl : r.lifted? = none) (hr : Nested down rest) :
      Nested down (r :: rest)

variable {down : List Held} {I J : List (PlayRequest τ)} {r : PlayRequest τ}

theorem openReleases_lift {h : Held} (hl : r.lifted? = some h) :
    openReleases (r :: I) = r :: openReleases I := by
  simp [openReleases, PlayRequest.pressed?_of_lifted? hl, hl]

theorem openReleases_other (hp : r.pressed? = none) (hl : r.lifted? = none) :
    openReleases (r :: I) = openReleases I := by
  simp [openReleases, hp, hl]

theorem owed_press {h : Held} (hp : r.pressed? = some h) :
    owed r I = (openReleases I).eraseP (·.lifted? = some h) := by
  simp [owed, hp]

theorem owed_of_not_press (hp : r.pressed? = none) : owed r I = openReleases I := by
  simp [owed, hp]

theorem openReleases_press {h : Held} (hp : r.pressed? = some h) :
    openReleases (r :: I) = owed r I := by
  simp [openReleases, owed, hp]

/-- Releases alone are all open. -/
theorem openReleases_of_lifts (hl : ∀ r ∈ I, r.lifted? ≠ none) : openReleases I = I := by
  induction I with
  | nil => rfl
  | cons r rest ih =>
    obtain ⟨hr, hrest⟩ := List.forall_mem_cons.1 hl
    obtain ⟨h, lifted⟩ := Option.ne_none_iff_exists'.1 hr
    rw [openReleases_lift lifted, ih hrest]

namespace Nested

/-- The open releases lift what is down, the last press first. -/
theorem openReleases_lifts (hn : Nested down I) :
    (openReleases I).map (·.lifted?) = down.map some := by
  induction hn with
  | done => rfl
  | press hp hr ih =>
    rw [openReleases_press hp, owed_press hp]
    obtain ⟨u, us, hu, hl, hus⟩ := List.map_eq_cons_iff.1 ih
    rw [hu, List.eraseP_cons_of_pos (by simpa using hl)]
    exact hus
  | lift hl hr ih => rw [openReleases_lift hl, List.map_cons, List.map_cons, hl, ih]
  | other hp hl hr ih => rw [openReleases_other hp hl, ih]

/-- What went down last is lifted first. -/
theorem openReleases_cons {h : Held} (hn : Nested (h :: down) I) :
    ∃ u us, openReleases I = u :: us ∧ u.lifted? = some h ∧ us.map (·.lifted?) = down.map some :=
  List.map_eq_cons_iff.1 hn.openReleases_lifts

theorem openReleases_nil (hn : Nested [] I) : openReleases I = [] :=
  List.map_eq_nil_iff.1 hn.openReleases_lifts

/-- What is owed at a point lifts what is down once the request there has raised. -/
theorem owed_lifts (hn : Nested down (r :: I)) (fault : Fault) :
    (owed r I).map (·.lifted?) = (Attempt.hold down ⟨r, some fault⟩).map some := by
  cases hn with
  | press hp hr =>
    obtain ⟨u, us, hu, hl, hus⟩ := hr.openReleases_cons
    rw [owed_press hp, hu, List.eraseP_cons_of_pos (by simpa using hl), hus]
    simp [Attempt.hold, hp]
  | lift hl hr =>
    have hp := PlayRequest.pressed?_of_lifted? hl
    rw [owed_of_not_press hp, hr.openReleases_lifts]
    simp [Attempt.hold, hp, hl]
  | other hp hl hr =>
    rw [owed_of_not_press hp, hr.openReleases_lifts]
    simp [Attempt.hold, hp, hl]

theorem openReleases_append (hn : Nested down I) :
    openReleases (I ++ J) = openReleases I ++ openReleases J := by
  induction hn with
  | done => rfl
  | press hp hr ih =>
    obtain ⟨u, us, hu, hl, _⟩ := hr.openReleases_cons
    rw [List.cons_append, openReleases_press hp, openReleases_press hp, owed_press hp, owed_press hp,
      ih, hu]
    simp [hl]
  | lift hl hr ih => rw [List.cons_append, openReleases_lift hl, openReleases_lift hl, ih]; rfl
  | other hp hl hr ih =>
    rw [List.cons_append, openReleases_other hp hl, openReleases_other hp hl, ih]

theorem owed_append (hn : Nested down (r :: I)) : owed r (I ++ J) = owed r I ++ openReleases J := by
  cases hn with
  | press hp hr =>
    obtain ⟨u, us, hu, hl, _⟩ := hr.openReleases_cons
    rw [owed_press hp, owed_press hp, hr.openReleases_append, hu]
    simp [hl]
  | lift hl hr =>
    have hp := PlayRequest.pressed?_of_lifted? hl
    rw [owed_of_not_press hp, owed_of_not_press hp, hr.openReleases_append]
  | other hp hl hr => rw [owed_of_not_press hp, owed_of_not_press hp, hr.openReleases_append]

theorem append {below : List Held} (hI : Nested down I) (hJ : Nested below J) :
    Nested (down ++ below) (I ++ J) := by
  induction hI with
  | done => exact hJ
  | press hp hr ih => exact .press hp ih
  | lift hl hr ih => exact .lift hl ih
  | other hp hl hr ih => exact .other hp hl ih

/-- After accepted attempts the rest lifts what they left down. -/
theorem of_accepted {before : List (Attempt τ)} (quiet : ∀ a ∈ before, a.fault? = none)
    (hn : Nested down (before.map (·.request) ++ I)) : Nested (before.foldl Attempt.hold down) I := by
  induction before generalizing down with
  | nil => exact hn
  | cons a before ih =>
    obtain ⟨ha, hb⟩ := List.forall_mem_cons.1 quiet
    apply ih hb
    cases hn with
    | press hp hr => simpa [Attempt.hold, hp, ha] using hr
    | lift hl hr => simpa [Attempt.hold, PlayRequest.pressed?_of_lifted? hl, hl] using hr
    | other hp hl hr => simpa [Attempt.hold, hp, hl] using hr

end Nested

/-- Lifting what is down, the last press first, leaves nothing down. -/
theorem foldl_hold_of_lifts {after : List (Attempt τ)}
    (hl : after.map (·.request.lifted?) = down.map some) : after.foldl Attempt.hold down = [] := by
  induction after generalizing down with
  | nil => exact (List.map_eq_nil_iff.1 hl.symm)
  | cons a after ih =>
    obtain ⟨h, below, rfl, ha, hb⟩ := List.map_eq_cons_iff.1 hl.symm
    rw [List.foldl_cons]
    have one : Attempt.hold (h :: below) a = below := by
      simp [Attempt.hold, PlayRequest.pressed?_of_lifted? ha.symm, ← ha]
    rw [one]
    exact ih hb.symm

/-- A press that was accepted, with no release of the same thing attempted after it. -/
def Unlifted (made : List (Attempt τ)) (h : Held) : Prop :=
  ∃ before a after, made = before ++ a :: after ∧ a.fault? = none ∧ a.request.pressed? = some h ∧
    ∀ b ∈ after, b.request.lifted? ≠ some h

theorem mem_hold {a : Attempt τ} {h : Held} (hm : h ∈ down) (hl : a.request.lifted? ≠ some h) :
    h ∈ a.hold down := by
  unfold Attempt.hold
  split
  · split
    · exact List.mem_cons_of_mem _ hm
    · exact hm
  · split
    · next k hk =>
      have ne : h ≠ k := by
        intro e
        exact hl (e ▸ hk)
      exact (List.mem_erase_of_ne ne).2 hm
    · exact hm

theorem mem_foldl_hold {after : List (Attempt τ)} {h : Held} (hm : h ∈ down)
    (hl : ∀ b ∈ after, b.request.lifted? ≠ some h) : h ∈ after.foldl Attempt.hold down := by
  induction after generalizing down with
  | nil => exact hm
  | cons a after ih =>
    obtain ⟨ha, hb⟩ := List.forall_mem_cons.1 hl
    exact ih (mem_hold hm ha) hb

/-- What was never lifted is still down. -/
theorem Unlifted.mem_downAfter {made : List (Attempt τ)} {h : Held} (hu : Unlifted made h) :
    h ∈ downAfter made := by
  obtain ⟨before, a, after, rfl, ha, hp, hl⟩ := hu
  rw [downAfter, List.foldl_append, List.foldl_cons]
  refine mem_foldl_hold ?_ hl
  simp [Attempt.hold, hp, ha]

end InputReplay
