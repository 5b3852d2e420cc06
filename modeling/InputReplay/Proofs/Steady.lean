import InputReplay.Play.Player
import InputReplay.Proofs.Held

/-! Programs that make their requests one after another and stop at the first that raises. When each
press among the requests is followed by its release at once, nothing is left down wherever they stop.
Typing, clicks and the points of a drag are such programs. -/

namespace InputReplay

open Program

variable {τ : Type}

/-- What comes of requests made one after another: either each is accepted, or the first one that
raises is the last. -/
inductive Stops : List (PlayRequest τ) → List (Attempt τ) → Except Fault Unit → Prop
  | ran (made) (quiet : ∀ a ∈ made, a.fault? = none) : Stops (made.map (·.request)) made (.ok ())
  | raised (before r fault rest) (quiet : ∀ a ∈ before, a.fault? = none) :
      Stops (before.map (·.request) ++ r :: rest) (before ++ [⟨r, some fault⟩]) (.error fault)

def Straight (q : Play τ Unit) (I : List (PlayRequest τ)) : Prop :=
  ∀ (σ : Type) (inj : Injector τ σ) (s : σ), Stops I (inj.acts q s) (inj.run q s).1

theorem Stops.one (r : PlayRequest τ) (result : Except Fault Unit) :
    Stops [r] [⟨r, faultOf result⟩] result := by
  cases result with
  | ok _ => exact .ran [⟨r, none⟩] (by simp)
  | error fault => exact .raised [] r fault [] (by simp)

theorem Straight.done : Straight (pure () : Play τ Unit) [] :=
  fun _ _ _ => .ran [] (by simp)

theorem Straight.post (e : Event) : Straight (Play.post e : Play τ Unit) [.post e] :=
  fun _ inj s => .one (.post e) (inj.post e s).1

theorem Straight.pause [Duration τ] (time : τ) :
    Straight (Play.pause time) (if Duration.isPositive time then [.pause time] else []) := by
  rcases Play.pause_cases time with ⟨h, asks⟩ | ⟨h, skips⟩
  · rw [asks, if_pos h]
    exact fun _ inj s => .one (.pause time) (inj.pause time s).1
  · rw [skips, if_neg h]
    exact .done

theorem Straight.andThen {q₁ q₂ : Play τ Unit} {I₁ I₂ : List (PlayRequest τ)} (h₁ : Straight q₁ I₁)
    (h₂ : Straight q₂ I₂) : Straight (q₁ >>= fun _ => q₂) (I₁ ++ I₂) := by
  intro σ inj s
  rw [inj.acts_bind, inj.run_bind]
  have first := h₁ σ inj s
  generalize inj.acts q₁ s = made at first ⊢
  generalize inj.run q₁ s = out at first ⊢
  obtain ⟨result, s'⟩ := out
  cases first with
  | ran _ quiet =>
    change Stops _ (made ++ inj.acts q₂ s') (inj.run q₂ s').1
    have second := h₂ σ inj s'
    generalize inj.acts q₂ s' = more at second ⊢
    generalize (inj.run q₂ s').1 = result at second ⊢
    cases second with
    | ran _ quiet' =>
      rw [← List.map_append]
      exact .ran _ fun a ha => (List.mem_append.1 ha).elim (quiet a) (quiet' a)
    | raised _ _ _ rest quiet' =>
      rw [← List.append_assoc, ← List.append_assoc, ← List.map_append]
      exact .raised _ _ _ rest fun a ha => (List.mem_append.1 ha).elim (quiet a) (quiet' a)
  | raised _ _ _ rest quiet =>
    change Stops _ (_ ++ []) (.error _)
    rw [List.append_nil, List.append_assoc, List.cons_append]
    exact .raised _ _ _ (rest ++ I₂) quiet

/-- Requests in which a press is followed by its release at once. -/
inductive Paired : List (PlayRequest τ) → Prop
  | done : Paired []
  | other {r rest} (hp : r.pressed? = none) (hl : r.lifted? = none) (hr : Paired rest) :
      Paired (r :: rest)
  | pair {d u rest h} (hd : d.pressed? = some h) (hu : u.lifted? = some h) (hr : Paired rest) :
      Paired (d :: u :: rest)

namespace Paired

variable {I J : List (PlayRequest τ)}

theorem append (hI : Paired I) (hJ : Paired J) : Paired (I ++ J) := by
  induction hI with
  | done => exact hJ
  | other hp hl hr ih => exact .other hp hl ih
  | pair hd hu hr ih => exact .pair hd hu ih

theorem nested (hI : Paired I) : Nested [] I := by
  induction hI with
  | done => exact .done
  | other hp hl hr ih => exact .other hp hl ih
  | pair hd hu hr ih => exact .press hd (.lift hu ih)

/-- Nothing is owed wherever a request raises. -/
theorem owed_nil (hI : Paired I) {before rest : List (PlayRequest τ)} {r : PlayRequest τ}
    (h : I = before ++ r :: rest) : owed r rest = [] := by
  induction hI generalizing before with
  | done => simp at h
  | other hp hl hr ih =>
    cases before with
    | nil =>
      cases h
      rw [owed_of_not_press hp, hr.nested.openReleases_nil]
    | cons b before =>
      cases h
      exact ih rfl
  | pair hd hu hr ih =>
    rcases before with _ | ⟨b, _ | ⟨b', before⟩⟩
    · cases h
      rw [owed_press hd, openReleases_lift hu, hr.nested.openReleases_nil]
      simp [hu]
    · cases h
      rw [owed_of_not_press (PlayRequest.pressed?_of_lifted? hu), hr.nested.openReleases_nil]
    · cases h
      exact ih rfl

end Paired

/-- A program that stops where the first fault is raised, with nothing left down. -/
def Steady (q : Play τ Unit) : Prop := ∃ I, Paired I ∧ Straight q I

namespace Steady

variable {q q₁ q₂ : Play τ Unit}

theorem done : Steady (pure () : Play τ Unit) := ⟨[], .done, .done⟩

theorem andThen (h₁ : Steady q₁) (h₂ : Steady q₂) : Steady (q₁ >>= fun _ => q₂) := by
  obtain ⟨I₁, p₁, s₁⟩ := h₁
  obtain ⟨I₂, p₂, s₂⟩ := h₂
  exact ⟨I₁ ++ I₂, p₁.append p₂, s₁.andThen s₂⟩

theorem pause [Duration τ] (time : τ) : Steady (Play.pause time) := by
  refine ⟨_, ?_, .pause time⟩
  split
  · exact .other rfl rfl .done
  · exact .done

/-- An event that neither presses nor lifts. -/
theorem post {e : Event} (hp : e.pressed? = none) (hl : e.lifted? = none) :
    Steady (Play.post e : Play τ Unit) :=
  ⟨[.post e], .other hp hl .done, .post e⟩

/-- A press, its release and what follows. -/
theorem pair {d u : Event} {h : Held} (hd : d.pressed? = some h) (hu : u.lifted? = some h)
    (hq : Steady q) :
    Steady (do Play.post d; Play.post u; q : Play τ Unit) := by
  obtain ⟨I, hp, hs⟩ := hq
  exact ⟨.post d :: .post u :: I, .pair hd hu hp, .andThen (.post d) (.andThen (.post u) hs)⟩

end Steady

namespace Player

theorem typeEach_steady (text : List Char) : Steady (typeEach text : Play τ Unit) := by
  induction text with
  | nil => exact .done
  | cons c rest ih => exact .pair rfl rfl ih

variable [Duration τ] (p : Player τ)

theorem clicks_steady (point : Point) (button : Button) (index more : Nat) :
    Steady (p.clicks point button index more) := by
  induction more generalizing index with
  | zero => exact .done
  | succ more ih =>
    refine .pair rfl rfl ?_
    split
    · exact .andThen (.pause _) (ih _)
    · exact .andThen .done (ih _)

theorem dragPoints_steady (start finish : Point) (pause : τ) (steps i more : Nat) :
    Steady (dragPoints start finish pause steps i more) := by
  induction more generalizing i with
  | zero => exact .done
  | succ more ih => exact .andThen (.post rfl rfl) (.andThen (.pause _) (ih _))

end Player

end InputReplay
