import InputReplay.Play.Basic

/-! What a program of a player does to what stands behind its host, seen from outside: every event it
posts, every pause and every script, in order, each with the fault that it raised. The lock is not
seen, as only one player plays. -/

namespace InputReplay

open Program

/-- What takes events, lets time pass and runs scripts. Each of these may raise a fault, and may
depend on all that came before. -/
structure Injector (τ σ : Type) where
  post : Event → σ → Except Fault Unit × σ
  pause : τ → σ → Except Fault Unit × σ
  launch : List String → Binary64 → σ → Except Fault ScriptOutcome × σ

/-- The fault that was raised, if one was. -/
def faultOf {ε α : Type} : Except ε α → Option ε
  | .ok _ => none
  | .error fault => some fault

structure Attempt (τ : Type) where
  request : PlayRequest τ
  fault? : Option Fault

namespace Program

variable {S : Signature} {ε α β σ : Type}

theorem run_next (host : Host S ε σ) (q : Program S ε α) (f : Except ε α → Program S ε β) (s : σ) :
    (q.next f).run host s = (f (q.run host s).1).run host (q.run host s).2 := by
  induction q generalizing s with
  | finish result => rfl
  | ask r k ih => exact ih _ _

theorem run_bind (host : Host S ε σ) (q : Program S ε α) (f : α → Program S ε β) (s : σ) :
    (q >>= f).run host s = (onResult f (q.run host s).1).run host (q.run host s).2 :=
  run_next host q _ s

end Program

namespace PlayRequest

variable {τ : Type}

/-- Whether a request is seen behind the host. -/
def isAct : PlayRequest τ → Bool
  | enter | leave => false
  | _ => true

end PlayRequest

namespace Injector

variable {τ σ α β : Type}

/-- The host of a single player, who finds the lock free or holds it already. -/
def host (inj : Injector τ σ) : Host (playing τ) Fault σ
  | .enter, s => (.ok true, s)
  | .leave, s => (.ok (), s)
  | .post e, s => inj.post e s
  | .pause time, s => inj.pause time s
  | .launch command timeout, s => inj.launch command timeout s

def run (inj : Injector τ σ) (q : Play τ α) (s : σ) : Except Fault α × σ := Program.run inj.host q s

/-- What a program attempts, in order. -/
def acts (inj : Injector τ σ) : Play τ α → σ → List (Attempt τ)
  | .finish _, _ => []
  | .ask r k, s =>
    (if r.isAct then [⟨r, faultOf (inj.host r s).1⟩] else []) ++
      acts inj (k (inj.host r s).1) (inj.host r s).2

/-- Takes everything that is posted. -/
def accepting : Injector τ Unit where
  post _ s := (.ok (), s)
  pause _ s := (.ok (), s)
  launch _ _ s := (.ok (.exited 0 ""), s)

/-- Raises what a rule says of an event and of how many were posted before it. -/
def ruled (rule : Nat → Event → Option Fault) : Injector τ Nat where
  post e n := (match rule n e with
    | some fault => .error fault
    | none => .ok (), n + 1)
  pause _ n := (.ok (), n)
  launch _ _ n := (.ok (.exited 0 ""), n)

variable (inj : Injector τ σ) (s : σ)

theorem run_post (e : Event) : inj.run (Play.post e) s = inj.post e s := rfl

theorem acts_post (e : Event) :
    inj.acts (Play.post e) s = [⟨.post e, faultOf (inj.post e s).1⟩] := rfl

theorem ruled_raises (rule : Nat → Event → Option Fault) (e : Event) (n : Nat) :
    faultOf ((ruled (τ := τ) rule).post e n).1 = rule n e := by
  cases h : rule n e <;> simp [ruled, h, faultOf]

theorem run_next (q : Play τ α) (f : Except Fault α → Play τ β) :
    inj.run (q.next f) s = inj.run (f (inj.run q s).1) (inj.run q s).2 :=
  Program.run_next inj.host q f s

theorem acts_next (q : Play τ α) (f : Except Fault α → Play τ β) :
    inj.acts (q.next f) s = inj.acts q s ++ inj.acts (f (inj.run q s).1) (inj.run q s).2 := by
  induction q generalizing s with
  | finish result => rfl
  | ask r k ih =>
    simp only [next, acts, ih, List.append_assoc]
    rfl

theorem run_bind (q : Play τ α) (f : α → Play τ β) :
    inj.run (q >>= f) s = inj.run (onResult f (inj.run q s).1) (inj.run q s).2 :=
  run_next inj s q _

theorem acts_bind (q : Play τ α) (f : α → Play τ β) :
    inj.acts (q >>= f) s = inj.acts q s ++ inj.acts (onResult f (inj.run q s).1) (inj.run q s).2 :=
  acts_next inj s q _

theorem run_map (f : α → β) (q : Play τ α) :
    inj.run (f <$> q) s = ((inj.run q s).1.map f, (inj.run q s).2) := by
  refine (inj.run_bind s q (pure ∘ f)).trans ?_
  cases (inj.run q s).1 <;> rfl

theorem acts_map (f : α → β) (q : Play τ α) : inj.acts (f <$> q) s = inj.acts q s := by
  refine (inj.acts_bind s q (pure ∘ f)).trans ?_
  cases (inj.run q s).1 <;> exact List.append_nil _

/-- A fault that was attempted was raised by the injector. -/
theorem raised_of_mem_acts (q : Play τ α) {a : Attempt τ} {fault : Fault}
    (ha : a ∈ inj.acts q s) (hf : a.fault? = some fault) :
    ∃ s', faultOf (inj.host a.request s').1 = some fault := by
  induction q generalizing s with
  | finish result => simp [acts] at ha
  | ask r k ih =>
    rw [acts, List.mem_append] at ha
    rcases ha with ha | ha
    · split at ha
      · rw [List.mem_singleton] at ha
        subst ha
        exact ⟨s, hf⟩
      · simp at ha
    · exact ih _ _ ha

/-- Nothing that an accepting injector is asked raises a fault. -/
theorem accepting_raises (q : Play τ α) {a : Attempt τ} (ha : a ∈ accepting.acts q ()) :
    a.fault? = none := by
  cases hf : a.fault? with
  | none => rfl
  | some fault =>
    obtain ⟨_, hr⟩ := raised_of_mem_acts accepting () q ha hf
    cases h : a.request <;> rw [h] at hr <;> cases hr

end Injector

/-- Attempts fall apart at the first fault in one way only. -/
theorem first_fault_unique {τ : Type} {before before' after after' : List (Attempt τ)}
    {a a' : Attempt τ} (h : before ++ a :: after = before' ++ a' :: after')
    (quiet : ∀ b ∈ before, b.fault? = none) (quiet' : ∀ b ∈ before', b.fault? = none)
    (ha : a.fault? ≠ none) (ha' : a'.fault? ≠ none) : before = before' ∧ a = a' ∧ after = after' := by
  induction before generalizing before' with
  | nil =>
    cases before' with
    | nil =>
      cases h
      exact ⟨rfl, rfl, rfl⟩
    | cons b rest =>
      cases h
      exact absurd (quiet' _ List.mem_cons_self) ha
  | cons b rest ih =>
    cases before' with
    | nil =>
      cases h
      exact absurd (quiet _ List.mem_cons_self) ha'
    | cons b' rest' =>
      obtain ⟨rfl, tail⟩ := List.cons.inj h
      obtain ⟨rfl, rfl, rfl⟩ := ih tail (List.forall_mem_cons.1 quiet).2 (List.forall_mem_cons.1 quiet').2
      exact ⟨rfl, rfl, rfl⟩

end InputReplay
