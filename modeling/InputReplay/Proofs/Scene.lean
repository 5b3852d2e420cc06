import InputReplay.Play.Lock
import InputReplay.Proofs.Attempt
import InputReplay.Play.Player
import Mathlib.Logic.Function.Basic

/-! Several threads that call one player. A call is read, takes the lock or finds it held, posts and
pauses, leaves the lock and is over, and the steps of different calls come in any order. Beside it
stands what calls do that are served alone, one after another. -/

namespace InputReplay

open Function (update)

namespace Lock

variable {ι : Type} [DecidableEq ι] {thread other : ι} {lock : Lock ι}

/-- The lock after a thread has taken it so many times more. -/
def taken (thread : ι) : Nat → Lock ι → Lock ι
  | 0, lock => lock
  | n + 1, lock => ((taken thread n lock).enter thread).2

theorem taken_free (n : Nat) : taken thread (n + 1) free = held thread n := by
  induction n with
  | zero => rfl
  | succ n ih =>
    rw [taken, ih]
    simp [enter]

theorem taken_held (n again : Nat) : taken thread n (held thread again) = held thread (again + n) := by
  induction n with
  | zero => rfl
  | succ n ih =>
    rw [taken, ih]
    simp [enter, Nat.add_assoc]

/-- A lock that a thread can take is free or held by that thread. -/
theorem free_or_held (h : (lock.enter thread).1 = true) :
    lock = free ∨ ∃ again, lock = held thread again := by
  cases lock with
  | free => exact .inl rfl
  | held owner again =>
    by_cases same : owner = thread
    · exact .inr ⟨again, by rw [same]⟩
    · simp [enter, same] at h

theorem enter_taken (h : (lock.enter thread).1 = true) (n : Nat) :
    (taken thread n lock).enter thread = (true, taken thread (n + 1) lock) := by
  rcases free_or_held h with rfl | ⟨again, rfl⟩
  · cases n with
    | zero => rfl
    | succ n => simp [taken_free, enter]
  · simp [taken_held, enter, Nat.add_assoc]

theorem leave_taken (h : (lock.enter thread).1 = true) (n : Nat) :
    (taken thread (n + 1) lock).leave = taken thread n lock := by
  rcases free_or_held h with rfl | ⟨again, rfl⟩
  · cases n with
    | zero => rfl
    | succ n => simp [taken_free, leave]
  · simp [taken_held, leave, ← Nat.add_assoc]

/-- Once a thread has taken the lock, nobody else can. -/
theorem owner_of_enter_taken (h : (lock.enter thread).1 = true) {n : Nat}
    (entered : ((taken thread (n + 1) lock).enter other).1 = true) : thread = other := by
  rcases free_or_held h with rfl | ⟨again, rfl⟩
  · by_contra ne
    simp [taken_free, enter, ne] at entered
  · by_contra ne
    simp [taken_held, enter, ne] at entered

theorem holds_taken (h : (lock.enter thread).1 = true) (n : Nat) :
    (taken thread n lock).holds thread = lock.holds thread + n := by
  rcases free_or_held h with rfl | ⟨again, rfl⟩
  · cases n with
    | zero => rfl
    | succ n => simp [taken_free, holds]
  · simp [taken_held, holds]
    omega

theorem holds_taken_other (h : (lock.enter thread).1 = true) (ne : thread ≠ other) (n : Nat) :
    (taken thread n lock).holds other = lock.holds other := by
  rcases free_or_held h with rfl | ⟨again, rfl⟩
  · cases n with
    | zero => rfl
    | succ n => simp [taken_free, holds, ne]
  · simp [taken_held, holds, ne]

end Lock

inductive Order where
  | run (command : String)
  | execute (action : Action) (command : String)

def Player.serve {τ : Type} [Duration τ] (p : Player τ) : Order → Play τ Result
  | .run command => p.run command
  | .execute action command => p.execute action command

structure Call (ι : Type) where
  thread : ι
  order : Order

/-- How far a call has come. -/
inductive Phase (τ : Type) where
  | waiting
  /-- Made, but its order has not been read. -/
  | asked
  | playing (rest : Play τ Result)
  | ended (outcome : Except Fault Result)

def Phase.isLive {τ : Type} : Phase τ → Bool
  | asked | playing _ => true
  | waiting | ended _ => false

/-- Threads that call a player. -/
structure Scene (κ ι τ σ : Type) where
  lock : Lock ι
  /-- The state of the injector. -/
  world : σ
  phase : κ → Phase τ
  /-- The calls that got the lock, in order. -/
  admitted : List κ
  /-- The calls that found the lock held by another thread. -/
  refused : List κ
  /-- All that was attempted, in order, each time with the call that did it. -/
  made : List (κ × Attempt τ)

namespace Scene

variable {κ ι τ σ : Type}

/-- Nothing has been called yet; a thread may hold the lock already. -/
def opening (lock : Lock ι) (world : σ) : Scene κ ι τ σ := ⟨lock, world, fun _ => .waiting, [], [], []⟩

/-- Whether a thread is between two calls. -/
def Idle (calls : κ → Call ι) (thread : ι) (S : Scene κ ι τ σ) : Prop :=
  ∀ c, (calls c).thread = thread → (S.phase c).isLive = false

variable [Duration τ] (p : Player τ) (inj : Injector τ σ) (calls : κ → Call ι)

/-! Calls that are served alone, one after another. -/

def served (c : κ) : Play τ Result := p.serve (calls c).order

/-- The state of the injector after calls that are served in turn. -/
def worldAfter (world : σ) : List κ → σ
  | [] => world
  | c :: rest => worldAfter (inj.run (served p calls c) world).2 rest

/-- All that calls attempt that are served in turn: a block for each. -/
def blocks (world : σ) : List κ → List (κ × Attempt τ)
  | [] => []
  | c :: rest =>
    (inj.acts (served p calls c) world).map (c, ·) ++ blocks (inj.run (served p calls c) world).2 rest

theorem worldAfter_concat (world : σ) (before : List κ) (c : κ) :
    worldAfter p inj calls world (before ++ [c]) =
      (inj.run (served p calls c) (worldAfter p inj calls world before)).2 := by
  induction before generalizing world with
  | nil => rfl
  | cons b rest ih => exact ih _

theorem blocks_concat (world : σ) (before : List κ) (c : κ) :
    blocks p inj calls world (before ++ [c]) = blocks p inj calls world before ++
      (inj.acts (served p calls c) (worldAfter p inj calls world before)).map (c, ·) := by
  induction before generalizing world with
  | nil => simp [blocks, worldAfter]
  | cons b rest ih => simp only [List.cons_append, blocks, ih, worldAfter, List.append_assoc]

theorem mem_of_mem_blocks {world : σ} {cs : List κ} {c : κ} {a : Attempt τ}
    (h : (c, a) ∈ blocks p inj calls world cs) : c ∈ cs := by
  induction cs generalizing world with
  | nil => cases h
  | cons b rest ih =>
    rw [blocks, List.mem_append] at h
    rcases h with h | h
    · obtain ⟨_, _, same⟩ := List.mem_map.1 h
      cases same
      exact List.mem_cons_self
    · exact List.mem_cons_of_mem _ (ih h)

/-! Calls in any order. -/

variable [DecidableEq κ] [DecidableEq ι]

/-- One step of one call. -/
inductive Step : Scene κ ι τ σ → Scene κ ι τ σ → Prop
  | call {S c} (new : S.phase c = .waiting) (idle : S.Idle calls (calls c).thread) :
      Step S { S with phase := update S.phase c .asked }
  | read {S c} (asked : S.phase c = .asked) :
      Step S { S with phase := update S.phase c (.playing (p.serve (calls c).order)) }
  | enter {S c k} (asks : S.phase c = .playing (.ask .enter k))
      (taken : (S.lock.enter (calls c).thread).1 = true) :
      Step S { S with
        lock := (S.lock.enter (calls c).thread).2
        phase := update S.phase c (.playing (k (.ok true)))
        admitted := if c ∈ S.admitted then S.admitted else S.admitted ++ [c] }
  | refuse {S c k} (asks : S.phase c = .playing (.ask .enter k))
      (held : (S.lock.enter (calls c).thread).1 = false) :
      Step S { S with
        phase := update S.phase c (.playing (k (.ok false)))
        refused := S.refused ++ [c] }
  | leave {S c k} (asks : S.phase c = .playing (.ask .leave k)) :
      Step S { S with
        lock := S.lock.leave
        phase := update S.phase c (.playing (k (.ok ()))) }
  /-- A post, a pause or a script. -/
  | act {S c r k} (asks : S.phase c = .playing (.ask r k)) (seen : r.isAct = true) :
      Step S { S with
        world := (inj.host r S.world).2
        phase := update S.phase c (.playing (k (inj.host r S.world).1))
        made := S.made ++ [(c, ⟨r, faultOf (inj.host r S.world).1⟩)] }
  | exit {S c outcome} (done : S.phase c = .playing (.finish outcome)) :
      Step S { S with phase := update S.phase c (.ended outcome) }

end Scene

end InputReplay
