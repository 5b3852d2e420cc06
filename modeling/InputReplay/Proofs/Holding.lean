import InputReplay.Gesture.Script
import InputReplay.Proofs.Attempt
import InputReplay.Play.Player
import Mathlib.Logic.Basic

/-! Where a program of a player holds the lock. It takes the lock before it does anything, takes it
again for every batch within a batch, leaves it as often as it took it, and is done once it has left it
for the last time. This is read off the program alone, for any replies. -/

namespace InputReplay

open Program

namespace Program

variable {S : Signature} {ε α β γ : Type}

theorem next_next (q : Program S ε α) (f : Except ε α → Program S ε β)
    (g : Except ε β → Program S ε γ) : (q.next f).next g = q.next fun r => (f r).next g := by
  induction q with
  | finish result => rfl
  | ask r k ih =>
    simp only [next]
    congr 1
    funext reply
    exact ih reply

end Program

variable {τ α β : Type}

/-- What is left of a program that holds the lock, which it has taken `d` times again: it acts and is
done once it has left the lock for the last time. -/
inductive Holding : Nat → Play τ α → Prop
  | again {d k} (h : Holding (d + 1) (k (.ok true))) : Holding d (.ask .enter k)
  | back {d k} (h : Holding d (k (.ok ()))) : Holding (d + 1) (.ask .leave k)
  | last {k result} (h : k (.ok ()) = .finish result) : Holding 0 (.ask .leave k)
  | act {d r k} (seen : r.isAct = true) (h : ∀ reply, Holding d (k reply)) : Holding d (.ask r k)

/-- A program that leaves the lock as often as it takes it: what comes after it finds the lock held as
it was. -/
structure Level (q : Play τ α) : Prop where
  holding_next : ∀ {β : Type} (d : Nat) (f : Except Fault α → Play τ β),
    (∀ result, Holding d (f result)) → Holding d (q.next f)

namespace Level

theorem finish (result : Except Fault α) : Level (.finish result : Play τ α) :=
  ⟨fun _ _ h => h result⟩

theorem request {r : PlayRequest τ} (seen : r.isAct = true) :
    Level (Program.request (S := playing τ) (ε := Fault) r) := ⟨fun _ _ h => .act seen h⟩

theorem next {q : Play τ α} {f : Except Fault α → Play τ β} (hq : Level q) (hf : ∀ r, Level (f r)) :
    Level (q.next f) := by
  refine ⟨fun d g h => ?_⟩
  rw [next_next]
  exact hq.holding_next d _ fun result => (hf result).holding_next d g h

theorem bind {q : Play τ α} {f : α → Play τ β} (hq : Level q) (hf : ∀ a, Level (f a)) :
    Level (q >>= f) := by
  refine hq.next fun result => ?_
  cases result with
  | ok a => exact hf a
  | error fault => exact .finish _

theorem map {q : Play τ α} (f : α → β) (hq : Level q) : Level (f <$> q) := hq.bind fun _ => .finish _

theorem post (e : Event) : Level (Play.post e : Play τ Unit) := .request rfl

theorem pause [Duration τ] (time : τ) : Level (Play.pause time) := by
  rcases Play.pause_cases time with ⟨-, asks⟩ | ⟨-, skips⟩
  · rw [asks]
    exact .request rfl
  · rw [skips]
    exact .finish _

/-- What a locked program does once it has the lock. -/
theorem holding_afterwards {body : Play τ α} (hb : Level body) : Holding 0 (body.afterwards Play.leave) :=
  hb.holding_next 0 _ fun _ => .last rfl

theorem locked {body : Play τ α} (hb : Level body) : Level (Play.locked body) := by
  refine ⟨fun d f h => .again ?_⟩
  change Holding (d + 1) ((body.afterwards Play.leave).next f)
  unfold Program.afterwards
  rw [next_next]
  exact hb.holding_next (d + 1) _ fun result => .back (h result)

theorem releaseEach (releases : List Event) : Level (Play.releaseEach releases : Play τ _) := by
  induction releases with
  | nil => exact .finish _
  | cons e rest ih =>
    refine (post e).next fun result => ?_
    cases result with
    | ok _ => exact ih
    | error fault =>
      dsimp only
      split
      · exact ih.map _
      · exact .finish _

theorem releaseAfter (releases : List Event) (fault : Fault) :
    Level (Play.releaseAfter releases fault : Play τ α) :=
  (releaseEach releases).bind fun _ => .finish _

theorem releaseFinally (releases : List Event) : Level (Play.releaseFinally releases : Play τ Unit) := by
  refine (releaseEach releases).bind fun first => ?_
  cases first <;> exact .finish _

theorem whileHeld (releases : List Event) {body : Play τ Unit} (hb : Level body) :
    Level (Play.whileHeld releases body) := by
  refine hb.next fun result => ?_
  cases result with
  | ok _ => exact releaseFinally releases
  | error fault => exact releaseAfter releases fault

theorem chordOver (releases : List Event) (keys : List KeyCode) :
    Level (Play.chordOver releases keys : Play τ Unit) := by
  induction keys generalizing releases with
  | nil => exact releaseFinally releases
  | cons key rest ih =>
    refine (post _).next fun result => ?_
    cases result with
    | ok _ => exact ih _
    | error fault => exact releaseAfter releases fault

end Level

/-- Gestures that leave the lock as they find it. -/
def GestureRunner.IsLevel (gestures : GestureRunner τ) : Prop := ∀ kind, Level (gestures kind)

theorem chordGestures_isLevel : (chordGestures : GestureRunner τ).IsLevel :=
  fun kind => .chordOver [] kind.chord

theorem ScriptRunner.gestures_isLevel (r : ScriptRunner) : (r.gestures : GestureRunner τ).IsLevel := by
  intro kind
  refine Level.bind (.finish _) fun script => ?_
  refine Level.bind (.request rfl) fun outcome => ?_
  split
  · exact .finish _
  · exact .finish _

namespace Player

theorem typeEach_level (text : List Char) : Level (typeEach text : Play τ Unit) := by
  induction text with
  | nil => exact .finish _
  | cons c rest ih => exact .bind (.post _) fun _ => .bind (.post _) fun _ => ih

theorem report_level (label : String) {body : Play τ Unit} (hb : Level body) :
    Level (report label body) := by
  refine hb.next fun result => ?_
  cases result with
  | ok _ => exact .finish _
  | error fault => cases fault <;> exact .finish _

variable [Duration τ] (p : Player τ)

theorem clicks_level (point : Point) (button : Button) (index more : Nat) :
    Level (p.clicks point button index more) := by
  induction more generalizing index with
  | zero => exact .finish _
  | succ more ih =>
    refine .bind (.post _) fun _ => .bind (.post _) fun _ => ?_
    split
    · exact .bind (.pause _) fun _ => ih _
    · exact ih _

theorem dragPoints_level (start finish : Point) (pause : τ) (steps i more : Nat) :
    Level (dragPoints start finish pause steps i more) := by
  induction more generalizing i with
  | zero => exact .finish _
  | succ more ih => exact .bind (.post _) fun _ => .bind (.pause _) fun _ => ih _

theorem drag_level (start finish : Point) : Level (p.drag start finish) := by
  unfold drag
  dsimp only
  split
  · exact .finish _
  · exact .bind (.post _) fun _ => .whileHeld _ (dragPoints_level _ _ _ _ _ _)

theorem perform_level (hg : p.gestures.IsLevel) (action : Action) : Level (p.perform action) := by
  cases action with
  | key code down => exact .post _
  | press code => exact .bind (.post _) fun _ => .post _
  | type text => exact typeEach_level _
  | click point button count => exact p.clicks_level _ _ _ _
  | move point => exact .post _
  | drag start finish => exact p.drag_level start finish
  | scroll delta => exact .post _
  | scrollTo point => exact .bind (.post _) fun _ => .post _
  | shortcut codes => exact .chordOver [] codes
  | holdClick point modifier count =>
    exact .bind (.post _) fun _ => .whileHeld _ (.bind (.post _) fun _ => p.clicks_level _ _ _ _)
  | autocomplete typed full =>
    exact .bind (typeEach_level _) fun _ => .bind (.pause _) fun _ => typeEach_level _
  | gesture kind => exact hg kind
  | batch commands => exact .finish _

theorem playEach_level {entries : List (String × Except CommandError Action)}
    (each : ∀ command action, (command, .ok action) ∈ entries → Level (p.play command action)) :
    Level (p.playEach entries) := by
  induction entries with
  | nil =>
    rw [playEach]
    exact .finish _
  | cons entry rest ih =>
    have others := ih fun command action h => each command action (List.mem_cons_of_mem _ h)
    obtain ⟨command, e | action⟩ := entry
    · rw [playEach]
      exact others.bind fun _ => .finish _
    · rw [playEach]
      exact (each command action List.mem_cons_self).bind fun _ => others.bind fun _ => .finish _

/-- Playing an action is a locked program, and what is played under the lock leaves the lock as it
finds it, however deep batches are nested. -/
theorem play_locked (hg : p.gestures.IsLevel) (label : String) (action : Action) :
    ∃ body, p.play label action = Play.locked body ∧ Level body := by
  -- on how much text is left to read, which is less for the commands of a batch
  induction hn : action.size using Nat.strongRecOn generalizing label action with | _ n ih
  subst hn
  rcases action.single_or_batch with single | ⟨commands, rfl⟩
  · refine ⟨report label (p.perform action), ?_, report_level label (p.perform_level hg action)⟩
    rw [play]
    exact single
  · refine ⟨_, by rw [play], ?_⟩
    split
    · next entries he =>
      refine Level.map _ (p.playEach_level fun command action h => ?_)
      have part := le_total_of_mem Command.restSize h
      have whole := Command.total_restSize_le he
      have less : action.size < (Action.batch commands).size := by
        have size : (Action.batch commands).size = Command.size commands + 1 := rfl
        simp only [Command.restSize] at part
        omega
      obtain ⟨body, hb, level⟩ := ih action.size less command action rfl
      rw [hb]
      exact level.locked
    · exact .finish _

end Player

end InputReplay
