import InputReplay.Proofs.Conversation
import InputReplay.Proofs.Replaying
import Mathlib.Data.List.TakeWhile

/-! A session that is asked to stop after one of its results plays nothing more, whatever its commands come
from. The flag is seen in two places, though. A session over a list sees it when it has the next command,
and says so in its summary; one that asks the backend for its commands sees it while it waits for the next
tick, and ends as if there had been no more. -/

namespace InputReplay

open Program

/-- Where the commands of a session come from: a list, or a backend that is asked so many times. -/
inductive Source (τ : Type) where
  | recorded (commands : List String)
  | live (source : LiveSource τ) (bound : Nat)

namespace Source

variable {τ σ : Type}

def isRecorded : Source τ → Bool
  | recorded _ => true
  | live .. => false

/-- All that a source has to deliver, of which what comes of the ticks is asked for at them. -/
def commands (ticks : List TickOutcome) : Source τ → List String
  | recorded commands => commands
  | live .. => instructions ticks

variable [Duration τ]

def session (r : ReplaySettings τ) : Source τ → Session τ Summary
  | recorded commands => r.replay true commands
  | live source bound => source.hold r bound

/-- A source that delivers: if it has to ask, the backend starts a session, and every tick is waited for. -/
inductive Delivers (st : Station τ σ) (s : Sitting τ σ) : Source τ → Prop
  | recorded {commands} : Delivers st s (recorded commands)
  | live {source bound session url} (begins : (st.run source.begin s.started).1 = .ok session)
      (reaches : source.backend.Reaches s!"/sessions/{session}" url) (enough : s.ticks.length ≤ bound) :
      Delivers st s (live source bound)

end Source

/-- Somewhere among ticks the first `k` instructions have come and no other. -/
theorem exists_take_instructions {k : Nat} {ticks : List TickOutcome}
    (more : k < (instructions ticks).length) :
    ∃ i < ticks.length, instructions (ticks.take i) = (instructions ticks).take k := by
  induction ticks generalizing k with
  | nil => cases more
  | cons t rest ih =>
    cases instruction : t.instruction? with
    | none =>
      rw [instructions_cons_none instruction] at more ⊢
      obtain ⟨i, hi, same⟩ := ih more
      refine ⟨i + 1, Nat.succ_lt_succ hi, ?_⟩
      rw [List.take_succ_cons, instructions_cons_none instruction, same]
    | some command =>
      cases k with
      | zero => exact ⟨0, Nat.zero_lt_succ _, rfl⟩
      | succ k =>
        rw [instructions_cons_some instruction] at more ⊢
        obtain ⟨i, hi, same⟩ := ih (Nat.lt_of_succ_lt_succ more)
        refine ⟨i + 1, Nat.succ_lt_succ hi, ?_⟩
        rw [List.take_succ_cons, instructions_cons_some instruction, List.take_succ_cons, same]

namespace Station

variable {τ σ : Type} {st : Station τ σ} {r : ReplaySettings τ} {k : Count}

theorem stopsAt_eq (stops : st.stopAfter = some k) (told : Nat) : st.stopsAt told = (k.val == told) := by
  rw [stopsAt, stops, Option.any_some]

/-- Ticks are held until the session is over: they bring no more than the instruction after whose result it
is asked to stop. -/
theorem dispatched_of_stops {ticks held rest : List TickOutcome} (stops : st.stopAfter = some k)
    (more : k.val < (instructions ticks).length)
    (goes : ∀ c ∈ (instructions ticks).take k.val, r.isEnd c = false) (split : ticks = held ++ rest)
    (early : ∀ i < held.length, ¬ st.Over r 0 (held.take i)) (closed : rest ≠ [] → st.Over r 0 held) :
    (r.dispatched held).length = k.val ∧ ∀ c ∈ instructions held, r.isEnd c = false := by
  obtain ⟨i, inside, first⟩ := exists_take_instructions more
  have stopped : st.Over r 0 (ticks.take i) := by
    refine .inr ?_
    have goes' : ∀ c ∈ instructions (ticks.take i), (!r.isEnd c) = true := by
      rw [first]
      intro c hc
      rw [goes c hc]
      rfl
    rw [stopsAt_eq stops, ReplaySettings.dispatched, List.takeWhile_eq_self_iff.2 goes', first,
      List.length_take_of_le more.le, Nat.zero_add, beq_self_eq_true]
  have short : held.length ≤ i := by
    by_contra long
    refine early i (Nat.lt_of_not_le long) ?_
    rwa [split, List.take_append_of_le_length (Nat.le_of_not_le long)] at stopped
  have before : held <+: ticks.take i :=
    List.prefix_take_iff.2 ⟨split ▸ List.prefix_append held rest, short⟩
  have quiet : ∀ c ∈ instructions held, r.isEnd c = false := by
    intro c hc
    have among := (before.filterMap (·.instruction?)).subset hc
    change c ∈ instructions (ticks.take i) at among
    rw [first] at among
    exact goes c among
  have left : rest ≠ [] := by
    rintro rfl
    rw [split, List.append_nil] at inside
    omega
  rcases closed left with ⟨c, hc, isEnd⟩ | last
  · rw [quiet c hc] at isEnd
    cases isEnd
  · rw [stopsAt_eq stops, Nat.zero_add] at last
    exact ⟨(beq_iff_eq.1 last).symm, quiet⟩

variable [Duration τ]

theorem hold_stopped {l : LiveSource τ} {session : String} {url : Url} {ticks : List TickOutcome}
    {bound : Nat} {world : σ} {first : LastAction} {stopping : Bool}
    (fits : r.keepResults ≤ ReplaySettings.keepLimit)
    (begins : (st.run l.begin (Sitting.before world first stopping ticks).started).1 = .ok session)
    (reaches : l.backend.Reaches s!"/sessions/{session}" url) (enough : ticks.length ≤ bound)
    (stops : st.stopAfter = some k) (more : k.val < (instructions ticks).length)
    (goes : ∀ c ∈ (instructions ticks).take k.val, r.isEnd c = false)
    (returns : ∀ q ∈ (st.run (l.hold r bound) (.before world first stopping ticks)).2.played,
      ∃ result, (st.outcome q).1 = .ok result) :
    ∃ summary s', st.run (l.hold r bound) (.before world first stopping ticks) = (.ok summary, s') ∧
      summary.executed = k.val ∧ summary.ended = false ∧ summary.stopped = false := by
  obtain ⟨_, summary, s', held, rest, run, split, exchanged, early, closed⟩ :=
    hold_exchanged fits begins (fun t _ => t.obstacle?_of_reaches reaches) enough returns
  obtain ⟨count, quiet⟩ := dispatched_of_stops stops more goes split early closed
  refine ⟨summary, _, run, ?_, ?_, exchanged.stopped⟩
  · have commands : s'.commands = r.dispatched held := exchanged.commands
    rw [exchanged.executed, ← exchanged.told.length_eq, ← Sitting.length_commands, commands, count]
  · cases ended : summary.ended with
    | false => rfl
    | true =>
      obtain ⟨c, hc, isEnd⟩ := exchanged.ended.1 ended
      rw [quiet c hc] at isEnd
      cases isEnd

/-- A session is asked to stop after its `k`-th result while there is more to deliver: it has played `k`
commands and no end, and says that it was stopped exactly when it plays a list. As everywhere here a reply is
read however deep it is nested, and a code in it that no character has is replaced. -/
theorem stopped_iff_recorded (st : Station τ σ) (r : ReplaySettings τ) (source : Source τ)
    (ticks : List TickOutcome) (world : σ) (first : LastAction) (stopping : Bool) (k : Count)
    (fits : r.keepResults ≤ ReplaySettings.keepLimit) (stops : st.stopAfter = some k)
    (delivers : source.Delivers st (.before world first stopping ticks))
    (more : k.val < (source.commands ticks).length)
    (goes : ∀ c ∈ (source.commands ticks).take k.val, r.isEnd c = false)
    (returns : ∀ q ∈ (st.run (source.session r) (.before world first stopping ticks)).2.played,
      ∃ result, (st.outcome q).1 = .ok result) :
    ∃ summary s', st.run (source.session r) (.before world first stopping ticks) = (.ok summary, s') ∧
      summary.executed = k.val ∧ summary.ended = false ∧
      (summary.stopped = true ↔ source.isRecorded = true) := by
  cases delivers with
  | @recorded commands =>
    obtain ⟨summary, s', run, replayed, -, -⟩ := run_replay fits returns
    have late : k.val ≤ commands.findIdx r.isEnd := by
      refine List.le_findIdx_of_not more fun j hj => goes _ ?_
      exact List.mem_take_iff_getElem.2 ⟨j, Nat.lt_min.2 ⟨hj, hj.trans more⟩, rfl⟩
    have extent : st.extent r commands = k.val := by
      unfold extent
      rw [stops]
      exact Nat.min_eq_right late
    rw [extent] at replayed
    have stopped : summary.stopped = true :=
      replayed.stopped.2 ⟨by rw [stopsAt_eq stops, beq_self_eq_true], more⟩
    refine ⟨summary, s', run, replayed.count, ?_, by simp [stopped, Source.isRecorded]⟩
    cases ended : summary.ended with
    | false => rfl
    | true =>
      rw [(replayed.ended.1 ended).2] at stopped
      cases stopped
  | live begins reaches enough =>
    obtain ⟨summary, s', run, count, ended, stopped⟩ :=
      hold_stopped fits begins reaches enough stops more goes returns
    exact ⟨summary, s', run, count, ended, by simp [stopped, Source.isRecorded]⟩

/-- Three ticks that each bring a command to type a letter. -/
def typingTicks : List TickOutcome := [tickOf "type:a", tickOf "type:b", tickOf "type:a"]

theorem instructions_typingTicks : instructions typingTicks = ["type:a", "type:b", "type:a"] := by
  decide +kernel

theorem typingTicks_goes (k : Nat) :
    ∀ c ∈ (instructions typingTicks).take k, (ReplaySettings.standard).isEnd c = false := by
  have all : ∀ c ∈ ["type:a", "type:b", "type:a"], (ReplaySettings.standard).isEnd c = false := by
    decide +kernel
  rw [instructions_typingTicks]
  exact fun c hc => all c (List.mem_of_mem_take hc)

theorem typingTicks_few : ∀ c ∈ instructions typingTicks, c ∈ fewCommands := by
  rw [instructions_typingTicks]
  decide

theorem typing_stopped_iff_recorded :
    ∃ summary s', (still (some ⟨2, by decide⟩) namingReply).run
        (Source.session .standard (.live plainSource 3))
        (.before () ⟨"No action", .ofDay 0⟩ false typingTicks) = (.ok summary, s') ∧
      summary.executed = 2 ∧ summary.ended = false ∧
      (summary.stopped = true ↔ (Source.live plainSource 3).isRecorded = true) := by
  have fits : (ReplaySettings.standard).keepResults ≤ ReplaySettings.keepLimit := by decide
  have more : 2 < (instructions typingTicks).length := by
    rw [instructions_typingTicks]
    decide
  exact stopped_iff_recorded _ .standard (.live plainSource 3) typingTicks () _ false ⟨2, by decide⟩ fits
    rfl (.live plainSource_begins plainSource_reaches (by decide)) more (typingTicks_goes 2)
    (returns_of_few fits typingTicks_few)

/-- A live session is asked to stop after its first result, and two more commands would come. Its summary
does not say that it was stopped. -/
theorem typing_stop_untold :
    ∃ summary s', (still (some ⟨1, by decide⟩) namingReply).run (plainSource.hold .standard 3)
        (.before () ⟨"No action", .ofDay 0⟩ false typingTicks) = (.ok summary, s') ∧
      (instructions typingTicks).length = 3 ∧ summary.executed = 1 ∧ ¬ summary.stopped = true := by
  let k : Count := ⟨1, by decide⟩
  have fits : (ReplaySettings.standard).keepResults ≤ ReplaySettings.keepLimit := by decide
  have three : (instructions typingTicks).length = 3 := by
    rw [instructions_typingTicks]
    rfl
  have enough : typingTicks.length ≤ 3 := by decide
  have more : k.val < (instructions typingTicks).length := by
    rw [three]
    decide
  have stops : (still (some k) namingReply).stopAfter = some k := rfl
  obtain ⟨summary, s', run, count, -, stopped⟩ :=
    hold_stopped fits plainSource_begins plainSource_reaches enough stops more (typingTicks_goes 1)
      (returns_of_few fits typingTicks_few)
  exact ⟨summary, s', run, three, count, by simp [stopped]⟩

end Station

end InputReplay
