import InputReplay.Proofs.Holding
import InputReplay.Proofs.Replaying
import Mathlib.Data.List.Basic
import Mathlib.Logic.Function.Iterate
import Mathlib.Logic.Relation

/-! A session that others may ask to stop at any moment, also while it pauses. It looks at the request in
one place only, right after it has fetched a command. A request that comes before that look keeps the command
back. One that comes later lets this command pass, though it has not begun and the pause before it may still
go on; every command behind it is kept back. -/

namespace InputReplay

open Program

namespace SessionRequest

variable {τ : Type}

def isPlay : SessionRequest τ → Bool
  | play _ => true
  | _ => false

/-- Whether a request looks at the flag to stop. -/
def isLook : SessionRequest τ → Bool
  | isStopping => true
  | _ => false

/-- Whether a request neither plays, nor looks at the flag to stop, nor takes it down. -/
def isQuiet : SessionRequest τ → Bool
  | start | isStopping | play _ => false
  | _ => true

end SessionRequest

/-- Where a session stands: between two of its requests, or in the middle of one. -/
inductive Stand (τ : Type) where
  | between (rest : Session τ Summary)
  | within (request : SessionRequest τ)
      (next : Except Fault ((sessions τ).Reply request) → Session τ Summary)

namespace Stand

variable {τ : Type}

def executing? : Stand τ → Option String
  | within (.play command) _ => some command
  | _ => none

def isPausing : Stand τ → Bool
  | within (.pause _) _ => true
  | _ => false

theorem executing?_within {q : SessionRequest τ} (other : q.isPlay = false)
    (k : Except Fault ((sessions τ).Reply q) → Session τ Summary) : (within q k).executing? = none := by
  cases q <;> first | rfl | cases other

end Stand

/-- A session that others may ask to stop. -/
structure Interruptible (τ σ : Type) where
  stand : Stand τ
  sitting : Sitting τ σ
  /-- Whether the flag to stop was found down since a command was last begun. -/
  cleared : Bool

namespace Interruptible

variable {τ σ : Type}

def opening (session : Session τ Summary) (sitting : Sitting τ σ) : Interruptible τ σ :=
  ⟨.between session, sitting, false⟩

/-- Somebody has asked the session to stop. -/
def stopped (S : Interruptible τ σ) : Interruptible τ σ :=
  { S with sitting := { S.sitting with stopping := true } }

def dispatched (S : Interruptible τ σ) : List String := S.sitting.commands ++ S.stand.executing?.toList

theorem dispatched_between (q : Session τ Summary) (s : Sitting τ σ) (cleared : Bool) :
    dispatched ⟨.between q, s, cleared⟩ = s.commands := List.append_nil _

theorem dispatched_within {q : SessionRequest τ} (other : q.isPlay = false)
    (k : Except Fault ((sessions τ).Reply q) → Session τ Summary) (s : Sitting τ σ) (cleared : Bool) :
    dispatched ⟨.within q k, s, cleared⟩ = s.commands := by
  unfold dispatched
  rw [Stand.executing?_within other, Option.toList_none, List.append_nil]

def IsOver (S : Interruptible τ σ) : Prop := ∃ result, S.stand = .between (Program.finish result)

variable [Duration τ] (st : Station τ σ)

/-- One step of the session, or a request to stop by another thread. -/
inductive Step : Interruptible τ σ → Interruptible τ σ → Prop
  | begin {S q k} (asks : S.stand = .between (.ask q k)) :
      Step S { S with stand := .within q k, cleared := S.cleared && !q.isPlay }
  | finish {S q k} (asked : S.stand = .within q k) :
      Step S ⟨.between (k (st.host q S.sitting).1), (st.host q S.sitting).2,
        S.cleared || (q.isLook && !S.sitting.stopping)⟩
  | stop {S} : Step S S.stopped

abbrev Steps : Interruptible τ σ → Interruptible τ σ → Prop := Relation.ReflTransGen (Step st)

/-- The step of a session that is left to itself. -/
def onward (S : Interruptible τ σ) : Interruptible τ σ :=
  match S.stand with
  | .between (Program.finish _) => S
  | .between (.ask q k) => { S with stand := .within q k, cleared := S.cleared && !q.isPlay }
  | .within q k => ⟨.between (k (st.host q S.sitting).1), (st.host q S.sitting).2,
      S.cleared || (q.isLook && !S.sitting.stopping)⟩

theorem steps_onward (S : Interruptible τ σ) : Steps st S (S.onward st) := by
  unfold onward
  split
  · exact .refl
  · next asks => exact .single (.begin asks)
  · next asked => exact .single (.finish asked)

theorem steps_iterate (n : Nat) (S : Interruptible τ σ) : Steps st S ((onward st)^[n] S) := by
  induction n generalizing S with
  | zero => exact .refl
  | succ n ih => exact (steps_onward st S).trans (ih (S.onward st))

end Interruptible

namespace ReplaySettings

variable {τ : Type} (r : ReplaySettings τ)

/-- The first of the commands that are left, unless it is the end. -/
def due? (left : List String) : Option String := left.head?.filter fun command => !r.isEnd command

/-- A session that plays what is left, one command after another: it looks at the flag to stop before each,
and only a command that is `due` has passed the look. -/
inductive Careful {α : Type} : Option String → List String → Session τ α → Prop
  | done {left result} : Careful none left (Program.finish result)
  | look {left k} (asked : Careful none left (k (.ok true)))
      (goes : Careful (r.due? left) left (k (.ok false))) : Careful none left (.ask .isStopping k)
  | play {command left k} (next : ∀ reply, Careful none left (k reply)) :
      Careful (some command) (command :: left) (.ask (.play command) k)
  | quiet {due left q k} (quiet : q.isQuiet = true) (next : ∀ reply, Careful due left (k (.ok reply))) :
      Careful due left (.ask q k)

/-- Where such a session may stand. -/
inductive Poised : Option String → List String → Stand τ → Prop
  | between {due left q} (careful : r.Careful due left q) : Poised due left (.between q)
  | executing {command left k} (next : ∀ reply, r.Careful none left (k reply)) :
      Poised none left (.within (.play command) k)
  | within {due left q k} (other : q.isPlay = false) (careful : r.Careful due left (.ask q k)) :
      Poised due left (.within q k)

variable {r} {due : Option String} {left : List String}

theorem due?_cons_end {command : String} (isEnd : r.isEnd command = true) :
    r.due? (command :: left) = none := by
  simp [due?, isEnd]

theorem due?_cons_other {command : String} (other : r.isEnd command = false) :
    r.due? (command :: left) = some command := by
  simp [due?, other]

/-- What comes after a session plays nothing. -/
theorem Careful.next {α β : Type} {q : Session τ α} {f : Except Fault α → Session τ β}
    (h : r.Careful due left q) (after : ∀ left result, r.Careful none left (f result)) :
    r.Careful due left (q.next f) := by
  induction h with
  | done => exact after _ _
  | look _ _ asked goes => exact .look asked goes
  | play _ next => exact .play next
  | quiet quiet _ next => exact .quiet quiet next

variable [Duration τ]

/-- A command that is due stays due while the session pauses. -/
theorem Careful.pace {α : Type} {f : Except Fault Unit → Session τ α}
    (h : r.Careful due left (f (.ok ()))) (last : Option τ) :
    r.Careful due left ((r.pace last).next f) := by
  cases last with
  | none => exact h
  | some start =>
    refine .quiet (q := .now) rfl fun now => ?_
    let remaining := Duration.since r.minInterval (Duration.since now start)
    change r.Careful due left
      ((if Duration.isPositive remaining then Session.pause remaining else pure ()).next f)
    split
    · exact .quiet (q := .pause remaining) rfl fun _ => h
    · exact h

omit [Duration τ] in
/-- A command that is due is played next, and then the session goes on. -/
theorem careful_play {command : String} {summary : Summary}
    {f : Except Fault (Session.Turn τ) → Session τ Summary}
    (goes : ∀ p, r.Careful none left (f (.ok (.next p))))
    (raised : ∀ fault, r.Careful none left (f (.error fault))) :
    r.Careful (some command) (command :: left) ((r.playing command summary).next f) := by
  refine .quiet (q := .now) rfl fun start => .play fun reply => ?_
  cases reply with
  | error fault => exact raised fault
  | ok result =>
    exact .quiet (q := .today) rfl fun time => .quiet (q := .remember ⟨command, time⟩) rfl fun _ =>
      .quiet (q := .report result) rfl fun _ => goes _

theorem careful_playEach (r : ReplaySettings τ) (paced : Bool) (commands : List String)
    (p : Session.Progress τ) : r.Careful none commands (r.playEach paced commands p) := by
  induction commands generalizing p with
  | nil => exact .done
  | cons command rest ih =>
    refine .look .done ?_
    dsimp only [Program.next, onResult]
    rw [if_neg Bool.false_ne_true]
    split
    · next isEnd =>
      rw [due?_cons_end isEnd]
      exact .quiet (q := .today) rfl fun time =>
        .quiet (q := .remember ⟨command, time⟩) rfl fun _ => .done
    · next other =>
      rw [due?_cons_other (by simpa using other)]
      cases paced with
      | false => exact careful_play ih fun _ => .done
      | true =>
        change r.Careful _ _ (((r.pace p.last).next _).next _)
        rw [next_next]
        exact .pace (careful_play ih fun _ => .done) p.last

end ReplaySettings

namespace Interruptible

variable {τ σ : Type} [Duration τ] {st : Station τ σ} {r : ReplaySettings τ} {paced : Bool}
  {commands left : List String} {due : Option String} {S T : Interruptible τ σ}

/-- The command that has passed the look at the flag and has not begun. -/
def due? (r : ReplaySettings τ) (commands : List String) (S : Interruptible τ σ) : Option String :=
  if S.cleared then r.due? (commands.drop S.dispatched.length) else none

variable (st) in
/-- A quiet request is answered, and it changes neither what was played nor a request to stop. -/
theorem host_quiet {q : SessionRequest τ} (quiet : q.isQuiet = true) (s : Sitting τ σ) :
    ∃ reply, (st.host q s).1 = .ok reply ∧ (st.host q s).2.commands = s.commands ∧
      (s.stopping = true → (st.host q s).2.stopping = true) := by
  cases q with
  | start | isStopping | play => cases quiet
  | report result => exact ⟨_, rfl, rfl, fun asked => by simp [Station.host, Station.telling, asked]⟩
  | wait time =>
    refine ⟨_, rfl, ?_⟩
    unfold Station.host Station.wait
    dsimp only
    split
    · exact ⟨rfl, id⟩
    · split <;> exact ⟨rfl, id⟩
  | _ => exact ⟨_, rfl, rfl, id⟩

/-- What a step does to a session that plays what is left. -/
inductive Moved (r : ReplaySettings τ) (due : Option String) (left : List String)
    (S T : Interruptible τ σ) : Prop
  | on (dispatched : T.dispatched = S.dispatched) (cleared : T.cleared = S.cleared)
      (asked : S.sitting.stopping = true → T.sitting.stopping = true) (poised : r.Poised due left T.stand)
  /-- The flag was looked at and was down. -/
  | passed (nothing : due = none) (down : S.sitting.stopping = false)
      (dispatched : T.dispatched = S.dispatched) (cleared : T.cleared = true)
      (poised : r.Poised (r.due? left) left T.stand)
  | begun {command rest} (isDue : due = some command) (first : left = command :: rest)
      (dispatched : T.dispatched = S.dispatched ++ [command]) (cleared : T.cleared = false)
      (asked : S.sitting.stopping = true → T.sitting.stopping = true) (poised : r.Poised none rest T.stand)

omit [Duration τ] in
theorem moved_begin {q : SessionRequest τ} {k} {s : Sitting τ σ} {cleared : Bool}
    (h : r.Poised due left (.between (.ask q k))) :
    Moved r due left ⟨.between (.ask q k), s, cleared⟩ ⟨.within q k, s, cleared && !q.isPlay⟩ := by
  have waits := dispatched_between (.ask q k) s cleared
  cases h with
  | between careful =>
    cases careful with
    | look asked goes =>
      exact .on ((dispatched_within rfl _ s _).trans waits.symm) (by simp [SessionRequest.isPlay]) id
        (.within rfl (.look asked goes))
    | play next =>
      exact .begun rfl rfl (waits ▸ rfl) (by simp [SessionRequest.isPlay]) id (.executing next)
    | quiet quiet next =>
      have other : q.isPlay = false := by cases q <;> first | rfl | cases quiet
      exact .on ((dispatched_within other _ s _).trans waits.symm) (by simp [other]) id
        (.within other (.quiet quiet next))

theorem moved_finish {q : SessionRequest τ} {k} {s : Sitting τ σ} {cleared : Bool}
    (h : r.Poised due left (.within q k)) :
    Moved r due left ⟨.within q k, s, cleared⟩
      ⟨.between (k (st.host q s).1), (st.host q s).2, cleared || (q.isLook && !s.stopping)⟩ := by
  cases h with
  | @executing command _ _ next =>
    have played : (st.host (.play command) s).2.commands = s.commands ++ [command] := List.map_append
    exact .on ((dispatched_between _ _ _).trans played) (by simp [SessionRequest.isLook]) id
      (.between (next _))
  | within other careful =>
    have began := dispatched_within other k s cleared
    cases careful with
    | @look _ k asked goes =>
      cases up : s.stopping with
      | true =>
        have seen : r.Careful none left (k (.ok s.stopping)) := by rwa [up]
        exact .on ((dispatched_between _ _ _).trans began.symm) (by simp) (fun _ => up) (.between seen)
      | false =>
        have seen : r.Careful (r.due? left) left (k (.ok s.stopping)) := by rwa [up]
        exact .passed rfl up ((dispatched_between _ _ _).trans began.symm)
          (by simp [SessionRequest.isLook]) (.between seen)
    | play => cases other
    | quiet quiet next =>
      obtain ⟨reply, answered, same, stays⟩ := host_quiet st quiet s
      have noLook : q.isLook = false := by cases q <;> first | rfl | cases quiet
      have goes : r.Careful due left (k (st.host q s).1) := answered ▸ next reply
      exact .on ((dispatched_between _ _ _).trans (same.trans began.symm)) (by simp [noLook]) stays
        (.between goes)

theorem moved (h : r.Poised due left S.stand) (step : Step st S T) : Moved r due left S T := by
  obtain ⟨stand, s, cleared⟩ := S
  cases step with
  | begin asks =>
    cases asks
    exact moved_begin h
  | finish asked =>
    cases asked
    exact moved_finish h
  | stop => exact .on rfl rfl (fun _ => rfl) h

/-- A command that has passed the look at the flag, if the last look found it down. -/
def passed (r : ReplaySettings τ) (left : List String) (S : Interruptible τ σ) : Option String :=
  if S.cleared then r.due? left else none

variable (st) in
/-- What is true between any two steps: what was begun and what is left are the commands. -/
inductive Kept (r : ReplaySettings τ) (commands : List String) (S : Interruptible τ σ) : Prop
  | opening {k} (stand : S.stand = .between (.ask .start k) ∨ S.stand = .within .start k)
      (ready : r.Careful none commands (k (.ok ()))) (still : S.sitting.running = false)
      (fresh : S.sitting.commands = []) (cleared : S.cleared = false)
  | underway (left : List String) (split : S.dispatched ++ left = commands)
      (poised : r.Poised (S.passed r left) left S.stand)

variable {commands : List String}

omit [Duration τ] in
theorem passed_of_cleared (cleared : S.cleared = true) : S.passed r left = r.due? left := if_pos cleared

omit [Duration τ] in
theorem passed_of_not_cleared (still : S.cleared = false) : S.passed r left = none := by
  unfold passed
  rw [still]
  rfl

theorem Kept.step (h : Kept r commands S) (step : Step st S T) : Kept r commands T := by
  cases h with
  | opening stand ready still fresh cleared =>
    rcases stand with stand | stand
    · cases step with
      | begin asks =>
        rw [stand] at asks
        cases asks
        exact .opening (.inr rfl) ready still fresh (by simp [cleared])
      | finish asked => rw [stand] at asked; cases asked
      | stop => exact .opening (.inl stand) ready still fresh cleared
    · cases step with
      | begin asks => rw [stand] at asks; cases asks
      | finish asked =>
        rw [stand] at asked
        cases asked
        refine .underway commands ?_ ?_
        · rw [dispatched_between]
          exact congrArg (· ++ commands) fresh
        · rw [passed_of_not_cleared (by simp [cleared, SessionRequest.isLook])]
          exact .between ready
      | stop => exact .opening (.inr stand) ready still fresh cleared
  | underway left split poised =>
    cases moved poised step with
    | on dispatched cleared _ poised =>
      refine .underway left (dispatched ▸ split) ?_
      unfold passed
      rw [cleared]
      exact poised
    | passed _ _ dispatched cleared poised =>
      refine .underway left (dispatched ▸ split) ?_
      rw [passed_of_cleared cleared]
      exact poised
    | @begun command rest _ first dispatched cleared _ poised =>
      refine .underway rest ?_ ?_
      · rw [dispatched, List.append_assoc, List.singleton_append, ← first, split]
      · rw [passed_of_not_cleared cleared]
        exact poised

theorem Kept.steps (h : Kept r commands S) (steps : Steps st S T) : Kept r commands T := by
  induction steps with
  | refl => exact h
  | tail _ step ih => exact ih.step step

/-- A session over a list of commands keeps to it from its beginning. -/
theorem kept_opening (r : ReplaySettings τ) (paced : Bool) (commands : List String) (world : σ)
    (first : LastAction) (stopping : Bool) :
    Kept r commands (opening (r.replay paced commands) (.before world first stopping [])) := by
  unfold ReplaySettings.replay ReplaySettings.keeping
  split
  · refine .opening (.inl rfl) ?_ rfl rfl rfl
    change r.Careful none commands
      (((r.playEach paced commands ⟨.empty, none⟩).next _).next (onResult _))
    refine .next (.next (r.careful_playEach paced commands _) fun left result => ?_) fun left result => ?_
    · exact .quiet (q := .finish) rfl fun _ => .done
    · cases result with
      | ok summary => exact .quiet (q := .complete summary) rfl fun _ => .done
      | error fault => exact .done
  · exact .underway commands (by rw [opening, dispatched_between]; rfl) (.between .done)

/-- Once the flag is up, nothing is begun that is not due. -/
theorem heeds (poised : r.Poised none left S.stand) (asked : S.sitting.stopping = true)
    (steps : Steps st S T) :
    r.Poised none left T.stand ∧ T.sitting.stopping = true ∧ T.dispatched = S.dispatched := by
  induction steps with
  | refl => exact ⟨poised, asked, rfl⟩
  | tail _ step ih =>
    obtain ⟨poised, up, same⟩ := ih
    cases moved poised step with
    | on dispatched _ stays poised => exact ⟨poised, stays up, dispatched.trans same⟩
    | passed _ down => rw [up] at down; cases down
    | begun isDue => cases isDue

/-- Once the flag is up, a command that is due is the only one that may still begin, and the session is not
over before it has. -/
theorem heeds_after {command : String} (poised : r.Poised (some command) left S.stand)
    (asked : S.sitting.stopping = true) (steps : Steps st S T) :
    (T.dispatched = S.dispatched ∧ T.sitting.stopping = true ∧ r.Poised (some command) left T.stand) ∨
      T.dispatched = S.dispatched ++ [command] ∧ T.sitting.stopping = true ∧
        ∃ rest, r.Poised none rest T.stand := by
  induction steps with
  | refl => exact .inl ⟨rfl, asked, poised⟩
  | tail _ step ih =>
    rcases ih with ⟨same, up, poised⟩ | ⟨more, up, rest, poised⟩
    · cases moved poised step with
      | on dispatched _ stays poised => exact .inl ⟨dispatched.trans same, stays up, poised⟩
      | passed nothing => cases nothing
      | @begun _ rest isDue _ dispatched _ stays poised =>
        cases isDue
        exact .inr ⟨dispatched.trans (by rw [same]), stays up, rest, poised⟩
    · obtain ⟨poised, up', same⟩ := heeds poised up (.single step)
      exact .inr ⟨same.trans more, up', rest, poised⟩

/-- A command that is due is begun if the session is left to itself. -/
theorem comes_between {command : String} {q : Session τ Summary}
    (careful : r.Careful (some command) left q) (s : Sitting τ σ) (cleared : Bool) :
    ∃ T, Steps st ⟨.between q, s, cleared⟩ T ∧ T.dispatched = s.commands ++ [command] := by
  generalize hdue : some command = due at careful
  induction careful generalizing s cleared with
  | done | look => cases hdue
  | play =>
    cases hdue
    exact ⟨_, .single (.begin rfl), rfl⟩
  | @quiet _ _ q k quiet next ih =>
    obtain ⟨reply, answered, same, -⟩ := host_quiet st quiet s
    obtain ⟨T, steps, comes⟩ := ih reply (st.host q s).2
      ((cleared && !q.isPlay) || (q.isLook && !s.stopping)) hdue
    rw [← answered] at steps
    exact ⟨T, .head (.begin rfl) (.head (.finish rfl) steps), same ▸ comes⟩

variable (st) in
theorem comes {command : String} (poised : r.Poised (some command) left S.stand) :
    ∃ T, Steps st S T ∧ T.dispatched = S.dispatched ++ [command] := by
  obtain ⟨stand, s, cleared⟩ := S
  cases poised with
  | between careful =>
    rw [dispatched_between]
    exact comes_between careful s cleared
  | @within _ _ q k other careful =>
    rw [dispatched_within other]
    cases careful with
    | play => cases other
    | quiet quiet next =>
      obtain ⟨reply, answered, same, -⟩ := host_quiet st quiet s
      have goes : r.Careful (some command) left (k (st.host q s).1) := answered ▸ next reply
      obtain ⟨T, steps, comes⟩ :=
        comes_between goes (st.host q s).2 (cleared || (q.isLook && !s.stopping))
      exact ⟨T, .head (.finish rfl) steps, same ▸ comes⟩

/-- A session that runs is asked to stop. A command that has passed the look at the flag is still begun,
the session is not over before it has, and nothing is begun after it; if there is none nothing is begun any
more. That the session runs and that its flag is taken down is one step here. On a host these are two, and a
request to stop that comes between them is lost, as it is taken for one from before the session. -/
theorem stop_heeded (st : Station τ σ) (r : ReplaySettings τ) (paced : Bool) (commands : List String)
    (world : σ) (first : LastAction) (stopping : Bool) (S : Interruptible τ σ)
    (steps : Steps st (opening (r.replay paced commands) (.before world first stopping [])) S)
    (running : S.sitting.running = true) :
    (∀ T, Steps st S.stopped T → T.dispatched = S.dispatched ∨
      ∃ command, S.due? r commands = some command ∧ T.dispatched = S.dispatched ++ [command]) ∧
    (∀ T, Steps st S.stopped T → T.IsOver →
      T.dispatched = S.dispatched ++ (S.due? r commands).toList) ∧
    ((∀ T, Steps st S.stopped T → T.dispatched = S.dispatched) ↔ S.due? r commands = none) := by
  cases (kept_opening r paced commands world first stopping).steps steps with
  | opening _ _ still =>
    rw [running] at still
    cases still
  | underway left split poised =>
    have rest : commands.drop S.dispatched.length = left := by
      rw [← split, List.drop_left]
    have isDue : S.due? r commands = S.passed r left := by
      unfold due? passed
      rw [rest]
    rw [isDue]
    cases due : S.passed r left with
    | none =>
      rw [due] at poised
      have same : ∀ T, Steps st S.stopped T → T.dispatched = S.dispatched :=
        fun T after => (heeds (S := S.stopped) poised rfl after).2.2
      exact ⟨fun T after => .inl (same T after),
        fun T after _ => by rw [same T after, Option.toList_none, List.append_nil],
        iff_of_true same rfl⟩
    | some command =>
      rw [due] at poised
      have either := fun T (after : Steps st S.stopped T) =>
        heeds_after (S := S.stopped) poised rfl after
      refine ⟨fun T after => ?_, fun T after closed => ?_, iff_of_false (fun same => ?_) (by simp)⟩
      · rcases either T after with ⟨same, -, -⟩ | ⟨more, -, -⟩
        · exact .inl same
        · exact .inr ⟨command, rfl, more⟩
      · rcases either T after with ⟨-, -, poised⟩ | ⟨more, -, -⟩
        · obtain ⟨result, finished⟩ := closed
          rw [finished] at poised
          cases poised with | between careful => cases careful
        · exact more
      · obtain ⟨T, after, more⟩ := comes st (S := S.stopped) poised
        have more : S.dispatched = S.dispatched ++ [command] := (same T after).symm.trans more
        simp at more

/-- Two commands to type a letter, about to be played with pauses. -/
def typingTwo : Interruptible Binary64 Unit :=
  opening ((ReplaySettings.standard : ReplaySettings Binary64).replay true ["type:a", "type:b"])
    (.before () ⟨"No action", .ofDay 0⟩ false [])

/-- The session pauses before the second command. -/
def typingPaused : Interruptible Binary64 Unit :=
  (onward (Station.still none (.noResponse "")))^[19] typingTwo

theorem typingPaused_paused :
    typingPaused.stand.isPausing = true ∧ typingPaused.sitting.running = true ∧
      typingPaused.dispatched = ["type:a"] ∧
      typingPaused.due? .standard ["type:a", "type:b"] = some "type:b" := by
  decide +kernel

theorem stop_heeded_typingPaused :
    typingPaused.sitting.running = true ∧ ∀ T, Steps (.still none (.noResponse "")) typingPaused.stopped T →
      T.IsOver → T.dispatched = ["type:a", "type:b"] := by
  obtain ⟨-, running, began, due⟩ := typingPaused_paused
  refine ⟨running, fun T after closed => ?_⟩
  have last := (stop_heeded (.still none (.noResponse "")) .standard true ["type:a", "type:b"] ()
    ⟨"No action", .ofDay 0⟩ false typingPaused (steps_iterate _ 19 typingTwo) running).2.1 T after closed
  rw [last, began, due]
  rfl

/-- A request to stop that comes while the session pauses does not keep the next command back. -/
theorem stop_unheeded_typingPaused :
    ∃ S T, Steps (.still none (.noResponse "")) typingTwo S ∧ S.sitting.running = true ∧
      S.stand.isPausing = true ∧ S.dispatched = ["type:a"] ∧
      Steps (.still none (.noResponse "")) S.stopped T ∧ T.sitting.stopping = true ∧
      T.dispatched = ["type:a", "type:b"] := by
  obtain ⟨pausing, running, began, -⟩ := typingPaused_paused
  refine ⟨typingPaused, _, steps_iterate _ 19 typingTwo, running, pausing, began,
    steps_iterate _ 4 typingPaused.stopped, ?_⟩
  decide +kernel

end Interruptible

end InputReplay
