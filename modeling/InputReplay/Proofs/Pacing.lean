import InputReplay.Proofs.Replaying
import Mathlib.Algebra.Order.Ring.Rat
import Mathlib.Data.List.Chain
import Mathlib.Tactic.Linarith
import Mathlib.Tactic.Ring

/-! When commands start, over exact numbers. Recorded commands start one after another with a least time from
the start of one to the start of the next; a command that takes longer is followed at once. A session pauses
nowhere else: not before the first command, nor before it ends. -/

namespace InputReplay

open Program

instance : Duration ℚ where
  isPositive x := decide (0 < x)
  part x n := some (x / n)
  since x y := x - y

/-- What is seen of a session by a clock: it pauses, or it starts a command. -/
inductive Beat where
  | rest (time : ℚ)
  | start (command : String) (time : ℚ)
  deriving DecidableEq

namespace Station

open Session (Progress Turn)

variable {σ α β : Type} (st : Station ℚ σ) (clock : σ → ℚ)

/-- To look at the clock takes no time, and to sleep takes the time that is slept. -/
structure IsExact : Prop where
  now : ∀ w, (st.now w).1 = clock w
  still : ∀ w, clock (st.now w).2 = clock w
  sleep : ∀ time w, clock (st.sleep time w) = clock w + time

def beat? (q : SessionRequest ℚ) (w : σ) : Option Beat :=
  match q with
  | .pause time => some (.rest time)
  | .play command => some (.start command (clock w))
  | _ => none

/-- What the clock sees of a session. -/
def beats : Session ℚ α → Sitting ℚ σ → List Beat
  | Program.finish _, _ => []
  | .ask q k, s => (beat? clock q s.world).toList ++ beats (k (st.host q s).1) (st.host q s).2

theorem beats_next (q : Session ℚ α) (f : Except Fault α → Session ℚ β) (s : Sitting ℚ σ) :
    st.beats clock (q.next f) s =
      st.beats clock q s ++ st.beats clock (f (st.run q s).1) (st.run q s).2 := by
  induction q generalizing s with
  | finish result => rfl
  | ask q k ih =>
    simp only [next, beats, ih, List.append_assoc]
    rfl

theorem beats_bind (q : Session ℚ α) (f : α → Session ℚ β) (s : Sitting ℚ σ) :
    st.beats clock (q >>= f) s =
      st.beats clock q s ++ st.beats clock (onResult f (st.run q s).1) (st.run q s).2 :=
  st.beats_next clock q _ s

/-- The world once a command was played and its result was told. -/
def settled (q : Playing σ) : σ :=
  match st.outcome q with
  | (.ok result, world) => st.hear result (st.today world).2
  | (.error _, world) => world

def spent (q : Playing σ) : ℚ := clock (st.settled q) - clock q.world

variable (paced : Bool) (least : ℚ)

def nextStart (q : Playing σ) : ℚ :=
  if paced then max (clock q.world + st.spent clock q) (clock q.world + least)
  else clock q.world + st.spent clock q

/-- The pause between a command and the next. -/
def gap (q : Playing σ) : List Beat :=
  if paced ∧ st.spent clock q < least then [.rest (least - st.spent clock q)] else []

/-- What the clock is to see of commands that come after another one, if they do. -/
def timeline : Option (Playing σ) → List (Playing σ) → List Beat
  | _, [] => []
  | prev, q :: rest => prev.elim [] (st.gap clock paced least) ++
      .start q.command (clock q.world) :: timeline (some q) rest

/-- A session in between two commands remembers when the one before it was started, and no time has gone by
since that was done. -/
structure Follows (prev : Option (Playing σ)) (last : Option ℚ) (s : Sitting ℚ σ) : Prop where
  last : last = prev.map fun q => clock q.world
  now : ∀ q ∈ prev, clock s.world = clock q.world + st.spent clock q

variable {st clock} {paced least} {r : ReplaySettings ℚ} {command : String} {commands : List String}
  {prev : Option (Playing σ)} {p : Progress ℚ} {s : Sitting ℚ σ}

theorem nextStart_paced (q : Playing σ) :
    st.nextStart clock true least q = max (clock q.world + st.spent clock q) (clock q.world + least) := by
  simp [nextStart]

theorem Follows.nextStart_unpaced {last : Option ℚ} (h : st.Follows clock prev last s) :
    prev.elim (clock s.world) (st.nextStart clock false least) = clock s.world := by
  cases prev with
  | none => rfl
  | some q => simp [nextStart, h.now q rfl]

theorem gap_unpaced (prev : Option (Playing σ)) : prev.elim [] (st.gap clock false least) = [] := by
  cases prev with
  | none => rfl
  | some q => simp [gap]

theorem pace_timed (exact : st.IsExact clock) {last : Option ℚ} (h : st.Follows clock prev last s) :
    ∃ world, st.run (r.pace last) s = (.ok (), { s with world }) ∧
      clock world = prev.elim (clock s.world) (st.nextStart clock true r.minInterval) ∧
      st.beats clock (r.pace last) s = prev.elim [] (st.gap clock true r.minInterval) := by
  obtain rfl := h.last
  cases prev with
  | none => exact ⟨s.world, rfl, rfl, rfl⟩
  | some q =>
    have now := h.now q rfl
    let remaining := r.minInterval - ((st.now s.world).1 - clock q.world)
    have left : remaining = r.minInterval - st.spent clock q := by
      change r.minInterval - ((st.now s.world).1 - clock q.world) = _
      rw [exact.now, now]
      ring
    let looked : Sitting ℚ σ := { s with world := (st.now s.world).2 }
    have same : clock looked.world = clock q.world + st.spent clock q := (exact.still _).trans now
    change ∃ world, st.run (if decide (0 < remaining) then Session.pause remaining else pure ()) looked =
        (.ok (), { s with world }) ∧ _ ∧
      st.beats clock (if decide (0 < remaining) then Session.pause remaining else pure ()) looked = _
    by_cases short : st.spent clock q < r.minInterval
    · have positive : 0 < remaining := by
        rw [left]
        linarith
      have pauses : st.gap clock true r.minInterval q = [.rest remaining] := by
        rw [left]
        exact if_pos ⟨rfl, short⟩
      rw [if_pos (decide_eq_true positive), Option.elim_some, Option.elim_some, pauses]
      refine ⟨st.sleep remaining looked.world, rfl, ?_, rfl⟩
      rw [nextStart_paced, exact.sleep, same, left, max_eq_right (by linarith)]
      ring
    · have spare : ¬ 0 < remaining := by
        rw [left]
        linarith
      have pauses : st.gap clock true r.minInterval q = [] := if_neg fun h => short h.2
      rw [if_neg (by simpa using spare), Option.elim_some, Option.elim_some, pauses, nextStart_paced,
        max_eq_left (by linarith)]
      exact ⟨looked.world, rfl, same, rfl⟩

/-- What the clock sees of a fetched command. -/
inductive Timed (st : Station ℚ σ) (clock : σ → ℚ) (paced : Bool) (least : ℚ) (command : String)
    (prev : Option (Playing σ)) (s : Sitting ℚ σ) :
    Except Fault (Turn ℚ) × Sitting ℚ σ → List Beat → Prop
  | closing {summary s'} (played : s'.played = s.played) :
      Timed st clock paced least command prev s (.ok (.ended summary), s') []
  | started {q : Playing σ} {result s'} (named : q.command = command)
      (start : clock q.world = prev.elim (clock s.world) (st.nextStart clock paced least))
      (played : s'.played = s.played ++ [q])
      (goes : ∀ p, result = .ok (.next p) → st.Follows clock (some q) p.last s')
      (next : ∀ summary, result ≠ .ok (.ended summary)) :
      Timed st clock paced least command prev s (result, s')
        (prev.elim [] (st.gap clock paced least) ++ [.start command (clock q.world)])

theorem play_timed (command : String) (exact : st.IsExact clock) {w : σ}
    (due : clock w = prev.elim (clock s.world) (st.nextStart clock paced r.minInterval)) (summary : Summary) :
    st.Timed clock paced r.minInterval command prev s
      (st.run (r.playing command summary) { s with world := w })
      (prev.elim [] (st.gap clock paced r.minInterval) ++
        st.beats clock (r.playing command summary) { s with world := w }) := by
  let q : Playing σ := ⟨command, (st.now w).2⟩
  have start : clock q.world = prev.elim (clock s.world) (st.nextStart clock paced r.minInterval) :=
    (exact.still w).trans due
  let told (reply : Except Fault Result) : Session ℚ (Turn ℚ) :=
    onResult (fun result => do
      Session.note command
      Session.report result
      return .next ⟨summary.add r.keepResults result, some (st.now w).1⟩) reply
  have run : st.run (r.playing command summary) { s with world := w } =
      st.run (told (st.outcome q).1) (st.playing q s) := rfl
  have beats : st.beats clock (r.playing command summary) { s with world := w } =
      .start command (clock q.world) :: st.beats clock (told (st.outcome q).1) (st.playing q s) := rfl
  rw [run, beats]
  cases ran : (st.outcome q).1 with
  | error fault => exact .started rfl start rfl (by rintro _ ⟨⟩) (by rintro _ ⟨⟩)
  | ok result =>
    refine .started rfl start rfl ?_ (by rintro _ ⟨⟩)
    rintro _ ⟨⟩
    refine ⟨congrArg some ((exact.now w).trans (exact.still w).symm), ?_⟩
    rintro _ ⟨⟩
    have after : st.settled q = st.hear result (st.today (st.outcome q).2).2 := by
      unfold settled
      rw [← Prod.eta (st.outcome q), ran]
    change clock (st.hear result (st.today (st.outcome q).2).2) = _
    unfold spent
    rw [after]
    ring

variable (r paced command) in
theorem turn_timed (exact : st.IsExact clock) (h : st.Follows clock prev p.last s) :
    st.Timed clock paced r.minInterval command prev s (st.run (r.turn paced command p) s)
      (st.beats clock (r.turn paced command p) s) := by
  rw [ReplaySettings.turn_eq, run_bind, beats_bind]
  change st.Timed clock paced r.minInterval command prev s (st.run (if s.stopping = true then _ else _) s)
    (st.beats clock (if s.stopping = true then _ else _) s)
  split
  · exact .closing rfl
  · split
    · exact .closing rfl
    · cases paced with
      | false =>
        have timed := play_timed (r := r) command exact h.nextStart_unpaced.symm p.summary
        rwa [gap_unpaced] at timed
      | true =>
        obtain ⟨world, run, due, pauses⟩ := pace_timed (r := r) exact h
        rw [if_pos rfl, run_bind, beats_bind, run, pauses]
        exact play_timed command exact due p.summary

theorem beats_playEach_cons :
    st.beats clock (r.playEach paced (command :: commands) p) s =
      st.beats clock (r.turn paced command p) s ++
        st.beats clock (onResult (afterCommand r paced commands) (st.run (r.turn paced command p) s).1)
          (st.run (r.turn paced command p) s).2 :=
  st.beats_bind clock (r.turn paced command p) (afterCommand r paced commands) s

variable (st clock) in
theorem beats_drive (source : Progress ℚ → Session ℚ Summary) (s : Sitting ℚ σ) :
    st.beats clock (Session.drive source) s = st.beats clock (source ⟨.empty, none⟩) s.started := by
  have closing : ∀ result s, st.beats clock (onResult (fun summary => do
      Session.complete summary
      return summary) result) s = [] := by
    rintro (_ | _) s <;> rfl
  unfold Session.drive
  rw [beats_bind]
  change st.beats clock ((source ⟨.empty, none⟩).afterwards Session.finish >>= _) s.started = _
  rw [beats_bind, closing, List.append_nil]
  exact (st.beats_next clock _ _ _).trans (List.append_nil _)

/-- The induction is on the commands that are left, behind the one that was started last. -/
theorem playEach_timed (exact : st.IsExact clock) (h : st.Follows clock prev p.last s) :
    ∃ qs, (st.run (r.playEach paced commands p) s).2.played = s.played ++ qs ∧
      qs.map (·.command) <+: commands ∧
      (∀ q ∈ qs.head?, clock q.world =
        prev.elim (clock s.world) (st.nextStart clock paced r.minInterval)) ∧
      qs.IsChain (fun q q' => clock q'.world = st.nextStart clock paced r.minInterval q) ∧
      st.beats clock (r.playEach paced commands p) s =
        st.timeline clock paced r.minInterval prev qs := by
  induction commands generalizing prev p s with
  | nil => exact ⟨[], (List.append_nil _).symm, List.nil_prefix, by simp, .nil, rfl⟩
  | cons command rest ih =>
    rw [run_playEach_cons, beats_playEach_cons]
    have step := turn_timed paced r command exact h
    generalize st.run (r.turn paced command p) s = out at step ⊢
    generalize st.beats clock (r.turn paced command p) s = seen at step ⊢
    cases step with
    | closing played =>
      exact ⟨[], played.trans (List.append_nil _).symm, List.nil_prefix, by simp, .nil, rfl⟩
    | @started q result s' named start played goes next =>
      obtain rfl := named
      cases result with
      | error fault =>
        exact ⟨[q], played, List.prefix_append [q.command] rest, by simpa using start, .singleton q,
          List.append_nil _⟩
      | ok turn =>
        cases turn with
        | ended summary => exact absurd rfl (next summary)
        | next p' =>
          obtain ⟨qs, all, inOrder, first, chain, beats⟩ := ih (goes p' rfl)
          refine ⟨q :: qs, ?_, List.cons_prefix_cons.2 ⟨rfl, inOrder⟩, by simpa using start,
            List.isChain_cons.2 ⟨first, chain⟩, ?_⟩
          · refine all.trans ?_
            rw [played, List.append_assoc, List.singleton_append]
          · rw [onResult, afterCommand, beats, timeline, List.append_assoc, List.singleton_append]

/-- A session over a list of commands, wherever it begins, so also after an earlier one. The first command
starts at once. Each of the others starts when the one before it is done, and no earlier than the least time
after the start of that one if commands are paced. The session pauses in between when a command took less than
that, and nowhere else. -/
theorem replay_timed (exact : st.IsExact clock) (r : ReplaySettings ℚ) (paced : Bool)
    (commands : List String) (s : Sitting ℚ σ) :
    ∃ qs, (st.run (r.replay paced commands) s).2.played = s.played ++ qs ∧
      qs.map (·.command) <+: commands ∧
      (∀ q ∈ qs.head?, clock q.world = clock s.world) ∧
      qs.IsChain (fun q q' => clock q'.world = st.nextStart clock paced r.minInterval q) ∧
      st.beats clock (r.replay paced commands) s =
        st.timeline clock paced r.minInterval none qs := by
  unfold ReplaySettings.replay ReplaySettings.keeping
  split
  · rw [run_drive, Sitting.played_closing, beats_drive]
    have fresh : st.Follows clock none none s.started := ⟨rfl, by rintro _ ⟨⟩⟩
    exact playEach_timed (p := ⟨.empty, none⟩) exact fresh
  · exact ⟨[], (List.append_nil _).symm, List.nil_prefix, by simp, .nil, rfl⟩

/-- Only sleep takes time, that of the player too, and whoever is told of a result takes a quarter of a
second. -/
def ticking : Station ℚ ℚ where
  player := ⟨⟨2, 1, PlaySettings.standard.dragSteps, .standard, 1, .chord⟩, chordGestures⟩
  injector :=
    { post _ w := (.ok (), w)
      pause time w := (.ok (), w + time)
      launch _ _ w := (.ok (.exited 0 ""), w) }
  now w := (w, w)
  today w := (Moment.ofDay 0, w)
  sleep time w := w + time
  hear _ w := w + 1 / 4
  stopAfter := none
  info := ⟨1920, 1080, "Linux"⟩
  opening := .noResponse ""

theorem ticking_isExact : ticking.IsExact id := ⟨fun _ => rfl, fun _ => rfl, fun _ _ => rfl⟩

/-- A second session starts at once, without regard to the first. A click twice takes longer than the least
time, the others take less. -/
theorem replay_timed_ticking :
    let r : ReplaySettings ℚ := ⟨1, "END", 100⟩
    let commands := ["Multi-click:0,0,2", "type:a", "nope", "END", "type:b"]
    let s := (ticking.run (r.replay true commands) (.before 0 ⟨"No action", .ofDay 0⟩ false [])).2
    ticking.IsExact id ∧ ∃ qs, (ticking.run (r.replay true commands) s).2.played = s.played ++ qs ∧
      ticking.beats id (r.replay true commands) s = ticking.timeline id true 1 none qs ∧
      ticking.timeline id true 1 none qs = [.start "Multi-click:0,0,2" (7 / 2), .start "type:a" (23 / 4),
        .rest (3 / 4), .start "nope" (27 / 4)] := by
  intro r commands s
  obtain ⟨qs, played, -, -, -, beats⟩ := replay_timed ticking_isExact r true commands s
  refine ⟨ticking_isExact, qs, played, beats, beats.symm.trans ?_⟩
  decide +kernel

end Station

end InputReplay
