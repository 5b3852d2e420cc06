import InputReplay.Proofs.Serial

/-! What the callers of a player see, in whatever order their threads take their steps. Each call that
got the lock did what it does alone, and the lock goes back to how it was; a call that found the lock
held did nothing. A call that was never read to an action did nothing either, and it has a result unless
its count has too many digits. -/

namespace InputReplay

open Player

namespace Scene

variable {κ ι τ σ : Type} [Duration τ] (p : Player τ) (inj : Injector τ σ) (calls : κ → Call ι)
  [DecidableEq ι]

/-- All that was attempted is the blocks of the calls that got the lock. The last of these calls may
still be playing; then it has attempted a first part of its block, and what is left of it attempts the
other part and comes to the result that the call has alone. -/
inductive InTurn (base : Lock ι) (world : σ) (S : Scene κ ι τ σ) : Prop
  | quiet (lock : S.lock = base) (made : S.made = blocks p inj calls world S.admitted)
      (world_eq : S.world = worldAfter p inj calls world S.admitted)
  | playing {before c rest part} (admitted : S.admitted = before ++ [c]) (phase : S.phase c = .playing rest)
      (held : base.holds (calls c).thread < S.lock.holds (calls c).thread)
      (made : S.made = blocks p inj calls world before ++ part.map (c, ·))
      (acts : inj.acts (served p calls c) (worldAfter p inj calls world before) =
        part ++ inj.acts rest S.world)
      (run : inj.run (served p calls c) (worldAfter p inj calls world before) = inj.run rest S.world)

/-- What is true between any two steps of calls that began with the lock and the injector in a given
state. -/
structure Orderly (base : Lock ι) (world : σ) (S : Scene κ ι τ σ) : Prop where
  once : S.admitted.Nodup
  inTurn : InTurn p inj calls base world S
  /-- A call that got the lock ends as it does alone, where the calls before it left the injector. -/
  alone : ∀ c ∈ S.admitted, ∀ outcome, S.phase c = .ended outcome →
    ∃ before after, S.admitted = before ++ c :: after ∧
      outcome = (inj.run (served p calls c) (worldAfter p inj calls world before)).1
  /-- A call that found the lock held by another thread only has to say so. -/
  refused : ∀ c ∈ S.refused, c ∉ S.admitted ∧
    (S.phase c = .playing (.throw .busy) ∨ S.phase c = .ended (.error .busy))
  /-- A call that ended without asking for the lock was not read to an action. -/
  unread : ∀ c ∉ S.admitted, c ∉ S.refused → ∀ outcome, S.phase c = .ended outcome →
    ∃ raw, (calls c).order = .run raw ∧
      (¬ Command.HasLongCount raw ∧ (∃ e, Command.parse raw = .error (.rejected e) ∧
          outcome = .ok (.failed raw (.command e))) ∨
        Command.HasLongCount raw ∧ ∃ numeral, outcome = .error (.numeralTooLong numeral))
  silent : ∀ c ∉ S.admitted, ∀ a, (c, a) ∉ S.made
  /-- A thread between two calls holds the lock as often as before its calls. -/
  lock : ∀ thread, S.Idle calls thread → S.lock.holds thread = base.holds thread

variable {p inj calls} {base : Lock ι} {world : σ} {S : Scene κ ι τ σ} {current : Option κ} {c : κ}

/-- A call that is over was settled. -/
theorem Kept.settled_of_ended (h : Kept p inj calls base world S current) {outcome : Except Fault Result}
    (ended : S.phase c = .ended outcome) : Settled p inj calls world S c outcome := by
  have stands := h.standing c (h.not_current ended (by simp))
  rw [ended] at stands
  cases stands with
  | ended settled => exact settled

theorem Kept.inTurn (h : Kept p inj calls base world S current) : InTurn p inj calls base world S := by
  cases h.progress with
  | quiet quiet => exact .quiet quiet.lock quiet.made quiet.world_eq
  | inside _ _ _ _ inside =>
    refine .playing inside.admitted inside.phase ?_ inside.made inside.acts inside.run
    rw [inside.lock, Lock.holds_taken inside.enters]
    omega

theorem Kept.silent (h : Kept p inj calls base world S current) (never : c ∉ S.admitted) (a : Attempt τ) :
    (c, a) ∉ S.made := by
  intro made
  cases h.progress with
  | quiet quiet =>
    rw [quiet.made] at made
    exact never (mem_of_mem_blocks p inj calls made)
  | inside _ _ _ _ inside =>
    rw [inside.made, List.mem_append] at made
    rw [inside.admitted] at never
    rcases made with made | made
    · exact never (List.mem_append_left _ (mem_of_mem_blocks p inj calls made))
    · obtain ⟨_, _, same⟩ := List.mem_map.1 made
      cases same
      exact never (by simp)

theorem Kept.lock_of_idle (h : Kept p inj calls base world S current) {thread : ι}
    (idle : S.Idle calls thread) : S.lock.holds thread = base.holds thread := by
  cases h.progress with
  | quiet quiet => rw [quiet.lock]
  | @inside c _ _ _ _ inside =>
    have other : (calls c).thread ≠ thread := by
      intro same
      have live := idle c same
      rw [inside.phase] at live
      cases live
    rw [inside.lock, Lock.holds_taken_other inside.enters other]

omit [DecidableEq ι] in
/-- A call that is done as soon as it has been read had a command that is no action. -/
theorem unread_of_served {outcome : Except Fault Result} (hg : p.gestures.IsLevel)
    (read : served p calls c = .finish outcome) :
    ∃ raw, (calls c).order = .run raw ∧
      (¬ Command.HasLongCount raw ∧ (∃ e, Command.parse raw = .error (.rejected e) ∧
          outcome = .ok (.failed raw (.command e))) ∨
        Command.HasLongCount raw ∧ ∃ numeral, outcome = .error (.numeralTooLong numeral)) := by
  have plays : ∀ label action, p.play label action ≠ .finish outcome := by
    intro label action same
    obtain ⟨body, hb, -⟩ := p.play_locked hg label action
    rw [hb] at same
    cases same
  unfold served at read
  cases ho : (calls c).order with
  | execute action command =>
    rw [ho] at read
    exact absurd read (plays _ _)
  | run raw =>
    rw [ho] at read
    refine ⟨raw, rfl, ?_⟩
    change p.run raw = _ at read
    unfold Player.run at read
    cases hp : Command.parse raw with
    | ok action =>
      rw [hp] at read
      exact absurd read (plays _ _)
    | error e =>
      rw [hp] at read
      cases e with
      | rejected e =>
        refine .inl ⟨(Command.parse_contained_iff raw).1 ?_, e, rfl, ?_⟩
        · rw [hp]
          exact Reading.reject_contained e
        · cases read
          rfl
      | tooLong numeral =>
        refine .inr ⟨?_, numeral, ?_⟩
        · by_contra short
          exact (Command.parse_contained_iff raw).2 short numeral hp
        · cases read
          rfl

variable [DecidableEq κ]

/-- Threads may take the steps of their calls in any order: what is attempted falls into the blocks of
the calls that got the lock, and no call changes what another one does or comes to. -/
theorem orderly_of_steps (hg : p.gestures.IsLevel)
    (steps : Relation.ReflTransGen (Step p inj calls) (opening base world) S) :
    Orderly p inj calls base world S := by
  obtain ⟨current, h⟩ := Kept.reachable hg steps
  refine ⟨h.once, h.inTurn, ?_, ?_, ?_, fun c never => h.silent never, fun thread => h.lock_of_idle⟩
  · intro c hc outcome ended
    cases h.settled_of_ended ended with
    | admitted _ _ turn => exact ⟨_, _, turn, rfl⟩
    | refused _ never => exact absurd hc never
    | unread never => exact absurd hc never
  · intro c turned
    have other : current ≠ some c := by
      rintro rfl
      obtain ⟨_, _, _, _, inside⟩ := h.phase_of_current
      exact inside.passed turned
    have stands := h.standing c other
    generalize S.phase c = phase at stands
    cases stands with
    | waiting _ passed | asked _ passed | read _ passed => exact absurd turned passed
    | leaving settled | ended settled =>
      cases settled with
      | admitted _ _ _ passed | unread _ passed => exact absurd turned passed
      | refused _ never => exact ⟨never, by simp [Program.throw]⟩
  · intro c never passed outcome ended
    cases h.settled_of_ended ended with
    | admitted _ _ turn => exact absurd (by simp [turn]) never
    | refused turned => exact absurd turned passed
    | unread _ _ read => exact unread_of_served hg read

/-- A thread that runs a batch within a batch, and another that presses a key. -/
def nestedCalls : Bool → Call Bool
  | false => ⟨false, .run "batch:batch:type:a"⟩
  | true => ⟨true, .execute (.press .b) ""⟩

def chordPlayer : Player Binary64 := ⟨.standard, chordGestures⟩

theorem run_nested :
    chordPlayer.run "batch:batch:type:a" =
      Play.locked (Result.batch "batch:batch:type:a" <$> (do
        let inner ← Play.locked (Result.batch "batch:type:a" <$> (do
          let typed ← Play.locked (report "type:a" (chordPlayer.perform (.type "a")))
          return typed :: (← pure [])))
        return inner :: (← pure []))) := by
  have outer : Command.parse "batch:batch:type:a" = .ok (.batch ["batch:type:a"]) := by decide +kernel
  have inner : Command.parse "batch:type:a" = .ok (.batch ["type:a"]) := by decide +kernel
  have single : Command.parse "type:a" = .ok (.type "a") := by decide +kernel
  have expandInner : Command.expand ["type:a"] = .ok [("type:a", .ok (.type "a"))] := by
    decide +kernel
  have expandOuter : Command.expand ["batch:type:a"] = .ok [("batch:type:a", .ok (.batch ["type:a"]))] := by
    decide +kernel
  have typed : chordPlayer.run "type:a" =
      Play.locked (report "type:a" (chordPlayer.perform (.type "a"))) := by
    unfold Player.run
    rw [single]
    exact chordPlayer.execute_single (by simp) "type:a"
  rw [run_of_parse_batch _ outer, expandOuter]
  simp only [runEach]
  rw [run_of_parse_batch _ inner, expandInner]
  simp only [runEach, typed]

theorem nested_calls_orderly :
    ∃ S : Scene Bool Bool Binary64 Unit,
      Relation.ReflTransGen (Step chordPlayer .accepting nestedCalls) (opening .free ()) S ∧
      S.lock = .held false 2 ∧ S.refused = [true] ∧ S.phase true = .ended (.error .busy) ∧
      S.made = [(false, ⟨.post (.key (.text "a") true), none⟩)] ∧
      Orderly chordPlayer .accepting nestedCalls .free () S := by
  have press : chordPlayer.execute (.press .b) "" =
      Play.locked (report "KeyPress" (chordPlayer.perform (.press .b))) :=
    chordPlayer.execute_single (by simp) ""
  have s1 : Relation.ReflTransGen (Step chordPlayer .accepting nestedCalls) (opening .free ()) _ :=
    .single (.call (c := false) rfl fun _ _ => rfl)
  have s2 := s1.tail (.read (c := false) rfl)
  have s3 := s2.tail (.enter (c := false) (congrArg Phase.playing run_nested) rfl)
  have s4 := s3.tail (.enter (c := false) rfl rfl)
  have s5 := s4.tail (.enter (c := false) rfl rfl)
  have s6 := s5.tail (.act (c := false) (r := .post (.key (.text "a") true)) rfl rfl)
  have s7 := s6.tail (.call (c := true) rfl fun c h => by cases c; cases h; rfl)
  have s8 := s7.tail (.read (c := true) rfl)
  have s9 := s8.tail (.refuse (c := true) (congrArg Phase.playing press) rfl)
  have s10 := s9.tail (.exit (c := true) (show _ = Phase.playing (.finish (.error .busy)) from rfl))
  exact ⟨_, s10, rfl, rfl, rfl, rfl, orderly_of_steps chordGestures_isLevel s10⟩

/-- One thread presses a key while another runs a command with a count of so many digits. -/
def longCountCalls (digits : Nat) : Bool → Call Bool
  | false => ⟨false, .execute (.press .a) ""⟩
  | true => ⟨true, .run (zeroClick digits)⟩

/-- A call whose count has too many digits may end while the lock is held by another thread. -/
theorem steps_longCountCalls {n : Nat} (h : numeralLimit < n) :
    ∃ S : Scene Bool Bool Binary64 Unit, ∃ numeral,
      Relation.ReflTransGen (Step chordPlayer .accepting (longCountCalls n)) (opening .free ()) S ∧
      S.lock = .held false 0 ∧ S.phase true = .ended (.error (.numeralTooLong numeral)) := by
  have press : chordPlayer.execute (.press .a) "" =
      Play.locked (report "KeyPress" (chordPlayer.perform (.press .a))) :=
    chordPlayer.execute_single (by simp) ""
  obtain ⟨numeral, tooLong⟩ := not_forall.1 fun contained =>
    (Command.parse_contained_iff _).1 contained (hasLongCount_zeroClick h)
  have read : chordPlayer.run (zeroClick n) = .finish (.error (.numeralTooLong numeral)) := by
    unfold Player.run
    rw [not_not.1 tooLong]
    rfl
  have s1 : Relation.ReflTransGen (Step chordPlayer .accepting (longCountCalls n)) (opening .free ()) _ :=
    .single (.call (c := false) rfl fun _ _ => rfl)
  have s2 := s1.tail (.read (c := false) rfl)
  have s3 := s2.tail (.enter (c := false) (congrArg Phase.playing press) rfl)
  have s4 := s3.tail (.call (c := true) rfl fun c h => by cases c; cases h; rfl)
  have s5 := s4.tail (.read (c := true) rfl)
  have s6 := s5.tail (.exit (c := true) (congrArg Phase.playing read))
  exact ⟨_, _, s6, rfl, rfl⟩

/-- The second call comes while the lock is held, and is neither turned away nor answered. -/
theorem long_count_unanswered :
    ∃ S : Scene Bool Bool Binary64 Unit, ∃ outcome,
      Relation.ReflTransGen (Step chordPlayer .accepting (longCountCalls 4301)) (opening .free ()) S ∧
      S.lock = .held false 0 ∧ S.phase true = .ended outcome ∧ outcome ≠ .error .busy ∧
      ∀ r, outcome ≠ .ok r := by
  obtain ⟨S, numeral, steps, lock, ended⟩ := steps_longCountCalls (show numeralLimit < 4301 by decide)
  exact ⟨S, _, steps, lock, ended, by simp, by simp⟩

end Scene

end InputReplay
