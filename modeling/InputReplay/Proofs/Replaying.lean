import InputReplay.Proofs.Station

/-! A session over a list of commands plays those before the end, and no more than the result after which
it is asked to stop. How it came to its end is told by its summary and by its last action. -/

namespace InputReplay

open Program

namespace Station

open Session (Progress Turn)

variable {τ σ : Type} (st : Station τ σ) (r : ReplaySettings τ)

/-- How many of the commands are played. -/
def extent (commands : List String) : Nat :=
  min (commands.findIdx r.isEnd) ((st.stopAfter.map Count.val).getD commands.length)

variable [Duration τ]

/-- How a session went that played the first `n` of its commands and came to a summary. -/
structure Replayed (commands : List String) (first : LastAction) (n : Nat) (s : Sitting τ σ)
    (summary : Summary) : Prop extends Recounted st r.keepResults s summary where
  played : s.commands = commands.take n
  count : summary.executed = n
  /-- The results that were kept are the last ones. -/
  kept : summary.results <:+ s.told.map (·.result) ∧ summary.results.length = min n r.keepResults
  stopped : summary.stopped = true ↔ st.stopsAt n = true ∧ n < commands.length
  ended : summary.ended = true ↔ commands.findIdx? r.isEnd = some n ∧ summary.stopped = false
  last_of_ended : summary.ended = true → commands[n]? = some s.last.command
  last_of_played : summary.ended = false → n ≠ 0 → commands[n - 1]? = some s.last.command
  last_of_none : summary.ended = false → n = 0 → s.last = first

variable {st r} {first : LastAction} {s : Sitting τ σ} {summary : Summary} {rest : List String}
  {command : String} {keep : Nat}

theorem Recounted.length_told (h : Recounted st keep s summary) : s.told.length = s.played.length :=
  h.told.length_eq.symm

theorem Recounted.suffix_told (h : Recounted st keep s summary) :
    summary.results <:+ s.told.map (·.result) ∧ summary.results.length = min s.played.length keep := by
  rw [h.results, Summary.lastOf]
  refine ⟨List.drop_suffix _ _, ?_⟩
  rw [List.length_drop, List.length_map, h.length_told]
  omega

/-- What a session notes at its end, and how it ends, changes nothing of what it counted. -/
theorem Recounted.ending (h : Recounted st keep s summary) (last : LastAction) (noted : List LastAction)
    (world : σ) (ended stopped : Bool) :
    Recounted st keep { s with last, noted, world } { summary with ended, stopped } where
  made := h.made
  told := h.told
  executed := h.executed
  failed := h.failed
  results := h.results

theorem Replayed.closed {commands : List String} {n : Nat} (h : Replayed st r commands first n s summary)
    (running : Bool) (completed : List Summary) :
    Replayed st r commands first n { s with running, completed } summary where
  made := h.made
  told := h.told
  executed := h.executed
  failed := h.failed
  results := h.results
  played := h.played
  count := h.count
  kept := h.kept
  stopped := h.stopped
  ended := h.ended
  last_of_ended := h.last_of_ended
  last_of_played := h.last_of_played
  last_of_none := h.last_of_none

/-- The last action of a session that goes on is the last command that was played. -/
theorem Underway.last_command (h : Underway st keep first s summary) (n : s.played.length ≠ 0)
    (rest : List String) :
    (s.commands ++ rest)[s.played.length - 1]? = some s.last.command := by
  have inside : s.played.length - 1 < (s.commands).length := by
    rw [Sitting.length_commands]
    omega
  have counted : s.noted.length = s.played.length := by
    simpa using congrArg List.length h.noted
  rw [List.getElem?_append_left inside, ← h.noted, List.getElem?_map, h.last, ← counted,
    ← List.getLast?_eq_getElem?]
  cases last : s.noted.getLast? with
  | none =>
    rw [List.getLast?_eq_none_iff.1 last] at counted
    exact absurd counted.symm n
  | some action => rfl

theorem Underway.last_first (h : Underway st keep first s summary) (n : s.played.length = 0) :
    s.last = first := by
  have none : s.noted.map (·.command) = [] := by
    rw [h.noted, ← List.length_eq_zero_iff, Sitting.length_commands, n]
  rw [h.last, List.map_eq_nil_iff.1 none]
  rfl

omit [Duration τ] in
/-- The end is looked for behind the commands that were played. -/
theorem findIdx?_of_played (goes : ∀ c ∈ s.commands, r.isEnd c = false) (rest : List String) :
    (s.commands ++ rest).findIdx? r.isEnd =
      (rest.findIdx? r.isEnd).map (· + s.played.length) := by
  have none : (s.commands).findIdx? r.isEnd = none := by
    rw [List.findIdx?_eq_none_iff]
    exact goes
  rw [List.findIdx?_append, none, Option.none_or, Sitting.length_commands]

/-- A session that goes no further has played as many of its commands as are to be played. -/
theorem Underway.extent_eq (h : Underway st keep first s summary)
    (goes : ∀ c ∈ s.commands, r.isEnd c = false)
    (closed : rest = [] ∨ st.stopsAt s.played.length = true ∨ rest.findIdx? r.isEnd = some 0) :
    st.extent r (s.commands ++ rest) = s.played.length := by
  unfold extent
  rw [List.findIdx_eq_getD_findIdx?, findIdx?_of_played goes, List.length_append, Sitting.length_commands]
  have late : s.played.length ≤ (st.stopAfter.map Count.val).getD (s.played.length + rest.length) := by
    cases hm : st.stopAfter with
    | none => exact Nat.le_add_right _ _
    | some m => exact h.early m hm
  have first : s.played.length ≤
      ((rest.findIdx? r.isEnd).map (· + s.played.length)).getD (s.played.length + rest.length) := by
    cases rest.findIdx? r.isEnd with
    | none => exact Nat.le_add_right _ _
    | some e => exact Nat.le_add_left _ _
  rcases closed with rfl | stops | atEnd
  · exact Nat.min_eq_left late
  · unfold stopsAt at stops
    cases hm : st.stopAfter with
    | none =>
      rw [hm] at stops
      cases stops
    | some m =>
      have same : m.val = s.played.length := by simpa [hm] using stops
      rw [Option.map_some, Option.getD_some, same]
      exact Nat.min_eq_right first
  · rw [atEnd, Option.map_some, Option.getD_some, Nat.zero_add]
    exact Nat.min_eq_left late

/-- The commands are used up. -/
theorem Underway.replayed_all (h : Underway st r.keepResults first s summary)
    (goes : ∀ c ∈ s.commands, r.isEnd c = false) :
    Replayed st r (s.commands) first s.played.length s summary where
  toRecounted := h.toRecounted
  played := (List.take_of_length_le (by simp)).symm
  count := h.executed.trans h.length_told
  kept := h.suffix_told
  stopped := by simp [h.stopped]
  ended := by
    have none := findIdx?_of_played goes []
    rw [List.append_nil] at none
    simp [h.ended, none]
  last_of_ended ended := by
    rw [h.ended] at ended
    cases ended
  last_of_played _ n := by
    have last := h.last_command n []
    rwa [List.append_nil] at last
  last_of_none _ n := h.last_first n

/-- The next command finds the session asked to stop. -/
theorem Underway.replayed_stopped (h : Underway st r.keepResults first s summary)
    (asked : s.stopping = true) :
    Replayed st r (s.commands ++ command :: rest) first s.played.length s
      { summary with stopped := true } where
  toRecounted := h.toRecounted.ending s.last s.noted s.world summary.ended true
  played := by simp
  count := h.executed.trans h.length_told
  kept := h.suffix_told
  stopped := by simp [← h.stopping, asked]
  ended := by simp [h.ended]
  last_of_ended ended := by
    rw [h.ended] at ended
    cases ended
  last_of_played _ n := h.last_command n _
  last_of_none _ n := h.last_first n

/-- The next command is the end. -/
theorem Underway.replayed_ended (h : Underway st r.keepResults first s summary) (asked : s.stopping = false)
    (goes : ∀ c ∈ s.commands, r.isEnd c = false) (isEnd : r.isEnd command = true) (time : Moment)
    (world : σ) :
    Replayed st r (s.commands ++ command :: rest) first s.played.length
      (s.noting ⟨command, time⟩ world) { summary with ended := true } where
  toRecounted := h.toRecounted.ending ⟨command, time⟩ _ world true summary.stopped
  played := by simp
  count := h.executed.trans h.length_told
  kept := h.suffix_told
  stopped := by simp [← h.stopping, asked, h.stopped]
  ended := by
    rw [findIdx?_of_played goes]
    simp [List.findIdx?_cons, isEnd, h.stopped]
  last_of_ended _ := by simp [Sitting.noting]
  last_of_played ended := by cases ended
  last_of_none ended := by cases ended

variable (st) in
theorem goes_play (goes : ∀ c ∈ s.commands, r.isEnd c = false) (other : r.isEnd command = false)
    (result : Result) (world after : σ) (time : Moment) :
    ∀ c ∈ (st.telling result
        ((st.playing ⟨command, world⟩ s).noting ⟨command, time⟩ after)).commands,
      r.isEnd c = false := by
  rw [commands_play]
  intro c hc
  rcases List.mem_append.1 hc with hc | hc
  · exact goes c hc
  · rw [List.mem_singleton.1 hc]
    exact other

/-- How a session goes on after a command of a list. -/
def afterCommand (r : ReplaySettings τ) (paced : Bool) (rest : List String) : Turn τ → Session τ Summary
  | .ended summary => pure summary
  | .next p => r.playEach paced rest p

theorem run_playEach_cons (paced : Bool) (p : Progress τ) (s : Sitting τ σ) :
    st.run (r.playEach paced (command :: rest) p) s =
      st.run (onResult (afterCommand r paced rest) (st.run (r.turn paced command p) s).1)
        (st.run (r.turn paced command p) s).2 :=
  run_bind (r.turn paced command p) (afterCommand r paced rest) s

/-- What every command of a list does to a session that goes on. The induction is on the commands that are
left; those before them are the ones that were played. -/
theorem playEach_replayed (paced : Bool) (p : Progress τ)
    (h : Underway st r.keepResults first s p.summary) (goes : ∀ c ∈ s.commands, r.isEnd c = false)
    (returns : ∀ q ∈ (st.run (r.playEach paced rest p) s).2.played,
      ∃ result, (st.outcome q).1 = .ok result) :
    ∃ summary s', st.run (r.playEach paced rest p) s = (.ok summary, s') ∧
      Replayed st r (s.commands ++ rest) first
        (st.extent r (s.commands ++ rest)) s' summary ∧
      s'.completed = s.completed := by
  induction rest generalizing s p with
  | nil =>
    rw [h.extent_eq goes (.inl rfl), List.append_nil]
    exact ⟨p.summary, s, rfl, h.replayed_all goes, rfl⟩
  | cons command rest ih =>
    rw [run_playEach_cons] at returns ⊢
    have step := fetched st r paced command p s
    generalize st.run (r.turn paced command p) s = out at returns step ⊢
    cases step with
    | stopped asked =>
      rw [h.extent_eq goes (.inr (.inl (h.stopping ▸ asked)))]
      exact ⟨_, _, rfl, h.replayed_stopped asked, rfl⟩
    | ended asked isEnd =>
      rw [h.extent_eq goes (.inr (.inr (by simp [List.findIdx?_cons, isEnd])))]
      exact ⟨_, _, rfl, h.replayed_ended asked goes isEnd _ _, rfl⟩
    | @played world result time after start asked other ran =>
      have goes' := goes_play st goes other result world after time
      obtain ⟨summary, s', run, replayed, completed⟩ := ih _ (h.play asked ran time) goes' returns
      rw [commands_play, List.append_assoc, List.singleton_append] at replayed
      exact ⟨summary, s', run, replayed, completed⟩
    | raised ran =>
      obtain ⟨result, ok⟩ := returns _ (List.mem_append_right _ (List.mem_singleton_self _))
      rw [ran] at ok
      cases ok

/-- Nothing is played but what is in the list. -/
theorem mem_of_played {paced : Bool} {p : Progress τ} {q : Playing σ}
    (hq : q ∈ (st.run (r.playEach paced rest p) s).2.played) : q ∈ s.played ∨ q.command ∈ rest := by
  induction rest generalizing s p with
  | nil => exact .inl hq
  | cons command rest ih =>
    rw [run_playEach_cons] at hq
    have first : ∀ q ∈ (st.run (r.turn paced command p) s).2.played,
        q ∈ s.played ∨ q.command ∈ command :: rest := fun _ => mem_of_played_turn
    generalize st.run (r.turn paced command p) s = out at hq first
    rcases out with ⟨_ | _ | _, s₂⟩
    · exact first q hq
    · exact first q hq
    · rcases ih hq with hq | hq
      · exact first q hq
      · exact .inr (List.mem_cons_of_mem _ hq)

section Replay

variable {paced : Bool} {commands : List String} {world : σ} {stopping : Bool} {ticks : List TickOutcome}

theorem run_replay (fits : r.keepResults ≤ ReplaySettings.keepLimit)
    (returns : ∀ q ∈ (st.run (r.replay paced commands) (.before world first stopping ticks)).2.played,
      ∃ result, (st.outcome q).1 = .ok result) :
    ∃ summary s',
      st.run (r.replay paced commands) (.before world first stopping ticks) = (.ok summary, s') ∧
      st.Replayed r commands first (st.extent r commands) s' summary ∧
      s'.running = false ∧ s'.completed = [summary] := by
  unfold ReplaySettings.replay ReplaySettings.keeping at returns ⊢
  rw [if_pos fits] at returns ⊢
  rw [run_drive, Sitting.played_closing] at returns
  obtain ⟨summary, s', run, replayed, completed⟩ :=
    playEach_replayed paced ⟨.empty, none⟩ (underway_before world stopping ticks) (by rintro _ ⟨⟩)
      returns
  rw [run_drive, run]
  exact ⟨summary, _, rfl, replayed.closed false _, rfl, congrArg (· ++ [summary]) completed⟩

/-- Every run comes to a result if every command does, wherever its run finds the world. -/
theorem returns_of_each (fits : r.keepResults ≤ ReplaySettings.keepLimit)
    (each : ∀ c ∈ commands, ∀ w, ∃ result, (st.outcome ⟨c, w⟩).1 = .ok result) :
    ∀ q ∈ (st.run (r.replay paced commands) (.before world first stopping ticks)).2.played,
      ∃ result, (st.outcome q).1 = .ok result := by
  intro q hq
  unfold ReplaySettings.replay ReplaySettings.keeping at hq
  rw [if_pos fits, run_drive, Sitting.played_closing] at hq
  rcases mem_of_played hq with hq | hq
  · cases hq
  · exact each q.command hq q.world

end Replay

end Station

end InputReplay
