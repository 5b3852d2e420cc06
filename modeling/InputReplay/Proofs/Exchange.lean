import InputReplay.Proofs.Tick

/-! What a live session does from one tick to the next. The instructions that come are played in order, each
upload carries the action before it, and the ticks end with the session or at an upload that leaves it. -/

namespace InputReplay

open Program

/-- The instructions that come of ticks, in order. -/
def instructions (ticks : List TickOutcome) : List String := ticks.filterMap (·.instruction?)

/-- The uploads that are due at ticks: each picture with the last action there is by then. At every
instruction another action is noted. -/
def due (last : LastAction) : List TickOutcome → List LastAction → List (List UInt8 × LastAction)
  | [], _ => []
  | t :: rest, noted =>
    t.picture?.toList.map (·, last) ++
      match t.instruction?, noted with
      | some _, action :: more => due action rest more
      | _, _ => due last rest noted

section Cons

variable {t : TickOutcome} {rest : List TickOutcome} {command : String} {last action : LastAction}
  {noted : List LastAction}

theorem instructions_cons_none (h : t.instruction? = none) :
    instructions (t :: rest) = instructions rest := List.filterMap_cons_none h

theorem instructions_cons_some (h : t.instruction? = some command) :
    instructions (t :: rest) = command :: instructions rest := List.filterMap_cons_some h

theorem due_cons_none (h : t.instruction? = none) :
    due last (t :: rest) noted = t.picture?.toList.map (·, last) ++ due last rest noted := by
  simp only [due, h]

theorem due_cons_some (h : t.instruction? = some command) :
    due last (t :: rest) (action :: noted) = t.picture?.toList.map (·, last) ++ due action rest noted := by
  simp only [due, h]

/-- There is one upload for each picture. -/
theorem length_due (last : LastAction) (ticks : List TickOutcome) (noted : List LastAction) :
    (due last ticks noted).length = ticks.countP (·.picture?.isSome) := by
  induction ticks generalizing last noted with
  | nil => rfl
  | cons t rest ih =>
    have pictures : (t.picture?.toList.map (·, last)).length = if t.picture?.isSome then 1 else 0 := by
      cases t.picture? <;> rfl
    rw [List.countP_cons, Nat.add_comm, ← pictures]
    cases h : t.instruction? with
    | none => rw [due_cons_none h, List.length_append, ih]
    | some command =>
      cases noted with
      | nil => simp only [due, h, List.length_append, ih]
      | cons action more => rw [due_cons_some h, List.length_append, ih]

end Cons

namespace ReplaySettings

variable {τ : Type} (r : ReplaySettings τ)

def dispatched (ticks : List TickOutcome) : List String :=
  (instructions ticks).takeWhile fun c => !r.isEnd c

variable {r} {t : TickOutcome} {rest : List TickOutcome} {command : String}

theorem dispatched_cons_none (h : t.instruction? = none) : r.dispatched (t :: rest) = r.dispatched rest := by
  unfold dispatched
  rw [instructions_cons_none h]

theorem dispatched_cons_end (h : t.instruction? = some command) (isEnd : r.isEnd command = true) :
    r.dispatched (t :: rest) = [] := by
  unfold dispatched
  rw [instructions_cons_some h, List.takeWhile_cons_of_neg (by simp [isEnd])]

theorem dispatched_cons_goes (h : t.instruction? = some command) (other : r.isEnd command = false) :
    r.dispatched (t :: rest) = command :: r.dispatched rest := by
  unfold dispatched
  rw [instructions_cons_some h, List.takeWhile_cons_of_pos (by simp [other])]

end ReplaySettings

namespace Station

open Session (Progress Turn)

variable {τ σ : Type} (st : Station τ σ) (r : ReplaySettings τ)

/-- Whether a session that has told of `told` results is over after some more ticks: they brought the end,
or the last result that is to be told. -/
def Over (told : Nat) (ticks : List TickOutcome) : Prop :=
  (∃ c ∈ instructions ticks, r.isEnd c = true) ∨ st.stopsAt (told + (r.dispatched ticks).length) = true

instance (told : Nat) (ticks : List TickOutcome) : Decidable (st.Over r told ticks) :=
  inferInstanceAs (Decidable (_ ∨ _))

section Over

variable {st r} {told : Nat} {t : TickOutcome} {rest : List TickOutcome} {command : String}

theorem over_nil : st.Over r told [] ↔ st.stopsAt told = true := by
  simp [Over, instructions, ReplaySettings.dispatched]

theorem over_cons_none (h : t.instruction? = none) : st.Over r told (t :: rest) ↔ st.Over r told rest := by
  unfold Over
  rw [instructions_cons_none h, ReplaySettings.dispatched_cons_none h]

theorem over_cons_end (h : t.instruction? = some command) (isEnd : r.isEnd command = true) :
    st.Over r told (t :: rest) := by
  refine .inl ⟨command, ?_, isEnd⟩
  rw [instructions_cons_some h]
  exact List.mem_cons_self

theorem over_cons_goes (h : t.instruction? = some command) (other : r.isEnd command = false) :
    st.Over r told (t :: rest) ↔ st.Over r (told + 1) rest := by
  unfold Over
  have count : told + ((r.dispatched rest).length + 1) = told + 1 + (r.dispatched rest).length := by omega
  rw [instructions_cons_some h, ReplaySettings.dispatched_cons_goes h other, List.length_cons, count]
  simp [other]

/-- Ticks that go on from another are held for as long as the session is not over. -/
theorem not_over_cons {told' : Nat} (going : ¬ st.Over r told [])
    (step : ∀ ticks, st.Over r told (t :: ticks) ↔ st.Over r told' ticks)
    (early : ∀ i < rest.length, ¬ st.Over r told' (rest.take i)) :
    ∀ i < (t :: rest).length, ¬ st.Over r told ((t :: rest).take i) := by
  intro i hi
  cases i with
  | zero => exact going
  | succ i =>
    rw [List.take_succ_cons, step]
    exact early i (Nat.lt_of_succ_lt_succ hi)

/-- Which ticks are held is settled by where the session is over first. -/
theorem held_eq_take {ticks held left : List TickOutcome} {n : Nat} (split : ticks = held ++ left)
    (early : ∀ i < held.length, ¬ st.Over r told (held.take i)) (closed : left ≠ [] → st.Over r told held)
    (going : ∀ i < n, ¬ st.Over r told (ticks.take i)) (inside : n < ticks.length)
    (last : st.Over r told (ticks.take n)) : held = ticks.take n := by
  have taken : held = ticks.take held.length := by rw [split, List.take_left]
  rcases Nat.lt_trichotomy held.length n with short | same | long
  · have more : left ≠ [] := by
      rintro rfl
      rw [split, List.append_nil] at inside
      omega
    have now := closed more
    rw [taken] at now
    exact absurd now (going _ short)
  · rwa [same] at taken
  · refine absurd last ?_
    rw [split, List.take_append_of_le_length (Nat.le_of_lt long)]
    exact early n long

end Over

variable {st r} [Duration τ] {l : LiveSource τ} {s s' : Sitting τ σ} {b : Backend} {place session : String}

variable (st r) in
/-- What a live session did at ticks, from one place of it to another. -/
structure Exchanged (b : Backend) (place : String) (s : Sitting τ σ) (held : List TickOutcome) (s' : Sitting τ σ)
    (summary : Summary) : Prop extends Recounted st r.keepResults s' summary where
  commands : s'.commands = s.commands ++ r.dispatched held
  exchanged : ∃ noted sent, s'.noted = s.noted ++ noted ∧ s'.sent = s.sent ++ sent ∧
    noted.map (·.command) = instructions held ∧ List.Forall₂ (Carries b place) (due s.last held noted) sent
  completed : s'.completed = s.completed
  ended : summary.ended = true ↔ ∃ c ∈ instructions held, r.isEnd c = true
  stopped : summary.stopped = false

section Steps

variable {first : LastAction} {summary : Summary} {held rest : List TickOutcome} {t : TickOutcome}
  {command : String} {world : σ} {later : List TickOutcome} {uploads : List HttpRequest}

/-- No tick is held. -/
theorem Underway.exchanged_none (h : Underway st r.keepResults first s summary) (world : σ) :
    Exchanged st r b place s [] { s with world } summary where
  made := h.made
  told := h.told
  executed := h.executed
  failed := h.failed
  results := h.results
  commands := (List.append_nil _).symm
  exchanged := ⟨[], [], (List.append_nil _).symm, (List.append_nil _).symm, rfl, .nil⟩
  completed := rfl
  ended := by simp [h.ended, instructions]
  stopped := h.stopped

/-- A tick before the others brings no instruction. -/
theorem Exchanged.idle (none : t.instruction? = none)
    (carried : List.Forall₂ (Carries b place) (t.picture?.toList.map (·, s.last)) uploads)
    (h : Exchanged st r b place (s.holding t later world uploads) held s' summary) :
    Exchanged st r b place s (t :: held) s' summary where
  toRecounted := h.toRecounted
  commands := by
    rw [h.commands, ReplaySettings.dispatched_cons_none none]
    rfl
  exchanged := by
    obtain ⟨noted, sent, hn, hs, named, more⟩ := h.exchanged
    refine ⟨noted, uploads ++ sent, hn, hs.trans (List.append_assoc ..), ?_, ?_⟩
    · rw [instructions_cons_none none, named]
    · rw [due_cons_none none]
      exact List.rel_append carried more
  completed := h.completed
  ended := by rw [h.ended, instructions_cons_none none]
  stopped := h.stopped

/-- A tick before the others brings an instruction, which is played. -/
theorem Exchanged.play {next : Sitting τ σ} {action : LastAction}
    (h : Exchanged st r b place next held s' summary) (some' : t.instruction? = some command)
    (other : r.isEnd command = false)
    (carried : List.Forall₂ (Carries b place) (t.picture?.toList.map (·, s.last)) uploads)
    (commands : next.commands = s.commands ++ [command]) (noted : next.noted = s.noted ++ [action])
    (sent : next.sent = s.sent ++ uploads) (last : next.last = action) (named : action.command = command)
    (completed : next.completed = s.completed) : Exchanged st r b place s (t :: held) s' summary where
  toRecounted := h.toRecounted
  commands := by
    rw [h.commands, commands, ReplaySettings.dispatched_cons_goes some' other, List.append_assoc]
    rfl
  exchanged := by
    obtain ⟨noted', sent', hn, hs, named', more⟩ := h.exchanged
    refine ⟨action :: noted', uploads ++ sent', ?_, ?_, ?_, ?_⟩
    · rw [hn, noted, List.append_assoc]
      rfl
    · rw [hs, sent, List.append_assoc]
    · rw [instructions_cons_some some', List.map_cons, named, named']
    · rw [due_cons_some some']
      rw [last] at more
      exact List.rel_append carried more
  completed := h.completed.trans completed
  ended := by
    rw [h.ended, instructions_cons_some some']
    simp [other]
  stopped := h.stopped

/-- The only tick brings the end. -/
theorem Underway.exchanged_end {action : LastAction} (h : Underway st r.keepResults first s summary)
    (some' : t.instruction? = some command) (isEnd : r.isEnd command = true)
    (carried : List.Forall₂ (Carries b place) (t.picture?.toList.map (·, s.last)) uploads)
    (named : action.command = command) (world after : σ) :
    Exchanged st r b place s [t] ((s.holding t later world uploads).noting action after)
      { summary with ended := true } where
  made := h.made
  told := h.told
  executed := h.executed
  failed := h.failed
  results := h.results
  commands := by
    rw [ReplaySettings.dispatched_cons_end some' isEnd, List.append_nil]
    rfl
  exchanged := by
    refine ⟨[action], uploads, rfl, rfl, ?_, ?_⟩
    · rw [instructions_cons_some some', List.map_singleton, named]
      rfl
    · rw [due_cons_some some', due, List.append_nil]
      exact carried
  completed := rfl
  ended := by
    rw [instructions_cons_some some']
    simp [isEnd]
  stopped := h.stopped

end Steps

/-- What the ticks do to a session that goes on. The induction is on the bound, with which the ticks that
are left go down. -/
theorem playTicks_exchanged {first : LastAction} (bound : Nat) (p : Progress τ)
    (h : Underway st r.keepResults first s p.summary)
    (clear : ∀ t ∈ s.ticks, t.obstacle? l.backend s!"/sessions/{session}" = none)
    (enough : s.ticks.length ≤ bound)
    (returns : ∀ q ∈ (st.run (l.playTicks r session bound p) s).2.played,
      ∃ result, (st.outcome q).1 = .ok result) :
    ∃ summary s' held rest, st.run (l.playTicks r session bound p) s = (.ok summary, s') ∧
      s.ticks = held ++ rest ∧ Exchanged st r l.backend s!"/sessions/{session}" s held s' summary ∧
      (∀ i < held.length, ¬ st.Over r s.played.length (held.take i)) ∧
      (rest ≠ [] → st.Over r s.played.length held) := by
  induction bound generalizing s p with
  | zero =>
    have none : s.ticks = [] := List.eq_nil_of_length_eq_zero (Nat.le_zero.1 enough)
    exact ⟨p.summary, s, [], [], rfl, none, h.exchanged_none s.world, by simp, by simp⟩
  | succ bound ih =>
    cases asked : s.stopping with
    | true =>
      refine ⟨p.summary, _, [], s.ticks, run_playTicks_over (.inl asked), rfl, h.exchanged_none _, by simp,
        fun _ => over_nil.2 ?_⟩
      rw [← h.stopping, asked]
    | false =>
      cases ticks : s.ticks with
      | nil =>
        exact ⟨p.summary, _, [], [], run_playTicks_over (.inr ticks), rfl, h.exchanged_none _, by simp,
          by simp⟩
      | cons t later =>
        have going : ¬ st.Over r s.played.length [] := by
          rw [over_nil, ← h.stopping, asked]
          simp
        have enough : later.length ≤ bound := by
          rw [ticks] at enough
          exact Nat.le_of_succ_le_succ enough
        rw [ticks] at clear
        obtain ⟨now, clear⟩ := List.forall_mem_cons.1 clear
        obtain ⟨world, uploads, carried, run⟩ := run_playTicks_tick st r p bound now asked ticks
        have h₂ := h.frame world later (some t) s.session? (s.sent ++ uploads)
        rw [run] at returns ⊢
        cases instruction : t.instruction? with
        | none =>
          rw [instruction] at returns
          obtain ⟨summary, s', held, rest, run, split, more, early, closed⟩ := ih p h₂ clear enough returns
          refine ⟨summary, s', t :: held, rest, run, congrArg (t :: ·) split,
            more.idle instruction carried, ?_, ?_⟩
          · exact not_over_cons going (fun _ => over_cons_none instruction) early
          · exact fun left => (over_cons_none instruction).2 (closed left)
        | some command =>
          rw [instruction, Option.elim_some, run_bind] at returns
          rw [Option.elim_some, run_bind]
          have step := fetched st r false command p (s.holding t later world uploads)
          generalize st.run (r.turn false command p) (s.holding t later world uploads) = out at returns step ⊢
          cases step with
          | stopped asked' => exact absurd (asked.symm.trans asked') (by simp)
          | @ended time after _ isEnd =>
            refine ⟨_, _, [t], later, rfl, rfl, h.exchanged_end instruction isEnd carried rfl world after,
              ?_, fun _ => over_cons_end instruction isEnd⟩
            intro i hi
            obtain rfl : i = 0 := Nat.lt_one_iff.1 hi
            exact going
          | @played before result time after start _ other ran =>
            obtain ⟨summary, s', held, rest, run, split, more, early, closed⟩ :=
              ih _ (h₂.play asked ran time) clear enough returns
            have count : (s.played ++ [(⟨command, before⟩ : Playing σ)]).length = s.played.length + 1 :=
              List.length_append
            refine ⟨summary, s', t :: held, rest, run, congrArg (t :: ·) split,
              more.play instruction other carried (commands_play ..) rfl rfl rfl rfl rfl, ?_, ?_⟩
            · exact not_over_cons going (fun _ => over_cons_goes instruction other) (count ▸ early)
            · exact fun left => (over_cons_goes instruction other).2 (count ▸ closed left)
          | raised ran =>
            obtain ⟨result, ok⟩ := returns _ (List.mem_append_right _ (List.mem_singleton_self _))
            rw [ran] at ok
            cases ok

variable (st r) in
/-- A tick whose upload leaves the session is the first to do anything: before it no instruction came, as
none does from where uploads are not answered. -/
theorem playTicks_blocked {before later : List TickOutcome} {t : TickOutcome} {fault : Fault} (bound : Nat)
    (p : Progress τ) (goes : s.stopping = false) (split : s.ticks = before ++ t :: later)
    (enough : s.ticks.length ≤ bound)
    (clear : ∀ t ∈ before, t.obstacle? l.backend s!"/sessions/{session}" = none)
    (blocked : t.obstacle? l.backend s!"/sessions/{session}" = some fault) :
    ∃ world uploads, st.run (l.playTicks r session bound p) s =
        (.error fault, s.holding t later world uploads) ∧
      ∀ request ∈ uploads, ∃ picture, Carries l.backend s!"/sessions/{session}" (picture, s.last) request := by
  induction before generalizing s bound with
  | nil =>
    rw [split] at enough
    obtain ⟨bound, rfl⟩ := Nat.exists_eq_add_one.2 (Nat.lt_of_lt_of_le (Nat.zero_lt_succ _) enough)
    exact run_playTicks_blocked st r p bound blocked goes split
  | cons t₀ before ih =>
    obtain ⟨now, clear⟩ := List.forall_mem_cons.1 clear
    have silent : t₀.instruction? = none := by
      cases instruction : t₀.instruction? with
      | none => rfl
      | some command =>
        rw [TickOutcome.clear_of_instruction now instruction t] at blocked
        cases blocked
    rw [split] at enough
    obtain ⟨bound, rfl⟩ := Nat.exists_eq_add_one.2 (Nat.lt_of_lt_of_le (Nat.zero_lt_succ _) enough)
    obtain ⟨world, uploads, carried, run⟩ := run_playTicks_tick st r p bound now goes split
    obtain ⟨world', more, left, others⟩ := ih (s := s.holding t₀ (before ++ t :: later) world uploads) bound
      goes rfl (Nat.le_of_succ_le_succ enough) clear
    refine ⟨world', uploads ++ more, ?_, List.forall_mem_append.2 ⟨exists_carries carried, others⟩⟩
    rw [run, silent]
    refine left.trans ?_
    unfold Sitting.holding
    rw [List.append_assoc]

end Station

end InputReplay
