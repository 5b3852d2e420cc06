import InputReplay.Proofs.Answers

/-! One tick of a live session. The screen is uploaded, if it can be, with the command that was played last
and the time of that. What comes back is an instruction, or it changes nothing; an upload that cannot be made
or answered leaves the session. -/

namespace InputReplay

open Program

/-- An upload of a picture to a place, with the command that was played last and when. -/
def Carries (b : Backend) (place : String) (upload : List UInt8 × LastAction) (request : HttpRequest) :
    Prop :=
  ∃ url time, b.locate place = .ok url ∧ request = ⟨String.ofList url.text, .form [
    .field "screenshot_timestamp" time,
    .field "last_action" upload.2.command,
    .field "last_action_timestamp" upload.2.time.isoText,
    .file "screenshot" "screenshot.png" "image/png" upload.1]⟩

theorem exists_carries {b : Backend} {place : String} {last : LastAction} {pictures : List (List UInt8)}
    {uploads : List HttpRequest} (carried : List.Forall₂ (Carries b place) (pictures.map (·, last)) uploads) :
    ∀ request ∈ uploads, ∃ picture, Carries b place (picture, last) request := by
  induction pictures generalizing uploads with
  | nil =>
    cases carried
    simp
  | cons picture rest ih =>
    obtain ⟨request, more, carries, others, rfl⟩ := List.forall₂_cons_left_iff.1 carried
    exact List.forall_mem_cons.2 ⟨⟨picture, carries⟩, ih others⟩

/-- A tick is held: the uploads were made at it, and the ones after it are still to come. -/
def Sitting.holding {τ σ : Type} (s : Sitting τ σ) (t : TickOutcome) (later : List TickOutcome) (world : σ)
    (uploads : List HttpRequest) : Sitting τ σ :=
  { s with world, ticks := later, tick? := some t, sent := s.sent ++ uploads }

namespace Station

open Session (Progress Turn)

variable {τ σ : Type} {st : Station τ σ} {r : ReplaySettings τ} [Duration τ] {l : LiveSource τ}
  {s : Sitting τ σ} {b : Backend} {place session : String} {fault : Fault}

theorem run_post_clear (clear : b.obstacle? place (st.reply s) = none) (body : HttpBody) :
    ∃ url, b.locate place = .ok url ∧
      st.run (b.post place body) s = ((Backend.readReply (st.reply s)).mapError Fault.backend,
        { s with sent := s.sent ++ [⟨String.ofList url.text, body⟩] }) := by
  obtain ⟨url, located, there, back⟩ := Backend.obstacle?_eq_none_iff.1 clear
  refine ⟨url, located, ?_⟩
  unfold Backend.post
  rw [located]
  change st.run (Program.ofExcept (url.checkPlace.mapError Backend.badOrigin) >>= fun _ => _) s = _
  rw [there]
  change st.run ((if (st.reply s).isResponse = true then _ else _) : Session τ Value)
    { s with sent := s.sent ++ [⟨String.ofList url.text, body⟩] } = _
  split
  · next answered =>
    rw [back answered]
    rfl
  · rfl

theorem run_post_blocked (blocked : b.obstacle? place (st.reply s) = some fault) (body : HttpBody) :
    ∃ sent, st.run (b.post place body) s = (.error fault, { s with sent := s.sent ++ sent }) ∧
      ∀ request ∈ sent, ∃ url, b.locate place = .ok url ∧ request = ⟨String.ofList url.text, body⟩ := by
  unfold Backend.post
  cases located : b.locate place with
  | error f =>
    rw [Backend.obstacle?_of_locate_error located] at blocked
    cases blocked
    exact ⟨[], by rw [List.append_nil]; rfl, by simp⟩
  | ok url =>
    rw [Backend.obstacle?_of_locate_ok located] at blocked
    change ∃ sent, st.run (Program.ofExcept (url.checkPlace.mapError Backend.badOrigin) >>= fun _ => _) s =
      _ ∧ _
    cases there : url.checkPlace with
    | error f =>
      rw [there] at blocked
      cases blocked
      exact ⟨[], by rw [List.append_nil]; rfl, by simp⟩
    | ok _ =>
      rw [there] at blocked
      change ∃ sent, st.run ((if (st.reply s).isResponse = true then _ else _) : Session τ Value)
        { s with sent := s.sent ++ [⟨String.ofList url.text, body⟩] } = _ ∧ _
      cases answered : (st.reply s).isResponse with
      | false =>
        rw [answered] at blocked
        cases blocked
      | true =>
        rw [answered, if_pos rfl] at blocked
        cases back : url.checkOrigin with
        | ok _ =>
          rw [back] at blocked
          cases blocked
        | error f =>
          rw [back] at blocked
          cases blocked
          exact ⟨_, rfl, by simp⟩

theorem run_startSession_ok {prompt : String} {info : Value}
    (h : (st.run (b.startSession prompt info) s).1 = .ok session) :
    (∃ v, Backend.readReply (st.reply s) = .ok v ∧ Backend.word? v "session_id" = some session) ∧
      ∃ address, st.run (b.startSession prompt info) s = (.ok session, { s with
        sent := s.sent ++
          [⟨address, .json (.object [("prompt", .text prompt), ("frontend_info", info)])⟩] }) := by
  unfold Backend.startSession at h ⊢
  rw [run_bind] at h ⊢
  cases blocked : b.obstacle? "/sessions" (st.reply s) with
  | some fault =>
    obtain ⟨_, run, -⟩ := run_post_blocked blocked _
    rw [run] at h
    cases h
  | none =>
    obtain ⟨url, -, run⟩ := run_post_clear blocked
      (.json (.object [("prompt", .text prompt), ("frontend_info", info)]))
    rw [run] at h ⊢
    cases read : Backend.readReply (st.reply s) with
    | error failure =>
      rw [read] at h
      cases h
    | ok data =>
      rw [read] at h
      dsimp only [Except.mapError, onResult] at h ⊢
      split at h
      · next word =>
        cases h
        exact ⟨⟨data, rfl, word⟩, _, rfl⟩
      · cases h

variable (st l) in
/-- The request that starts a session. -/
def asking (address : String) : HttpRequest :=
  ⟨address, .json (.object [("prompt", .text l.prompt), ("frontend_info", Backend.info st.info)])⟩

theorem run_begin_ok (h : (st.run l.begin s).1 = .ok session) :
    (∃ v, Backend.readReply (st.reply s) = .ok v ∧ Backend.word? v "session_id" = some session) ∧
      ∃ address, st.run l.begin s = (.ok session, { s with
        session? := some session
        sent := s.sent ++ [st.asking l address] }) := by
  unfold LiveSource.begin at h ⊢
  rw [run_bind] at h ⊢
  change (st.run (l.backend.startSession l.prompt (Backend.info st.info) >>= fun _ => _) s).1 = _ at h
  change _ ∧ ∃ address, st.run (l.backend.startSession l.prompt (Backend.info st.info) >>= fun _ => _) s = _
  rw [run_bind] at h ⊢
  cases started : (st.run (l.backend.startSession l.prompt (Backend.info st.info)) s).1 with
  | error fault =>
    rw [started] at h
    cases h
  | ok name =>
    obtain ⟨named, address, run⟩ := run_startSession_ok started
    rw [run] at h ⊢
    cases h
    exact ⟨named, address, rfl⟩

variable {t : TickOutcome} {later : List TickOutcome}

theorem run_capture (tick : s.tick? = some t) : st.run Session.capture s = (.ok t.picture?, s) := by
  change (Except.ok (s.tick?.bind (·.picture?)), s) = _
  rw [tick]
  rfl

omit [Duration τ] in
theorem reply_eq_of_tick (tick : s.tick? = some t) : st.reply s = t.reply := by
  unfold reply
  rw [tick]

variable (st l session) in
/-- The upload of a picture, of which the answer is looked through for an instruction. -/
theorem run_exchange_pictured {picture : List UInt8} (tick : s.tick? = some t)
    (pictured : t.picture? = some picture) :
    ∃ time world, st.run (l.exchange session) s =
      st.run ((l.backend.sendScreenshot session picture s.last.command s.last.time.isoText time).next
        LiveSource.instruction?) { s with world } := by
  refine ⟨(st.today s.world).1.isoText, (st.today s.world).2, ?_⟩
  unfold LiveSource.exchange
  rw [run_bind, run_capture tick, pictured]
  rfl

variable (st) in
/-- At a tick the screen is uploaded, if it can be, and whatever comes of it leaves the rest as it was. -/
theorem run_exchange_clear (tick : s.tick? = some t)
    (clear : t.obstacle? l.backend s!"/sessions/{session}" = none) :
    ∃ world uploads, st.run (l.exchange session) s =
        (.ok t.instruction?, { s with world, sent := s.sent ++ uploads }) ∧
      List.Forall₂ (Carries l.backend s!"/sessions/{session}") (t.picture?.toList.map (·, s.last)) uploads := by
  unfold TickOutcome.instruction?
  cases pictured : t.picture? with
  | none =>
    refine ⟨s.world, [], ?_, .nil⟩
    unfold LiveSource.exchange
    rw [run_bind, run_capture tick, pictured, List.append_nil]
    rfl
  | some picture =>
    obtain ⟨time, world, run⟩ := run_exchange_pictured st l session tick pictured
    have replied : st.reply { s with world } = t.reply := reply_eq_of_tick tick
    rw [TickOutcome.obstacle?_of_pictured pictured, ← replied] at clear
    obtain ⟨url, located, posted⟩ := run_post_clear clear _
    refine ⟨world, _, ?_, .cons ⟨url, time, located, rfl⟩ .nil⟩
    rw [run]
    unfold Backend.sendScreenshot Station.run at *
    rw [Program.run_next, posted, replied]
    cases Backend.readReply t.reply <;> rfl

variable (st) in
/-- An upload that is not made or not answered leaves the session. -/
theorem run_exchange_blocked (tick : s.tick? = some t)
    (blocked : t.obstacle? l.backend s!"/sessions/{session}" = some fault) :
    ∃ world uploads, st.run (l.exchange session) s =
        (.error fault, { s with world, sent := s.sent ++ uploads }) ∧
      ∀ request ∈ uploads, ∃ picture, Carries l.backend s!"/sessions/{session}" (picture, s.last) request := by
  cases pictured : t.picture? with
  | none =>
    rw [TickOutcome.obstacle?_of_unpictured pictured] at blocked
    cases blocked
  | some picture =>
    obtain ⟨time, world, run⟩ := run_exchange_pictured st l session tick pictured
    have replied : st.reply { s with world } = t.reply := reply_eq_of_tick tick
    rw [TickOutcome.obstacle?_of_pictured pictured, ← replied] at blocked
    obtain ⟨kind, reason, rfl⟩ := Backend.host_of_obstacle? blocked
    obtain ⟨uploads, posted, made⟩ := run_post_blocked blocked _
    refine ⟨world, uploads, ?_, fun request hr => ?_⟩
    · rw [run]
      unfold Backend.sendScreenshot Station.run at *
      rw [Program.run_next, posted]
      rfl
    · obtain ⟨url, located, rfl⟩ := made request hr
      exact ⟨picture, url, time, located, rfl⟩

/-- How a session goes on after an instruction. -/
def afterTurn (l : LiveSource τ) (r : ReplaySettings τ) (session : String) (bound : Nat) :
    Turn τ → Session τ Summary
  | .ended summary => pure summary
  | .next p => l.playTicks r session bound p

variable {p : Progress τ} {bound : Nat}

theorem run_playTicks_over (closed : s.stopping = true ∨ s.ticks = []) :
    st.run (l.playTicks r session (bound + 1) p) s =
      (.ok p.summary, { s with world := st.sleep l.interval s.world }) := by
  have waited : st.wait l.interval s = (true, { s with world := st.sleep l.interval s.world }) := by
    unfold wait
    rcases closed with asked | none
    · exact if_pos asked
    · dsimp only
      rw [none, ite_self]
  unfold LiveSource.playTicks
  rw [run_bind]
  change st.run (if (st.wait l.interval s).1 = true then _ else _) (st.wait l.interval s).2 = _
  rw [waited]
  rfl

omit [Duration τ] in
/-- The flag is down and a tick comes. -/
theorem wait_tick (goes : s.stopping = false) (ticks : s.ticks = t :: later) (time : τ) :
    st.wait time s = (false, { s with world := st.sleep time s.world, ticks := later, tick? := some t }) := by
  unfold wait
  refine (if_neg (by simp [goes])).trans ?_
  dsimp only
  rw [ticks]

/-- Once a tick has come, it is left to the exchange whether there is a command to go on with. -/
theorem run_playTicks_wait (goes : s.stopping = false) (ticks : s.ticks = t :: later) :
    st.run (l.playTicks r session (bound + 1) p) s =
      st.run (l.exchange session >>= fun command? => command?.elim (l.playTicks r session bound p)
          fun command => r.turn false command p >>= afterTurn l r session bound)
        { s with world := st.sleep l.interval s.world, ticks := later, tick? := some t } := by
  rw [LiveSource.playTicks, run_bind]
  change st.run (if (st.wait l.interval s).1 = true then _ else _) (st.wait l.interval s).2 = _
  rw [wait_tick goes ticks]
  refine congrArg (fun rest => st.run (l.exchange session >>= rest) _) (funext fun command? => ?_)
  cases command? <;> rfl

variable (st r p bound) in
/-- What comes of a tick decides how the session goes on. -/
theorem run_playTicks_tick (clear : t.obstacle? l.backend s!"/sessions/{session}" = none)
    (goes : s.stopping = false) (ticks : s.ticks = t :: later) :
    ∃ world uploads,
      List.Forall₂ (Carries l.backend s!"/sessions/{session}") (t.picture?.toList.map (·, s.last)) uploads ∧
      st.run (l.playTicks r session (bound + 1) p) s =
        st.run (t.instruction?.elim (l.playTicks r session bound p)
          fun command => r.turn false command p >>= afterTurn l r session bound)
          (s.holding t later world uploads) := by
  let s₁ : Sitting τ σ := { s with world := st.sleep l.interval s.world, ticks := later, tick? := some t }
  have tick : s₁.tick? = some t := rfl
  obtain ⟨world, uploads, exchanged, carried⟩ := run_exchange_clear st tick clear
  refine ⟨world, uploads, carried, ?_⟩
  rw [run_playTicks_wait goes ticks, run_bind, exchanged]
  rfl

variable (st r p bound) in
/-- A fault of an upload leaves the session. -/
theorem run_playTicks_blocked (blocked : t.obstacle? l.backend s!"/sessions/{session}" = some fault)
    (goes : s.stopping = false) (ticks : s.ticks = t :: later) :
    ∃ world uploads, st.run (l.playTicks r session (bound + 1) p) s =
        (.error fault, s.holding t later world uploads) ∧
      ∀ request ∈ uploads, ∃ picture, Carries l.backend s!"/sessions/{session}" (picture, s.last) request := by
  let s₁ : Sitting τ σ := { s with world := st.sleep l.interval s.world, ticks := later, tick? := some t }
  have tick : s₁.tick? = some t := rfl
  obtain ⟨world, uploads, exchanged, carried⟩ := run_exchange_blocked st tick blocked
  refine ⟨world, uploads, ?_, carried⟩
  rw [run_playTicks_wait goes ticks, run_bind, exchanged]
  rfl

end Station

end InputReplay
