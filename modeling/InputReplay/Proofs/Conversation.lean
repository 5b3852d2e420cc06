import InputReplay.Proofs.Exchange

/-! A live session plays what the backend tells it to. At each tick it uploads the screen, if it can, with
the command that was played last and the time of that; what comes back is an instruction or changes
nothing. Nothing is uploaded any more once the end has come or the session is asked to stop. A session whose
uploads have nowhere to go is left at the first of them. -/

namespace InputReplay

open Program

namespace Station

open Session (Progress Turn)

variable {τ σ : Type} {st : Station τ σ} {r : ReplaySettings τ} [Duration τ] {l : LiveSource τ}
  {s : Sitting τ σ} {session : String}

/-- What a live session did in which some ticks were held. The first request started the session; there is
an upload for each picture after that, which carries the action that was noted last. -/
structure Conversed (st : Station τ σ) (l : LiveSource τ) (r : ReplaySettings τ) (session : String)
    (first : LastAction) (held : List TickOutcome) (s : Sitting τ σ) (summary : Summary) : Prop
    extends Recounted st r.keepResults s summary where
  named : st.opening.Holds "session_id" session
  brought : ∀ t ∈ held, ∀ command,
    t.instruction? = some command ↔ t.picture? ≠ none ∧ t.reply.Holds "next_action" command
  commands : s.commands = r.dispatched held
  noted : s.noted.map (·.command) = instructions held
  sent : ∃ address uploads,
    s.sent = st.asking l address :: uploads ∧
    uploads.length = held.countP (·.picture?.isSome) ∧
    List.Forall₂ (Carries l.backend s!"/sessions/{session}") (due first held s.noted) uploads
  ended : summary.ended = true ↔ ∃ c ∈ instructions held, r.isEnd c = true
  stopped : summary.stopped = false
  running : s.running = false
  completed : s.completed = [summary]

section Hold

variable {first : LastAction} {world : σ} {stopping : Bool} {ticks : List TickOutcome} {bound : Nat}

theorem run_hold {s₁ : Sitting τ σ} (fits : r.keepResults ≤ ReplaySettings.keepLimit)
    (began : st.run l.begin s.started = (.ok session, s₁)) :
    st.run (l.hold r bound) s =
      Sitting.closing (st.run (l.playTicks r session bound ⟨.empty, none⟩) s₁) := by
  have whole : st.run (l.begin >>= fun session => l.playTicks r session bound ⟨.empty, none⟩) s.started =
      st.run (l.playTicks r session bound ⟨.empty, none⟩) s₁ := by
    rw [run_bind, began]
    rfl
  unfold LiveSource.hold ReplaySettings.keeping
  rw [if_pos fits, run_drive, whole]

/-- A live session is what is exchanged at its ticks, between its start and its end. -/
theorem hold_exchanged (fits : r.keepResults ≤ ReplaySettings.keepLimit)
    (begins : (st.run l.begin (Sitting.before world first stopping ticks).started).1 = .ok session)
    (clear : ∀ t ∈ ticks, t.obstacle? l.backend s!"/sessions/{session}" = none)
    (enough : ticks.length ≤ bound)
    (returns : ∀ q ∈ (st.run (l.hold r bound) (.before world first stopping ticks)).2.played,
      ∃ result, (st.outcome q).1 = .ok result) :
    ∃ address summary s' held rest,
      st.run (l.hold r bound) (.before world first stopping ticks) =
        (.ok summary, { s' with running := false, completed := s'.completed ++ [summary] }) ∧
      ticks = held ++ rest ∧
      Exchanged st r l.backend s!"/sessions/{session}"
        { (Sitting.before world first stopping ticks).started with
          session? := some session
          sent := [st.asking l address] } held s' summary ∧
      (∀ i < held.length, ¬ st.Over r 0 (held.take i)) ∧ (rest ≠ [] → st.Over r 0 held) := by
  obtain ⟨-, address, began⟩ := run_begin_ok begins
  rw [run_hold fits began, Sitting.played_closing] at returns
  obtain ⟨summary, s', held, rest, run, split, more, early, closed⟩ :=
    playTicks_exchanged bound ⟨.empty, none⟩
      ((underway_before world stopping ticks).frame world ticks none (some session) [_]) clear enough returns
  refine ⟨address, summary, s', held, rest, ?_, split, more, early, closed⟩
  rw [run_hold fits began]
  exact congrArg Sitting.closing run

/-- A live session that is left at an upload has done nothing but ask the backend. -/
theorem hold_blocked {before later : List TickOutcome} {t : TickOutcome} {fault : Fault}
    (fits : r.keepResults ≤ ReplaySettings.keepLimit)
    (begins : (st.run l.begin (Sitting.before world first stopping ticks).started).1 = .ok session)
    (enough : ticks.length ≤ bound) (split : ticks = before ++ t :: later)
    (clear : ∀ t ∈ before, t.obstacle? l.backend s!"/sessions/{session}" = none)
    (blocked : t.obstacle? l.backend s!"/sessions/{session}" = some fault) :
    ∃ world' address uploads, st.run (l.hold r bound) (.before world first stopping ticks) =
        (.error fault, { Sitting.before world' first false later with
          session? := some session
          tick? := some t
          sent := st.asking l address :: uploads }) ∧
      ∀ request ∈ uploads, ∃ picture, Carries l.backend s!"/sessions/{session}" (picture, first) request := by
  obtain ⟨-, address, began⟩ := run_begin_ok begins
  obtain ⟨world', uploads, left, carried⟩ :=
    playTicks_blocked st r (s := { (Sitting.before world first stopping ticks).started with
      session? := some session
      sent := [st.asking l address] }) bound ⟨.empty, none⟩ rfl split enough clear blocked
  rw [run_hold fits began]
  exact ⟨world', address, uploads, congrArg Sitting.closing left, carried⟩

/-- A session whose name makes no address is left at its first picture, and nothing is uploaded. -/
theorem hold_nameless {before later : List TickOutcome} {t : TickOutcome} {f : UrlFault}
    (fits : r.keepResults ≤ ReplaySettings.keepLimit)
    (begins : (st.run l.begin (Sitting.before world first stopping ticks).started).1 = .ok session)
    (enough : ticks.length ≤ bound) (split : ticks = before ++ t :: later)
    (nameless : l.backend.locate s!"/sessions/{session}" = .error f)
    (unseen : ∀ t ∈ before, t.picture? = none) (seen : t.picture? ≠ none) :
    ∃ world' address, st.run (l.hold r bound) (.before world first stopping ticks) =
      (.error (Backend.invalidUrl f), { Sitting.before world' first false later with
        session? := some session
        tick? := some t
        sent := [st.asking l address] }) := by
  have clear : ∀ t ∈ before, t.obstacle? l.backend s!"/sessions/{session}" = none :=
    fun t ht => TickOutcome.obstacle?_of_unpictured (unseen t ht)
  have blocked : t.obstacle? l.backend s!"/sessions/{session}" = some (Backend.invalidUrl f) := by
    obtain ⟨picture, taken⟩ := Option.ne_none_iff_exists'.1 seen
    rw [TickOutcome.obstacle?_of_pictured taken, Backend.obstacle?_of_locate_error nameless]
  obtain ⟨world', address, uploads, left, carried⟩ := hold_blocked fits begins enough split clear blocked
  have none : uploads = [] := by
    refine List.eq_nil_iff_forall_not_mem.2 fun request hr => ?_
    obtain ⟨_, _, _, located, -⟩ := carried request hr
    rw [nameless] at located
    cases located
  subst none
  exact ⟨world', address, left⟩

/-- Nothing is played but what the ticks bring. -/
theorem mem_of_played_ticks {p : Progress τ} {q : Playing σ}
    (hq : q ∈ (st.run (l.playTicks r session bound p) s).2.played) :
    q ∈ s.played ∨ q.command ∈ instructions s.ticks := by
  induction bound generalizing s p with
  | zero => exact .inl hq
  | succ bound ih =>
    cases asked : s.stopping with
    | true =>
      rw [run_playTicks_over (.inl asked)] at hq
      exact .inl hq
    | false =>
      cases ticks : s.ticks with
      | nil =>
        rw [run_playTicks_over (.inr ticks)] at hq
        exact .inl hq
      | cons t later =>
        cases blocked : t.obstacle? l.backend s!"/sessions/{session}" with
        | some fault =>
          obtain ⟨world, uploads, run, -⟩ := run_playTicks_blocked st r p bound blocked asked ticks
          rw [run] at hq
          exact .inl hq
        | none =>
          obtain ⟨world, uploads, -, run⟩ := run_playTicks_tick st r p bound blocked asked ticks
          rw [run] at hq
          cases instruction : t.instruction? with
          | none =>
            rw [instruction] at hq
            rw [instructions_cons_none instruction]
            exact ih hq
          | some command =>
            rw [instruction, Option.elim_some, run_bind] at hq
            rw [instructions_cons_some instruction]
            have first : ∀ q ∈ (st.run (r.turn false command p) (s.holding t later world uploads)).2.played,
                q ∈ s.played ∨ q.command ∈ command :: instructions later := fun _ => mem_of_played_turn
            have ticks₂ : (st.run (r.turn false command p) (s.holding t later world uploads)).2.ticks = later :=
              ticks_turn ..
            generalize st.run (r.turn false command p) (s.holding t later world uploads) = out
              at hq first ticks₂
            rcases out with ⟨_ | _ | _, s₂⟩
            · exact first q hq
            · exact first q hq
            · rcases ih hq with hq | hq
              · exact first q hq
              · exact .inr (List.mem_cons_of_mem _ (ticks₂ ▸ hq))

end Hold

/-- A live session has started, and no text that counts in a reply has a code without a character. If every
upload is made and answered, the ticks are held, one after another, until one has brought the end or the last
result was told that there is to be. If not, the first upload that is not leaves the session with a fault that
is no failure of the backend, and nothing has been played. Replies may be nested to any depth; a host that
runs out of room for one, which would leave the session too, is not among these. -/
theorem hold_conversed_iff (st : Station τ σ) (l : LiveSource τ) (r : ReplaySettings τ)
    (ticks : List TickOutcome) (bound : Nat) (world : σ) (first : LastAction) (stopping : Bool)
    (session : String)
    (fits : r.keepResults ≤ ReplaySettings.keepLimit)
    (begins : (st.run l.begin (Sitting.before world first stopping ticks).started).1 = .ok session)
    (whole : st.opening.isWholeAt "session_id" = true ∧
      ∀ t ∈ ticks, t.reply.isWholeAt "next_action" = true)
    (enough : ticks.length ≤ bound)
    (returns : ∀ q ∈ (st.run (l.hold r bound) (.before world first stopping ticks)).2.played,
      ∃ result, (st.outcome q).1 = .ok result) :
    ((∃ summary s' held rest,
      st.run (l.hold r bound) (.before world first stopping ticks) = (.ok summary, s') ∧
      ticks = held ++ rest ∧ Conversed st l r session first held s' summary ∧
      (∀ i < held.length, ¬ st.Over r 0 (held.take i)) ∧ (rest ≠ [] → st.Over r 0 held)) ↔
        ∀ t ∈ ticks, t.obstacle? l.backend s!"/sessions/{session}" = none) ∧
    ∀ before t later fault, ticks = before ++ t :: later →
      (∀ t ∈ before, t.obstacle? l.backend s!"/sessions/{session}" = none) →
      t.obstacle? l.backend s!"/sessions/{session}" = some fault →
      ∃ world' address uploads, st.run (l.hold r bound) (.before world first stopping ticks) =
          (.error fault, { Sitting.before world' first false later with
            session? := some session
            tick? := some t
            sent := st.asking l address :: uploads }) ∧
        ∀ request ∈ uploads, ∃ picture, Carries l.backend s!"/sessions/{session}" (picture, first) request := by
  refine ⟨⟨?_, fun clear => ?_⟩,
    fun before t later fault split clear blocked => hold_blocked fits begins enough split clear blocked⟩
  · rintro ⟨summary, s', -, -, run, -⟩ t ht
    by_contra obstacle
    -- the first obstacle would have left the session
    have some' : ∃ t ∈ ticks, (t.obstacle? l.backend s!"/sessions/{session}").isSome = true :=
      ⟨t, ht, Option.isSome_iff_ne_none.2 obstacle⟩
    obtain ⟨t₀, first'⟩ := Option.isSome_iff_exists.1 (List.find?_isSome.2 some')
    obtain ⟨blocked, before, later, split, clear⟩ := List.find?_eq_some_iff_append.1 first'
    obtain ⟨fault, blocked⟩ := Option.isSome_iff_exists.1 blocked
    have clear : ∀ t ∈ before, t.obstacle? l.backend s!"/sessions/{session}" = none :=
      fun t ht => by simpa using clear t ht
    obtain ⟨_, _, _, left, -⟩ := hold_blocked (r := r) fits begins enough split clear blocked
    rw [run] at left
    cases left
  · obtain ⟨⟨v, read, word⟩, -⟩ := run_begin_ok begins
    obtain ⟨address, summary, s', held, rest, run, split, more, early, closed⟩ :=
      hold_exchanged fits begins clear enough returns
    obtain ⟨noted, sent, hn, hs, named, carried⟩ := more.exchanged
    have hn : s'.noted = noted := hn
    have brought : ∀ t ∈ held, t.reply.isWholeAt "next_action" = true :=
      fun t ht => whole.2 t (split ▸ List.mem_append_left rest ht)
    exact ⟨summary, _, held, rest, run, split, {
      made := more.made
      told := more.told
      executed := more.executed
      failed := more.failed
      results := more.results
      named := (HttpReply.holds_iff_word? whole.1).2 ⟨v, read, word⟩
      brought := fun t ht _ => TickOutcome.instruction?_eq_some_iff (brought t ht)
      commands := more.commands
      noted := (congrArg _ hn).trans named
      sent := ⟨address, sent, hs, carried.length_eq.symm.trans (length_due ..), hn ▸ carried⟩
      ended := more.ended
      stopped := more.stopped
      running := rfl
      completed := congrArg (· ++ [summary]) more.completed }, early, closed⟩

/-- A backend that is asked at an address without a number behind its host. -/
def plainSource : LiveSource Binary64 where
  backend.address := "http://backend.test"
  backend.base.scheme := "http".toList
  backend.base.user := []
  backend.base.host := "backend.test".toList
  backend.base.portNumber := none
  backend.base.path := ['/']
  backend.base.query := none
  backend.base.fragment := none
  prompt := "tidy up"
  interval := .zero

def plainName : String := "s"

def namingReply : HttpReply := .response 200 (Utf8.encode "\x7b\"session_id\":\"s\"\x7d")

/-- A tick at which the screen is uploaded and an instruction comes back. -/
def tickOf (command : String) : TickOutcome :=
  ⟨some [], .response 200 (Utf8.encode ("\x7b\"next_action\":\"" ++ command ++ "\"\x7d"))⟩

section Plain

variable {stopAfter : Option Count} {first : LastAction} {stopping : Bool} {ticks : List TickOutcome}

theorem plainSource_begins :
    ((still stopAfter namingReply).run plainSource.begin
      (Sitting.before () first stopping ticks).started).1 = .ok plainName := rfl

/-- Where the uploads go. -/
def plainUrl : Url := { plainSource.backend.base with path := "/sessions/s".toList }

theorem plainSource_reaches : plainSource.backend.Reaches s!"/sessions/{plainName}" plainUrl :=
  ⟨rfl, rfl, rfl⟩

/-- A live session at a still station plays nothing that does not come to a result. -/
theorem returns_of_few {bound : Nat} {r : ReplaySettings Binary64}
    (fits : r.keepResults ≤ ReplaySettings.keepLimit)
    (few : ∀ c ∈ instructions ticks, c ∈ fewCommands) :
    ∀ q ∈ ((still stopAfter namingReply).run (plainSource.hold r bound)
        (.before () first stopping ticks)).2.played,
      ∃ result, ((still stopAfter namingReply).outcome q).1 = .ok result := by
  intro q hq
  have begins : ((still stopAfter namingReply).run plainSource.begin
      (Sitting.before () first stopping ticks).started).1 = .ok plainName := plainSource_begins
  obtain ⟨-, address, began⟩ := run_begin_ok begins
  rw [run_hold fits began, Sitting.played_closing] at hq
  rcases mem_of_played_ticks hq with none | brought
  · cases none
  · exact fewCommands_return (few _ brought) q.world

end Plain

/-- At the first two ticks nothing comes back, and the last one comes after the end. -/
def endedTicks : List TickOutcome :=
  [⟨none, .noResponse ""⟩, ⟨some [], .noResponse "timed out"⟩, tickOf "type:a", tickOf "nope",
    tickOf "END", tickOf "type:b"]

theorem endedTicks_few : ∀ c ∈ instructions endedTicks, c ∈ fewCommands := by
  have brought : instructions endedTicks = ["type:a", "nope", "END", "type:b"] := by decide +kernel
  rw [brought]
  decide

theorem hold_conversed_iff_endedTicks :
    ∃ summary s', (still none namingReply).run (plainSource.hold .standard 6)
        (.before () ⟨"No action", .ofDay 0⟩ true endedTicks) = (.ok summary, s') ∧
      s'.commands = ["type:a", "nope"] ∧ summary.ended = true ∧ s'.sent.length = 5 := by
  have fits : (ReplaySettings.standard).keepResults ≤ ReplaySettings.keepLimit := by decide
  have whole : namingReply.isWholeAt "session_id" = true ∧
      ∀ t ∈ endedTicks, t.reply.isWholeAt "next_action" = true := by decide +kernel
  have clear : ∀ t ∈ endedTicks, t.obstacle? plainSource.backend s!"/sessions/{plainName}" = none :=
    fun t _ => t.obstacle?_of_reaches plainSource_reaches
  obtain ⟨summary, s', held, rest, run, split, conversed, early, closed⟩ :=
    (hold_conversed_iff (still none namingReply) plainSource .standard endedTicks 6 ()
      ⟨"No action", .ofDay 0⟩ true plainName fits plainSource_begins whole (by decide)
      (returns_of_few fits endedTicks_few)).1.2 clear
  have five : held = endedTicks.take 5 :=
    held_eq_take split early closed (by decide +kernel) (by decide) (by decide +kernel)
  subst five
  obtain ⟨address, uploads, sent, count, -⟩ := conversed.sent
  refine ⟨summary, s', run, ?_, ?_, ?_⟩
  · rw [conversed.commands]
    decide +kernel
  · rw [conversed.ended]
    decide +kernel
  · rw [sent, List.length_cons, count]
    rfl

def twoLinesName : String := "a\nb"

def twoLinesReply : HttpReply := .response 200 (Utf8.encode "\x7b\"session_id\":\"a\\nb\"\x7d")

/-- A session starts under a name of two lines. At the first tick a picture is taken, but no address can be
made of the name, and a fault leaves the session before anything is uploaded. -/
theorem hold_left_twoLines :
    ((still none twoLinesReply).run plainSource.begin
      (Sitting.before () ⟨"No action", .ofDay 0⟩ false [tickOf "type:a"]).started).1 = .ok twoLinesName ∧
    ∃ s', (still none twoLinesReply).run (plainSource.hold .standard 1)
        (.before () ⟨"No action", .ofDay 0⟩ false [tickOf "type:a"]) =
      (.error (.host "InvalidURL" "Invalid non-printable ASCII character in URL, '\\n' at position 11."), s') ∧
      s'.tick? = some (tickOf "type:a") ∧ s'.sent.length = 1 ∧ s'.commands = [] := by
  have fits : (ReplaySettings.standard).keepResults ≤ ReplaySettings.keepLimit := by decide
  have begins : ((still none twoLinesReply).run plainSource.begin
      (Sitting.before () ⟨"No action", .ofDay 0⟩ false [tickOf "type:a"]).started).1 = .ok twoLinesName := rfl
  have nameless : plainSource.backend.locate s!"/sessions/{twoLinesName}" = .error (.control '\n' 11) := rfl
  have split : [tickOf "type:a"] = [] ++ tickOf "type:a" :: [] := rfl
  obtain ⟨_, _, left⟩ := hold_nameless fits begins (Nat.le_refl 1) split nameless (by simp) (by simp [tickOf])
  exact ⟨begins, _, left, rfl, rfl, rfl⟩

end Station

end InputReplay
