import InputReplay.Proofs.Export
import InputReplay.Proofs.Replaying
import InputReplay.Rehearsal.Listening

/-! What was heard is done again. Listening records events in order as long as there is room; the log of them
is saved and loaded unchanged, and each of its commands posts what was heard. The two halves meet at the
commands: those that were exported echo what was heard, and those that echo events post them when they are
played. -/

namespace InputReplay

/-! Times in a log. -/

/-- Whether a text has no other characters than digits and the marks of a time. -/
def IsStamp (text : String) : Prop := ∀ c ∈ text.toList, c.isDigit = true ∨ c ∈ ['-', ' ', ':', '.']

theorem IsStamp.append {text more : String} (h : IsStamp text) (h' : IsStamp more) : IsStamp (text ++ more) := by
  intro c hc
  rw [String.toList_append] at hc
  exact (List.mem_append.1 hc).elim (h c) (h' c)

theorem IsStamp.not_mem {text : String} (h : IsStamp text) {c : Char} (digit : c.isDigit = false)
    (mark : c ∉ ['-', ' ', ':', '.']) : c ∉ text.toList := by
  intro hc
  rcases h c hc with is | is
  · rw [digit] at is
    cases is
  · exact mark is

namespace Moment

theorem isStamp_padded (width n : Nat) : IsStamp (padded width n) := by
  intro c hc
  unfold padded at hc
  rw [String.toList_ofList] at hc
  left
  rcases List.mem_append.1 hc with hc | hc
  · rw [List.eq_of_mem_replicate hc]
    rfl
  · exact Nat.isDigit_of_mem_toDigits (by decide) (by decide) hc

theorem isStamp_logText (m : Moment) : IsStamp m.logText := by
  have mark (s : String) (h : s.toList ⊆ ['-', ' ', ':', '.']) : IsStamp s := fun c hc => .inr (h hc)
  have dash := mark "-" (by decide)
  have colon := mark ":" (by decide)
  have date : IsStamp m.dateText :=
    ((((isStamp_padded _ _).append dash).append (isStamp_padded _ _)).append dash).append (isStamp_padded _ _)
  have clock : IsStamp m.clockText :=
    ((((isStamp_padded _ _).append colon).append (isStamp_padded _ _)).append colon).append (isStamp_padded _ _)
  have fraction : IsStamp m.fractionText := (mark "." (by decide)).append (isStamp_padded _ _)
  exact ((date.append (mark " " (by decide))).append clock).append fraction

end Moment

/-- The entry of a command that was observed at a moment is saved and loaded unchanged. -/
theorem LogEntry.isPlain_logText (m : Moment) {command : String} (line : IsOneLine command.toList) :
    LogEntry.IsPlain ⟨some m.logText, command⟩ := by
  have stamp := m.isStamp_logText
  exact ⟨stamp.not_mem (by decide) (by decide),
    ⟨stamp.not_mem (by decide) (by decide), stamp.not_mem (by decide) (by decide)⟩, line⟩

/-! Listening. -/

/-- The record of what was heard at a moment, if it is an event. -/
def RecordedEvent.of? (x : Moment × Heard) : Option RecordedEvent :=
  match x.2.event? with
  | .ok (some e) => some ⟨x.1.logText, e⟩
  | _ => none

theorem RecordedEvent.of?_event {x : Moment × Heard} {e : ObservedEvent} (known : x.2.event? = .ok (some e)) :
    of? x = some ⟨x.1.logText, e⟩ := by
  unfold of?
  rw [known]

theorem RecordedEvent.of?_none {x : Moment × Heard} (unknown : x.2.event? = .ok none) : of? x = none := by
  unfold of?
  rw [unknown]

namespace Recorder

/-- Records what was heard at a moment, if it is an event. -/
def hear (r : Recorder) (x : Moment × Heard) : Except NotFinite Recorder :=
  x.2.event?.map fun e? => e?.elim r fun e => (r.publish x.1 e).2

def hearAll (r : Recorder) (heard : List (Moment × Heard)) : Except NotFinite Recorder := heard.foldlM hear r

/-- Whether there is room for so many more events. -/
def HasRoom (r : Recorder) (more : Nat) : Prop := ∀ n, r.limit = some n → r.buffer.length + more ≤ n

variable {r : Recorder}

theorem hasRoom_ofSize {size : Int} {more : Nat} (h : size ≤ 0 ∨ (more : Int) ≤ size) :
    (ofSize size).HasRoom more := by
  intro n limit
  unfold ofSize at limit ⊢
  dsimp only at limit ⊢
  split at limit
  · cases limit
  · cases limit
    simp only [List.length_nil]
    omega

theorem publish_of_hasRoom {more : Nat} (room : r.HasRoom (more + 1)) (time : Moment) (e : ObservedEvent) :
    (r.publish time e).2 = { r with buffer := r.buffer ++ [⟨time.logText, e⟩] } := by
  have free : r.isFull = false := by
    unfold isFull
    split
    · next n limit =>
      have := room n limit
      exact decide_eq_false (by omega)
    · rfl
  unfold publish
  rw [free]
  rfl

/-- The recorder with more events in its buffer. -/
def holding (r : Recorder) (events : List RecordedEvent) : Recorder := { r with buffer := r.buffer ++ events }

theorem hear_of_hasRoom {x : Moment × Heard} {more : Nat} (fit : x.2.IsFit)
    (room : r.HasRoom ((RecordedEvent.of? x).toList.length + more)) :
    r.hear x = .ok (r.holding (RecordedEvent.of? x).toList) := by
  have records (e : ObservedEvent) (known : x.2.event? = .ok (some e)) :
      r.hear x = .ok (r.holding (RecordedEvent.of? x).toList) := by
    rw [RecordedEvent.of?_event known] at room ⊢
    rw [Option.toList_some, List.length_singleton, Nat.add_comm] at room
    rw [hear, known]
    exact congrArg Except.ok (publish_of_hasRoom room x.1 e)
  cases Heard.comes fit with
  | passed unknown =>
    rw [hear, unknown, RecordedEvent.of?_none unknown]
    simp [Except.map, holding]
  | kept e known | told e _ known => exact records e known

/-- As long as there is room every event is recorded, in the order in which it was heard. -/
theorem hearAll_of_hasRoom {heard : List (Moment × Heard)} (fit : ∀ x ∈ heard, x.2.IsFit)
    (room : r.HasRoom (heard.filterMap RecordedEvent.of?).length) :
    r.hearAll heard = .ok (r.holding (heard.filterMap RecordedEvent.of?)) := by
  induction heard generalizing r with
  | nil => simp [hearAll, holding, pure, Except.pure]
  | cons x rest ih =>
    obtain ⟨first, others⟩ := List.forall_mem_cons.1 fit
    have split : (x :: rest).filterMap RecordedEvent.of? =
        (RecordedEvent.of? x).toList ++ rest.filterMap RecordedEvent.of? := by
      cases h : RecordedEvent.of? x <;> simp [h]
    rw [split, List.length_append] at room
    have step := hear_of_hasRoom first room
    have left : (r.holding (RecordedEvent.of? x).toList).HasRoom
        (rest.filterMap RecordedEvent.of?).length := by
      intro n limit
      have := room n limit
      simp only [holding, List.length_append]
      omega
    have run := ih others left
    rw [hearAll, List.foldlM_cons, step, split]
    refine Eq.trans run ?_
    simp [holding, List.append_assoc]

end Recorder

/-- What is heard on a stage its recorder hears, at the time of the stage's calendar. -/
theorem Stage.hear_eq (s : Stage) (h : Heard) :
    match s.recorder.hear (s.read.1, h) with
    | .ok recorder => (s.hear h).1 = .ok () ∧ (s.hear h).2.recorder = recorder
    | .error why => s.hear h = (.error (.noInteger why), s) := by
  unfold Stage.hear Recorder.hear
  cases h.event? with
  | error why => rfl
  | ok e? => cases e? <;> exact ⟨rfl, rfl⟩

/-! The log of what was heard. -/

namespace RecordedLog

/-- An entry of such a log is saved and loaded unchanged, and its command posts something that was heard. -/
structure Echoes (log : RecordedLog) (events : List Event) : Prop where
  plain : ∀ e ∈ log, e.IsPlain
  timed : log.map LogEntry.loaded = log
  posts : ∃ parts, List.Forall₂ Command.Echoes log.commands parts ∧ parts.flatten = events

theorem Echoes.cons {log : RecordedLog} {command : String} {events more : List Event} (time : Moment)
    (first : Command.Echoes command events) (rest : Echoes log more) :
    Echoes (⟨some time.logText, command⟩ :: log) (events ++ more) := by
  obtain ⟨parts, each, whole⟩ := rest.posts
  refine ⟨List.forall_mem_cons.2 ⟨LogEntry.isPlain_logText time first.line, rest.plain⟩, ?_,
    events :: parts, .cons first each, by rw [List.flatten_cons, whole]⟩
  rw [List.map_cons, rest.timed]
  rfl

/-- The log of what was recorded does again what was heard. -/
theorem echoes_ofEvents {heard : List (Moment × Heard)} (fit : ∀ x ∈ heard, x.2.IsFit) :
    Echoes (ofEvents (heard.filterMap RecordedEvent.of?)) (heard.flatMap (·.2.echo)) := by
  induction heard with
  | nil => exact ⟨by rintro _ ⟨⟩, rfl, [], .nil, rfl⟩
  | cons x rest ih =>
    obtain ⟨first, others⟩ := List.forall_mem_cons.1 fit
    rw [List.flatMap_cons]
    cases Heard.comes first with
    | passed unknown silent =>
      rw [List.filterMap_cons_none (RecordedEvent.of?_none unknown), silent]
      exact ih others
    | kept e known unsaid silent =>
      rw [List.filterMap_cons_some (RecordedEvent.of?_event known), silent, ofEvents,
        List.filterMap_cons_none (by simp [unsaid])]
      exact ih others
    | told e command known said echoes =>
      rw [List.filterMap_cons_some (RecordedEvent.of?_event known), ofEvents,
        List.filterMap_cons_some (b := ⟨some x.1.logText, command⟩) (by simp [said])]
      exact (ih others).cons x.1 echoes

theorem Echoes.ofBytes_text {log : RecordedLog} {events : List Event} (h : Echoes log events) :
    ofBytes (Utf8.encode (text log)) = .ok log := by
  rw [RecordedLog.ofBytes_text h.plain, h.timed]

end RecordedLog

/-! Playing the commands. -/

variable {τ σ : Type}

/-- Whatever is posted is taken. -/
def Injector.Accepts (inj : Injector τ σ) : Prop := ∀ e s, (inj.post e s).1 = .ok ()

/-- Events that are posted one after another are all posted when none is refused. -/
theorem Stops.of_posts {events : List Event} {made : List (Attempt τ)} {result : Except Fault Unit}
    (h : Stops (events.map .post) made result)
    (taken : ∀ a ∈ made, ∀ e, a.request = .post e → a.fault? = none) :
    made = events.map (fun e => ⟨.post e, none⟩) ∧ result = .ok () := by
  generalize asked : events.map PlayRequest.post = I at h
  cases h with
  | ran _ quiet =>
    have each : made = (made.map (·.request)).map fun r => ⟨r, none⟩ := by
      rw [List.map_map]
      refine (List.map_id made).symm.trans (List.map_congr_left fun a ha => ?_)
      rw [Function.comp_apply, ← quiet a ha]
      rfl
    rw [each, ← asked, List.map_map]
    exact ⟨rfl, rfl⟩
  | raised before r fault rest quiet =>
    have posted : r ∈ events.map PlayRequest.post := by simp [asked]
    obtain ⟨e, -, rfl⟩ := List.mem_map.1 posted
    cases taken ⟨.post e, some fault⟩ (by simp) e rfl

theorem ReplaySettings.isEnd_echoes {r : ReplaySettings τ} (sentinel : ':' ∉ r.endSentinel.toList)
    {command : String} {events : List Event}
    (h : Command.Echoes command events) : r.isEnd command = false := by
  refine beq_eq_false_iff_ne.2 fun same => sentinel ?_
  rw [← same, stripText, String.toList_ofList]
  exact mem_strip h.colon (by decide)

namespace Station

variable [Duration τ] {st : Station τ σ} {r : ReplaySettings τ}

/-- A command that echoes events posts them, and is successful, wherever its run finds the world. -/
theorem plays_echoes (accepts : st.injector.Accepts) {q : Playing σ} {events : List Event}
    (h : Command.Echoes q.command events) :
    (st.outcome q).1 = .ok (.succeeded q.command) ∧
      st.acts q = events.map fun e => ⟨.post e, none⟩ := by
  obtain ⟨action, read, single, posts⟩ := h.read
  have stops := posts τ st.player σ st.injector q.world
  obtain ⟨made, result⟩ := stops.of_posts fun a ha e asked => by
    cases raised : a.fault? with
    | none => rfl
    | some fault =>
      obtain ⟨s, hs⟩ := st.injector.raised_of_mem_acts q.world _ ha raised
      rw [asked] at hs
      change faultOf (st.injector.post e s).1 = _ at hs
      rw [accepts] at hs
      cases hs
  constructor
  · unfold outcome
    rw [st.player.run_of_parse_single read single, result]
    rfl
  · unfold acts Player.run
    rw [read]
    exact (st.player.acts_execute single q.command st.injector q.world).trans made

theorem acts_echoes (accepts : st.injector.Accepts) {played : List (Playing σ)} {parts : List (List Event)}
    (h : List.Forall₂ Command.Echoes (played.map (·.command)) parts) :
    played.flatMap st.acts = parts.flatten.map fun e => ⟨.post e, none⟩ := by
  induction played generalizing parts with
  | nil =>
    cases h
    rfl
  | cons q rest ih =>
    cases h with
    | cons first others =>
      rw [List.flatMap_cons, List.flatten_cons, List.map_append, (plays_echoes accepts first).2, ih others]

theorem exists_echoes {commands : List String} {parts : List (List Event)}
    (h : List.Forall₂ Command.Echoes commands parts) {c : String} (hc : c ∈ commands) :
    ∃ events, Command.Echoes c events := by
  induction h with
  | nil => cases hc
  | cons first _ ih =>
    rcases List.mem_cons.1 hc with rfl | hc
    · exact ⟨_, first⟩
    · exact ih hc

/-- Replaying a log posts what it does again, event for event. -/
theorem replay_echoes (accepts : st.injector.Accepts) (calm : st.stopAfter = none)
    (sentinel : ':' ∉ r.endSentinel.toList) (fits : r.keepResults ≤ ReplaySettings.keepLimit) (paced : Bool)
    (world : σ) (first : LastAction) (stopping : Bool) {log : RecordedLog} {events : List Event}
    (h : log.Echoes events) :
    ∃ summary s',
      st.run (r.replay paced log.commands) (.before world first stopping []) = (.ok summary, s') ∧
      s'.made = events.map fun e => ⟨.post e, none⟩ := by
  obtain ⟨parts, each, whole⟩ := h.posts
  have answered : ∀ c ∈ log.commands, ∀ w, ∃ result, (st.outcome ⟨c, w⟩).1 = .ok result := by
    intro c hc w
    obtain ⟨_, echoes⟩ := exists_echoes each hc
    exact ⟨_, (plays_echoes accepts (q := ⟨c, w⟩) echoes).1⟩
  have returns : ∀ q ∈ (st.run (r.replay paced log.commands) (.before world first stopping [])).2.played,
      ∃ result, (st.outcome q).1 = .ok result := returns_of_each fits answered
  obtain ⟨summary, s', run, replayed, -, -⟩ := run_replay fits returns
  have goes : log.commands.findIdx r.isEnd = log.commands.length := by
    refine List.findIdx_eq_length.2 fun c hc => ?_
    obtain ⟨_, echoes⟩ := exists_echoes each hc
    exact r.isEnd_echoes sentinel echoes
  have all : st.extent r log.commands = log.commands.length := by
    unfold extent
    rw [goes, calm]
    exact Nat.min_self _
  have played := replayed.played
  rw [all, List.take_length] at played
  refine ⟨summary, s', run, ?_⟩
  rw [replayed.made, ← whole]
  rw [← played] at each
  exact acts_echoes accepts each

/-- What a recorder hears, if it has room for the events, is exported as commands that can be read. The log of
them is saved and loaded unchanged, times and all. When it is replayed, the events that do again what was heard
are posted in order, and nothing else is done. -/
theorem replay_heard (st : Station τ σ) (accepts : st.injector.Accepts) (calm : st.stopAfter = none)
    (r : ReplaySettings τ) (sentinel : r.endSentinel = ReplaySettings.standard.endSentinel)
    (fits : r.keepResults ≤ ReplaySettings.keepLimit) (paced : Bool) (world : σ) (first : LastAction)
    (stopping : Bool) (heard : List (Moment × Heard)) (fit : ∀ x ∈ heard, x.2.IsFit) (size : Int)
    (room : size ≤ 0 ∨ ((heard.filterMap RecordedEvent.of?).length : Int) ≤ size) :
    ∃ recorder log,
      (Recorder.ofSize size).hearAll heard = .ok recorder ∧ recorder.dropped = 0 ∧
      log = RecordedLog.ofEvents recorder.drain.1 ∧
      (∀ c ∈ RecordedLog.commands log, ∃ action, Command.parse c = .ok action) ∧
      RecordedLog.ofBytes (Utf8.encode (RecordedLog.text log)) = .ok log ∧
      ∃ summary s',
        st.run (r.replay paced (RecordedLog.commands log)) (.before world first stopping []) =
          (.ok summary, s') ∧
        s'.made = (heard.flatMap (·.2.echo)).map fun e => ⟨.post e, none⟩ := by
  have run := Recorder.hearAll_of_hasRoom fit (Recorder.hasRoom_ofSize room)
  have echoes := RecordedLog.echoes_ofEvents fit
  have read : ∀ c ∈ RecordedLog.commands (.ofEvents (heard.filterMap RecordedEvent.of?)),
      ∃ action, Command.parse c = .ok action := by
    intro c hc
    obtain ⟨_, each, _⟩ := echoes.posts
    obtain ⟨_, h⟩ := exists_echoes each hc
    obtain ⟨action, read, _⟩ := h.read
    exact ⟨action, read⟩
  have noColon : ':' ∉ r.endSentinel.toList := by
    rw [sentinel]
    decide
  exact ⟨_, _, run, rfl, rfl, read, echoes.ofBytes_text,
    replay_echoes accepts calm noColon fits paced world first stopping echoes⟩

/-- Where the pointer is between two places. -/
def halfway : Point := ⟨.ofRatio false 43 4, .ofRatio true 7 2⟩

/-- Keys, one of them unknown, a move, a click, buttons without a command and a turn of the wheel. -/
def fewHeard : List (Moment × Heard) := [
  (.ofDay 0, .key ⟨some "shift", none⟩ true), (.ofDay 0, .key ⟨none, some ","⟩ true),
  (.ofDay 0, .key ⟨some "media_next", none⟩ true), (.ofDay 1, .move halfway),
  (.ofDay 1, .click halfway "left" true), (.ofDay 1, .click halfway "left" false),
  (.ofDay 2, .click halfway "middle" false), (.ofDay 2, .click halfway "x1" false),
  (.ofDay 3, .scroll (.ofInt (-2)))]

theorem replay_heard_fewHeard :
    let st := still none (.noResponse "")
    let r : ReplaySettings Binary64 := .standard
    ∃ recorder log,
      (Recorder.ofSize 1024).hearAll fewHeard = .ok recorder ∧ recorder.dropped = 0 ∧
      log = RecordedLog.ofEvents recorder.drain.1 ∧
      (∀ c ∈ RecordedLog.commands log, ∃ action, Command.parse c = .ok action) ∧
      RecordedLog.ofBytes (Utf8.encode (RecordedLog.text log)) = .ok log ∧
      ∃ summary s',
        st.run (r.replay true (RecordedLog.commands log)) (.before () ⟨"No action", .ofDay 0⟩ false []) =
          (.ok summary, s') ∧
        s'.made = [⟨.post (Play.pressKey .shiftLeft), none⟩, ⟨.post (Play.pressKey .comma), none⟩,
          ⟨.post (.mouse .move ⟨.ofInt 10, .ofInt (-3)⟩ .left none), none⟩,
          ⟨.post (.mouse .down ⟨.ofInt 10, .ofInt (-3)⟩ .left (some 1)), none⟩,
          ⟨.post (.mouse .up ⟨.ofInt 10, .ofInt (-3)⟩ .left (some 1)), none⟩,
          ⟨.post (.scroll (.exactly (.ofInt (-2))) none), none⟩] := by
  intro st r
  have place : halfway.x.isFinite = true ∧ halfway.y.isFinite = true := by decide +kernel
  have cut : halfway.cut = ⟨.ofInt 10, .ofInt (-3)⟩ := by decide +kernel
  have fit : ∀ x ∈ fewHeard, x.2.IsFit := by
    simp only [fewHeard, List.forall_mem_cons]
    refine ⟨trivial, trivial, trivial, place, place, place, place, place, ⟨-2, by decide, rfl⟩, ?_⟩
    rintro _ ⟨⟩
  have room : ((fewHeard.filterMap RecordedEvent.of?).length : Int) ≤ 1024 :=
    Int.ofNat_le.2 ((List.length_filterMap_le RecordedEvent.of? fewHeard).trans (by decide))
  have shift : KeyCode.ofHeard? ⟨some "shift", none⟩ = some .shiftLeft := by decide +kernel
  have comma : KeyCode.ofHeard? ⟨none, some ","⟩ = some .comma := by
    rw [KeyCode.ofHeard?_text (by decide)]
    exact KeyCode.comma.lookup?_name
  have unknown : KeyCode.ofHeard? ⟨some "media_next", none⟩ = none := by decide +kernel
  have left : Button.ofName? "left" = some .left := by decide +kernel
  have middle : Button.ofName? "middle" = some .middle := by decide +kernel
  have other : Button.ofName? "x1" = none := by decide +kernel
  obtain ⟨recorder, log, recorded, dropped, logged, read, loaded, summary, s', run, made⟩ :=
    replay_heard st (fun _ _ => rfl) rfl r rfl (by decide) true () ⟨"No action", .ofDay 0⟩ false fewHeard fit
      1024 (.inr room)
  refine ⟨recorder, log, recorded, dropped, logged, read, loaded, summary, s', run, made.trans ?_⟩
  simp only [fewHeard, List.flatMap_cons, Heard.echo, shift, comma, unknown, left, middle, other, cut]
  rfl

end Station
end InputReplay
