import InputReplay.Proofs.Alike
import InputReplay.Proofs.Containment
import InputReplay.Proofs.Desk
import InputReplay.Rehearsal.Stage

/-! Dry runs. A command that is played on paper, where events are noted instead of posted, goes the way it goes on a
desktop, as long as the paper refuses what the desktop fails to post. -/

namespace InputReplay

open Program

variable {τ σ κ ρ α β : Type}

/-- What is noted on paper, and what the rule that refuses events remembers. -/
structure Paper (ρ : Type) where
  memory : ρ
  /-- The events that were accepted, in order. -/
  events : List Event

/-- Notes an event unless a rule refuses it. -/
def Paper.post (refuse : Event → ρ → Bool × ρ) (e : Event) (paper : Paper ρ) : Except Fault Unit × Paper ρ :=
  match refuse e paper.memory with
  | (true, memory) => (.error (.injection (.refused e)), ⟨memory, paper.events⟩)
  | (false, memory) => (.ok (), ⟨memory, paper.events ++ [e]⟩)

namespace Injector

/-- Posts events to one thing and sleeps in another. -/
def beside (post : Event → σ → Except Fault Unit × σ) (sleep : τ → κ → Except Fault Unit × κ) :
    Injector τ (σ × κ) where
  post e w := ((post e w.1).1, (post e w.1).2, w.2)
  pause time w := ((sleep time w.2).1, w.1, (sleep time w.2).2)
  launch _ _ w := (.ok (.exited 0 ""), w)

def onDesk (t : Toolkits) (answer : Host desktop Fault σ) (sleep : τ → κ → Except Fault Unit × κ) :
    Injector τ (σ × κ) :=
  beside (fun e => (Desktop.post t e).run answer) sleep

def onPaper (refuse : Event → ρ → Bool × ρ) (sleep : τ → κ → Except Fault Unit × κ) : Injector τ (Paper ρ × κ) :=
  beside (Paper.post refuse) sleep

/-- The requests that a program attempts, each with the state it is made in. -/
def visits (inj : Injector τ σ) : Play τ α → σ → List (PlayRequest τ × σ)
  | .finish _, _ => []
  | .ask r k, s => (if r.isAct then [⟨r, s⟩] else []) ++ visits inj (k (inj.host r s).1) (inj.host r s).2

theorem acts_eq_map_visits (inj : Injector τ σ) (q : Play τ α) (s : σ) :
    inj.acts q s = (inj.visits q s).map fun v => ⟨v.1, faultOf (inj.host v.1 v.2).1⟩ := by
  induction q generalizing s with
  | finish result => rfl
  | ask r k ih =>
    rw [acts, visits, List.map_append, ih]
    split <;> rfl

end Injector

/-- An attempt as it is seen without the reason why it was refused. -/
def Attempt.seen (a : Attempt τ) : PlayRequest τ × Bool := (a.request, a.fault?.isSome)

/-- The event that was posted, if one was. -/
def Attempt.posted? (a : Attempt τ) : Option Event :=
  match a.request, a.fault? with
  | .post e, none => some e
  | _, _ => none

/-- Whether a post was refused. -/
def Attempt.verdict? (a : Attempt τ) : Option Bool :=
  match a.request with
  | .post _ => some a.fault?.isSome
  | _ => none

def PlayRequest.IsFinite : PlayRequest τ → Prop
  | .post e => e.IsFinite
  | _ => True

/-- Whether a rule refuses the events of attempts just where they raised. -/
def Mirrors (refuse : Event → ρ → Bool × ρ) : ρ → List (Attempt τ) → Prop
  | _, [] => True
  | memory, ⟨.post e, fault?⟩ :: rest =>
    (refuse e memory).1 = fault?.isSome ∧ Mirrors refuse (refuse e memory).2 rest
  | memory, _ :: rest => Mirrors refuse memory rest

theorem faultOf_eq_some_iff {x : Except Fault α} {fault : Fault} : faultOf x = some fault ↔ x = .error fault := by
  cases x <;> simp [faultOf]

theorem Paper.isFailure_of_post {refuse : Event → ρ → Bool × ρ} {e : Event} {paper : Paper ρ} {fault : Fault}
    (h : (paper.post refuse e).1 = .error fault) : fault.isFailure = true := by
  unfold Paper.post at h
  split at h <;> cases h
  rfl

/-- The paper refuses an event that raised and accepts one that did not. -/
theorem Paper.post_mirrors {refuse : Event → ρ → Bool × ρ} {e : Event} (paper : Paper ρ) {x : Except Fault Unit}
    (failure : ∀ fault, faultOf x = some fault → fault.isInjection = true)
    (now : (refuse e paper.memory).1 = (faultOf x).isSome) :
    SameEnd SameFault Eq x (paper.post refuse e).1 ∧
    (faultOf (paper.post refuse e).1).isSome = (faultOf x).isSome ∧
    (paper.post refuse e).2.memory = (refuse e paper.memory).2 ∧
    (paper.post refuse e).2.events =
      paper.events ++ (Attempt.posted? (⟨.post e, faultOf x⟩ : Attempt τ)).toList := by
  unfold Paper.post
  generalize refuse e paper.memory = verdict at now ⊢
  obtain ⟨refused, memory⟩ := verdict
  obtain rfl : refused = (faultOf x).isSome := now
  cases x with
  | ok _ => exact ⟨.ok rfl, rfl, rfl, rfl⟩
  | error fault => exact ⟨.fault (.inr ⟨failure fault rfl, rfl⟩), rfl, rfl, (List.append_nil _).symm⟩

/-- Refuses events as a list of verdicts says. -/
def scripted (_ : Event) : List Bool → Bool × List Bool
  | [] => (false, [])
  | verdict :: rest => (verdict, rest)

/-- There is a rule for any attempts that refuses just the events that raised. -/
theorem mirrors_scripted (made : List (Attempt τ)) :
    Mirrors scripted (made.filterMap (·.verdict?)) made := by
  induction made with
  | nil => trivial
  | cons a rest ih =>
    obtain ⟨r, fault?⟩ := a
    cases r with
    | post e => exact ⟨rfl, ih⟩
    | _ => exact ih

/-- Alike plays, of which one is played on a desktop and one on paper, attempt the same and end in the same way: as
long as nothing but injection failures keeps events from being posted on the desktop, and the paper refuses just
these events. -/
theorem Alike.rehearsed {F : Fault → Fault → Prop} {R : α → β → Prop} {q : Play τ α} {q' : Play τ β}
    (h : Alike F R q q') (post : Event → σ → Except Fault Unit × σ) (refuse : Event → ρ → Bool × ρ)
    (sleep : τ → κ → Except Fault Unit × κ) (s : σ) (k : κ) (paper : Paper ρ)
    (failures : ∀ a ∈ (Injector.beside post sleep).acts q (s, k), ∀ e, a.request = .post e →
      ∀ fault, a.fault? = some fault → fault.isInjection = true)
    (mirrors : Mirrors refuse paper.memory ((Injector.beside post sleep).acts q (s, k))) :
    let desk := Injector.beside post sleep
    let dry := Injector.beside (Paper.post refuse) sleep
    (dry.acts q' (paper, k)).map Attempt.seen = (desk.acts q (s, k)).map Attempt.seen ∧
    SameEnd F R (desk.run q (s, k)).1 (dry.run q' (paper, k)).1 ∧
    (dry.run q' (paper, k)).2.1.events = paper.events ++ (desk.acts q (s, k)).filterMap Attempt.posted? ∧
    (dry.run q' (paper, k)).2.2 = (desk.run q (s, k)).2.2 := by
  induction h generalizing s k paper with
  | finish same => exact ⟨rfl, same, (List.append_nil _).symm, rfl⟩
  | @ask r go go' _ ih =>
    cases r with
    | enter => exact ih (.ok true) (.ok true) rfl s k paper failures mirrors
    | leave => exact ih (.ok ()) (.ok ()) rfl s k paper failures mirrors
    | launch command timeout =>
      obtain ⟨_, more⟩ := List.forall_mem_cons.1 failures
      obtain ⟨acts, rest⟩ := ih (.ok (.exited 0 "")) _ rfl s k paper more mirrors
      exact ⟨congrArg (_ :: ·) acts, rest⟩
    | pause time =>
      obtain ⟨_, more⟩ := List.forall_mem_cons.1 failures
      obtain ⟨acts, rest⟩ := ih (sleep time k).1 _ rfl s (sleep time k).2 paper more mirrors
      exact ⟨congrArg (_ :: ·) acts, rest⟩
    | post e =>
      obtain ⟨first, more⟩ := List.forall_mem_cons.1 failures
      obtain ⟨now, later⟩ := mirrors
      obtain ⟨same, seen, memory, events⟩ :=
        Paper.post_mirrors (τ := τ) paper (first e rfl) now
      obtain ⟨acts, ends, noted, slept⟩ := ih (post e s).1 (paper.post refuse e).1 same (post e s).2 k
        (paper.post refuse e).2 more (memory ▸ later)
      refine ⟨?_, ends, ?_, slept⟩
      · exact congrArg₂ (fun raised rest => (_, raised) :: rest) seen acts
      · refine noted.trans ?_
        rw [events, List.append_assoc]
        exact congrArg (paper.events ++ ·) (List.filterMap_append (l := [_])).symm

/-! The injectors are hosts that are used elsewhere. -/

/-- A host beside a state that it does not see. -/
def hostLeft {S : Signature} {ε : Type} (host : Host S ε σ) : Host S ε (σ × κ) := fun r w =>
  ((host r w.1).1, (host r w.1).2, w.2)

theorem run_hostLeft {S : Signature} {ε : Type} (host : Host S ε σ) (q : Program S ε α) (w : σ × κ) :
    q.run (hostLeft host) w = ((q.run host w.1).1, (q.run host w.1).2, w.2) := by
  induction q generalizing w with
  | finish result => rfl
  | ask r k ih => exact ih _ _

theorem host_onDesk (t : Toolkits) (answer : Host desktop Fault σ) (sleep : τ → κ → Except Fault Unit × κ) :
    (Injector.onDesk t answer sleep).host =
      Desktop.host t (hostLeft answer) (Injector.onDesk t answer sleep).host := by
  funext r w
  cases r with
  | post e => exact (run_hostLeft answer (Desktop.post t e) w).symm
  | _ => rfl

namespace Stage

/-- What is noted on a stage, and the rules that refuse events there. -/
def paper (s : Stage) : Paper (List Refusal) where
  memory := s.rules
  events := s.seen.reverse.filterMap fun
    | .accepted e => some e
    | _ => none

/-- What the rules of a stage say of an event. -/
def verdict (e : Event) (rules : List Refusal) : Bool × List Refusal :=
  ((check e rules).1.isSome, (check e rules).2)

theorem plain_check {e : Event} {rules : List Refusal} (plain : ∀ r ∈ rules, r.fault = none) :
    (∀ r ∈ (check e rules).1, r.fault = none) ∧ ∀ r ∈ (check e rules).2, r.fault = none := by
  induction rules with
  | nil => simp [check]
  | cons r rest ih =>
    obtain ⟨first, others⟩ := List.forall_mem_cons.1 plain
    obtain ⟨fired, after⟩ := ih others
    unfold check
    split
    · dsimp only
      split
      · exact ⟨fun r' hr' => Option.mem_some_iff.1 hr' ▸ first, List.forall_mem_cons.2 ⟨first, others⟩⟩
      · exact ⟨fired, List.forall_mem_cons.2 ⟨first, after⟩⟩
    · exact ⟨fired, List.forall_mem_cons.2 ⟨first, after⟩⟩

/-- A stage whose rules raise nothing but refusals notes events as they are noted on paper. -/
theorem post_paper {s : Stage} (plain : ∀ r ∈ s.rules, r.fault = none) (e : Event) :
    ((s.post e).1, (s.post e).2.paper) = s.paper.post verdict e := by
  obtain ⟨fired, -⟩ := plain_check (e := e) plain
  have memory : s.paper.memory = s.rules := rfl
  unfold post record Paper.post verdict
  rw [memory]
  dsimp only
  generalize check e s.rules = out at fired ⊢
  obtain ⟨fires, rules⟩ := out
  cases fires with
  | none => simp [paper, see]
  | some r => simp [paper, see, fired r rfl]

end Stage

namespace Player

variable [Duration τ] (p : Player τ)

/-- A command is played on a desktop, where calls may raise but are not interrupted and all numbers are finite; and
it is played on paper that refuses just what the desktop failed to post. The same events are attempted in the same
order with the same sleeps between them, and the paper ends up with those that were posted. The outcomes are the
same: results of the same outline, or one fault, which is only for a command without a result or a sleep that
raised. Each attempted event performs the calls of its translation, and for a press and a release of the same thing
these take hold of the same. -/
theorem run_onDesk_as_onPaper (hg : p.gestures = chordGestures) (t : Toolkits) {answer : Host desktop Fault σ}
    (ordinary : Desktop.IsOrdinary answer) (refuse : Event → ρ → Bool × ρ)
    (sleep : τ → κ → Except Fault Unit × κ) (raw : String) (s : σ) (k : κ) (paper : Paper ρ)
    (finite : ∀ a ∈ (Injector.onDesk t answer sleep).acts (p.run raw) (s, k), a.request.IsFinite)
    (mirrors : Mirrors refuse paper.memory ((Injector.onDesk t answer sleep).acts (p.run raw) (s, k))) :
    let desk := Injector.onDesk t answer sleep
    let dry := Injector.onPaper refuse sleep
    (dry.acts (p.run raw) (paper, k)).map Attempt.seen = (desk.acts (p.run raw) (s, k)).map Attempt.seen ∧
    (dry.run (p.run raw) (paper, k)).2.1.events =
      paper.events ++ (desk.acts (p.run raw) (s, k)).filterMap Attempt.posted? ∧
    SameEnd Eq Result.SameOutline (desk.run (p.run raw) (s, k)).1 (dry.run (p.run raw) (paper, k)).1 ∧
    (¬ p.Escapes raw → (∀ time k, (sleep time k).1 = .ok ()) →
      ∃ r r', (desk.run (p.run raw) (s, k)).1 = .ok r ∧ (dry.run (p.run raw) (paper, k)).1 = .ok r' ∧
        r.outline = r'.outline) ∧
    (∀ e w, (.post e, w) ∈ desk.visits (p.run raw) (s, k) → Desktop.Carried t answer e w.1) ∧
    (∀ e e' h plan, e.pressed? = some h → e'.lifted? = some h → e'.IsFinite →
      Desktop.translation t e = .ok plan →
      ∃ grip plan', Desktop.translation t e' = .ok plan' ∧ plan.filterMap (·.pressed?) = [grip] ∧
        plan'.filterMap (·.lifted?) = [grip]) := by
  intro desk dry
  have alike := p.run_alike (fun kind => by rw [hg]; exact chordGestures_incurious kind) raw
  have failures : ∀ a ∈ desk.acts (p.run raw) (s, k), ∀ e, a.request = .post e →
      ∀ fault, a.fault? = some fault → fault.isInjection = true := by
    rintro ⟨r, fault?⟩ ha e rfl fault hf
    obtain ⟨w, raised⟩ := desk.raised_of_mem_acts (s, k) _ ha hf
    exact Desktop.injection_of_post w.1 ordinary (finite _ ha) (faultOf_eq_some_iff.1 raised)
  have rehearsed := alike.rehearsed (fun e => (Desktop.post t e).run answer) refuse sleep s k paper failures mirrors
  have ends : SameEnd Eq Result.SameOutline (desk.run (p.run raw) (s, k)).1 (dry.run (p.run raw) (paper, k)).1 :=
    rehearsed.2.1
  refine ⟨rehearsed.1, rehearsed.2.2.1, ends, fun he quiet => ?_, fun e w visited => ?_, fun e e' h plan => ?_⟩
  · have recovers : p.Recovers dry := by
      refine p.recovers_of_chordGestures hg fun r w fault raised => ?_
      cases r with
      | post e => exact Paper.isFailure_of_post (faultOf_eq_some_iff.1 raised)
      | pause time =>
        have slept := (faultOf_eq_some_iff.1 raised).symm.trans (quiet time w.2)
        cases slept
      | _ => cases raised
    obtain ⟨r', w, hr', -⟩ := p.run_answered recovers he (paper, k)
    rw [hr'] at ends
    generalize (desk.run (p.run raw) (s, k)).1 = result at ends ⊢
    cases ends with
    | @ok r _ same => exact ⟨r, r', rfl, congrArg Prod.fst hr', same⟩
  · refine Desktop.carried_of_finite w.1 ?_
    have mem := List.mem_map_of_mem (f := fun v => (⟨v.1, faultOf (desk.host v.1 v.2).1⟩ : Attempt τ)) visited
    rw [← desk.acts_eq_map_visits] at mem
    exact finite _ mem
  · exact Desktop.grip_of_translation

/-- Devices that take every call but the release of a key. -/
def stuckKeys : Host desktop Fault Unit
  | .call (.releaseKey _), s => (.error (.host "OSError" "stuck"), s)
  | .call _, s => (.ok (), s)
  | .position, s => (.ok ⟨.zero, .zero⟩, s)

theorem run_onDesk_as_onPaper_stuckKeys :
    let p : Player Binary64 := ⟨.standard, chordGestures⟩
    let sleep : Binary64 → Unit → Except Fault Unit × Unit := fun _ k => (.ok (), k)
    let desk := Injector.onDesk .devices stuckKeys sleep
    let dry := Injector.onPaper scripted sleep
    let paper : Paper (List Bool) := ⟨[false, true], []⟩
    desk.acts (p.run "type:a") ((), ()) = [⟨.post (.key (.text "a") true), none⟩,
      ⟨.post (.key (.text "a") false), some (.injection (.callFailed "release" "stuck"))⟩] ∧
    (dry.acts (p.run "type:a") (paper, ())).map Attempt.seen =
      [(.post (.key (.text "a") true), false), (.post (.key (.text "a") false), true)] ∧
    ∃ r r', (desk.run (p.run "type:a") ((), ())).1 = .ok r ∧ (dry.run (p.run "type:a") (paper, ())).1 = .ok r' ∧
      r.outline = r'.outline := by
  intro p sleep desk dry paper
  have read : Command.parse "type:a" = .ok (.type "a") := by decide +kernel
  have acts : desk.acts (p.run "type:a") ((), ()) = [⟨.post (.key (.text "a") true), none⟩,
      ⟨.post (.key (.text "a") false), some (.injection (.callFailed "release" "stuck"))⟩] := by
    have played : p.run "type:a" = p.execute (.type "a") "type:a" := by
      unfold run
      rw [read]
    rw [played, p.acts_execute (by simp)]
    rfl
  have ordinary : Desktop.IsOrdinary stuckKeys := by
    intro c s reason h
    cases c <;> cases h
  have finite : ∀ a ∈ desk.acts (p.run "type:a") ((), ()), a.request.IsFinite := by
    rw [acts]
    simp [PlayRequest.IsFinite, Event.IsFinite]
  have mirrors : Mirrors scripted paper.memory (desk.acts (p.run "type:a") ((), ())) := by
    rw [acts]
    exact ⟨rfl, rfl, trivial⟩
  have short : ∀ {raw text}, Command.parse raw = .ok (.type text) → ¬ p.Escapes raw := fun read =>
    p.not_escapes read (Reading.ok_contained _) (by rintro _ ⟨⟩; rfl) (by rintro _ ⟨⟩)
  obtain ⟨seen, -, -, results, -⟩ :=
    p.run_onDesk_as_onPaper rfl .devices ordinary scripted sleep "type:a" () () paper finite mirrors
  refine ⟨acts, seen.trans ?_, results (short read) fun _ _ => rfl⟩
  change (desk.acts (p.run "type:a") ((), ())).map Attempt.seen = _
  rw [acts]
  rfl

end Player

end InputReplay
