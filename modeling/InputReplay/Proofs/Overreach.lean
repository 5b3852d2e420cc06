import InputReplay.Proofs.Asking
import InputReplay.Proofs.Grammar

/-! Commands that come to have an event without a place or an amount. What is read from a command is finite, but a
drag between far points passes no points in between, and a scroll may be set to go without an end. Toolkits are asked
nothing for such an event, and what is raised is no failure to post; everything else that goes wrong on the way to
them is one. -/

namespace InputReplay

open Program

variable {τ σ κ α β : Type}

/-! What has no finite numbers has no translation. -/

theorem Binary64.toInteger_endless (f : Nat → Nat) {x : Binary64} (h : ¬ x.isFinite = true) :
    ∃ why, x.toInteger f = .error why := by
  cases x with
  | nan => exact ⟨.nan, rfl⟩
  | infinite negative => exact ⟨.infinity, rfl⟩
  | finite negative m => exact absurd rfl h

theorem Binary64.truncate_endless {x : Binary64} (h : ¬ x.isFinite = true) : ∃ why, x.truncate = .error why :=
  toInteger_endless _ h

theorem Binary64.round_endless {x : Binary64} (h : ¬ x.isFinite = true) : ∃ why, x.round = .error why :=
  toInteger_endless _ h

theorem Binary64.scrollUnits_endless {x : Binary64} (h : ¬ x.isFinite = true) :
    ∃ why, x.scrollUnits = .error why := by
  have endless : ¬ (x.abs + half).isFinite = true := by
    obtain ⟨m, hm, -⟩ := half_eq
    rw [hm]
    cases x with
    | nan | infinite negative => simp [abs, isFinite, HAdd.hAdd, Add.add, add]
    | finite negative m => exact absurd rfl h
  obtain ⟨why, none⟩ := truncate_endless endless
  refine ⟨why, ?_⟩
  rw [scrollUnits, none]
  rfl

namespace Desktop

variable {t : Toolkits} {e : Event}

theorem pixelOf_endless {p : Point} (h : ¬ p.IsFinite) : ∃ why, pixelOf p = .error (.noInteger why) := by
  unfold pixelOf
  by_cases hx : p.x.isFinite = true
  · obtain ⟨x, hx'⟩ := Binary64.round_finite hx
    obtain ⟨why, hy⟩ := Binary64.round_endless fun hy => h ⟨hx, hy⟩
    rw [hx', hy]
    exact ⟨why, rfl⟩
  · obtain ⟨why, hx'⟩ := Binary64.round_endless hx
    rw [hx']
    exact ⟨why, rfl⟩

/-- Numbers that are not finite have no integers, and their events have no translation. -/
theorem translation_endless (t : Toolkits) (h : ¬ e.IsFinite) : ∃ why, translation t e = .error (.noInteger why) := by
  cases e with
  | key payload down => exact absurd trivial h
  | mouse kind point button index =>
    obtain ⟨why, none⟩ := pixelOf_endless h
    rw [translation, none]
    exact ⟨why, rfl⟩
  | scroll amount place =>
    by_cases finite : amount.value.isFinite = true
    · obtain ⟨n, counted⟩ := unitsOf_finite finite
      cases place with
      | none => exact absurd ⟨finite, by simp⟩ h
      | some p =>
        obtain ⟨why, none⟩ := pixelOf_endless fun hp => h ⟨finite, by rintro q ⟨⟩; exact hp⟩
        rw [translation, counted, none]
        exact ⟨why, rfl⟩
    · obtain ⟨why, none⟩ := Binary64.scrollUnits_endless finite
      have counted : unitsOf amount = .error (.noInteger why) := by rw [unitsOf, none]; rfl
      cases place with
      | none =>
        rw [translation, counted]
        exact ⟨why, rfl⟩
      | some p =>
        rw [translation, counted]
        exact ⟨why, rfl⟩

/-- Pointer events with finite numbers have a translation whatever the toolkits are. -/
theorem translation_pointer (t : Toolkits) (pointer : ∀ payload down, e ≠ .key payload down) (h : e.IsFinite) :
    ∃ plan, translation t e = .ok plan := by
  cases e with
  | key payload down => exact absurd rfl (pointer payload down)
  | mouse kind point button index =>
    obtain ⟨place, placed⟩ := pixelOf_finite h
    rw [translation, placed]
    exact ⟨_, rfl⟩
  | scroll amount place =>
    obtain ⟨n, counted⟩ := unitsOf_finite h.1
    cases place with
    | none =>
      rw [translation, counted]
      exact ⟨_, rfl⟩
    | some p =>
      obtain ⟨place, placed⟩ := pixelOf_finite (h.2 p rfl)
      rw [translation, counted, placed]
      exact ⟨_, rfl⟩

theorem post_endless (answer : Host desktop Fault σ) (t : Toolkits) (h : ¬ e.IsFinite) (s : σ) :
    callsOf answer (post t e) s = [] ∧ ∃ why, ((post t e).run answer s).1 = .error (.noInteger why) := by
  obtain ⟨why, none⟩ := translation_endless t h
  rw [post_eq, none]
  exact ⟨rfl, why, rfl⟩

/-- Toolkits that take every call. -/
def willing : Host desktop Fault Unit
  | .call _, s => (.ok (), s)
  | .position, s => (.ok ⟨.zero, .zero⟩, s)

theorem willing_isOrdinary : IsOrdinary willing := by
  intro c s reason h
  cases h

theorem run_callEach_willing (plan : List ToolkitCall) : (callEach plan).run willing () = (.ok (), ()) := by
  induction plan with
  | nil => rfl
  | cons c rest ih =>
    rw [callEach, run_bind, run_call]
    exact ih

end Desktop

/-! Numbers that are read. -/

theorem NumberText.isFinite {text : List Char} {x : Binary64} (h : NumberText text x) : x.isFinite = true := by
  obtain ⟨d, -, -, finite⟩ := h
  exact finite

theorem PointText.isFinite {text : List Char} {point : Point} (h : PointText text point) : point.IsFinite := by
  obtain ⟨hx, hy⟩ := h
  exact ⟨hx.isFinite, hy.isFinite⟩

namespace Player

variable [Duration τ] (p : Player τ)

/-- A command that comes to an event without finite numbers: it scrolls to a point by an amount that is set to be no
finite number, it drags over a point that is out of all reach, or it is a batch with such a command in it. -/
inductive Overreaches : String → Prop
  | scrollTo {raw point} (read : Command.parse raw = .ok (.scrollTo point))
      (endless : ¬ p.settings.scrollToAmount.value.isFinite = true) : Overreaches raw
  | drag {raw start stop i} (read : Command.parse raw = .ok (.drag start stop)) (first : 1 ≤ i)
      (last : i ≤ p.settings.dragSteps.val)
      (endless : ¬ (start.lerp stop (.ofRatio false i p.settings.dragSteps.val)).IsFinite) : Overreaches raw
  | part {raw commands c} (read : Command.parse raw = .ok (.batch commands)) (hc : c ∈ commands)
      (h : Overreaches c) : Overreaches raw

variable {p} {raw : String}

omit [Duration τ] in
theorem staysFinite_of_parse {action : Action} (read : Command.parse raw = .ok action) (within : ¬ p.Overreaches raw) :
    p.StaysFinite action := by
  obtain ⟨tag, argument, -, -, denotes⟩ := Command.parseLine_eq_ok_iff.1 read
  cases denotes with
  | click h | doubleClick h | rightClick h | multiClick h _ | move h | holdClick h _ => exact h.isFinite
  | scroll h => exact h.isFinite
  | scrollTo h => exact ⟨h.isFinite, not_not.1 fun endless => within (.scrollTo read endless)⟩
  | drag h h' =>
    exact ⟨h.isFinite, h'.isFinite, fun i first last => not_not.1 fun endless =>
      within (.drag read first last endless)⟩
  | _ => trivial

/-- A command that does not overreach has only events with finite numbers. -/
theorem run_asks (hg : p.gestures = chordGestures) (within : ¬ p.Overreaches raw) : AsksFinite (p.run raw) := by
  induction raw using Command.inductionOn with | step raw ih
  cases read : Command.parse raw with
  | error e =>
    unfold run
    rw [read]
    cases e <;> exact .finish _
  | ok action =>
    rcases action.single_or_batch with single | ⟨commands, rfl⟩
    · rw [p.run_of_parse read, p.execute_single single]
      exact .locked trivial trivial (report_asks (p.perform_asks hg (staysFinite_of_parse read within)))
    · rw [p.run_of_parse_batch read]
      refine .locked trivial trivial ?_
      cases Command.expand commands with
      | error numeral => exact .throw _
      | ok entries =>
        exact .map _ (p.runEach_asks fun c hc => ih commands read c hc fun h => within (.part read hc h))

end Player

/-! Faults that become part of results. -/

/-- A fault, or a failure in its place. -/
def Fault.tame (fault : Fault) : Fault :=
  if fault.isFailure then fault else .failure (.execution fault.message)

theorem Fault.isFailure_tame (fault : Fault) : fault.tame.isFailure = true := by
  unfold tame
  split
  · assumption
  · rfl

namespace Injector

/-- The same injector, which raises nothing but failures. -/
def tamed (inj : Injector τ σ) : Injector τ σ where
  post e s := ((inj.post e s).1.mapError Fault.tame, (inj.post e s).2)
  pause time s := ((inj.pause time s).1.mapError Fault.tame, (inj.pause time s).2)
  launch command timeout s :=
    ((inj.launch command timeout s).1.mapError Fault.tame, (inj.launch command timeout s).2)

theorem mapError_tame {result : Except Fault α} (h : ∀ fault, faultOf result = some fault → fault.isFailure = true) :
    result.mapError Fault.tame = result := by
  cases result with
  | ok a => rfl
  | error fault => exact congrArg Except.error (if_pos (h fault rfl))

theorem isFailure_of_tamed {result : Except Fault α} {fault : Fault}
    (h : faultOf (result.mapError Fault.tame) = some fault) : fault.isFailure = true := by
  cases result with
  | ok a => cases h
  | error other =>
    cases h
    exact other.isFailure_tame

variable (inj : Injector τ σ)

theorem host_tamed {r : PlayRequest τ} {s : σ}
    (h : ∀ fault, faultOf (inj.host r s).1 = some fault → fault.isFailure = true) :
    inj.tamed.host r s = inj.host r s := by
  cases r with
  | enter | leave => rfl
  | post e | pause time | launch command timeout => exact Prod.ext (mapError_tame h) rfl

/-- Where nothing but failures is raised, nothing has to be tamed. -/
theorem run_tamed {q : Play τ α} {s : σ}
    (failures : ∀ a ∈ inj.acts q s, ∀ fault, a.fault? = some fault → fault.isFailure = true) :
    inj.tamed.run q s = inj.run q s := by
  induction q generalizing s with
  | finish result => rfl
  | ask r k ih =>
    have same : inj.tamed.host r s = inj.host r s := by
      refine inj.host_tamed fun fault raised => ?_
      cases r with
      | enter | leave => cases raised
      | post e | pause time | launch command timeout => exact failures _ List.mem_cons_self fault raised
    change inj.tamed.run (k (inj.tamed.host r s).1) (inj.tamed.host r s).2 = _
    rw [same]
    refine ih _ fun a ha => failures a ?_
    unfold acts
    exact List.mem_append_right _ ha

end Injector

namespace Player

variable [Duration τ] {p : Player τ} {raw : String}

omit [Duration τ] in
theorem tamed_recovers (hg : p.gestures = chordGestures) (inj : Injector τ σ) : p.Recovers inj.tamed := by
  refine p.recovers_of_chordGestures hg fun r s fault raised => ?_
  cases r with
  | enter | leave => cases raised
  | post e | pause time | launch command timeout => exact Injector.isFailure_of_tamed raised

/-- A command that does not escape has a result where it is met by nothing but failures. -/
theorem run_ok_of_failures (hg : p.gestures = chordGestures) (he : ¬ p.Escapes raw) {inj : Injector τ σ} {s : σ}
    (failures : ∀ a ∈ inj.acts (p.run raw) s, ∀ fault, a.fault? = some fault → fault.isFailure = true) :
    ∃ r s', inj.run (p.run raw) s = (.ok r, s') := by
  obtain ⟨r, s', hr, -⟩ := p.run_answered (tamed_recovers hg inj) he s
  rw [inj.run_tamed failures] at hr
  exact ⟨r, s', hr⟩

end Player

/-- What is no failure is told by no result. -/
theorem settled_ne_ok {fault : Fault} (h : fault.isFailure = false) (label : String) (r : Result) :
    settled label (.error fault) ≠ .ok r := by
  intro told
  cases fault with
  | failure f => cases h
  | _ => cases told

/-! A desktop that takes every call. -/

/-- Posts events through toolkits that take every call, and sleeps without fail. -/
def Injector.welcoming (t : Toolkits) : Injector τ (Unit × Unit) :=
  .onDesk t Desktop.willing fun _ k => (.ok (), k)

section
variable {t : Toolkits} {e : Event}

theorem post_welcoming (pointer : ∀ payload down, e ≠ .key payload down) (h : e.IsFinite) (w : Unit × Unit) :
    (Injector.welcoming t : Injector τ _).post e w = (.ok (), w) := by
  obtain ⟨plan, translated⟩ := Desktop.translation_pointer t pointer h
  have taken : (Desktop.post t e).run Desktop.willing w.1 = (.ok (), ()) := by
    rw [Desktop.post_eq, translated]
    exact Desktop.run_callEach_willing plan
  have first : ((Desktop.post t e).run Desktop.willing w.1).1 = .ok () := congrArg Prod.fst taken
  exact Prod.ext first rfl

theorem post_welcoming_endless (h : ¬ e.IsFinite) (w : Unit × Unit) :
    ∃ why, (Injector.welcoming t : Injector τ _).post e w = (.error (.noInteger why), w) := by
  obtain ⟨-, why, raised⟩ := Desktop.post_endless Desktop.willing t h w.1
  exact ⟨why, Prod.ext raised rfl⟩

theorem run_pause_welcoming [Duration τ] (time : τ) (w : Unit × Unit) :
    (Injector.welcoming t).run (Play.pause time) w = (.ok (), w) := by
  rcases Play.pause_cases time with ⟨-, asks⟩ | ⟨-, skips⟩
  · rw [asks]
    rfl
  · rw [skips]
    rfl

end

namespace Player

variable [Duration τ] {p : Player τ} {raw : String} {t : Toolkits} {start stop point : Point}

theorem dragPoints_endless {steps i j more : Nat} (pause : τ) (first : i ≤ j) (last : j < i + more)
    (endless : ¬ (start.lerp stop (.ofRatio false j steps)).IsFinite) (w : Unit × Unit) :
    ∃ why, (Injector.welcoming t).run (dragPoints start stop pause steps i more) w =
      (.error (.noInteger why), w) := by
  induction more generalizing i with
  | zero => omega
  | succ more ih =>
    unfold dragPoints
    rw [Injector.run_bind, Injector.run_post]
    by_cases finite : (start.lerp stop (.ofRatio false i steps)).IsFinite
    · have later : i + 1 ≤ j := by
        rcases Nat.lt_or_eq_of_le first with less | rfl
        · exact less
        · exact absurd finite endless
      rw [post_welcoming (e := mouse .drag _) (by simp [mouse]) finite]
      simp only [onResult]
      rw [Injector.run_bind, run_pause_welcoming]
      exact ih later (by omega)
    · obtain ⟨why, raised⟩ := post_welcoming_endless (τ := τ) (t := t) (e := mouse .drag _) finite w
      rw [raised]
      exact ⟨why, rfl⟩

theorem drag_endless (hs : start.IsFinite) (hf : stop.IsFinite) {i : Nat} (first : 1 ≤ i)
    (last : i ≤ p.settings.dragSteps.val)
    (endless : ¬ (start.lerp stop (.ofRatio false i p.settings.dragSteps.val)).IsFinite) (w : Unit × Unit) :
    ∃ fault, fault.isFailure = false ∧
      ((Injector.welcoming t).run (p.perform (.drag start stop)) w).1 = .error fault := by
  unfold perform drag
  dsimp only
  split
  · exact ⟨.tooManyParts, rfl, rfl⟩
  · next pause _ =>
    obtain ⟨why, raised⟩ := dragPoints_endless (t := t) pause first (Nat.lt_one_add_iff.2 last) endless w
    refine ⟨.noInteger why, rfl, ?_⟩
    rw [Injector.run_bind, Injector.run_post, post_welcoming (e := mouse .down start) (by simp [mouse]) hs]
    simp only [onResult, Play.whileHeld]
    rw [Injector.run_next, raised]
    -- the button is released all the same, which the desktop takes
    simp only [Play.releaseAfter, Play.releaseEach]
    rw [Injector.run_bind, Injector.run_next, Injector.run_post,
      post_welcoming (e := mouse .up stop) (by simp [mouse]) hf]
    rfl

theorem scrollTo_endless (hp : point.IsFinite) (endless : ¬ p.settings.scrollToAmount.value.isFinite = true)
    (w : Unit × Unit) :
    ∃ fault, fault.isFailure = false ∧
      ((Injector.welcoming t).run (p.perform (.scrollTo point)) w).1 = .error fault := by
  have none : ¬ (Event.scroll p.settings.scrollToAmount (some point)).IsFinite := fun h => endless h.1
  obtain ⟨why, raised⟩ := post_welcoming_endless (τ := τ) (t := t) none w
  refine ⟨.noInteger why, rfl, ?_⟩
  unfold perform
  rw [Injector.run_bind, Injector.run_post, post_welcoming (e := mouse .move point) (by simp [mouse]) hp]
  simp only [onResult]
  rw [Injector.run_post, raised]

/-- A command that overreaches has no result, though the desktop takes every call. -/
theorem Overreaches.run_ne_ok (h : p.Overreaches raw) (t : Toolkits) (w : Unit × Unit) (r : Result) :
    ((Injector.welcoming t).run (p.run raw) w).1 ≠ .ok r := by
  induction h generalizing w r with
  | @scrollTo raw point read endless =>
    obtain ⟨tag, argument, -, -, denotes⟩ := Command.parseLine_eq_ok_iff.1 read
    cases denotes with
    | scrollTo placed =>
      obtain ⟨fault, leaves, raised⟩ := scrollTo_endless (t := t) placed.isFinite endless w
      rw [p.run_of_parse_single read (by simp), raised]
      exact settled_ne_ok leaves raw r
  | @drag raw start stop i read first last endless =>
    obtain ⟨tag, argument, -, -, denotes⟩ := Command.parseLine_eq_ok_iff.1 read
    cases denotes with
    | drag placed placed' =>
      obtain ⟨fault, leaves, raised⟩ :=
        drag_endless (t := t) placed.isFinite placed'.isFinite first last endless w
      rw [p.run_of_parse_single read (by simp), raised]
      exact settled_ne_ok leaves raw r
  | @part raw commands c read hc _ ih =>
    intro hr
    rcases p.run_ok_cases (Prod.ext hr rfl) with ⟨single, -⟩ | ⟨commands', results, read', -, each, -⟩
    · exact single commands read
    · rw [read] at read'
      cases read'
      -- a result of the batch would be one of the command that overreaches, from whatever state it is run
      obtain ⟨w', r', hr'⟩ := p.run_of_runEach (congrArg Prod.fst each) hc
      exact ih w' r' hr'

/-- What goes wrong with a command that does not overreach, on its way to toolkits that may raise but are not
interrupted, is a failure to post. -/
theorem injection_of_run (hg : p.gestures = chordGestures) (within : ¬ p.Overreaches raw) (t : Toolkits)
    {answer : Host desktop Fault σ} (ordinary : Desktop.IsOrdinary answer)
    {sleep : τ → κ → Except Fault Unit × κ} (quiet : ∀ time k, (sleep time k).1 = .ok ()) (w : σ × κ) :
    ∀ a ∈ (Injector.onDesk t answer sleep).acts (p.run raw) w, ∀ fault, a.fault? = some fault →
      fault.isInjection = true := by
  rintro ⟨r, fault?⟩ ha fault hf
  have finite := (run_asks hg within).acts _ w _ ha
  obtain ⟨w', raised⟩ := (Injector.onDesk t answer sleep).raised_of_mem_acts w _ ha hf
  cases r with
  | post e => exact Desktop.injection_of_post w'.1 ordinary finite (faultOf_eq_some_iff.1 raised)
  | pause time =>
    have slept := (faultOf_eq_some_iff.1 raised).symm.trans (quiet time w'.2)
    cases slept
  | _ => cases raised

theorem isFailure_of_isInjection {fault : Fault} (h : fault.isInjection = true) : fault.isFailure = true := by
  cases fault with
  | failure f => rfl
  | _ => cases h

/-- An event with finite numbers is posted, or there is a failure to post it; no other event is ever called for, and
what it raises is no failure. So on its way to a desktop where calls may raise, a command that does not overreach
meets only failures to post; and a command has a result on every such desktop just if it does neither escape nor
overreach. -/
theorem run_onDesk_iff_within (hg : p.gestures = chordGestures) (t : Toolkits) (raw : String) :
    (∀ (σ : Type) (answer : Host desktop Fault σ), Desktop.IsOrdinary answer → ∀ (e : Event) (s : σ),
      (e.IsFinite → ∀ fault, ((Desktop.post t e).run answer s).1 = .error fault → fault.isInjection = true) ∧
      (¬ e.IsFinite → Desktop.callsOf answer (Desktop.post t e) s = [] ∧
        ∃ why, ((Desktop.post t e).run answer s).1 = .error (.noInteger why))) ∧
    (¬ p.Overreaches raw → ∀ (σ κ : Type) (answer : Host desktop Fault σ) (sleep : τ → κ → Except Fault Unit × κ),
      Desktop.IsOrdinary answer → (∀ time k, (sleep time k).1 = .ok ()) → ∀ w,
      ∀ a ∈ (Injector.onDesk t answer sleep).acts (p.run raw) w, ∀ fault, a.fault? = some fault →
        fault.isInjection = true) ∧
    ((∀ (σ κ : Type) (answer : Host desktop Fault σ) (sleep : τ → κ → Except Fault Unit × κ),
      Desktop.IsOrdinary answer → (∀ time k, (sleep time k).1 = .ok ()) → ∀ w,
      ∃ r w', (Injector.onDesk t answer sleep).run (p.run raw) w = (.ok r, w')) ↔
      ¬ p.Escapes raw ∧ ¬ p.Overreaches raw) := by
  refine ⟨fun σ answer ordinary e s => ⟨fun finite fault => Desktop.injection_of_post s ordinary finite,
      fun endless => Desktop.post_endless answer t endless s⟩,
    fun within σ κ answer sleep ordinary quiet w => injection_of_run hg within t ordinary quiet w, ?_, ?_⟩
  · intro returns
    obtain ⟨r, w', hr⟩ := returns Unit Unit Desktop.willing (fun _ k => (.ok (), k)) Desktop.willing_isOrdinary
      (fun _ _ => rfl) ((), ())
    exact ⟨fun he => he.run_ne_ok p _ _ r (congrArg Prod.fst hr),
      fun h => h.run_ne_ok t ((), ()) r (congrArg Prod.fst hr)⟩
  · rintro ⟨stays, within⟩ σ κ answer sleep ordinary quiet w
    refine run_ok_of_failures hg stays fun a ha fault hf => ?_
    exact isFailure_of_isInjection (injection_of_run hg within t ordinary quiet w a ha fault hf)

/-- A desktop whose wheel is stuck. -/
def stuckWheel : Host desktop Fault Unit
  | .call (.scroll ..), s => (.error (.host "OSError" "stuck"), s)
  | .call _, s => (.ok (), s)
  | .position, s => (.ok ⟨.zero, .zero⟩, s)

theorem run_onDesk_iff_within_stuckWheel :
    let p : Player Binary64 := ⟨.standard, chordGestures⟩
    let sleep : Binary64 → Unit → Except Fault Unit × Unit := fun _ k => (.ok (), k)
    let desk := Injector.onDesk (.screen (.ascii false)) stuckWheel sleep
    let raw := "scroll-to:1,2"
    ∃ r w', desk.run (p.run raw) ((), ()) = (.ok r, w') ∧ ∀ a ∈ desk.acts (p.run raw) ((), ()), ∀ fault,
      a.fault? = some fault → fault.isInjection = true := by
  intro p sleep desk raw
  have read : Command.parse raw = .ok (.scrollTo ⟨.ofNat 1, .ofNat 2⟩) := by decide +kernel
  have ordinary : Desktop.IsOrdinary stuckWheel := by
    intro c s reason h
    cases c <;> cases h
  have stays : ¬ p.Escapes raw :=
    p.not_escapes read (Reading.ok_contained _) (by rintro _ ⟨⟩; rfl) (by rintro _ ⟨⟩)
  have within : ¬ p.Overreaches raw := by
    intro h
    cases h with
    | scrollTo read' endless => exact endless (by decide +kernel)
    | drag read' =>
      rw [read] at read'
      cases read'
    | part read' =>
      rw [read] at read'
      cases read'
  obtain ⟨-, failures, result⟩ := run_onDesk_iff_within (p := p) rfl (.screen (.ascii false)) raw
  obtain ⟨r, w', hr⟩ := result.2 ⟨stays, within⟩ Unit Unit stuckWheel sleep ordinary (fun _ _ => rfl) ((), ())
  exact ⟨r, w', hr, failures within Unit Unit stuckWheel sleep ordinary (fun _ _ => rfl) ((), ())⟩

/-- Both ends of the drag are places and every call is taken, but the difference between the ends is no number that
is held. -/
theorem far_drag_without_result :
    let p : Player Binary64 := ⟨.standard, chordGestures⟩
    let desk := Injector.welcoming (.screen (.ascii false))
    let raw := "drag:1e308,0,-1e308,0"
    (∃ start stop, Command.parse raw = .ok (.drag start stop)) ∧ Desktop.IsOrdinary Desktop.willing ∧
      ∀ r, (desk.run (p.run raw) ((), ())).1 ≠ .ok r := by
  intro p desk raw
  have read : Command.parse raw =
      .ok (.drag ⟨.ofInt (10 ^ 308), .zero⟩ ⟨.ofInt (-10 ^ 308), .zero⟩) := by decide +kernel
  have few : 1 ≤ p.settings.dragSteps.val := p.settings.dragSteps.pos
  refine ⟨⟨_, _, read⟩, Desktop.willing_isOrdinary, fun r => ?_⟩
  refine Overreaches.run_ne_ok (.drag read (Nat.le_refl 1) few fun between => ?_) _ _ r
  have far : ¬ (Point.lerp ⟨.ofInt (10 ^ 308), .zero⟩ ⟨.ofInt (-10 ^ 308), .zero⟩
      (.ofRatio false 1 PlaySettings.standard.dragSteps.val)).x.isFinite = true := by decide +kernel
  exact far between.1

end Player

end InputReplay
