import InputReplay.Desktop.Controller
import InputReplay.Proofs.Held
import InputReplay.Proofs.Whole

/-! What toolkits are asked to do for an event. An event has a translation into calls, which depends on the
toolkits alone; posting the event makes these calls in order and stops at the first that raises. -/

namespace InputReplay

open Program

variable {σ α β : Type}

/-- A key as a toolkit knows it. -/
inductive DeskKey where
  | screen (name : String)
  | device (key : DeviceKey)

def DeskKey.call (down : Bool) : DeskKey → ToolkitCall
  | screen name => if down then .keyDown name else .keyUp name
  | device key => if down then .pressKey key else .releaseKey key

/-- What a call presses or lifts. -/
inductive Grip where
  | key (key : DeskKey)
  | button (button : Button)

namespace ToolkitCall

def pressed? : ToolkitCall → Option Grip
  | keyDown name => some (.key (.screen name))
  | pressKey key => some (.key (.device key))
  | mouseDown _ _ button | pressButton button => some (.button button)
  | _ => none

def lifted? : ToolkitCall → Option Grip
  | keyUp name => some (.key (.screen name))
  | releaseKey key => some (.key (.device key))
  | mouseUp _ _ button | releaseButton button => some (.button button)
  | _ => none

end ToolkitCall

/-- Whether every number of an event is finite. -/
def Point.IsFinite (p : Point) : Prop := p.x.isFinite = true ∧ p.y.isFinite = true

def Event.IsFinite : Event → Prop
  | .key .. => True
  | .mouse _ point _ _ => point.IsFinite
  | .scroll amount point => amount.value.isFinite = true ∧ ∀ p ∈ point, p.IsFinite

namespace Desktop

/-! Translation. -/

/-- The key for what a key event carries, whether it goes down or up. -/
def deskKey (t : Toolkits) (payload : KeyPayload) : Except Fault DeskKey :=
  match payload, t with
  | .text text, .screen toolkit =>
    if toolkit.hasKey text then .ok (.screen text)
    else if toolkit.withKeyboard then .ok (.device (.text text))
    else .error (.injection (.untypable text))
  | .text text, .devices => .ok (.device (.text text))
  | .code key, .screen _ => .ok (.screen key.screenName)
  | .code key, .devices =>
    match key.deviceKey? with
    | some k => .ok (.device k)
    | none => .error (.injection (.unknownToToolkit key))
  | .nothing, _ => .error (.injection .nothingToPress)

def pixelOf (p : Point) : Except Fault (Int × Int) := do
  let x ← p.x.round.mapError .noInteger
  let y ← p.y.round.mapError .noInteger
  return (x, y)

def unitsOf (amount : ScrollAmount) : Except Fault Int := amount.value.scrollUnits.mapError .noInteger

/-- The calls that press or lift a button where the cursor is. -/
def buttonCalls (button : Button) : MouseKind → List ToolkitCall
  | .down => [.pressButton button]
  | .up => [.releaseButton button]
  | _ => []

def mouseCalls (kind : MouseKind) (button : Button) (place : Int × Int) : Toolkits → List ToolkitCall
  | .screen _ => [mouseOnScreen kind place.1 place.2 button]
  | .devices => .placeCursor place.1 place.2 :: buttonCalls button kind

def scrollCalls (units : Int) (place : Option (Int × Int)) : Toolkits → List ToolkitCall
  | .screen _ => [.scroll units place]
  | .devices => place.toList.map (fun p => .placeCursor p.1 p.2) ++ [.turnWheel units]

/-- The calls for an event. -/
def translation (t : Toolkits) : Event → Except Fault (List ToolkitCall)
  | .key payload down => (fun key => [key.call down]) <$> deskKey t payload
  | .mouse kind point button _ => (mouseCalls kind button · t) <$> pixelOf point
  | .scroll amount none => (scrollCalls · none t) <$> unitsOf amount
  | .scroll amount (some point) => do
    let units ← unitsOf amount
    (scrollCalls units · t) <$> some <$> pixelOf point

def callEach : List ToolkitCall → DesktopProgram Unit
  | [] => pure ()
  | c :: rest => do
    call c
    callEach rest

/-- What a program calls, in order, each time with the fault that was raised. -/
def callsOf (answer : Host desktop Fault σ) : DesktopProgram α → σ → List (ToolkitCall × Option Fault)
  | .finish _, _ => []
  | .ask (.call c) k, s =>
    (c, faultOf (answer (.call c) s).1) :: callsOf answer (k (answer (.call c) s).1) (answer (.call c) s).2
  | .ask .position k, s => callsOf answer (k (answer .position s).1) (answer .position s).2

theorem bind_pure_unit (q : DesktopProgram Unit) : (q >>= fun _ => pure ()) = q := by
  induction q with
  | finish result => cases result <;> rfl
  | ask r k ih => exact congrArg (Program.ask r) (funext ih)

theorem callEach_singleton (c : ToolkitCall) : callEach [c] = call c := bind_pure_unit (call c)

theorem pixel_eq (p : Point) : pixel p = ofExcept (pixelOf p) := by
  unfold pixel pixelOf integer
  cases p.x.round with
  | error => rfl
  | ok x => cases p.y.round <;> rfl

theorem postKey_eq (payload : KeyPayload) (down : Bool) (t : Toolkits) :
    postKey payload down t = ofExcept (deskKey t payload) >>= fun key => call (key.call down) := by
  unfold postKey deskKey
  cases payload with
  | nothing => rfl
  | text text =>
    cases t with
    | devices => rfl
    | screen toolkit =>
      simp only [postText]
      split
      · rfl
      · split <;> rfl
  | code key =>
    cases t with
    | screen toolkit => rfl
    | devices =>
      simp only [postCode]
      cases key.deviceKey? <;> rfl

theorem postMouse_eq (kind : MouseKind) (point : Point) (button : Button) (t : Toolkits) :
    postMouse kind point button t =
      ofExcept ((mouseCalls kind button · t) <$> pixelOf point) >>= callEach := by
  unfold postMouse
  rw [pixel_eq]
  cases pixelOf point with
  | error => rfl
  | ok place =>
    cases t with
    | screen toolkit => exact (callEach_singleton _).symm
    | devices =>
      cases kind with
      | down | up =>
        change (call _ >>= fun _ => call _) = (call _ >>= fun _ => callEach [_])
        rw [callEach_singleton]
      | move | drag => rfl

/-- Posting an event is making the calls it is translated to. -/
theorem post_eq (t : Toolkits) (e : Event) : post t e = ofExcept (translation t e) >>= callEach := by
  cases e with
  | key payload down =>
    rw [post, postKey_eq, translation]
    cases deskKey t payload with
    | error => rfl
    | ok key => exact (callEach_singleton _).symm
  | mouse kind point button index => exact postMouse_eq kind point button t
  | scroll amount point =>
    have units : integer amount.value.scrollUnits = ofExcept (unitsOf amount) := rfl
    change postScroll amount point t = _
    unfold postScroll
    rw [units]
    cases point with
    | none =>
      rw [translation]
      cases unitsOf amount with
      | error => rfl
      | ok n => cases t <;> exact (callEach_singleton _).symm
    | some p =>
      rw [translation]
      cases unitsOf amount with
      | error => rfl
      | ok n =>
        cases t with
        | screen toolkit =>
          change (pixel p >>= fun place => call (.scroll n (some place))) =
            ofExcept ((scrollCalls n · (.screen toolkit)) <$> some <$> pixelOf p) >>= callEach
          rw [pixel_eq]
          cases pixelOf p with
          | error => rfl
          | ok place => exact (callEach_singleton _).symm
        | devices =>
          change (postMouse .move p .left .devices >>= fun _ => call (.turnWheel n)) =
            ofExcept ((scrollCalls n · .devices) <$> some <$> pixelOf p) >>= callEach
          rw [postMouse_eq]
          cases pixelOf p with
          | error => rfl
          | ok place =>
            change (callEach [.placeCursor place.1 place.2] >>= fun _ => call (.turnWheel n)) =
              call (.placeCursor place.1 place.2) >>= fun _ => callEach [.turnWheel n]
            rw [callEach_singleton, callEach_singleton]

/-! What becomes of calls. -/

/-- What is told when a call raises a fault. -/
def told (c : ToolkitCall) : Fault → Fault
  | .interrupted reason => .interrupted reason
  | fault => if fault.isInjection then fault else .injection (.callFailed c.name fault.message)

/-- What comes of calls that are made one after another: either each is made and none raises, or the first one that
raises is the last. -/
inductive Performs (plan : List ToolkitCall) : List (ToolkitCall × Option Fault) → Except Fault Unit → Prop
  | all : Performs plan (plan.map (·, none)) (.ok ())
  | cut (before c rest fault) (reached : plan = before ++ c :: rest) :
      Performs plan (before.map (·, none) ++ [(c, some fault)]) (.error (told c fault))

theorem Performs.next {plan : List ToolkitCall} {made : List (ToolkitCall × Option Fault)}
    {result : Except Fault Unit} (h : Performs plan made result) (c : ToolkitCall) :
    Performs (c :: plan) ((c, none) :: made) result := by
  cases h with
  | all => exact .all
  | cut before c' rest fault reached => exact .cut (c :: before) c' rest fault (by rw [reached, List.cons_append])

variable (answer : Host desktop Fault σ) (s : σ)

theorem callsOf_bind (q : DesktopProgram α) (f : α → DesktopProgram β) :
    callsOf answer (q >>= f) s =
      callsOf answer q s ++ callsOf answer (onResult f (q.run answer s).1) (q.run answer s).2 := by
  induction q generalizing s with
  | finish result => rfl
  | ask r k ih =>
    cases r with
    | call c => exact congrArg (_ :: ·) (ih _ _)
    | position => exact ih _ _

theorem call_eq (c : ToolkitCall) :
    call c = .ask (.call c) fun reply => .finish ((reply : Except Fault Unit).mapError (told c)) := by
  refine congrArg (Program.ask (S := desktop) (.call c)) (funext fun reply => ?_)
  cases reply with
  | ok _ => rfl
  | error fault =>
    cases fault with
    | failure f => cases f <;> rfl
    | _ => rfl

theorem callsOf_call (c : ToolkitCall) : callsOf answer (call c) s = [(c, faultOf (answer (.call c) s).1)] := by
  rw [call_eq]
  rfl

theorem run_call (c : ToolkitCall) :
    (call c).run answer s =
      (((answer (.call c) s).1 : Except Fault Unit).mapError (told c), (answer (.call c) s).2) := by
  rw [call_eq]
  rfl

theorem callEach_performs (plan : List ToolkitCall) :
    Performs plan (callsOf answer (callEach plan) s) ((callEach plan).run answer s).1 := by
  induction plan generalizing s with
  | nil => exact .all
  | cons c rest ih =>
    rw [callEach, callsOf_bind, run_bind, callsOf_call, run_call]
    generalize answer (.call c) s = out
    obtain ⟨reply, s'⟩ := out
    cases reply with
    | ok _ => exact (ih s').next c
    | error fault => exact .cut [] c rest fault rfl

/-- Posting an event performs the calls it is translated to. An event that has no translation is not posted, and
nothing is called for it. -/
theorem post_performs (t : Toolkits) (e : Event) :
    (∃ plan, translation t e = .ok plan ∧ Performs plan (callsOf answer (post t e) s) ((post t e).run answer s).1) ∨
    (∃ fault, translation t e = .error fault ∧ callsOf answer (post t e) s = [] ∧
      ((post t e).run answer s).1 = .error fault) := by
  rw [post_eq]
  cases translation t e with
  | ok plan => exact .inl ⟨plan, rfl, callEach_performs answer s plan⟩
  | error fault => exact .inr ⟨fault, rfl, rfl, rfl⟩

/-! What a translation is made of. -/

/-- The calls for an event: one with the screen toolkit. With the devices the cursor is put in place first when the
event has a place, and a key, a button or the wheel takes one call more. -/
def Shaped (e : Event) (plan : List ToolkitCall) : Toolkits → Prop
  | .screen _ => ∃ c, plan = [c]
  | .devices =>
    match e.point? with
    | none => ∃ c, plan = [c]
    | some p => ∃ x y more, p.x.round = .ok x ∧ p.y.round = .ok y ∧
        plan = .placeCursor x y :: more ∧ more.length ≤ 1

variable {t : Toolkits} {e e' : Event} {plan plan' : List ToolkitCall}

/-- The ways in which an event is translated. -/
inductive Translates (t : Toolkits) : Event → List ToolkitCall → Prop
  | key {payload key} (down) (known : deskKey t payload = .ok key) :
      Translates t (.key payload down) [key.call down]
  | mouse {point place} (kind button index) (placed : pixelOf point = .ok place) :
      Translates t (.mouse kind point button index) (mouseCalls kind button place t)
  | scroll {amount n} (counted : unitsOf amount = .ok n) : Translates t (.scroll amount none) (scrollCalls n none t)
  | scrollAt {amount point n place} (counted : unitsOf amount = .ok n) (placed : pixelOf point = .ok place) :
      Translates t (.scroll amount (some point)) (scrollCalls n (some place) t)

theorem translates_of_translation (h : translation t e = .ok plan) : Translates t e plan := by
  unfold translation at h
  split at h
  · next payload down =>
    cases known : deskKey t payload with
    | error => rw [known] at h; cases h
    | ok key => rw [known] at h; cases h; exact .key down known
  · next kind point button index =>
    cases placed : pixelOf point with
    | error => rw [placed] at h; cases h
    | ok place => rw [placed] at h; cases h; exact .mouse kind button index placed
  · next amount =>
    cases counted : unitsOf amount with
    | error => rw [counted] at h; cases h
    | ok n => rw [counted] at h; cases h; exact .scroll counted
  · next amount point =>
    cases counted : unitsOf amount with
    | error => rw [counted] at h; cases h
    | ok n =>
      cases placed : pixelOf point with
      | error => rw [counted, placed] at h; cases h
      | ok place => rw [counted, placed] at h; cases h; exact .scrollAt counted placed

theorem round_of_pixelOf {p : Point} {place : Int × Int} (h : pixelOf p = .ok place) :
    p.x.round = .ok place.1 ∧ p.y.round = .ok place.2 := by
  unfold pixelOf at h
  cases hx : p.x.round with
  | error => rw [hx] at h; cases h
  | ok x =>
    cases hy : p.y.round with
    | error => rw [hx, hy] at h; cases h
    | ok y => rw [hx, hy] at h; cases h; exact ⟨rfl, rfl⟩

theorem shaped_of_translation (h : translation t e = .ok plan) : Shaped e plan t := by
  cases translates_of_translation h with
  | key => cases t <;> exact ⟨_, rfl⟩
  | mouse kind button index placed =>
    obtain ⟨hx, hy⟩ := round_of_pixelOf placed
    cases t with
    | screen => exact ⟨_, rfl⟩
    | devices =>
      refine ⟨_, _, _, hx, hy, rfl, ?_⟩
      cases kind <;> simp [buttonCalls]
  | scroll => cases t <;> exact ⟨_, rfl⟩
  | scrollAt counted placed =>
    obtain ⟨hx, hy⟩ := round_of_pixelOf placed
    cases t with
    | screen => exact ⟨_, rfl⟩
    | devices => exact ⟨_, _, _, hx, hy, rfl, Nat.le_refl 1⟩

/-- What toolkits take hold of when a key or a button goes down or up. -/
inductive Grips (t : Toolkits) : Held → Grip → Prop
  | key {payload key} (known : deskKey t payload = .ok key) : Grips t (.key payload) (.key key)
  | button (button) : Grips t (.button button) (.button button)

theorem Grips.unique {h : Held} {grip grip' : Grip} (first : Grips t h grip) (second : Grips t h grip') :
    grip = grip' := by
  cases first with
  | key known =>
    cases second with
    | key known' =>
      rw [known] at known'
      cases known'
      rfl
  | button => cases second; rfl

@[simp]
theorem pressed?_call (key : DeskKey) : (key.call true).pressed? = some (.key key) := by cases key <;> rfl

@[simp]
theorem lifted?_call (key : DeskKey) : (key.call false).lifted? = some (.key key) := by cases key <;> rfl

theorem pressed_of_translation {h : Held} (hp : e.pressed? = some h) (down : translation t e = .ok plan) :
    ∃ grip, Grips t h grip ∧ plan.filterMap (·.pressed?) = [grip] := by
  cases translates_of_translation down with
  | @key payload key goesDown known =>
    cases goesDown with
    | true => cases hp; exact ⟨.key key, .key known, by simp⟩
    | false => cases hp
  | mouse kind button index placed =>
    cases kind with
    | down => cases hp; exact ⟨.button button, .button button, by cases t <;> rfl⟩
    | _ => cases hp
  | _ => cases hp

theorem lifted_of_translation {h : Held} (hl : e.lifted? = some h) (up : translation t e = .ok plan) :
    ∃ grip, Grips t h grip ∧ plan.filterMap (·.lifted?) = [grip] := by
  cases translates_of_translation up with
  | @key payload key goesDown known =>
    cases goesDown with
    | false => cases hl; exact ⟨.key key, .key known, by simp⟩
    | true => cases hl
  | mouse kind button index placed =>
    cases kind with
    | up => cases hl; exact ⟨.button button, .button button, by cases t <;> rfl⟩
    | _ => cases hl
  | _ => cases hl

theorem pixelOf_finite {p : Point} (h : p.IsFinite) : ∃ place, pixelOf p = .ok place := by
  obtain ⟨x, hx⟩ := Binary64.round_finite h.1
  obtain ⟨y, hy⟩ := Binary64.round_finite h.2
  refine ⟨(x, y), ?_⟩
  rw [pixelOf, hx, hy]
  rfl

theorem unitsOf_finite {amount : ScrollAmount} (h : amount.value.isFinite = true) :
    ∃ n, unitsOf amount = .ok n := by
  obtain ⟨n, hn⟩ := Binary64.scrollUnits_finite h
  refine ⟨n, ?_⟩
  rw [unitsOf, hn]
  rfl

theorem injection_of_deskKey {payload : KeyPayload} {fault : Fault} (h : deskKey t payload = .error fault) :
    fault.isInjection = true := by
  unfold deskKey at h
  split at h
  · split at h
    · cases h
    · split at h <;> cases h
      rfl
  · cases h
  · cases h
  · split at h <;> cases h
    rfl
  · cases h
    rfl

/-- An event with finite numbers has no translation only if the toolkits have no key for it. -/
theorem injection_of_translation {fault : Fault} (finite : e.IsFinite) (h : translation t e = .error fault) :
    fault.isInjection = true := by
  unfold translation at h
  split at h
  · next payload down =>
    cases known : deskKey t payload with
    | error other => rw [known] at h; cases h; exact injection_of_deskKey known
    | ok key => rw [known] at h; cases h
  · obtain ⟨place, placed⟩ := pixelOf_finite finite
    rw [placed] at h
    cases h
  · obtain ⟨n, counted⟩ := unitsOf_finite finite.1
    rw [counted] at h
    cases h
  · obtain ⟨n, counted⟩ := unitsOf_finite finite.1
    obtain ⟨place, placed⟩ := pixelOf_finite (finite.2 _ rfl)
    rw [counted, placed] at h
    cases h

theorem exists_translation {h : Held} {grip : Grip} (grips : Grips t h grip) (hl : e.lifted? = some h)
    (finite : e.IsFinite) : ∃ plan, translation t e = .ok plan := by
  cases e with
  | key payload down =>
    cases down with
    | true => cases hl
    | false =>
      cases hl
      cases grips with
      | key known =>
        rw [translation, known]
        exact ⟨_, rfl⟩
  | mouse kind point button index =>
    obtain ⟨place, placed⟩ := pixelOf_finite finite
    rw [translation, placed]
    exact ⟨_, rfl⟩
  | scroll => cases hl

/-- The calls for a press press one thing, and the calls for a release of the same lift the same thing. -/
theorem grip_of_translation {h : Held} (hp : e.pressed? = some h) (hl : e'.lifted? = some h)
    (finite : e'.IsFinite) (down : translation t e = .ok plan) :
    ∃ grip plan', translation t e' = .ok plan' ∧ plan.filterMap (·.pressed?) = [grip] ∧
      plan'.filterMap (·.lifted?) = [grip] := by
  obtain ⟨grip, grips, pressed⟩ := pressed_of_translation hp down
  obtain ⟨plan', up⟩ := exists_translation grips hl finite
  obtain ⟨grip', grips', lifted⟩ := lifted_of_translation hl up
  rw [grips'.unique grips] at lifted
  exact ⟨grip, plan', up, pressed, lifted⟩

/-- Calls succeed or raise what becomes a failure to post. -/
def IsOrdinary (answer : Host desktop Fault σ) : Prop :=
  ∀ c s reason, (answer (.call c) s).1 ≠ .error (.interrupted reason)

theorem told_isInjection {c : ToolkitCall} {fault : Fault} (h : ∀ reason, fault ≠ .interrupted reason) :
    (told c fault).isInjection = true := by
  cases fault with
  | interrupted reason => exact absurd rfl (h reason)
  | failure f => cases f <;> rfl
  | _ => rfl

variable {answer}

theorem injection_of_callEach (ordinary : IsOrdinary answer) {fault : Fault}
    (h : ((callEach plan).run answer s).1 = .error fault) : fault.isInjection = true := by
  induction plan generalizing s with
  | nil => cases h
  | cons c rest ih =>
    rw [callEach, run_bind, run_call] at h
    cases reply : answer (.call c) s with
    | mk result s' =>
      rw [reply] at h
      cases result with
      | ok _ => exact ih s' h
      | error raised =>
        cases h
        exact told_isInjection fun reason same => ordinary c s reason (by rw [reply, same])

/-- Where calls are ordinary, an event with finite numbers is posted or there is a failure to post it. -/
theorem injection_of_post (ordinary : IsOrdinary answer) (finite : e.IsFinite) {fault : Fault}
    (h : ((post t e).run answer s).1 = .error fault) : fault.isInjection = true := by
  rw [post_eq] at h
  cases translated : translation t e with
  | ok plan =>
    rw [translated] at h
    exact injection_of_callEach s ordinary h
  | error other =>
    rw [translated] at h
    cases h
    exact injection_of_translation finite translated

/-- What posting an event comes to. It performs the calls of its translation; or the toolkits have no key for it,
and it fails before any call. -/
inductive Carried (t : Toolkits) (answer : Host desktop Fault σ) (e : Event) (s : σ) : Prop
  | performed {plan : List ToolkitCall} (translated : translation t e = .ok plan) (shaped : Shaped e plan t)
      (performs : Performs plan (callsOf answer (post t e) s) ((post t e).run answer s).1)
  | unknown {cause} (untranslated : translation t e = .error (.injection cause))
      (silent : callsOf answer (post t e) s = [])
      (raised : ((post t e).run answer s).1 = .error (.injection cause))

theorem carried_of_finite (finite : e.IsFinite) : Carried t answer e s := by
  rcases post_performs answer s t e with ⟨plan, translated, performs⟩ | ⟨fault, untranslated, silent, raised⟩
  · exact .performed translated (shaped_of_translation translated) performs
  · have failure := injection_of_translation finite untranslated
    cases fault with
    | failure f =>
      cases f with
      | injection cause => exact .unknown untranslated silent raised
      | _ => cases failure
    | _ => cases failure

end Desktop
end InputReplay
