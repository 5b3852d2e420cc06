import InputReplay.Proofs.Batch

/-! Plays that do not ask why an event was not posted. Whatever reason an injection failure gives, playing goes
on in the same way: the same requests are made after it, and results differ in no more than the reasons they
tell. -/

namespace InputReplay

open Program

variable {τ α β γ δ : Type}

/-- Outcomes with related faults or with related results. -/
inductive SameEnd (F : Fault → Fault → Prop) (R : α → β → Prop) : Except Fault α → Except Fault β → Prop
  | ok {a b} (h : R a b) : SameEnd F R (.ok a) (.ok b)
  | fault {f f'} (h : F f f') : SameEnd F R (.error f) (.error f')

/-- Faults that are the same, or that both say that an event was not posted. -/
def SameFault (f f' : Fault) : Prop := f = f' ∨ f.isInjection = true ∧ f'.isInjection = true

/-- Replies that are the same, or that both say that an event was not posted. -/
def SameReply : (r : PlayRequest τ) → Except Fault r.Reply → Except Fault r.Reply → Prop
  | .post _, x, y => SameEnd SameFault Eq x y
  | _, x, y => x = y

/-- Plays that make the same requests and end in the same way, as long as they get the same replies. -/
inductive Alike (F : Fault → Fault → Prop) (R : α → β → Prop) : Play τ α → Play τ β → Prop
  | finish {x y} (h : SameEnd F R x y) : Alike F R (.finish x) (.finish y)
  | ask (r) {k k'} (h : ∀ x y, SameReply r x y → Alike F R (k x) (k' y)) : Alike F R (.ask r k) (.ask r k')

theorem SameFault.refl (f : Fault) : SameFault f f := .inl rfl

theorem SameFault.isInjection_eq {f f' : Fault} (h : SameFault f f') : f.isInjection = f'.isInjection := by
  rcases h with rfl | ⟨hf, hf'⟩
  · rfl
  · rw [hf, hf']

theorem SameEnd.refl {F : Fault → Fault → Prop} (hF : ∀ f, F f f) (x : Except Fault α) : SameEnd F Eq x x := by
  cases x with
  | ok a => exact .ok rfl
  | error f => exact .fault (hF f)

namespace Alike

variable {F G : Fault → Fault → Prop} {R : α → β → Prop} {Q : γ → δ → Prop}

theorem pure {a : α} {b : β} (h : R a b) : Alike F R (Pure.pure a : Play τ α) (Pure.pure b) := .finish (.ok h)

theorem throw {f f' : Fault} (h : F f f') : Alike F R (Program.throw f : Play τ α) (Program.throw f') :=
  .finish (.fault h)

theorem next {q : Play τ α} {q' : Play τ β} {f : Except Fault α → Play τ γ} {f' : Except Fault β → Play τ δ}
    (h : Alike F R q q') (more : ∀ x y, SameEnd F R x y → Alike G Q (f x) (f' y)) :
    Alike G Q (q.next f) (q'.next f') := by
  induction h with
  | finish same => exact more _ _ same
  | ask r _ ih => exact .ask r fun x y same => ih x y same

theorem bind {q : Play τ α} {q' : Play τ β} {f : α → Play τ γ} {f' : β → Play τ δ} (h : Alike F R q q')
    (more : ∀ a b, R a b → Alike F Q (f a) (f' b)) : Alike F Q (q >>= f) (q' >>= f') := by
  refine h.next fun x y same => ?_
  cases same with
  | ok related => exact more _ _ related
  | fault same => exact throw same

theorem map {q : Play τ α} {q' : Play τ β} {f : α → γ} {f' : β → δ} (h : Alike F R q q')
    (kept : ∀ a b, R a b → Q (f a) (f' b)) : Alike F Q (f <$> q) (f' <$> q') :=
  h.bind fun a b related => pure (kept a b related)

end Alike

/-- A play that goes on in the same way whatever reason an injection failure gives. -/
def Incurious (q : Play τ Unit) : Prop := Alike SameFault Eq q q

theorem Incurious.andThen {q : Play τ Unit} {f : Unit → Play τ Unit} (h : Incurious q) (more : Incurious (f ())) :
    Incurious (q >>= f) :=
  h.bind fun _ _ _ => more

/-! Plays. -/

namespace Play

variable {f f' : Fault}

theorem done_incurious : Incurious (pure () : Play τ Unit) := .pure rfl

theorem post_incurious (e : Event) : Incurious (post e : Play τ Unit) :=
  .ask (.post e) fun _ _ same => .finish same

theorem pause_incurious [Duration τ] (time : τ) : Incurious (pause time) := by
  by_cases h : Duration.isPositive time
  · have asks : pause time = request (S := playing τ) (.pause time) := if_pos h
    rw [asks]
    refine .ask (.pause time) fun x _ same => ?_
    cases same
    exact .finish (.refl .refl x)
  · have skips : pause time = pure () := if_neg h
    rw [skips]
    exact done_incurious

/-- What is told of releases is the same fault, or none. -/
theorem releaseEach_alike (releases : List Event) :
    Alike SameFault (Option.Rel SameFault) (releaseEach releases : Play τ _) (releaseEach releases) := by
  induction releases with
  | nil => exact .pure .none
  | cons e rest ih =>
    refine (post_incurious e).next fun x y same => ?_
    cases same with
    | ok => exact ih
    | @fault f f' same =>
      dsimp only
      rw [← same.isInjection_eq]
      split
      · exact ih.map fun _ _ _ => .some same
      · exact .throw same

theorem releaseAfter_alike {R : α → β → Prop} (releases : List Event) (same : SameFault f f') :
    Alike SameFault R (releaseAfter releases f : Play τ α) (releaseAfter releases f') :=
  (releaseEach_alike releases).bind fun _ _ _ => .throw same

theorem releaseFinally_incurious (releases : List Event) : Incurious (releaseFinally releases : Play τ Unit) := by
  refine (releaseEach_alike releases).bind fun told told' same => ?_
  cases same with
  | none => exact .pure rfl
  | some same => exact .throw same

theorem whileHeld_incurious (releases : List Event) {body : Play τ Unit} (h : Incurious body) :
    Incurious (whileHeld releases body) := by
  refine h.next fun x y same => ?_
  cases same with
  | ok => exact releaseFinally_incurious releases
  | fault same => exact releaseAfter_alike releases same

theorem chordOver_incurious (releases : List Event) (keys : List KeyCode) :
    Incurious (chordOver releases keys : Play τ Unit) := by
  induction keys generalizing releases with
  | nil => exact releaseFinally_incurious releases
  | cons key rest ih =>
    refine (post_incurious (pressKey key)).next fun x y same => ?_
    cases same with
    | ok => exact ih _
    | fault same => exact releaseAfter_alike releases same

theorem locked_alike {R : α → β → Prop} {body : Play τ α} {body' : Play τ β} (h : Alike Eq R body body') :
    Alike Eq R (locked body) (locked body') := by
  have leaves : Alike Eq Eq (leave : Play τ Unit) leave :=
    .ask .leave fun x _ same => same ▸ .finish (.refl .refl x)
  refine .ask .enter fun x _ same => ?_
  cases same
  match x with
  | .error fault => exact .throw rfl
  | .ok false => exact .throw rfl
  | .ok true => exact h.next fun x y same => leaves.bind fun _ _ _ => .finish same

end Play

/-! Results. -/

/-- What a result tells without its reasons: the command, whether it was good, and the same of its children. -/
inductive Outline where
  | node (command : String) (ok : Bool) (children : List Outline)

namespace Result

mutual

def outline : Result → Outline
  | succeeded command => .node command true []
  | failed command _ => .node command false []
  | batch command children => .node command (areOk children) (outlines children)

def outlines : List Result → List Outline
  | [] => []
  | r :: rest => r.outline :: outlines rest

end

theorem outlines_eq_map (rs : List Result) : outlines rs = rs.map outline := by
  induction rs with
  | nil => rfl
  | cons r rest ih => rw [outlines, ih, List.map_cons]

theorem outline_eq (r : Result) : r.outline = .node r.command r.isOk (r.children.map outline) := by
  cases r with
  | succeeded | failed => simp [outline, isOk, command, children]
  | batch label children => rw [outline, outlines_eq_map]; simp [isOk, command, Result.children]

/-- Results have the same outline if they stem from the same command, are both good or both bad, and so are
their children. -/
theorem outline_eq_iff {r r' : Result} : r.outline = r'.outline ↔
    r.command = r'.command ∧ r.isOk = r'.isOk ∧ r.children.map outline = r'.children.map outline := by
  rw [outline_eq r, outline_eq r', Outline.node.injEq]

theorem areOk_eq_of_outlines {rs rs' : List Result} (h : outlines rs = outlines rs') : areOk rs = areOk rs' := by
  induction rs generalizing rs' with
  | nil =>
    cases rs' with
    | nil => rfl
    | cons => cases h
  | cons r rest ih =>
    cases rs' with
    | nil => cases h
    | cons r' rest' =>
      obtain ⟨first, others⟩ := List.cons.inj h
      rw [areOk, areOk, ih others, (outline_eq_iff.1 first).2.1]

/-- Results with the same outline. -/
def SameOutline (r r' : Result) : Prop := r.outline = r'.outline

theorem batch_sameOutline {rs rs' : List Result} (label : String) (h : outlines rs = outlines rs') :
    SameOutline (.batch label rs) (.batch label rs') := by
  rw [SameOutline, outline, outline, areOk_eq_of_outlines h, h]

end Result

/-! Players. -/

namespace Player

open Play

variable [Duration τ] (p : Player τ)

omit [Duration τ] in
theorem typeEach_incurious (text : List Char) : Incurious (typeEach text : Play τ Unit) := by
  induction text with
  | nil => exact done_incurious
  | cons c rest ih => exact (post_incurious _).andThen ((post_incurious _).andThen ih)

theorem clicks_incurious (point : Point) (button : Button) (index count : Nat) :
    Incurious (p.clicks point button index count) := by
  induction count generalizing index with
  | zero => exact done_incurious
  | succ more ih =>
    refine (post_incurious _).andThen ((post_incurious _).andThen ?_)
    split
    · exact (pause_incurious _).andThen (ih _)
    · exact ih _

theorem dragPoints_incurious (start finish : Point) (pause : τ) (steps i count : Nat) :
    Incurious (dragPoints start finish pause steps i count) := by
  induction count generalizing i with
  | zero => exact done_incurious
  | succ more ih => exact (post_incurious _).andThen ((pause_incurious _).andThen (ih _))

theorem drag_incurious (start finish : Point) : Incurious (p.drag start finish) := by
  unfold drag
  dsimp only
  split
  · exact .throw (.refl _)
  · exact (post_incurious _).andThen (whileHeld_incurious _ (dragPoints_incurious ..))

theorem holdClick_incurious (point : Point) (modifier : KeyCode) (count : Int) :
    Incurious (p.holdClick point modifier count) :=
  (post_incurious _).andThen
    (whileHeld_incurious _ ((post_incurious _).andThen (p.clicks_incurious ..)))

theorem perform_incurious (hg : ∀ kind, Incurious (p.gestures kind)) (action : Action) :
    Incurious (p.perform action) := by
  cases action with
  | key | move | scroll => exact post_incurious _
  | press | scrollTo => exact (post_incurious _).andThen (post_incurious _)
  | type text => exact typeEach_incurious _
  | click => exact p.clicks_incurious ..
  | drag => exact p.drag_incurious ..
  | shortcut codes => exact chordOver_incurious [] codes
  | holdClick => exact p.holdClick_incurious ..
  | autocomplete => exact (typeEach_incurious _).andThen ((pause_incurious _).andThen (typeEach_incurious _))
  | gesture kind => exact hg kind
  | batch => exact done_incurious

omit [Duration τ] in
theorem report_alike (label : String) {body : Play τ Unit} (h : Incurious body) :
    Alike Eq Result.SameOutline (report label body) (report label body) := by
  refine h.next fun x y same => ?_
  cases same with
  | ok => exact .pure rfl
  | @fault f f' same =>
    rcases same with rfl | ⟨hf, hf'⟩
    · cases f with
      | failure => exact .pure rfl
      | _ => exact .throw (.refl _)
    · -- an injection failure becomes part of the result
      cases f with
      | failure =>
        cases f' with
        | failure => exact .pure rfl
        | _ => cases hf'
      | _ => cases hf

theorem runEach_alike {commands : List String}
    (each : ∀ c ∈ commands, Alike Eq Result.SameOutline (p.run c) (p.run c)) :
    Alike Eq (fun rs rs' => Result.outlines rs = Result.outlines rs') (p.runEach commands)
      (p.runEach commands) := by
  induction commands with
  | nil => exact .pure rfl
  | cons c rest ih =>
    obtain ⟨first, others⟩ := List.forall_mem_cons.1 each
    refine first.bind fun r r' same => (ih others).bind fun rs rs' more => .pure ?_
    rw [Result.outlines, Result.outlines, more, show r.outline = r'.outline from same]

/-- A command goes on in the same way whatever reason an injection failure gives. -/
theorem run_alike (hg : ∀ kind, Incurious (p.gestures kind)) (raw : String) :
    Alike Eq Result.SameOutline (p.run raw) (p.run raw) := by
  induction raw using Command.inductionOn with | step raw ih
  cases read : Command.parse raw with
  | error e =>
    unfold run
    rw [read]
    cases e with
    | rejected e => exact .pure rfl
    | tooLong numeral => exact .throw (.refl _)
  | ok action =>
    rcases action.single_or_batch with single | ⟨commands, rfl⟩
    · rw [p.run_of_parse read, p.execute_single single]
      exact locked_alike (report_alike _ (p.perform_incurious hg action))
    · rw [p.run_of_parse_batch read]
      refine locked_alike ?_
      split
      · have each := p.runEach_alike (ih commands read)
        exact each.map fun _ _ same => Result.batch_sameOutline raw same
      · exact .throw (.refl _)

omit [Duration τ] in
theorem chordGestures_incurious (kind : Gesture) : Incurious (chordGestures kind : Play τ Unit) :=
  chordOver_incurious [] _

end Player

end InputReplay
