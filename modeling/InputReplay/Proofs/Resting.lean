import InputReplay.Proofs.Asking
import InputReplay.Proofs.Dragging
import InputReplay.Proofs.Pacing
import InputReplay.Proofs.Typing
import Mathlib.Algebra.Order.BigOperators.Group.List

/-! How long commands rest, over exact numbers. A row of clicks rests between any two of them, a drag after each of
its points and a completion before its end; nothing else rests, and what is released after a fault does not rest
either. So a command rests no longer than it would where nothing is refused, and there exactly as long as its settings
say, if its batch is played at all. -/

namespace InputReplay

open Program

variable {σ α β : Type}

/-- The time of a request to rest. -/
def PlayRequest.rest? : PlayRequest ℚ → Option ℚ
  | pause time => some time
  | _ => none

/-- The times of all rests among requests, in order. -/
def rests (made : List (PlayRequest ℚ)) : List ℚ := made.filterMap PlayRequest.rest?

theorem rests_append (first second : List (PlayRequest ℚ)) : rests (first ++ second) = rests first ++ rests second :=
  List.filterMap_append

theorem rests_eq_nil {made : List (PlayRequest ℚ)} (h : ∀ r ∈ made, r.rest? = none) : rests made = [] :=
  List.filterMap_eq_nil_iff.2 h

/-- A program that rests for positive times and no longer in all than a given time, whatever is replied. -/
inductive RestsWithin : ℚ → Play ℚ α → Prop
  | finish {t} (result) (nonneg : 0 ≤ t) : RestsWithin t (.finish result)
  | ask {t r k} (silent : r.rest? = none) (more : ∀ reply, RestsWithin t (k reply)) : RestsWithin t (.ask r k)
  | rest {t time k} (positive : 0 < time) (more : ∀ reply, RestsWithin (t - time) (k reply)) :
      RestsWithin t (.ask (.pause time) k)

namespace RestsWithin

variable {q : Play ℚ α} {t t' : ℚ}

theorem acts (h : RestsWithin t q) (inj : Injector ℚ σ) (s : σ) :
    (∀ time ∈ rests ((inj.acts q s).map (·.request)), 0 < time) ∧
      (rests ((inj.acts q s).map (·.request))).sum ≤ t := by
  induction h generalizing s with
  | finish result nonneg => exact ⟨fun time mem => absurd mem List.not_mem_nil, nonneg⟩
  | @ask t r k silent _ ih =>
    have first :
        rests ((if r.isAct then [(⟨r, faultOf (inj.host r s).1⟩ : Attempt ℚ)] else []).map (·.request)) = [] := by
      refine rests_eq_nil fun r' mem => ?_
      split at mem
      · rw [List.map_singleton, List.mem_singleton] at mem
        rw [mem, silent]
      · cases mem
    rw [Injector.acts, List.map_append, rests_append, first, List.nil_append]
    exact ih _ _
  | @rest t time k positive _ ih =>
    obtain ⟨each, most⟩ := ih (inj.host (.pause time) s).1 (inj.host (.pause time) s).2
    unfold Injector.acts
    rw [List.map_append, rests_append]
    refine ⟨List.forall_mem_cons.2 ⟨positive, each⟩, ?_⟩
    change time + (rests _).sum ≤ t
    linarith

theorem nonneg (h : RestsWithin t q) : 0 ≤ t := by
  obtain ⟨each, most⟩ := h.acts .accepting ()
  exact (List.sum_nonneg fun time mem => (each time mem).le).trans most

theorem mono (h : RestsWithin t q) (le : t ≤ t') : RestsWithin t' q := by
  induction h generalizing t' with
  | finish result nonneg => exact .finish result (nonneg.trans le)
  | ask silent _ ih => exact .ask silent fun reply => ih reply le
  | rest positive _ ih => exact .rest positive fun reply => ih reply (by linarith)

/-- A program that never rests. -/
theorem of_silent (h : Asks (fun r => r.rest? = none) q) (nonneg : 0 ≤ t) : RestsWithin t q := by
  induction h with
  | finish result => exact .finish result nonneg
  | ask silent _ ih => exact .ask silent ih

theorem next {f : Except Fault α → Play ℚ β} (h : RestsWithin t q) (h' : ∀ x, RestsWithin t' (f x)) :
    RestsWithin (t + t') (q.next f) := by
  induction h with
  | finish result nonneg => exact (h' result).mono (by linarith)
  | ask silent _ ih => exact .ask silent ih
  | @rest t time k positive _ ih =>
    refine .rest positive fun reply => ?_
    rw [add_sub_right_comm]
    exact ih reply

/-- What comes before something that never rests. -/
theorem before {f : Except Fault α → Play ℚ β} (h : RestsWithin t q) (h' : ∀ x, RestsWithin 0 (f x)) :
    RestsWithin t (q.next f) := by
  have both := next h h'
  rwa [add_zero] at both

theorem value (a : α) (nonneg : 0 ≤ t) : RestsWithin t (pure a) := .finish _ nonneg

theorem bind {f : α → Play ℚ β} (h : RestsWithin t q) (h' : ∀ a, RestsWithin t' (f a)) (nonneg : 0 ≤ t') :
    RestsWithin (t + t') (q >>= f) := by
  refine next h fun x => ?_
  cases x with
  | ok a => exact h' a
  | error fault => exact .finish _ nonneg

/-- What comes after a program that never rests. -/
theorem after {f : α → Play ℚ β} (h : Asks (fun r => r.rest? = none) q) (h' : ∀ a, RestsWithin t (f a))
    (nonneg : 0 ≤ t) : RestsWithin t (q >>= f) := by
  have both := bind (of_silent h le_rfl) h' nonneg
  rwa [zero_add] at both

theorem map (f : α → β) (h : RestsWithin t q) : RestsWithin t (f <$> q) := by
  have both := bind h (fun a => value (f a) le_rfl) le_rfl
  rwa [add_zero] at both

theorem pause (nonneg : 0 ≤ t) : RestsWithin t (Play.pause t) := by
  rcases Play.pause_cases t with ⟨positive, asks⟩ | ⟨-, skips⟩
  · rw [asks]
    exact .rest (of_decide_eq_true positive) fun reply => .finish reply (sub_self t).ge
  · rw [skips]
    exact value () nonneg

theorem whileHeld {releases : List Event} {body : Play ℚ Unit} (h : RestsWithin t body) :
    RestsWithin t (Play.whileHeld releases body) := by
  -- what is released is posted without a wait, also after a fault
  refine before h fun x => ?_
  cases x with
  | ok _ => exact of_silent (.releaseFinally fun _ _ => rfl) le_rfl
  | error fault => exact of_silent (.releaseAfter (fun _ _ => rfl) fault) le_rfl

theorem locked (h : RestsWithin t q) : RestsWithin t (Play.locked q) := by
  refine after (.request rfl) (fun free => ?_) h.nonneg
  cases free with
  | false => exact .finish _ h.nonneg
  | true => exact before h fun result => after (.request rfl) (fun _ => .finish result le_rfl) le_rfl

theorem report {label : String} {body : Play ℚ Unit} (h : RestsWithin t body) :
    RestsWithin t (Player.report label body) := by
  refine before h fun x => ?_
  cases x with
  | ok _ => exact .finish _ le_rfl
  | error fault => cases fault <;> exact .finish _ le_rfl

end RestsWithin

/-- Settings of which no time is negative. -/
structure PlaySettings.IsTimely (settings : PlaySettings ℚ) : Prop where
  clickSettle : 0 ≤ settings.clickSettle
  dragDuration : 0 ≤ settings.dragDuration
  autocompleteSettle : 0 ≤ settings.autocompleteSettle

namespace Player

/-- How long an action that is no batch rests in all: between its clicks, through its drag or before its completion. -/
def ownDue (settings : PlaySettings ℚ) : Action → ℚ
  | .click _ _ count | .holdClick _ _ count => (count - 1).toNat * settings.clickSettle
  | .drag .. => settings.dragDuration
  | .autocomplete .. => settings.autocompleteSettle
  | _ => 0

mutual

/-- How long an action rests in all; a batch as long as all of its commands that are read as actions. -/
def due (settings : PlaySettings ℚ) : Action → ℚ
  | .batch commands => dueEach settings commands
  | single => ownDue settings single
termination_by action => action.size
decreasing_by
  simp only [Action.size]
  omega

def dueEach (settings : PlaySettings ℚ) : List String → ℚ
  | [] => 0
  | command :: rest =>
    (match _h : Command.parse command with
      | .ok action => due settings action
      | .error _ => 0) + dueEach settings rest
termination_by commands => Command.size commands
decreasing_by
  · have := Command.size_le_of_parse _h
    simp only [Command.size, total]
    omega
  · simp only [Command.size, total]
    omega

end

/-- How long a command rests in all; one that is not read as an action does not rest. -/
def dueOf (settings : PlaySettings ℚ) (command : String) : ℚ :=
  match Command.parse command with
  | .ok action => due settings action
  | .error _ => 0

theorem due_single (settings : PlaySettings ℚ) {action : Action} (single : ∀ commands, action ≠ .batch commands) :
    due settings action = ownDue settings action := by
  rw [due]
  exact single

theorem due_batch (settings : PlaySettings ℚ) (commands : List String) :
    due settings (.batch commands) = (commands.map (dueOf settings)).sum := by
  rw [due]
  induction commands with
  | nil =>
    rw [dueEach]
    rfl
  | cons command rest ih =>
    rw [dueEach, List.map_cons, List.sum_cons, ih, dueOf]
    split <;> next read => rw [read]

section
variable {settings : PlaySettings ℚ} {command : String}

theorem dueOf_of_single {action : Action} (read : Command.parse command = .ok action)
    (single : ∀ commands, action ≠ .batch commands) : dueOf settings command = ownDue settings action := by
  rw [dueOf, read, ← due_single settings single]

theorem dueOf_of_batch {commands : List String} (read : Command.parse command = .ok (.batch commands)) :
    dueOf settings command = (commands.map (dueOf settings)).sum := by
  rw [dueOf, read, ← due_batch]

theorem dueOf_of_error {fault : ReadFault} (read : Command.parse command = .error fault) :
    dueOf settings command = 0 := by
  rw [dueOf, read]

end

variable (p : Player ℚ)

theorem clicks_restsWithin (nonneg : 0 ≤ p.settings.clickSettle) (point : Point) (button : Button) (index more : Nat) :
    RestsWithin ((more - 1 : Nat) * p.settings.clickSettle) (p.clicks point button index more) := by
  induction more generalizing index with
  | zero => exact .value () (by simp)
  | succ more ih =>
    have total : (0 : ℚ) ≤ (more : ℚ) * p.settings.clickSettle := by positivity
    refine .after (.post rfl) (fun _ => .after (.post rfl) (fun _ => ?_) total) total
    cases more with
    | zero => exact .after (.value ()) (fun _ => .value () total) total
    | succ more =>
      have rest := RestsWithin.bind (.pause nonneg) (fun _ => ih (index + 1)) (by positivity)
      have sum : p.settings.clickSettle + ((more + 1 - 1 : Nat) : ℚ) * p.settings.clickSettle =
          ((more + 1 : Nat) : ℚ) * p.settings.clickSettle := by
        push_cast [Nat.add_sub_cancel]
        ring
      rwa [sum] at rest

theorem dragPoints_restsWithin {pause : ℚ} (nonneg : 0 ≤ pause) (start finish : Point) (steps i more : Nat) :
    RestsWithin (more * pause) (dragPoints start finish pause steps i more) := by
  induction more generalizing i with
  | zero => exact .value () (by simp)
  | succ more ih =>
    have total : 0 ≤ (more : ℚ) * pause := by positivity
    have rest := RestsWithin.bind (.pause nonneg) (fun _ => ih (i + 1)) total
    have sum : pause + more * pause = (more + 1 : Nat) * pause := by
      push_cast
      ring
    rw [sum] at rest
    exact .after (.post rfl) (fun _ => rest) (by positivity)

theorem typeEach_silent (text : List Char) : Asks (fun r => r.rest? = none) (typeEach text : Play ℚ Unit) :=
  typeEach_asks (fun _ _ => rfl) text

theorem chord_silent (keys : List KeyCode) : Asks (fun r => r.rest? = none) (Play.chord keys : Play ℚ Unit) :=
  .chordOver (fun _ _ => rfl) (by simp) keys

theorem dragPart_nonneg {settings : PlaySettings ℚ} (timely : settings.IsTimely) :
    0 ≤ settings.dragDuration / settings.dragSteps.val := div_nonneg timely.dragDuration (Nat.cast_nonneg _)

/-- The parts of a drag make up its time. -/
theorem parts_of_drag (settings : PlaySettings ℚ) :
    (settings.dragSteps.val : ℚ) * (settings.dragDuration / settings.dragSteps.val) = settings.dragDuration := by
  have some : (settings.dragSteps.val : ℚ) ≠ 0 := by exact_mod_cast settings.dragSteps.pos.ne'
  exact mul_div_cancel₀ settings.dragDuration some

theorem ownDue_nonneg {settings : PlaySettings ℚ} (timely : settings.IsTimely) (action : Action) :
    0 ≤ ownDue settings action := by
  obtain ⟨click, drag, settle⟩ := timely
  cases action with
  | click | holdClick => exact mul_nonneg (Nat.cast_nonneg _) click
  | drag => exact drag
  | autocomplete => exact settle
  | _ => exact le_rfl

/-- One less than a count, as it stands in a row of so many clicks. -/
theorem toNat_sub_one (count : Int) : (count - 1).toNat = count.toNat - 1 := by omega

/-- An action that is no batch rests no longer than is due. -/
theorem perform_restsWithin (timely : p.settings.IsTimely) (hg : p.gestures = chordGestures) (action : Action) :
    RestsWithin (ownDue p.settings action) (p.perform action) := by
  have nonneg := ownDue_nonneg timely action
  have row (point : Point) (button : Button) (count : Int) :
      RestsWithin ((count - 1).toNat * p.settings.clickSettle) (p.click point button count) := by
    rw [toNat_sub_one]
    exact p.clicks_restsWithin timely.clickSettle point button 1 count.toNat
  cases action with
  | key | move | scroll => exact .of_silent (.post rfl) nonneg
  | press | scrollTo => exact .of_silent (.bind (.post rfl) fun _ => .post rfl) nonneg
  | type text => exact .of_silent (typeEach_silent _) nonneg
  | shortcut codes => exact .of_silent (chord_silent codes) nonneg
  | gesture kind =>
    rw [perform, hg]
    exact .of_silent (chord_silent kind.chord) nonneg
  | click point button count => exact row point button count
  | holdClick point modifier count =>
    exact .after (.post rfl) (fun _ => .whileHeld (.after (.post rfl) (fun _ => row point .left count) nonneg)) nonneg
  | drag start finish =>
    have points := dragPoints_restsWithin (dragPart_nonneg timely) start finish p.settings.dragSteps.val 1
      p.settings.dragSteps.val
    rw [parts_of_drag] at points
    exact .after (.post rfl) (fun _ => .whileHeld points) nonneg
  | autocomplete typed full =>
    have ending : RestsWithin (p.settings.autocompleteSettle + 0) (do
        Play.pause p.settings.autocompleteSettle
        type (completion typed full)) :=
      .bind (.pause timely.autocompleteSettle) (fun _ => .of_silent (typeEach_silent _) le_rfl) le_rfl
    rw [add_zero] at ending
    exact .after (typeEach_silent _) (fun _ => ending) nonneg
  | batch commands => exact .value () nonneg

theorem runEach_restsWithin {commands : List String}
    (each : ∀ c ∈ commands, RestsWithin (dueOf p.settings c) (p.run c)) :
    RestsWithin (commands.map (dueOf p.settings)).sum (p.runEach commands) := by
  induction commands with
  | nil => exact .value [] le_rfl
  | cons command rest ih =>
    obtain ⟨first, others⟩ := List.forall_mem_cons.1 each
    rw [List.map_cons, List.sum_cons]
    exact first.bind (fun r => (ih others).map (r :: ·)) (ih others).nonneg

theorem execute_restsWithin (timely : p.settings.IsTimely) (hg : p.gestures = chordGestures) {action : Action}
    (each : ∀ commands, action = .batch commands → ∀ c ∈ commands, RestsWithin (dueOf p.settings c) (p.run c))
    (command : String) : RestsWithin (due p.settings action) (p.execute action command) := by
  rcases action.single_or_batch with single | ⟨commands, rfl⟩
  · rw [p.execute_single single, due_single p.settings single]
    exact .locked (.report (p.perform_restsWithin timely hg action))
  · have all := p.runEach_restsWithin (each commands rfl)
    rw [p.execute_batch, due_batch]
    refine .locked ?_
    cases Command.expand commands with
    | error numeral => exact .finish _ all.nonneg
    | ok entries => exact all.map _

/-- No command rests longer than is due. -/
theorem run_restsWithin (timely : p.settings.IsTimely) (hg : p.gestures = chordGestures) (raw : String) :
    RestsWithin (dueOf p.settings raw) (p.run raw) := by
  -- the commands of a batch are smaller than its own
  induction raw using Command.inductionOn with | step raw ih
  unfold run dueOf
  cases read : Command.parse raw with
  | error e => cases e <;> exact .finish _ le_rfl
  | ok action => exact p.execute_restsWithin timely hg (fun commands same => ih commands (same ▸ read)) raw

end Player

theorem sum_rests_waitFor {time : ℚ} (nonneg : 0 ≤ time) : (rests (waitFor time)).sum = time := by
  unfold waitFor
  split
  · exact add_zero time
  · next none =>
    have zero : time = 0 := le_antisymm (not_lt.1 fun positive => none (decide_eq_true positive)) nonneg
    rw [zero]
    rfl

/-- Parts that do not rest, with a wait between any two. -/
theorem sum_rests_intercalate (wait : List (PlayRequest ℚ)) {parts : List (List (PlayRequest ℚ))}
    (silent : ∀ part ∈ parts, rests part = []) :
    (rests (wait.intercalate parts)).sum = (parts.length - 1 : Nat) * (rests wait).sum := by
  induction parts with
  | nil => simp [rests]
  | cons part more ih =>
    obtain ⟨first, others⟩ := List.forall_mem_cons.1 silent
    cases more with
    | nil => simp [first]
    | cons next rest =>
      rw [List.intercalate_cons_cons, rests_append, rests_append, List.sum_append, List.sum_append, ih others, first]
      simp only [List.length_cons, List.sum_nil, Nat.add_sub_cancel]
      push_cast
      ring

theorem sum_rests_dragRequests (start finish : Point) (points : List Point) {pause : ℚ} (nonneg : 0 ≤ pause) :
    (rests (dragRequests start finish points pause)).sum = points.length * pause := by
  have wait := sum_rests_waitFor nonneg
  have along : (rests (points.flatMap fun point => .post (Player.mouse .drag point) :: waitFor pause)).sum =
      points.length * pause := by
    induction points with
    | nil => simp [rests]
    | cons point rest ih =>
      have here : rests (.post (Player.mouse .drag point) :: waitFor pause) = rests (waitFor pause) := rfl
      rw [List.flatMap_cons, rests_append, List.sum_append, ih, here, wait, List.length_cons]
      push_cast
      ring
  have press : rests [(.post (Player.mouse .down start) : PlayRequest ℚ)] = [] := rfl
  have release : rests [(.post (Player.mouse .up finish) : PlayRequest ℚ)] = [] := rfl
  rw [dragRequests, ← List.singleton_append, rests_append, rests_append, press, release, List.nil_append,
    List.append_nil, along]

/-- A program that never rests makes no requests to rest. -/
theorem Makes.rests_eq_nil {q : Play ℚ α} {I : List (PlayRequest ℚ)} {a : α} (h : Makes q I a)
    (silent : Asks (fun r => r.rest? = none) q) : rests I = [] := by
  have made := (h Unit .accepting (fun r s => by cases r <;> rfl) ()).1
  refine InputReplay.rests_eq_nil fun r mem => ?_
  exact silent.acts .accepting () ⟨r, none⟩ (made ▸ List.mem_map_of_mem mem)

namespace Player

variable (p : Player ℚ)

/-- A row of clicks rests between any two of them. -/
theorem sum_rests_clicks (nonneg : 0 ≤ p.settings.clickSettle) (point : Point) (button : Button) (count : Int) :
    ∃ I, Makes (p.click point button count) I () ∧ (rests I).sum = (count - 1).toNat * p.settings.clickSettle := by
  refine ⟨_, p.makes_clicks point button 1 count.toNat, ?_⟩
  rw [sum_rests_intercalate, sum_rests_waitFor nonneg, List.length_map, List.length_range', toNat_sub_one]
  intro part mem
  obtain ⟨i, -, rfl⟩ := List.mem_map.1 mem
  rfl

/-- Where nothing raises, an action that is no batch rests as long as is due. -/
theorem perform_makes (timely : p.settings.IsTimely) (hg : p.gestures = chordGestures) (action : Action) :
    ∃ I, Makes (p.perform action) I () ∧ (rests I).sum = ownDue p.settings action := by
  have keystrokes (text : List Char) : rests (text.flatMap keystroke) = [] :=
    (makes_typeEach text).rests_eq_nil (typeEach_silent text)
  have chord (keys : List KeyCode) : ∃ I, Makes (Play.chord keys : Play ℚ Unit) I () ∧ (rests I).sum = 0 := by
    have made := Makes.chordOver (τ := ℚ) [] keys
    exact ⟨_, made, congrArg List.sum (made.rests_eq_nil (chord_silent keys))⟩
  cases action with
  | key | move | scroll => exact ⟨_, .post _, rfl⟩
  | press | scrollTo => exact ⟨_, .bind (.post _) (.post _), rfl⟩
  | type text => exact ⟨_, makes_typeEach _, congrArg List.sum (keystrokes _)⟩
  | shortcut codes => exact chord codes
  | gesture kind =>
    rw [perform, hg]
    exact chord kind.chord
  | click point button count => exact p.sum_rests_clicks timely.clickSettle point button count
  | holdClick point modifier count =>
    obtain ⟨I, made, sum⟩ := p.sum_rests_clicks timely.clickSettle point .left count
    have body : Makes (do Play.post (mouse .move point); p.click point .left count)
        ([.post (mouse .move point)] ++ I) () := .bind (.post _) made
    have held : Makes (p.holdClick point modifier count) ([.post (Play.pressKey modifier)] ++ _) () :=
      .bind (.post _) (.whileHeld [Play.releaseKey modifier] body)
    have press : rests [(.post (Play.pressKey modifier) : PlayRequest ℚ)] = [] := rfl
    have move : rests [(.post (mouse .move point) : PlayRequest ℚ)] = [] := rfl
    have release : rests ([Play.releaseKey modifier].map .post : List (PlayRequest ℚ)) = [] := rfl
    refine ⟨_, held, ?_⟩
    rw [rests_append, rests_append, rests_append, press, move, release, List.nil_append, List.nil_append,
      List.append_nil, sum]
    rfl
  | drag start finish =>
    refine ⟨_, p.makes_drag start finish rfl, ?_⟩
    rw [sum_rests_dragRequests start finish _ (dragPart_nonneg timely), List.length_map, List.length_range', parts_of_drag]
    rfl
  | autocomplete typed full =>
    refine ⟨_, p.makes_autocomplete typed full, ?_⟩
    rw [completionRequests, rests_append, rests_append, keystrokes, keystrokes, List.nil_append, List.append_nil,
      sum_rests_waitFor timely.autocompleteSettle]
    rfl
  | batch commands => exact ⟨_, .value (), rfl⟩

theorem runEach_makes {commands : List String}
    (each : ∀ c ∈ commands, ∃ I r, Makes (p.run c) I r ∧ (rests I).sum = dueOf p.settings c) :
    ∃ I results, Makes (p.runEach commands) I results ∧ (rests I).sum = (commands.map (dueOf p.settings)).sum := by
  induction commands with
  | nil => exact ⟨_, _, .value [], rfl⟩
  | cons command rest ih =>
    obtain ⟨first, others⟩ := List.forall_mem_cons.1 each
    obtain ⟨I, r, made, sum⟩ := first
    obtain ⟨J, results, made', sum'⟩ := ih others
    refine ⟨_, _, made.bind (made'.map (r :: ·)), ?_⟩
    rw [rests_append, List.sum_append, sum, sum', List.map_cons, List.sum_cons]

/-- Where nothing raises, an action rests as long as is due, unless a command of its batch escapes. -/
theorem execute_makes (timely : p.settings.IsTimely) (hg : p.gestures = chordGestures) {action : Action}
    (within : ∀ commands, action = .batch commands → ∀ c ∈ commands, ¬ p.Escapes c)
    (each : ∀ commands, action = .batch commands → ∀ c ∈ commands,
      ∃ I r, Makes (p.run c) I r ∧ (rests I).sum = dueOf p.settings c) (command : String) :
    ∃ I r, Makes (p.execute action command) I r ∧ (rests I).sum = due p.settings action := by
  rcases action.single_or_batch with single | ⟨commands, rfl⟩
  · obtain ⟨I, made, sum⟩ := p.perform_makes timely hg action
    rw [due_single p.settings single]
    exact ⟨I, _, p.makes_execute single made command, sum⟩
  · obtain ⟨I, results, made, sum⟩ := p.runEach_makes (each commands rfl)
    obtain ⟨entries, expanded⟩ := Command.expand_of_contained fun c hc =>
      (Command.parse_contained_iff c).2 fun long => within commands rfl c hc (.count long)
    rw [p.execute_batch, due_batch, expanded]
    exact ⟨I, _, .locked (made.map _), sum⟩

theorem run_makes (timely : p.settings.IsTimely) (hg : p.gestures = chordGestures) {raw : String}
    (within : ¬ p.Escapes raw) : ∃ I r, Makes (p.run raw) I r ∧ (rests I).sum = dueOf p.settings raw := by
  induction raw using Command.inductionOn with | step raw ih
  have contained := (Command.parse_contained_iff raw).2 fun long => within (.count long)
  unfold run dueOf
  cases read : Command.parse raw with
  | error e =>
    cases e with
    | rejected e => exact ⟨_, _, .value _, rfl⟩
    | tooLong numeral => exact absurd read (contained numeral)
  | ok action =>
    have parts (commands : List String) (same : action = .batch commands) (c : String) (hc : c ∈ commands) :
        ¬ p.Escapes c := fun escapes => within (.part (same ▸ read) hc escapes)
    exact p.execute_makes timely hg parts
      (fun commands same c hc => ih commands (same ▸ read) c hc (parts commands same c hc)) raw

/-- An action that is executed with chord gestures rests for positive times and never longer in all than is due. It
rests exactly so long if nothing raises, whatever is replied; but a batch with a command that escapes is not played at
all. -/
theorem execute_rests (timely : p.settings.IsTimely) (hg : p.gestures = chordGestures) (action : Action)
    (command : String) (inj : Injector ℚ σ) (s : σ) :
    let slept := rests ((inj.acts (p.execute action command) s).map (·.request))
    (∀ time ∈ slept, 0 < time) ∧ slept.sum ≤ due p.settings action ∧
      ((∀ commands, action = .batch commands → ∀ c ∈ commands, ¬ p.Escapes c) →
        (∀ a ∈ inj.acts (p.execute action command) s, a.fault? = none) → slept.sum = due p.settings action) := by
  intro slept
  have within : RestsWithin (due p.settings action) (p.execute action command) :=
    p.execute_restsWithin timely hg (fun _ _ c _ => p.run_restsWithin timely hg c) command
  obtain ⟨positive, most⟩ := within.acts inj s
  refine ⟨positive, most, fun contained quiet => ?_⟩
  obtain ⟨I, r, made, sum⟩ := p.execute_makes timely hg contained
    (fun commands same c hc => p.run_makes timely hg (contained commands same c hc)) command
  have requests : (inj.acts (p.execute action command) s).map (·.request) = I := by
    rw [made.acts_of_unraised inj quiet, List.map_map]
    exact List.map_id I
  rw [← sum, ← requests]

/-- The standard settings, with exact times. -/
def exactSettings : PlaySettings ℚ :=
  { PlaySettings.standard with clickSettle := 1 / 10, dragDuration := 1, autocompleteSettle := 1 / 10 }

theorem exactSettings_isTimely : exactSettings.IsTimely :=
  ⟨by norm_num [exactSettings], by norm_num [exactSettings], by norm_num [exactSettings]⟩

/-- Three clicks, a text that is no command and a drag in a batch of its own. -/
theorem execute_rests_threeClicks :
    let p : Player ℚ := ⟨exactSettings, chordGestures⟩
    let action := Action.batch ["Multi-click:1,2,3", "nope", "batch:drag:0,0,3,1"]
    exactSettings.IsTimely ∧
      (rests ((Injector.accepting.acts (p.execute action "") ()).map (·.request))).sum = 6 / 5 := by
  intro p action
  have clicks : Command.parse "Multi-click:1,2,3" = .ok (.click ⟨.ofInt 1, .ofInt 2⟩ .left 3) := by decide +kernel
  have nope : Command.parse "nope" = .error (.rejected (.malformed "nope")) := by decide +kernel
  have inner : Command.parse "batch:drag:0,0,3,1" = .ok (.batch ["drag:0,0,3,1"]) := by decide +kernel
  have drag : Command.parse "drag:0,0,3,1" = .ok (.drag ⟨.zero, .zero⟩ ⟨.ofInt 3, .ofInt 1⟩) := by decide +kernel
  have due : due p.settings action = 6 / 5 := by
    rw [due_batch, List.map_cons, List.map_cons, List.map_singleton, dueOf_of_single clicks (by simp),
      dueOf_of_error nope, dueOf_of_batch inner, List.map_singleton, dueOf_of_single drag (by simp)]
    have gaps : (2 : Int).toNat = 2 := rfl
    norm_num [p, ownDue, gaps, exactSettings]
  have dragged : ¬ p.Escapes "drag:0,0,3,1" :=
    p.not_escapes drag (Reading.ok_contained _) (by rintro _ ⟨⟩; rfl) (by rintro _ ⟨⟩)
  have contained : ∀ commands, action = .batch commands → ∀ c ∈ commands, ¬ p.Escapes c := by
    intro commands same c hc
    obtain rfl := Action.batch.inj same
    simp only [List.mem_cons, List.not_mem_nil, or_false] at hc
    rcases hc with rfl | rfl | rfl
    · exact p.not_escapes clicks (Reading.ok_contained _) (by rintro _ ⟨⟩; rfl) (by rintro _ ⟨⟩)
    · exact p.not_escapes nope (Reading.reject_contained _) (by rintro _ ⟨⟩) (by rintro _ ⟨⟩)
    · refine p.not_escapes inner (Reading.ok_contained _) (by rintro _ ⟨⟩; rfl) ?_
      rintro commands ⟨⟩ c hc
      rwa [List.mem_singleton.1 hc]
  obtain ⟨-, -, total⟩ := p.execute_rests exactSettings_isTimely rfl action "" .accepting ()
  rw [← due]
  exact ⟨exactSettings_isTimely, total contained fun a ha => Injector.accepting_raises _ ha⟩

/-- Nothing of a batch is played that has a count of too many digits in it. -/
theorem acts_zeroClick {n : Nat} (long : numeralLimit < n) {command : String} {action : Action}
    (read : Command.parse command = .ok action) (inj : Injector ℚ σ) (s : σ) :
    inj.acts (p.execute (.batch [command, zeroClick n]) "") s = [] := by
  obtain ⟨numeral, tooLong⟩ := parse_zeroClick long
  have expanded : Command.expand [command, zeroClick n] = .error numeral := by
    simp only [Command.expand, read, tooLong]
    rfl
  rw [p.execute_batch, expanded, Injector.acts_locked]
  rfl

/-- Two clicks are not waited between if the batch has a count of too many digits after them. -/
theorem execute_zeroClick_restless :
    let p : Player ℚ := ⟨exactSettings, chordGestures⟩
    let action := Action.batch ["Multi-click:1,2,2", zeroClick 4301]
    exactSettings.IsTimely ∧ due p.settings action = 1 / 10 ∧
      Injector.accepting.acts (p.execute action "") () = [] := by
  intro p action
  have clicks : Command.parse "Multi-click:1,2,2" = .ok (.click ⟨.ofInt 1, .ofInt 2⟩ .left 2) := by decide +kernel
  have long : numeralLimit < 4301 := by decide
  obtain ⟨numeral, tooLong⟩ := parse_zeroClick long
  refine ⟨exactSettings_isTimely, ?_, p.acts_zeroClick long clicks _ _⟩
  rw [due_batch, List.map_cons, List.map_singleton, dueOf_of_single clicks (by simp), dueOf_of_error tooLong]
  norm_num [p, ownDue, exactSettings]

end Player

end InputReplay
