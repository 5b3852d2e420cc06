import InputReplay.Proofs.Cleanup
import InputReplay.Proofs.Fields
import InputReplay.Proofs.Reading

/-! A batch plays its commands as if they were run one after another. A batch is read whole before any
of it is played, so its commands are known to be readable by then; what is left to see is that cutting
a batch undoes joining it, and that reading a command early does not change what it does. -/

namespace InputReplay

open Program

variable {τ σ : Type}

/-- What is joined ends as its last part does. -/
theorem getLast?_intercalate (sep : Char) {parts : List (List Char)} (hne : parts ≠ [])
    (each : ∀ part ∈ parts, part ≠ []) :
    ([sep].intercalate parts).getLast? = (parts.getLast hne).getLast? := by
  induction parts with
  | nil => exact absurd rfl hne
  | cons part more ih =>
    obtain ⟨_, hmore⟩ := List.forall_mem_cons.1 each
    cases more with
    | nil => simp
    | cons next others =>
      have last := ih (by simp) hmore
      rw [List.intercalate_cons_cons, List.append_assoc, List.getLast?_append,
        List.getLast?_append, last, List.getLast_cons_cons]
      have full : (next :: others).getLast (by simp) ≠ [] := hmore _ (List.getLast_mem _)
      rw [List.getLast?_eq_some_getLast full]
      rfl

theorem areOk_iff (rs : List Result) : Result.areOk rs = true ↔ ∀ r ∈ rs, r.isOk = true := by
  induction rs with
  | nil => simp [Result.areOk]
  | cons r rest ih => simp [Result.areOk, ih]

namespace Command

/-- Commands joined into a batch are the commands of that batch. -/
theorem parse_batch {commands : List String} (hne : commands ≠ [])
    (each : ∀ c ∈ commands, c ≠ "" ∧ ';' ∉ c.toList)
    (last : ∀ x ∈ (commands.getLast hne).toList.getLast?, isLineEnd x = false) :
    parse ("batch:" ++ ";".intercalate commands) = .ok (.batch commands) := by
  have texts : ∀ part ∈ commands.map String.toList, part ≠ [] ∧ ';' ∉ part := by
    intro part hp
    obtain ⟨c, hc, rfl⟩ := List.mem_map.1 hp
    refine ⟨fun h => (each c hc).1 (String.toList_eq_nil_iff.1 h), (each c hc).2⟩
  have hne' : commands.map String.toList ≠ [] := by simpa using hne
  have ends := getLast?_intercalate ';' hne' fun part hp => (texts part hp).1
  rw [List.getLast_map] at ends
  obtain ⟨x, hx⟩ : ∃ x, (commands.getLast hne).toList.getLast? = some x := by
    have full := (each _ (List.getLast_mem hne)).1
    exact Option.isSome_iff_exists.1 (by simpa using full)
  have text : ("batch:" ++ ";".intercalate commands).toList =
      "batch:".toList ++ [';'].intercalate (commands.map String.toList) := by
    rw [String.toList_append, String.toList_intercalate]
    rfl
  have whole : dropEnd isLineEnd ("batch:" ++ ";".intercalate commands).toList =
      "batch:".toList ++ [';'].intercalate (commands.map String.toList) := by
    rw [text]
    apply dropEnd_eq_self
    rw [List.getLast?_append, ends, hx]
    rintro c ⟨⟩
    exact last x hx
  unfold parse
  rw [whole]
  generalize hj : [';'].intercalate (commands.map String.toList) = argument at ends ⊢
  have full : argument ≠ [] := by
    rintro rfl
    rw [hx] at ends
    cases ends
  have cut : fields ';' argument = commands.map String.toList := by
    rw [fields_eq_splitOn, ← hj]
    exact List.splitOn_intercalate ';' (fun part hp => (texts part hp).2) hne'
  change (if argument = [] then _ else Tag.batch.readBatch argument) = _
  rw [if_neg full, Tag.readBatch, cut, List.filter_eq_self.2 (by simpa using fun c hc => (each c hc).1)]
  have same : (commands.map String.toList).map String.ofList = commands := by simp [Function.comp_def]
  simp only [same, if_neg hne]

/-- Commands are read in full unless one of them has a numeral that is too long. -/
theorem expand_of_contained {commands : List String} (h : ∀ c ∈ commands, (parse c).Contained) :
    ∃ entries, expand commands = .ok entries := by
  induction commands with
  | nil => exact ⟨[], rfl⟩
  | cons command rest ih =>
    obtain ⟨first, others⟩ := List.forall_mem_cons.1 h
    obtain ⟨entries, he⟩ := ih others
    unfold expand
    rw [he]
    cases hp : parse command with
    | ok action => exact ⟨_, rfl⟩
    | error e =>
      cases e with
      | rejected e => exact ⟨_, rfl⟩
      | tooLong numeral => exact absurd hp (first numeral)

theorem ne_empty_of_parse {raw : String} {action : Action} (h : parse raw = .ok action) : raw ≠ "" := by
  rintro rfl
  cases h

end Command

def Result.IsSingle (command : String) (r : Result) : Prop :=
  r = .succeeded command ∨ ∃ failure, r = .failed command failure

theorem Result.IsSingle.leaf {command : String} {r : Result} (h : r.IsSingle command) :
    r.children = [] ∧ r.command = command := by
  rcases h with rfl | ⟨failure, rfl⟩
  · exact ⟨rfl, rfl⟩
  · exact ⟨rfl, rfl⟩

theorem isSingle_of_settled {label : String} {result : Except Fault Unit} {r : Result}
    (h : settled label result = .ok r) : r.IsSingle label := by
  cases result with
  | ok _ => exact .inl (Except.ok.inj h).symm
  | error fault =>
    cases fault with
    | failure f => exact .inr ⟨f, (Except.ok.inj h).symm⟩
    | _ => cases h

namespace Player

variable [Duration τ] (p : Player τ)

/-- Runs commands one after another, each read when its turn comes. -/
def runEach : List String → Play τ (List Result)
  | [] => pure []
  | command :: rest => do
    let result ← p.run command
    return result :: (← runEach rest)

/-- Reading commands before the first of them is played does not change what they do. -/
theorem playEach_eq_runEach {commands : List String}
    {entries : List (String × Except CommandError Action)} (h : Command.expand commands = .ok entries) :
    p.playEach entries = p.runEach commands := by
  induction commands generalizing entries with
  | nil =>
    cases h
    rw [playEach, runEach]
  | cons command rest ih =>
    unfold Command.expand at h
    unfold runEach run
    cases hm : Command.expand rest with
    | error numeral =>
      rw [hm] at h
      split at h <;> cases h
    | ok more =>
      rw [hm] at h
      cases hp : Command.parse command with
      | ok action =>
        rw [hp] at h
        cases h
        rw [playEach, ih hm]
        simp only [execute, if_neg (Command.ne_empty_of_parse hp)]
      | error e =>
        rw [hp] at h
        cases e with
        | rejected e =>
          cases h
          rw [playEach, ih hm]
          rfl
        | tooLong numeral => cases h

theorem run_of_parse {command : String} {action : Action} (hr : Command.parse command = .ok action) :
    p.run command = p.execute action command := by
  unfold run
  rw [hr]

/-- A batch plays its commands and holds the lock, unless one of them has a numeral that is too long. -/
theorem execute_batch (commands : List String) (command : String) :
    p.execute (.batch commands) command = Play.locked (match Command.expand commands with
      | .ok _ => Result.batch (labelOf (.batch commands) command) <$> p.runEach commands
      | .error numeral => .throw (.numeralTooLong numeral)) := by
  unfold execute labelOf
  rw [play]
  congr 1
  split
  · next h =>
    rw [h, p.playEach_eq_runEach h]
  · next h => rw [h]

theorem run_of_parse_batch {raw : String} {commands : List String}
    (hr : Command.parse raw = .ok (.batch commands)) :
    p.run raw = Play.locked (match Command.expand commands with
      | .ok _ => Result.batch raw <$> p.runEach commands
      | .error numeral => .throw (.numeralTooLong numeral)) := by
  have label : labelOf (.batch commands) raw = raw := if_neg (Command.ne_empty_of_parse hr)
  rw [p.run_of_parse hr, p.execute_batch, label]

theorem run_of_parse_single {command : String} {action : Action}
    (hr : Command.parse command = .ok action) (single : ∀ commands, action ≠ .batch commands)
    (inj : Injector τ σ) (s : σ) :
    inj.run (p.run command) s =
      (settled command (inj.run (p.perform action) s).1, (inj.run (p.perform action) s).2) := by
  rw [p.run_of_parse hr]
  have label : labelOf action command = command := if_neg (Command.ne_empty_of_parse hr)
  simp only [p.run_execute single, label]

theorem run_of_parse_rejected {command : String} {e : CommandError}
    (hr : Command.parse command = .error (.rejected e)) (inj : Injector τ σ) (s : σ) :
    inj.run (p.run command) s = (.ok (.failed command (.command e)), s) := by
  unfold run
  rw [hr]
  rfl

theorem run_runEach_cons {command : String} {rest : List String} {inj : Injector τ σ} {s s' : σ}
    {r : Result} (h : inj.run (p.run command) s = (.ok r, s')) :
    inj.run (p.runEach (command :: rest)) s =
      ((inj.run (p.runEach rest) s').1.map (r :: ·), (inj.run (p.runEach rest) s').2) := by
  rw [runEach, inj.run_bind, h]
  simp only [onResult]
  exact inj.run_map s' (r :: ·) (p.runEach rest)

/-- Where a list of commands has results, each command has had one. -/
theorem run_of_runEach {inj : Injector τ σ} {commands : List String} {s : σ} {results : List Result}
    (h : (inj.run (p.runEach commands) s).1 = .ok results) {c : String} (hc : c ∈ commands) :
    ∃ s' r, (inj.run (p.run c) s').1 = .ok r := by
  induction commands generalizing s results with
  | nil => cases hc
  | cons command rest ih =>
    cases first : inj.run (p.run command) s with
    | mk result s' =>
      cases result with
      | error fault =>
        rw [runEach, inj.run_bind, first] at h
        cases h
      | ok r =>
        rw [p.run_runEach_cons first] at h
        rcases List.mem_cons.1 hc with rfl | hc
        · exact ⟨s, r, by rw [first]⟩
        · cases others : (inj.run (p.runEach rest) s').1 with
          | error fault =>
            rw [others] at h
            cases h
          | ok more => exact ih others hc

theorem contained_of_run {inj : Injector τ σ} {command : String} {s : σ} {r : Result}
    (h : (inj.run (p.run command) s).1 = .ok r) : (Command.parse command).Contained := by
  intro numeral long
  unfold run at h
  rw [long] at h
  cases h

section
variable {inj : Injector τ σ} {raw : String} {commands : List String} {s s' : σ} {r : Result}
  {results : List Result}

/-- A command that has a result is single, or it is a batch whose commands have had the children of the result
as their results. -/
theorem run_ok_cases (hr : inj.run (p.run raw) s = (.ok r, s')) :
    ((∀ commands, Command.parse raw ≠ .ok (.batch commands)) ∧ r.IsSingle raw) ∨
    ∃ commands results, Command.parse raw = .ok (.batch commands) ∧ r = .batch raw results ∧
      inj.run (p.runEach commands) s = (.ok results, s') ∧
      inj.acts (p.run raw) s = inj.acts (p.runEach commands) s := by
  cases read : Command.parse raw with
  | error e =>
    cases e with
    | rejected e =>
      rw [p.run_of_parse_rejected read] at hr
      cases hr
      exact .inl ⟨by simp, .inr ⟨_, rfl⟩⟩
    | tooLong numeral => exact absurd read (p.contained_of_run (congrArg Prod.fst hr) numeral)
  | ok action =>
    rcases action.single_or_batch with single | ⟨commands, rfl⟩
    · refine .inl ⟨fun commands h => single commands (Except.ok.inj h), ?_⟩
      rw [p.run_of_parse_single read single, Prod.mk.injEq] at hr
      exact isSingle_of_settled hr.1
    · rw [p.run_of_parse_batch read, inj.run_locked] at hr
      cases expanded : Command.expand commands with
      | error numeral =>
        rw [expanded] at hr
        cases hr
      | ok entries =>
        simp only [expanded, inj.run_map] at hr
        cases each : inj.run (p.runEach commands) s with
        | mk result last =>
          rw [each] at hr
          cases result with
          | error fault => cases hr
          | ok results =>
            cases hr
            refine .inr ⟨commands, results, rfl, rfl, each, ?_⟩
            rw [p.run_of_parse_batch read, inj.acts_locked, expanded]
            exact inj.acts_map s _ _

theorem runEach_ok_cases {command : String} {rest : List String} {s'' : σ}
    (hr : inj.run (p.runEach (command :: rest)) s = (.ok results, s'')) :
    ∃ r s' others, results = r :: others ∧ inj.run (p.run command) s = (.ok r, s') ∧
      inj.run (p.runEach rest) s' = (.ok others, s'') ∧
      inj.acts (p.runEach (command :: rest)) s = inj.acts (p.run command) s ++ inj.acts (p.runEach rest) s' := by
  cases first : inj.run (p.run command) s with
  | mk result s' =>
    cases result with
    | error fault =>
      rw [runEach, inj.run_bind, first] at hr
      cases hr
    | ok r =>
      rw [p.run_runEach_cons first] at hr
      cases more : inj.run (p.runEach rest) s' with
      | mk result last =>
        rw [more] at hr
        cases result with
        | error fault => cases hr
        | ok others =>
          cases hr
          refine ⟨r, s', others, rfl, rfl, more, ?_⟩
          rw [runEach, inj.acts_bind, first]
          exact congrArg _ (inj.acts_map s' (r :: ·) (p.runEach rest))

theorem length_of_runEach (hr : inj.run (p.runEach commands) s = (.ok results, s')) :
    results.length = commands.length := by
  induction commands generalizing s results with
  | nil =>
    cases hr
    rfl
  | cons command rest ih =>
    obtain ⟨r, s'', others, rfl, -, more, -⟩ := p.runEach_ok_cases hr
    rw [List.length_cons, List.length_cons, ih more]

end

/-- Commands that all have a result can be read. -/
theorem expand_of_runEach {commands : List String} {results : List Result} {inj : Injector τ σ} {s : σ}
    (h : (inj.run (p.runEach commands) s).1 = .ok results) :
    ∃ entries, Command.expand commands = .ok entries := by
  refine Command.expand_of_contained fun c hc => ?_
  obtain ⟨_, _, hr⟩ := p.run_of_runEach h hc
  exact p.contained_of_run hr

/-- A batch whose commands all have a result has these as its children. -/
theorem run_batch {raw : String} {commands : List String} {results : List Result} {inj : Injector τ σ} {s s' : σ}
    (read : Command.parse raw = .ok (.batch commands))
    (each : inj.run (p.runEach commands) s = (.ok results, s')) :
    inj.run (p.run raw) s = (.ok (.batch raw results), s') := by
  obtain ⟨entries, expanded⟩ := p.expand_of_runEach (congrArg Prod.fst each)
  rw [p.run_of_parse_batch read, inj.run_locked, expanded]
  dsimp only
  rw [inj.run_map, each]
  rfl

/-- Running a batch is running its commands one after another, whatever becomes of each of them, as
long as each has a result. The batch has these results, and no failure of its own. -/
theorem run_joined {commands : List String} (hne : commands ≠ [])
    (each : ∀ c ∈ commands, c ≠ "" ∧ ';' ∉ c.toList)
    (last : ∀ x ∈ (commands.getLast hne).toList.getLast?, Command.isLineEnd x = false)
    (inj : Injector τ σ) (s : σ) {results : List Result}
    (hr : (inj.run (p.runEach commands) s).1 = .ok results) :
    ∃ r, inj.run (p.run ("batch:" ++ ";".intercalate commands)) s =
        (.ok r, (inj.run (p.runEach commands) s).2) ∧
      inj.acts (p.run ("batch:" ++ ";".intercalate commands)) s = inj.acts (p.runEach commands) s ∧
      r.children = results ∧ r.failure? = none ∧
      (r.isOk = true ↔ ∀ child ∈ results, child.isOk = true) := by
  obtain ⟨entries, he⟩ := p.expand_of_runEach hr
  rw [p.run_of_parse_batch (Command.parse_batch hne each last), inj.run_locked, inj.acts_locked, he]
  dsimp only
  rw [inj.run_map, inj.acts_map, hr]
  exact ⟨_, rfl, rfl, rfl, rfl, areOk_iff results⟩

/-- One letter cannot be typed. -/
def refusedLetter : Nat → Event → Option Fault
  | _, .key (.text text) true => if text = "b" then some (.injection (.untypable "b")) else none
  | _, _ => none

/-- A command that is played, one that is malformed and a batch that fails. -/
theorem run_joined_letter_refused :
    let p : Player Binary64 := ⟨.standard, chordGestures⟩
    let inj := Injector.ruled refusedLetter
    ∃ r, inj.run (p.run "batch:type:a;nope;batch:type:b") 0 = (.ok r, 3) ∧
      r.children = [.succeeded "type:a", .failed "nope" (.command (.malformed "nope")),
        .batch "batch:type:b" [.failed "type:b" (.injection (.untypable "b"))]] ∧
      r.failure? = none ∧ ¬ r.isOk = true := by
  intro p inj
  have typeA : inj.run (p.run "type:a") 0 = (.ok (.succeeded "type:a"), 2) :=
    p.run_of_parse_single (show Command.parse "type:a" = .ok (.type "a") by decide +kernel)
      (by simp) inj 0
  have nope : inj.run (p.run "nope") 2 =
      (.ok (.failed "nope" (.command (.malformed "nope"))), 2) :=
    p.run_of_parse_rejected (by decide +kernel) inj 2
  have typeB : inj.run (p.run "type:b") 2 =
      (.ok (.failed "type:b" (.injection (.untypable "b"))), 3) :=
    p.run_of_parse_single (show Command.parse "type:b" = .ok (.type "b") by decide +kernel)
      (by simp) inj 2
  have inner : inj.run (p.run "batch:type:b") 2 =
      (.ok (.batch "batch:type:b" [.failed "type:b" (.injection (.untypable "b"))]), 3) := by
    have parsed : Command.parse "batch:type:b" = .ok (.batch ["type:b"]) := by decide +kernel
    have expanded : Command.expand ["type:b"] = .ok [("type:b", .ok (.type "b"))] := by
      decide +kernel
    rw [p.run_of_parse_batch parsed, inj.run_locked, expanded]
    dsimp only
    rw [inj.run_map, p.run_runEach_cons typeB]
    rfl
  have each : inj.run (p.runEach ["type:a", "nope", "batch:type:b"]) 0 =
      (.ok [.succeeded "type:a", .failed "nope" (.command (.malformed "nope")),
        .batch "batch:type:b" [.failed "type:b" (.injection (.untypable "b"))]], 3) := by
    rw [p.run_runEach_cons typeA, p.run_runEach_cons nope, p.run_runEach_cons inner]
    rfl
  obtain ⟨r, hr, -, children, own, ok⟩ :=
    p.run_joined (show ["type:a", "nope", "batch:type:b"] ≠ [] by simp) (by simp)
      (by simp [Command.isLineEnd]) inj 0 (congrArg Prod.fst each)
  rw [each] at hr
  refine ⟨r, hr, children, own, fun h => ?_⟩
  have all := ok.1 h
  exact absurd (all (.failed "nope" (.command (.malformed "nope"))) (by simp)) (by simp [Result.isOk])

end Player

end InputReplay
