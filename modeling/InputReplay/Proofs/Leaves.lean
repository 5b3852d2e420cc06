import InputReplay.Proofs.Batch
import InputReplay.Proofs.Grammar
import Mathlib.Logic.Relation

/-! Results as trees. The leaves of a tree are the results of the single commands, in the order in which these
were played, and its failures are the leaves that are not good. A command within a batch holds no separator, so
a batch within a batch has one command, and every command of a batch comes to one leaf: a batch has as many
failures as there are commands of it that failed. -/

namespace InputReplay

open Program

variable {τ σ : Type}

namespace Result

theorem inductionOn {motive : Result → Prop} (r : Result)
    (succeeded : ∀ command, motive (.succeeded command))
    (failed : ∀ command failure, motive (.failed command failure))
    (batch : ∀ command children, (∀ child ∈ children, motive child) → motive (.batch command children)) :
    motive r :=
  @Result.rec motive (fun children => ∀ child ∈ children, motive child) succeeded failed batch (by simp)
    (fun _ _ first others => List.forall_mem_cons.2 ⟨first, others⟩) r

mutual

/-- The results at the ends of a result, in order. -/
def leaves : Result → List Result
  | batch command children => if children.isEmpty then [batch command children] else leavesOf children
  | r => [r]

def leavesOf : List Result → List Result
  | [] => []
  | r :: rest => r.leaves ++ leavesOf rest

end

def IsChild (a b : Result) : Prop := a ∈ b.children

/-- One result stands below another, at any depth. -/
def Below : Result → Result → Prop := Relation.TransGen IsChild

def Within : Result → Result → Prop := Relation.ReflTransGen IsChild

theorem leavesOf_eq_flatMap (rs : List Result) : leavesOf rs = rs.flatMap leaves := by
  induction rs with
  | nil => rfl
  | cons r rest ih => rw [leavesOf, ih, List.flatMap_cons]

theorem failuresOf_eq_flatMap (rs : List Result) : failuresOf rs = rs.flatMap failures := by
  induction rs with
  | nil => rfl
  | cons r rest ih => rw [failuresOf, ih, List.flatMap_cons]

theorem leaves_of_children_eq_nil {r : Result} (h : r.children = []) : r.leaves = [r] := by
  cases r with
  | batch command children => simp [leaves, show children = [] from h]
  | _ => rfl

theorem leaves_batch (command : String) {children : List Result} (h : children ≠ []) :
    (batch command children).leaves = children.flatMap leaves := by
  rw [leaves, if_neg (by simpa using h), leavesOf_eq_flatMap]

theorem within_leaf_iff {a r : Result} (h : r.children = []) : a.Within r ↔ a = r := by
  constructor
  · intro within
    rcases Relation.ReflTransGen.cases_tail within with same | ⟨b, -, child⟩
    · exact same.symm
    · rw [IsChild, h] at child
      cases child
  · rintro rfl
    exact .refl

/-- The leaves of a result are what has no children in it. -/
theorem mem_leaves_iff {leaf r : Result} : leaf ∈ r.leaves ↔ leaf.Within r ∧ leaf.children = [] := by
  have end_iff {r : Result} (h : r.children = []) : leaf ∈ r.leaves ↔ leaf.Within r ∧ leaf.children = [] := by
    rw [leaves_of_children_eq_nil h, List.mem_singleton, within_leaf_iff h]
    exact ⟨fun same => ⟨same, same ▸ h⟩, fun both => both.1⟩
  induction r using inductionOn with
  | succeeded command | failed command failure => exact end_iff rfl
  | batch command children ih =>
    by_cases none : children = []
    · exact end_iff none
    · rw [leaves_batch command none, List.mem_flatMap]
      constructor
      · rintro ⟨child, hc, hl⟩
        obtain ⟨within, last⟩ := (ih child hc).1 hl
        exact ⟨within.tail hc, last⟩
      · rintro ⟨within, last⟩
        rcases Relation.ReflTransGen.cases_tail within with rfl | ⟨child, within, hc⟩
        · exact absurd last none
        · exact ⟨child, hc, (ih child hc).2 ⟨within, last⟩⟩

theorem isOk_iff_failures (r : Result) : r.isOk = true ↔ r.failures = [] := by
  induction r using inductionOn with
  | succeeded command | failed command failure => simp [isOk, failures]
  | batch command children ih =>
    rw [isOk, areOk_iff, failures, failuresOf_eq_flatMap, List.flatMap_eq_nil_iff]
    exact forall₂_congr ih

theorem isOk_of_below {node below : Result} (h : below.Below node) (ok : node.isOk = true) :
    below.isOk = true := by
  have child {a b : Result} (h : a ∈ b.children) (ok : b.isOk = true) : a.isOk = true := by
    cases b with
    | batch command children => exact (areOk_iff children).1 ok a h
    | _ => cases h
  induction h with
  | single h => exact child h ok
  | tail _ h ih => exact ih (child h ok)

/-- A result with children is good just if all that stands below it is. -/
theorem isOk_iff_below {node : Result} (h : node.children ≠ []) :
    node.isOk = true ↔ ∀ below : Result, below.Below node → below.isOk = true := by
  constructor
  · intro ok below h
    exact isOk_of_below h ok
  · intro each
    cases node with
    | batch command children => exact (areOk_iff children).2 fun child hc => each child (.single hc)
    | _ => exact absurd rfl h

/-- The failures are the leaves that are not good, each with what went wrong. -/
theorem map_failures (r : Result) :
    (r.failures.map fun f => failed f.1 f.2) = r.leaves.filter fun leaf => !leaf.isOk := by
  induction r using inductionOn with
  | succeeded command | failed command failure => rfl
  | batch command children ih =>
    by_cases none : children = []
    · subst none
      rfl
    · rw [leaves_batch command none, failures, failuresOf_eq_flatMap, List.map_flatMap, List.filter_flatMap]
      exact List.flatMap_congr ih

theorem length_failures {r leaf : Result} (h : r.leaves = [leaf]) :
    r.failures.length = if r.isOk then 0 else 1 := by
  have length := congrArg List.length r.map_failures
  rw [h, List.length_map] at length
  by_cases ok : r.isOk = true
  · rw [if_pos ok, (isOk_iff_failures r).1 ok]
    rfl
  · have some : r.failures.length ≠ 0 := fun none =>
      ok ((isOk_iff_failures r).2 (List.length_eq_zero_iff.1 none))
    have few : ([leaf].filter fun leaf => !leaf.isOk).length ≤ 1 := List.length_filter_le _ _
    rw [if_neg ok]
    omega

/-- Where every child has one leaf, there are as many failures as children that are not good. -/
theorem length_failures_batch {command : String} {children : List Result}
    (each : ∀ child ∈ children, ∃ leaf, child.leaves = [leaf]) :
    (batch command children).failures.length = children.countP fun child => !child.isOk := by
  rw [failures]
  induction children with
  | nil => rfl
  | cons child rest ih =>
    obtain ⟨⟨leaf, first⟩, others⟩ := List.forall_mem_cons.1 each
    rw [failuresOf, List.length_append, length_failures first, ih others, List.countP_cons]
    cases child.isOk <;> simp [Nat.add_comm]

/-- A batch that is not good tells how many failures and how many commands it has. -/
theorem describe_batch {command : String} {children : List Result} (bad : (batch command children).isOk = false) :
    (batch command children).describe =
      s!"{command}: {(batch command children).failures.length} of {children.length} sub-commands failed (" ++
        "; ".intercalate ((batch command children).failures.map fun f => f.2.message) ++ ")" := by
  unfold describe
  rw [if_neg (by simp [bad])]
  rfl

end Result

namespace Command

/-- A command that is no batch, or a batch of one command that comes to it. -/
inductive ComesTo : String → String → Prop
  | self {c} (single : ∀ commands, parse c ≠ .ok (.batch commands)) : ComesTo c c
  | batch {c d e} (read : parse c = .ok (.batch [d])) (inner : ComesTo d e) : ComesTo c e

variable {raw : String} {commands : List String}

/-- The commands of a batch are the parts of its argument between separators that are not empty. -/
theorem parts_of_parse_batch (read : parse raw = .ok (.batch commands)) :
    ∃ argument parts, Consists raw .batch argument ∧ Joined ';' parts argument ∧
      commands = (parts.filter (· ≠ [])).map String.ofList := by
  obtain ⟨tag, argument, line, full, denotes⟩ := parseLine_eq_ok_iff.1 read
  cases denotes with
  | batch joined => exact ⟨argument, _, consists_iff.2 ⟨line, full⟩, joined, rfl⟩

theorem no_separator_of_mem (read : parse raw = .ok (.batch commands)) {c : String} (hc : c ∈ commands) :
    ';' ∉ c.toList := by
  obtain ⟨argument, parts, -, joined, rfl⟩ := parts_of_parse_batch read
  obtain ⟨part, hp, rfl⟩ := List.mem_map.1 hc
  rw [String.toList_ofList]
  exact joined.clean part (List.mem_of_mem_filter hp)

/-- A batch without a separator has one command. -/
theorem singleton_of_no_separator (read : parse raw = .ok (.batch commands)) (clean : ';' ∉ raw.toList) :
    ∃ d, commands = [d] := by
  obtain ⟨argument, parts, ⟨⟨ends, text, -⟩, full, -⟩, joined, rfl⟩ := parts_of_parse_batch read
  have whole : ';' ∉ argument := by
    intro mem
    rw [text] at clean
    simp [mem] at clean
  have one : parts = [argument] := by rw [← fields_eq_iff_joined.2 joined, fields_of_not_mem whole]
  exact ⟨String.ofList argument, by simp [one, full]⟩

theorem ne_nil_of_parse_batch (read : parse raw = .ok (.batch commands)) : commands ≠ [] := by
  obtain ⟨tag, argument, line, full, denotes⟩ := parseLine_eq_ok_iff.1 read
  cases denotes with
  | batch joined some =>
    obtain ⟨part, hp, hne⟩ := some
    intro none
    rw [List.map_eq_nil_iff, List.filter_eq_nil_iff] at none
    exact none part hp (by simpa using hne)

end Command

namespace Player

variable [Duration τ] (p : Player τ)

/-- Results of commands that were run one after another, each from where the one before it ended, and all that
was attempted by them. -/
inductive Successive (inj : Injector τ σ) : σ → List Result → List (Attempt τ) → σ → Prop
  | done {s} : Successive inj s [] [] s
  | next {s leaf s' leaves made s''} (played : inj.run (p.run leaf.command) s = (.ok leaf, s'))
      (others : Successive inj s' leaves made s'') :
      Successive inj s (leaf :: leaves) (inj.acts (p.run leaf.command) s ++ made) s''

variable {p} {inj : Injector τ σ} {raw : String} {commands : List String} {s s' : σ} {r : Result}
  {results : List Result}

theorem Successive.append {leaves leaves' : List Result} {made made' : List (Attempt τ)} {s'' : σ}
    (h : p.Successive inj s leaves made s') (h' : p.Successive inj s' leaves' made' s'') :
    p.Successive inj s (leaves ++ leaves') (made ++ made') s'' := by
  induction h with
  | done => exact h'
  | next played _ ih =>
    rw [List.append_assoc]
    exact .next played (ih h')

theorem runEach_successive
    (each : ∀ c ∈ commands, ∀ {s s' r}, inj.run (p.run c) s = (.ok r, s') →
      p.Successive inj s r.leaves (inj.acts (p.run c) s) s')
    (hr : inj.run (p.runEach commands) s = (.ok results, s')) :
    p.Successive inj s (results.flatMap Result.leaves) (inj.acts (p.runEach commands) s) s' := by
  induction commands generalizing s results with
  | nil =>
    cases hr
    exact .done
  | cons command rest ih =>
    obtain ⟨first, others⟩ := List.forall_mem_cons.1 each
    obtain ⟨r, s'', more, rfl, played, hmore, acts⟩ := p.runEach_ok_cases hr
    rw [acts, List.flatMap_cons]
    exact (first played).append (ih others hmore)

/-- The leaves of a result are the results of single commands, in the order in which these were played. -/
theorem run_successive (hr : inj.run (p.run raw) s = (.ok r, s')) :
    p.Successive inj s r.leaves (inj.acts (p.run raw) s) s' := by
  induction raw using Command.inductionOn generalizing s r s' with | step raw ih
  rcases p.run_ok_cases hr with ⟨-, single⟩ | ⟨commands, results, read, rfl, each, acts⟩
  · obtain ⟨leaf, rfl⟩ := single.leaf
    rw [Result.leaves_of_children_eq_nil leaf]
    simpa using Successive.next hr .done
  · have some : results ≠ [] := by
      rw [← List.length_pos_iff, p.length_of_runEach each, List.length_pos_iff]
      exact Command.ne_nil_of_parse_batch read
    rw [acts, Result.leaves_batch raw some]
    exact runEach_successive (fun c hc _ _ _ hr => ih commands read c hc hr) each

/-- A command without a separator in it comes to one leaf. -/
theorem leaves_of_no_separator (hr : inj.run (p.run raw) s = (.ok r, s')) (clean : ';' ∉ raw.toList) :
    ∃ leaf, r.leaves = [leaf] ∧ Command.ComesTo raw leaf.command := by
  induction raw using Command.inductionOn generalizing s r s' with | step raw ih
  rcases p.run_ok_cases hr with ⟨single, told⟩ | ⟨commands, results, read, rfl, each, -⟩
  · obtain ⟨leaf, rfl⟩ := told.leaf
    exact ⟨r, Result.leaves_of_children_eq_nil leaf, .self single⟩
  · obtain ⟨d, rfl⟩ := Command.singleton_of_no_separator read clean
    obtain ⟨r, s'', others, rfl, inner, rest, -⟩ := p.runEach_ok_cases each
    cases rest
    have hd : d ∈ [d] := List.mem_singleton_self d
    obtain ⟨leaf, one, comes⟩ := ih [d] read d hd inner (Command.no_separator_of_mem read hd)
    refine ⟨leaf, ?_, .batch read comes⟩
    rw [Result.leaves_batch raw (List.cons_ne_nil r []), List.flatMap_cons, one]
    rfl

/-- Commands without separators in them come to one leaf each, in order. -/
theorem runEach_leaves (clean : ∀ c ∈ commands, ';' ∉ c.toList)
    (hr : inj.run (p.runEach commands) s = (.ok results, s')) :
    (∀ r ∈ results, ∃ leaf, r.leaves = [leaf]) ∧
    List.Forall₂ (fun c leaf => Command.ComesTo c leaf.command) commands (results.flatMap Result.leaves) := by
  induction commands generalizing s results with
  | nil =>
    cases hr
    exact ⟨by simp, .nil⟩
  | cons command rest ih =>
    obtain ⟨first, others⟩ := List.forall_mem_cons.1 clean
    obtain ⟨r, s'', more, rfl, played, hmore, -⟩ := p.runEach_ok_cases hr
    obtain ⟨leaf, one, comes⟩ := leaves_of_no_separator played first
    obtain ⟨each, inOrder⟩ := ih others hmore
    refine ⟨List.forall_mem_cons.2 ⟨⟨leaf, one⟩, each⟩, ?_⟩
    rw [List.flatMap_cons, one]
    exact .cons comes inOrder

/-- A result is good just if it has no failures, and a result with children just if all that stands below it is.
The failures are the leaves that are not good, each with what went wrong, and the leaves are the results of single
commands in the order in which these were played. Of a batch, the parts between separators that are not empty
come to one leaf each, so there are as many failures as children that are not good. -/
theorem run_leaves (hr : inj.run (p.run raw) s = (.ok r, s')) :
    (r.isOk = true ↔ r.failures = []) ∧
    (∀ node, node.Within r → node.children ≠ [] →
      (node.isOk = true ↔ ∀ below : Result, below.Below node → below.isOk = true)) ∧
    (∀ leaf, leaf ∈ r.leaves ↔ leaf.Within r ∧ leaf.children = []) ∧
    (r.failures.map fun f => .failed f.1 f.2) = r.leaves.filter (fun leaf => !leaf.isOk) ∧
    p.Successive inj s r.leaves (inj.acts (p.run raw) s) s' ∧
    ∀ commands, Command.parse raw = .ok (.batch commands) →
      (∃ argument parts, Command.Consists raw .batch argument ∧ Joined ';' parts argument ∧
        commands = (parts.filter (· ≠ [])).map String.ofList) ∧
      List.Forall₂ (fun c leaf => Command.ComesTo c leaf.command) commands r.leaves ∧
      r.children.length = commands.length ∧
      r.failures.length = (r.children.countP fun child => !child.isOk) ∧
      r.failures.length ≤ commands.length ∧
      (r.isOk = false → r.describe = s!"{raw}: {r.failures.length} of {commands.length} sub-commands failed (" ++
        "; ".intercalate (r.failures.map fun f => f.2.message) ++ ")") := by
  refine ⟨r.isOk_iff_failures, fun _ _ => Result.isOk_iff_below, fun _ => Result.mem_leaves_iff, r.map_failures,
    run_successive hr, fun commands read => ?_⟩
  rcases p.run_ok_cases hr with ⟨single, -⟩ | ⟨commands', results, read', rfl, each, -⟩
  · exact absurd read (single commands)
  · rw [read] at read'
    cases read'
    have length := p.length_of_runEach each
    have some : results ≠ [] := by
      rw [← List.length_pos_iff, length, List.length_pos_iff]
      exact Command.ne_nil_of_parse_batch read
    obtain ⟨one, inOrder⟩ := runEach_leaves (fun c hc => Command.no_separator_of_mem read hc) each
    have failed : (Result.batch raw results).failures.length = _ := Result.length_failures_batch one
    refine ⟨Command.parts_of_parse_batch read, ?_, length, failed, ?_, fun bad => ?_⟩
    · rw [Result.leaves_batch raw some]
      exact inOrder
    · rw [failed, ← length]
      exact List.countP_le_length
    · rw [Result.describe_batch bad, length]

/-- A batch within a batch is malformed and another one has a letter that cannot be typed. -/
theorem run_leaves_letter_refused :
    let p : Player Binary64 := ⟨.standard, chordGestures⟩
    let inj := Injector.ruled refusedLetter
    let raw := "batch:type:a;batch:nope;;batch:type:b"
    ∃ r, inj.run (p.run raw) 0 = (.ok r, 3) ∧ r.leaves.length = 3 ∧ r.failures.length = 2 ∧
      r.describe = raw ++ ": 2 of 3 sub-commands failed (Invalid command format, expected 'action:argument': 'nope'; " ++
        "Cannot type 'b' with pyautogui; install pynput for Unicode text)" := by
  intro p inj raw
  have typeA : inj.run (p.run "type:a") 0 = (.ok (.succeeded "type:a"), 2) :=
    p.run_of_parse_single (show Command.parse "type:a" = .ok (.type "a") by decide +kernel)
      (by simp) inj 0
  have nope : inj.run (p.run "nope") 2 = (.ok (.failed "nope" (.command (.malformed "nope"))), 2) :=
    p.run_of_parse_rejected (by decide +kernel) inj 2
  have typeB : inj.run (p.run "type:b") 2 = (.ok (.failed "type:b" (.injection (.untypable "b"))), 3) :=
    p.run_of_parse_single (show Command.parse "type:b" = .ok (.type "b") by decide +kernel)
      (by simp) inj 2
  have first : inj.run (p.run "batch:nope") 2 =
      (.ok (.batch "batch:nope" [.failed "nope" (.command (.malformed "nope"))]), 2) := by
    refine p.run_batch (show Command.parse _ = .ok (.batch ["nope"]) by decide +kernel) ?_
    rw [p.run_runEach_cons nope]
    rfl
  have second : inj.run (p.run "batch:type:b") 2 =
      (.ok (.batch "batch:type:b" [.failed "type:b" (.injection (.untypable "b"))]), 3) := by
    refine p.run_batch (show Command.parse _ = .ok (.batch ["type:b"]) by decide +kernel) ?_
    rw [p.run_runEach_cons typeB]
    rfl
  have read : Command.parse raw = .ok (.batch ["type:a", "batch:nope", "batch:type:b"]) := by decide +kernel
  have whole : inj.run (p.run raw) 0 = (.ok (.batch raw [.succeeded "type:a",
      .batch "batch:nope" [.failed "nope" (.command (.malformed "nope"))],
      .batch "batch:type:b" [.failed "type:b" (.injection (.untypable "b"))]]), 3) := by
    refine p.run_batch read ?_
    rw [p.run_runEach_cons typeA, p.run_runEach_cons first, p.run_runEach_cons second]
    rfl
  obtain ⟨-, -, -, -, -, ofBatch⟩ := run_leaves whole
  obtain ⟨-, inOrder, -, failed, -, described⟩ := ofBatch _ read
  exact ⟨_, whole, inOrder.length_eq.symm, failed, (described rfl).trans (by decide +kernel)⟩

end Player

end InputReplay
