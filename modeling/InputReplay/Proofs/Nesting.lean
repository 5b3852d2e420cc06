import InputReplay.Proofs.Leaves

/-! How deep batches go. A command of a batch is shorter than the batch by the word and the colon that it begins
with, so batches read from batches come to an end. Playing a batch is a recursion through texts that are read as it
goes; it is as deep as the texts are long and needs no other bound. -/

namespace InputReplay

open Program

variable {τ σ : Type}

namespace Command

variable {raw c : String} {commands : List String}

/-- A command of a batch is shorter than the batch by at least the word and the colon of the batch. -/
theorem length_add_six_le (read : parse raw = .ok (.batch commands)) (hc : c ∈ commands) :
    c.length + 6 ≤ raw.length := by
  have part := le_total_of_mem (fun c => c.length + 1) hc
  have stripped := length_dropEnd_le isLineEnd raw.toList
  rw [String.length_toList] at stripped
  rcases size_le_of_parseLine read with size | size
  · simp only [Action.size, Command.size] at size
    omega
  · simp [Action.size] at size

end Command

/-- One action is what a command of another one, a batch, is read as. -/
def Action.IsReadFrom (inner outer : Action) : Prop :=
  ∃ commands, outer = .batch commands ∧ ∃ c ∈ commands, Command.parse c = .ok inner

/-- There is no endless way down from batch to batch. -/
theorem Action.isReadFrom_wellFounded : WellFounded Action.IsReadFrom := by
  refine Subrelation.wf ?_ (measure Action.size).wf
  rintro inner _ ⟨commands, rfl, c, hc, read⟩
  have rest := Command.size_le_of_parse read
  have part := le_total_of_mem (fun c => c.length + 1) hc
  have whole : (Action.batch commands).size = total (fun c => c.length + 1) commands + 1 := rfl
  change inner.size < (Action.batch commands).size
  omega

namespace Result

mutual

/-- How many batches stand within one another. -/
def levels : Result → Nat
  | batch _ children => levelsOf children + 1
  | _ => 0

def levelsOf : List Result → Nat
  | [] => 0
  | r :: rest => max r.levels (levelsOf rest)

end

theorem levelsOf_le_iff {rs : List Result} {n : Nat} : levelsOf rs ≤ n ↔ ∀ r ∈ rs, r.levels ≤ n := by
  induction rs with
  | nil => simp [levelsOf]
  | cons r rest ih => rw [levelsOf, Nat.max_le, ih, List.forall_mem_cons]

end Result

namespace Player

variable [Duration τ] (p : Player τ)

/-- Plays commands that were read, one after another, each in a given way, if it has one. -/
def playEachBy (play : String → Action → Option (Play τ Result)) :
    List (String × Except CommandError Action) → Option (Play τ (List Result))
  | [] => some (pure [])
  | (command, .error e) :: rest => do
    let others ← playEachBy play rest
    return do
      return .failed command (.command e) :: (← others)
  | (command, .ok action) :: rest => do
    let first ← play command action
    let others ← playEachBy play rest
    return do
      let result ← first
      return result :: (← others)

/-- Plays an action under a label, where no more than a number of batches may stand within one another. -/
def playTo : Nat → String → Action → Option (Play τ Result)
  | 0, _, .batch _ => none
  | n + 1, label, .batch commands =>
    match Command.expand commands with
    | .ok entries => do
      let each ← playEachBy (playTo n) entries
      return Play.locked (Result.batch label <$> each)
    | .error numeral => some (Play.locked (.throw (.numeralTooLong numeral)))
  | _, label, single => some (Play.locked (report label (p.perform single)))

variable {p}

theorem playTo_single {action : Action} (single : ∀ commands, action ≠ .batch commands) (n : Nat) (label : String) :
    p.playTo n label action = some (p.play label action) := by
  cases action with
  | batch commands => exact absurd rfl (single commands)
  | _ => cases n <;> rw [playTo, play] <;> simp

theorem playEachBy_eq {play : String → Action → Option (Play τ Result)}
    {entries : List (String × Except CommandError Action)}
    (each : ∀ command action, (command, .ok action) ∈ entries → play command action = some (p.play command action)) :
    playEachBy play entries = some (p.playEach entries) := by
  induction entries with
  | nil => rw [playEachBy, playEach]
  | cons entry rest ih =>
    have others := ih fun command action h => each command action (List.mem_cons_of_mem _ h)
    obtain ⟨command, read⟩ := entry
    cases read with
    | error e =>
      rw [playEachBy, playEach, others]
      rfl
    | ok action =>
      rw [playEachBy, playEach, others, each command action List.mem_cons_self]
      rfl

end Player

/-- What is read from commands was read from one of them. -/
theorem Command.exists_of_mem_expand {commands : List String}
    {entries : List (String × Except CommandError Action)} (h : expand commands = .ok entries) {command : String}
    {action : Action} (mem : (command, .ok action) ∈ entries) : command ∈ commands ∧ parse command = .ok action := by
  induction commands generalizing entries with
  | nil =>
    cases h
    cases mem
  | cons raw more ih =>
    unfold expand at h
    cases hm : expand more with
    | error numeral =>
      rw [hm] at h
      split at h <;> cases h
    | ok rest =>
      rw [hm] at h
      split at h
      · next read =>
        cases h
        rcases List.mem_cons.1 mem with same | mem
        · cases same
          exact ⟨List.mem_cons_self, read⟩
        · exact (ih hm mem).imp_left (List.mem_cons_of_mem raw)
      · cases h
        rcases List.mem_cons.1 mem with same | mem
        · cases same
        · exact (ih hm mem).imp_left (List.mem_cons_of_mem raw)
      · cases h

namespace Player

variable [Duration τ] {p : Player τ}

theorem play_batch (label : String) (commands : List String) :
    p.play label (.batch commands) = Play.locked (match Command.expand commands with
      | .ok entries => Result.batch label <$> p.playEach entries
      | .error numeral => .throw (.numeralTooLong numeral)) := by
  rw [play]
  congr 1
  split
  · next h => rw [h]
  · next h => rw [h]

theorem playTo_succ_eq {n : Nat} {commands : List String}
    (each : ∀ c ∈ commands, ∀ action, Command.parse c = .ok action → p.playTo n c action = some (p.play c action))
    (label : String) : p.playTo (n + 1) label (.batch commands) = some (p.play label (.batch commands)) := by
  rw [playTo, play_batch]
  cases expanded : Command.expand commands with
  | error numeral => rfl
  | ok entries =>
    have played : playEachBy (p.playTo n) entries = some (p.playEach entries) := by
      refine playEachBy_eq fun command action mem => ?_
      obtain ⟨hc, read⟩ := Command.exists_of_mem_expand expanded mem
      exact each command hc action read
    simp only [played]
    rfl

/-- A batch whose commands have fewer than six characters for each level is played within these levels. -/
theorem playTo_eq {n : Nat} {commands : List String} (short : ∀ c ∈ commands, c.length < 6 * (n + 1))
    (label : String) : p.playTo (n + 1) label (.batch commands) = some (p.play label (.batch commands)) := by
  induction n generalizing commands label with
  | zero =>
    refine playTo_succ_eq (fun c hc action read => playTo_single ?_ 0 c) label
    rintro inner rfl
    obtain ⟨d, hd⟩ := List.exists_mem_of_ne_nil inner (Command.ne_nil_of_parse_batch read)
    have longer := Command.length_add_six_le read hd
    have := short c hc
    omega
  | succ n ih =>
    refine playTo_succ_eq (fun c hc action read => ?_) label
    rcases action.single_or_batch with single | ⟨inner, rfl⟩
    · exact playTo_single single (n + 1) c
    · refine ih (fun d hd => ?_) c
      have longer := Command.length_add_six_le read hd
      have := short c hc
      omega

variable {inj : Injector τ σ} {s s' : σ}

theorem forall_of_runEach {P : Result → Prop} {commands : List String} {results : List Result}
    (each : ∀ c ∈ commands, ∀ {s s' r}, inj.run (p.run c) s = (.ok r, s') → P r)
    (hr : inj.run (p.runEach commands) s = (.ok results, s')) : ∀ r ∈ results, P r := by
  induction commands generalizing s results with
  | nil =>
    cases hr
    simp
  | cons command rest ih =>
    obtain ⟨first, others⟩ := List.forall_mem_cons.1 each
    obtain ⟨r, s'', more, rfl, played, hmore, -⟩ := p.runEach_ok_cases hr
    exact List.forall_mem_cons.2 ⟨first played, ih others hmore⟩

/-- A result has a level at most for every six characters of its command. -/
theorem six_mul_levels_le {raw : String} {r : Result} (hr : inj.run (p.run raw) s = (.ok r, s')) :
    6 * r.levels ≤ raw.length := by
  induction raw using Command.inductionOn generalizing s r s' with | step raw ih
  rcases p.run_ok_cases hr with ⟨-, rfl | ⟨failure, rfl⟩⟩ | ⟨commands, results, read, rfl, each, -⟩
  · exact Nat.zero_le _
  · exact Nat.zero_le _
  · obtain ⟨c, hc⟩ := List.exists_mem_of_ne_nil commands (Command.ne_nil_of_parse_batch read)
    have longer := Command.length_add_six_le read hc
    have few : Result.levelsOf results ≤ (raw.length - 6) / 6 := by
      refine Result.levelsOf_le_iff.2 (forall_of_runEach (fun c hc _ _ r hr => ?_) each)
      have longer := Command.length_add_six_le read hc
      have := ih commands read c hc hr
      omega
    rw [Result.levels]
    omega

/-- The commands of a batch are shorter than the batch by the word and the colon that it begins with, so there is no
endless way down from batch to batch. A batch of any commands, read or not, is played within a number of levels that
their lengths bound, whatever the injector does, and a command is played to a result of no more levels than a sixth
of its length. -/
theorem execute_within_levels (p : Player τ) (inj : Injector τ σ) (s : σ) :
    (∀ raw commands, Command.parse raw = .ok (.batch commands) → ∀ c ∈ commands, c.length + 6 ≤ raw.length) ∧
    WellFounded Action.IsReadFrom ∧
    (∀ commands n, (∀ c ∈ commands, c.length < 6 * (n + 1)) → ∀ command,
      (p.playTo (n + 1) (labelOf (.batch commands) command) (.batch commands)).map (fun q => inj.run q s) =
        some (inj.run (p.execute (.batch commands) command) s)) ∧
    ∀ raw r s', inj.run (p.run raw) s = (.ok r, s') → r.levels ≤ raw.length / 6 := by
  refine ⟨fun raw commands read c hc => Command.length_add_six_le read hc, Action.isReadFrom_wellFounded,
    fun commands n short command => ?_, fun raw r s' hr => ?_⟩
  · rw [playTo_eq short]
    rfl
  · have := six_mul_levels_le hr
    omega

theorem execute_within_levels_batch_in_batch :
    let p : Player Binary64 := ⟨.standard, chordGestures⟩
    let commands := ["batch:batch:type:a", "type:b"]
    (∀ c ∈ commands, c.length < 6 * 4) ∧
      (p.playTo 4 "Batch" (.batch commands)).map (fun q => Injector.accepting.run q ()) =
        some (Injector.accepting.run (p.execute (.batch commands) "") ()) := by
  intro p commands
  obtain ⟨-, -, within, -⟩ := execute_within_levels p .accepting ()
  have short : ∀ c ∈ commands, c.length < 6 * 4 := by decide
  exact ⟨short, within commands 3 short ""⟩

end Player

end InputReplay
