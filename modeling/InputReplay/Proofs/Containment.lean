import InputReplay.Proofs.Batch
import InputReplay.Proofs.Grammar

/-! What comes of any text that is run as a command, where nothing but failures is raised. It has a
result, and a batch has one for each of its commands, however deep; only a click count of too many
digits and a drag in too many parts keep a command, and every batch around it, from having one. -/

namespace InputReplay

open Program

variable {τ σ : Type}

/-- Whether a fault becomes part of a result. -/
def Fault.isFailure : Fault → Bool
  | failure _ => true
  | _ => false

theorem settled_of_isFailure (label : String) {result : Except Fault Unit}
    (h : ∀ fault, result = .error fault → fault.isFailure = true) :
    ∃ r, settled label result = .ok r := by
  cases result with
  | ok _ => exact ⟨_, rfl⟩
  | error fault =>
    have failure := h fault rfl
    cases fault with
    | failure f => exact ⟨_, rfl⟩
    | _ => cases failure

/-- The fault that ends requests is one that was raised. -/
theorem Ends.raised {whole : List (PlayRequest τ)} {made : List (Attempt τ)} {result : Except Fault Unit}
    (ends : Ends whole made result) {fault : Fault} (hr : result = .error fault) :
    ∃ a ∈ made, a.fault? = some fault := by
  cases ends with
  | short cut =>
    cases cut with
    | accepted => cases hr
    | raised before r _ after =>
      cases hr
      exact ⟨⟨r, some fault⟩, by simp, rfl⟩
  | @broken before r =>
    cases hr
    exact ⟨⟨r, some fault⟩, by simp, rfl⟩

namespace Player

variable [Duration τ] (p : Player τ)

/-- Nothing is raised but failures, neither by what stands behind the host nor by gestures. -/
structure Recovers (inj : Injector τ σ) : Prop where
  replies : ∀ r s fault, faultOf (inj.host r s).1 = some fault → fault.isFailure = true
  gestures : ∀ kind s fault, (inj.run (p.gestures kind) s).1 = .error fault → fault.isFailure = true

theorem perform_isFailure {inj : Injector τ σ} (hi : p.Recovers inj) {action : Action}
    (single : ∀ commands, action ≠ .batch commands) (hc : p.isUncountable action = false) {s : σ}
    {fault : Fault} (hr : (inj.run (p.perform action) s).1 = .error fault) : fault.isFailure = true := by
  by_cases hs : action.isSelfContained = true
  · by_cases hg : ∃ kind, action = .gesture kind
    · obtain ⟨kind, rfl⟩ := hg
      exact hi.gestures kind s fault hr
    · obtain ⟨whole, -, ends⟩ := p.perform_releasing (fun kind h => absurd ⟨kind, h⟩ hg) hs hc
      obtain ⟨a, ha, hf⟩ := (ends σ inj s).raised hr
      obtain ⟨s', raised⟩ := inj.raised_of_mem_acts s _ ha hf
      exact hi.replies _ s' fault raised
  · cases action with
    | key code down =>
      refine hi.replies (.post (.key (.code code) down)) s fault ?_
      change (inj.post _ s).1 = _ at hr
      change faultOf (inj.post _ s).1 = _
      rw [hr]
      rfl
    | batch commands => exact absurd rfl (single commands)
    | _ => exact absurd rfl hs

/-- A command without a result: its count has too many digits, it is a drag in too many parts, or it
is a batch with such a command in it. -/
inductive Escapes : String → Prop
  | count {raw} (long : Command.HasLongCount raw) : Escapes raw
  | drag {raw start finish} (read : Command.parse raw = .ok (.drag start finish))
      (many : p.isUncountable (.drag start finish) = true) : Escapes raw
  | part {raw commands c} (read : Command.parse raw = .ok (.batch commands)) (hc : c ∈ commands)
      (he : Escapes c) : Escapes raw

mutual

/-- A result that answers a command from one state to another. A command that is rejected fails with
its error, a single action has the result it is played to, and a batch has the answers of its
commands. -/
inductive Answered (inj : Injector τ σ) : String → σ → Result → σ → Prop
  | rejected {raw s e} (read : Command.parse raw = .error (.rejected e)) :
      Answered inj raw s (.failed raw (.command e)) s
  | played {raw s action r} (read : Command.parse raw = .ok action)
      (single : ∀ commands, action ≠ .batch commands)
      (result : settled raw (inj.run (p.perform action) s).1 = .ok r) :
      Answered inj raw s r (inj.run (p.perform action) s).2
  | batch {raw s commands results s'} (read : Command.parse raw = .ok (.batch commands))
      (each : AnsweredEach inj commands s results s') : Answered inj raw s (.batch raw results) s'

/-- Results that answer commands in turn, one for each. -/
inductive AnsweredEach (inj : Injector τ σ) : List String → σ → List Result → σ → Prop
  | done {s} : AnsweredEach inj [] s [] s
  | next {command rest s r s' results s''} (first : Answered inj command s r s')
      (others : AnsweredEach inj rest s' results s'') :
      AnsweredEach inj (command :: rest) s (r :: results) s''

end

theorem not_escapes {raw : String} {reading : Reading Action} (read : Command.parse raw = reading)
    (contained : reading.Contained)
    (few : ∀ action, reading = .ok action → p.isUncountable action = false)
    (each : ∀ commands, reading = .ok (.batch commands) → ∀ c ∈ commands, ¬ p.Escapes c) :
    ¬ p.Escapes raw := by
  subst read
  intro he
  cases he with
  | count long => exact (Command.parse_contained_iff raw).1 contained long
  | drag read many =>
    rw [few _ read] at many
    cases many
  | part read hc he => exact each _ read _ hc he

theorem Escapes.run_ne_ok {raw : String} (he : p.Escapes raw) (inj : Injector τ σ) (s : σ) (r : Result) :
    (inj.run (p.run raw) s).1 ≠ .ok r := by
  induction he generalizing s r with
  | @count raw long =>
    intro h
    exact (Command.parse_contained_iff raw).1 (p.contained_of_run h) long
  | drag read many =>
    rw [p.run_of_parse_single read (by simp), p.perform_uncountable many]
    intro h
    cases h
  | @part raw commands c read hc _ ih =>
    rw [p.run_of_parse_batch read, inj.run_locked]
    cases Command.expand commands with
    | error numeral =>
      intro h
      cases h
    | ok entries =>
      simp only [inj.run_map]
      intro h
      cases each : (inj.run (p.runEach commands) s).1 with
      | error fault =>
        rw [each] at h
        cases h
      | ok results =>
        -- a result of the batch would be one of the command that escapes, from whatever state it is run
        obtain ⟨s', r', hr⟩ := p.run_of_runEach each hc
        exact ih s' r' hr

theorem runEach_answered {inj : Injector τ σ} {commands : List String}
    (each : ∀ c ∈ commands, ∀ s, ∃ r s', inj.run (p.run c) s = (.ok r, s') ∧ p.Answered inj c s r s')
    (s : σ) :
    ∃ results s', inj.run (p.runEach commands) s = (.ok results, s') ∧
      p.AnsweredEach inj commands s results s' := by
  induction commands generalizing s with
  | nil => exact ⟨[], s, rfl, .done⟩
  | cons command rest ih =>
    obtain ⟨first, others⟩ := List.forall_mem_cons.1 each
    obtain ⟨r, s', hr, answered⟩ := first s
    obtain ⟨results, s'', hrs, more⟩ := ih others s'
    refine ⟨r :: results, s'', ?_, .next answered more⟩
    rw [p.run_runEach_cons hr, hrs]
    rfl

theorem run_answered {inj : Injector τ σ} (hi : p.Recovers inj) {raw : String} (he : ¬ p.Escapes raw)
    (s : σ) : ∃ r s', inj.run (p.run raw) s = (.ok r, s') ∧ p.Answered inj raw s r s' := by
  induction raw using Command.inductionOn generalizing s with | step raw ih
  have contained := (Command.parse_contained_iff raw).2 fun long => he (.count long)
  cases read : Command.parse raw with
  | error e =>
    cases e with
    | rejected e => exact ⟨_, _, p.run_of_parse_rejected read inj s, .rejected read⟩
    | tooLong numeral => exact absurd read (contained numeral)
  | ok action =>
    rcases action.single_or_batch with single | ⟨commands, rfl⟩
    · have few : p.isUncountable action = false := by
        cases many : p.isUncountable action with
        | false => rfl
        | true =>
          cases action with
          | drag start finish => exact absurd (.drag read many) he
          | _ => cases many
      obtain ⟨r, hr⟩ := settled_of_isFailure raw fun fault => p.perform_isFailure hi single few (s := s)
      refine ⟨r, _, ?_, .played read single hr⟩
      rw [p.run_of_parse_single read single, hr]
    · have each : ∀ c ∈ commands, ∀ s, ∃ r s', inj.run (p.run c) s = (.ok r, s') ∧
          p.Answered inj c s r s' := fun c hc s =>
        ih commands read c hc (fun part => he (.part read hc part)) s
      obtain ⟨results, s', hr, answered⟩ := p.runEach_answered each s
      exact ⟨.batch raw results, s', p.run_batch read hr, .batch read answered⟩

/-- Any text is read to an action or to an error of its own, and run to an answer, exactly when it does
not escape by a count of too many digits or a drag in too many parts. -/
theorem run_answered_iff {inj : Injector τ σ} (hi : p.Recovers inj) (raw : String) (s : σ) :
    ((Command.parse raw).Contained ↔ ¬ Command.HasLongCount raw) ∧
    ((∃ r s', inj.run (p.run raw) s = (.ok r, s') ∧ p.Answered inj raw s r s') ↔ ¬ p.Escapes raw) := by
  refine ⟨Command.parse_contained_iff raw, ?_, fun he => p.run_answered hi he s⟩
  rintro ⟨r, s', hr, -⟩ he
  exact he.run_ne_ok p inj s r (congrArg Prod.fst hr)

omit [Duration τ] in
theorem recovers_of_chordGestures (hg : p.gestures = chordGestures) {inj : Injector τ σ}
    (replies : ∀ r s fault, faultOf (inj.host r s).1 = some fault → fault.isFailure = true) :
    p.Recovers inj := by
  refine ⟨replies, fun kind s fault hr => ?_⟩
  rw [hg] at hr
  obtain ⟨whole, -, ends⟩ := chord_releasing (τ := τ) kind.chord
  obtain ⟨a, ha, hf⟩ := (ends σ inj s).raised hr
  obtain ⟨s', raised⟩ := inj.raised_of_mem_acts s _ ha hf
  exact replies _ s' fault raised

theorem run_answered_letter_refused :
    let p : Player Binary64 := ⟨.standard, chordGestures⟩
    let inj := Injector.ruled refusedLetter
    let raw := "batch:type:b;nope;batch:type:a"
    p.Recovers inj ∧ ∃ r s', inj.run (p.run raw) 0 = (.ok r, s') ∧ p.Answered inj raw 0 r s' := by
  intro p inj raw
  have recovers : p.Recovers inj := by
    refine p.recovers_of_chordGestures rfl fun r s fault raised => ?_
    cases r with
    | post e =>
      change faultOf ((Injector.ruled refusedLetter).post e s).1 = _ at raised
      rw [Injector.ruled_raises] at raised
      unfold refusedLetter at raised
      split at raised
      · split at raised <;> cases raised
        rfl
      · cases raised
    | _ => cases raised
  have type : ∀ {raw text}, Command.parse raw = .ok (.type text) → ¬ p.Escapes raw := fun read =>
    p.not_escapes read (Reading.ok_contained _) (by rintro _ ⟨⟩; rfl) (by rintro _ ⟨⟩)
  have nope : ¬ p.Escapes "nope" :=
    p.not_escapes (show Command.parse "nope" = .error (.rejected (.malformed "nope")) by decide +kernel)
      (Reading.reject_contained _) (by rintro _ ⟨⟩) (by rintro _ ⟨⟩)
  have inner : ¬ p.Escapes "batch:type:a" := by
    have read : Command.parse "batch:type:a" = .ok (.batch ["type:a"]) := by decide +kernel
    refine p.not_escapes read (Reading.ok_contained _) (by rintro _ ⟨⟩; rfl) ?_
    rintro commands ⟨⟩ c hc
    obtain rfl := List.mem_singleton.1 hc
    exact type (show _ = Except.ok (Action.type "a") by decide +kernel)
  have outer : ¬ p.Escapes raw := by
    have read : Command.parse raw = .ok (.batch ["type:b", "nope", "batch:type:a"]) := by
      decide +kernel
    refine p.not_escapes read (Reading.ok_contained _) (by rintro _ ⟨⟩; rfl) ?_
    rintro commands ⟨⟩ c hc
    simp only [List.mem_cons, List.not_mem_nil, or_false] at hc
    rcases hc with rfl | rfl | rfl
    · exact type (show _ = Except.ok (Action.type "b") by decide +kernel)
    · exact nope
    · exact inner
  exact ⟨recovers, (p.run_answered_iff recovers raw 0).2.2 outer⟩

/-- A click count of zeros alone. -/
def zeroClick (digits : Nat) : String :=
  "Multi-click:" ++ ("1,2," ++ String.ofList (List.replicate digits '0'))

theorem isLong_zeros {n : Nat} (h : numeralLimit < n) : Tag.IsLong (List.replicate n '0') := by
  have written := integerText_zeros (Nat.zero_lt_of_lt h)
  exact Tag.isLong_of_text written (by rwa [List.length_replicate])

theorem toList_zeroClick (n : Nat) :
    (zeroClick n).toList = "Multi-click:".toList ++ ("1,2,".toList ++ List.replicate n '0') := by
  have zeros : (String.ofList (List.replicate n '0')).toList = List.replicate n '0' :=
    String.toList_ofList
  rw [zeroClick, String.toList_append, String.toList_append, zeros]

theorem consists_zeroClick {n : Nat} (h : 0 < n) :
    Command.Consists (zeroClick n) .multiClick ("1,2,".toList ++ List.replicate n '0') := by
  refine Command.consists_of_text (toList_zeroClick n) (by simp) ?_
  rw [List.getLast?_append, List.getLast?_replicate, if_neg (Nat.ne_of_gt h)]
  rintro c ⟨⟩
  rfl

theorem hasLongCount_zeroClick {n : Nat} (h : numeralLimit < n) :
    Command.HasLongCount (zeroClick n) := by
  have one : fields ',' (List.replicate n '0') = [List.replicate n '0'] := fields_of_not_mem (by simp)
  have cut : fields ',' ("1,2,".toList ++ List.replicate n '0') =
      [['1'], ['2'], List.replicate n '0'] := by
    change fields ',' ('1' :: ',' :: '2' :: ',' :: List.replicate n '0') = _
    simp [fields, one]
  have ordered : (Tag.multiClick.readXY ['1'] ['2']).isOk = true := by decide +kernel
  cases hp : Tag.multiClick.readXY ['1'] ['2'] with
  | error e =>
    rw [hp] at ordered
    cases ordered
  | ok point =>
    obtain ⟨whole, -⟩ := Command.consists_iff.1 (consists_zeroClick (Nat.zero_lt_of_lt h))
    exact ⟨_, whole, _, _, _, point, cut, hp, isLong_zeros h⟩

theorem parse_zeroClick {n : Nat} (h : numeralLimit < n) :
    ∃ numeral, Command.parse (zeroClick n) = .error (.tooLong numeral) := by
  obtain ⟨numeral, tooLong⟩ :=
    not_forall.1 fun contained => (Command.parse_contained_iff _).1 contained (hasLongCount_zeroClick h)
  exact ⟨numeral, not_not.1 tooLong⟩

/-- Commands of which the second has a count of too many digits. -/
def zeroCommands (digits : Nat) : List String := ["type:a", zeroClick digits, "type:b"]

theorem parse_zeroCommands (n : Nat) :
    Command.parse ("batch:" ++ ";".intercalate (zeroCommands n)) = .ok (.batch (zeroCommands n)) := by
  have full : zeroClick n ≠ "" := by
    intro h
    have text := toList_zeroClick n
    rw [h] at text
    cases text
  have whole : ';' ∉ (zeroClick n).toList := by
    rw [toList_zeroClick]
    simp
  refine Command.parse_batch (by simp [zeroCommands]) ?_ (by simp [zeroCommands, Command.isLineEnd])
  simp [zeroCommands, full, whole]

theorem expand_zeroCommands {n : Nat} (h : numeralLimit < n) :
    ∃ numeral, Command.expand (zeroCommands n) = .error numeral := by
  obtain ⟨numeral, tooLong⟩ := parse_zeroClick h
  have first : Command.parse "type:a" = .ok (.type "a") := by decide +kernel
  refine ⟨numeral, ?_⟩
  simp only [zeroCommands, Command.expand, first, tooLong]
  rfl

/-- Nothing of the batch is played. -/
theorem run_zeroCommands_without_result :
    let p : Player Binary64 := ⟨.standard, chordGestures⟩
    let q := p.run ("batch:" ++ ";".intercalate (zeroCommands 4301))
    p.Recovers .accepting ∧ (∀ r, (Injector.accepting.run q ()).1 ≠ .ok r) ∧
      Injector.accepting.acts q () = [] := by
  intro p q
  have long : numeralLimit < 4301 := by decide
  obtain ⟨numeral, expanded⟩ := expand_zeroCommands long
  have recovers : p.Recovers .accepting := p.recovers_of_chordGestures rfl fun r s fault raised => by
    cases r <;> cases raised
  have played : q = Play.locked (.throw (.numeralTooLong numeral)) := by
    change p.run _ = _
    rw [p.run_of_parse_batch (parse_zeroCommands 4301), expanded]
  rw [played]
  refine ⟨recovers, fun r hr => ?_, rfl⟩
  cases hr

end Player

end InputReplay
