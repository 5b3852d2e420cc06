import InputReplay.Gesture.Script
import InputReplay.Proofs.Expansion

/-! Scripts for chords. The script for a chord is read back: it asks for the one key of the chord that is no modifier,
and for the modifiers in their order, each by a word that does not tell the sides apart. Two modifiers have no word, and
a chord that has them loses them in the script. -/

namespace InputReplay

variable {τ : Type}

/-- What a script asks for: a key by its number, and what is held down while it is pressed. -/
structure Stroke where
  number : Nat
  held : List String
deriving DecidableEq

/-- What stands between a given beginning of a text and a given end of it. -/
def between? (start finish text : List Char) : Option (List Char) := do
  let rest ← start.isPrefixOf? text
  finish.isSuffixOf? rest

namespace Stroke

/-- The words that follow a key number: none at all, or those in braces with commas between them. -/
def heldWords? (text : List Char) : Option (List String) :=
  if text = [] then some []
  else do
    let words ← between? " using \x7b".toList "\x7d".toList text
    (fields ',' (' ' :: words)).mapM fun word => String.ofList <$> [' '].isPrefixOf? word

/-- What a script asks for, if it asks for a key. -/
def ofScript? (script : String) : Option Stroke := do
  let line ← between? "tell application \"System Events\"\n    key code ".toList "\nend tell".toList script.toList
  let words ← heldWords? (line.dropWhile Char.isDigit)
  guard (line.takeWhile Char.isDigit ≠ [])
  return ⟨numeral (line.takeWhile Char.isDigit), words⟩

/-- The keys that a word of a script can mean: those of either side. -/
def sides : String → List KeyCode
  | "command down" => [.commandLeft, .commandRight]
  | "control down" => [.controlLeft, .controlRight]
  | "option down" => [.optionLeft, .optionRight]
  | "shift down" => [.shiftLeft, .shiftRight]
  | _ => []

/-- Whether a stroke is that of the keys of a chord: the one that is no modifier is pressed, and for each modifier,
in the order of the chord, a word that can mean it is held. -/
structure Presses (stroke : Stroke) (chord : List KeyCode) : Prop where
  key : ∃ key, chord.filter (!·.isModifier) = [key] ∧ stroke.number = key.number
  held : List.Forall₂ (fun word modifier => modifier ∈ sides word) stroke.held (chord.filter (·.isModifier))

end Stroke

/-- The keys that requests press, in order. -/
def pressedKeys (made : List (PlayRequest τ)) : List KeyCode := made.filterMap fun
  | .post (.key (.code key) true) => some key
  | _ => none

/-- Whether a script has a word for a key if it is a modifier. -/
def KeyCode.isSayable (key : KeyCode) : Bool := key ≠ .fn && key ≠ .capsLock

/-! Reading a script back. -/

theorem between?_append (start finish text : List Char) :
    between? start finish (start ++ (text ++ finish)) = some text := by
  have begun : start.isPrefixOf? (start ++ (text ++ finish)) = some (text ++ finish) :=
    List.isPrefixOf?_eq_some_iff_append_eq.2 rfl
  have ended : finish.isSuffixOf? (text ++ finish) = some text := List.isSuffixOf?_eq_some_iff_append_eq.2 rfl
  rw [between?, begun]
  exact ended

/-- Words with commas and blanks between them, and a blank before the first. -/
theorem intercalate_blanks {words : List (List Char)} (some : words ≠ []) :
    ' ' :: [',', ' '].intercalate words = [','].intercalate (words.map (' ' :: ·)) := by
  induction words with
  | nil => exact absurd rfl some
  | cons word rest ih =>
    cases rest with
    | nil => simp
    | cons next more =>
      rw [List.intercalate_cons_cons, List.map_cons, List.map_cons, List.intercalate_cons_cons, ← List.map_cons,
        ← ih (List.cons_ne_nil _ _)]
      simp

theorem mapM_blanks (words : List String) :
    (words.map fun word => ' ' :: word.toList).mapM (fun word => String.ofList <$> [' '].isPrefixOf? word) =
      some words := by
  induction words with
  | nil => rfl
  | cons word rest ih =>
    have first : [' '].isPrefixOf? (' ' :: word.toList) = some word.toList :=
      List.isPrefixOf?_eq_some_iff_append_eq.2 rfl
    rw [List.map_cons, List.mapM_cons, ih, first]
    simp

namespace Stroke

/-- What a script says after the number of its key. -/
def heldText (words : List String) : String :=
  if words = [] then "" else " using \x7b" ++ ", ".intercalate words ++ "\x7d"

theorem heldWords?_heldText {words : List String} (clean : ∀ word ∈ words, ',' ∉ word.toList) :
    heldWords? (heldText words).toList = some words := by
  unfold heldText
  by_cases none : words = []
  · rw [if_pos none, none]
    rfl
  · have inside : ' ' :: (", ".intercalate words).toList =
        [','].intercalate (words.map fun word => ' ' :: word.toList) := by
      rw [String.toList_intercalate]
      refine (intercalate_blanks (by simpa using none)).trans ?_
      rw [List.map_map]
      rfl
    have cut : fields ',' (' ' :: (", ".intercalate words).toList) = words.map fun word => ' ' :: word.toList :=
      fields_eq_iff.2 ⟨by simpa using none, by simpa using clean, inside⟩
    rw [if_neg none, String.toList_append, String.toList_append, List.append_assoc, heldWords?, if_neg (by simp),
      between?_append]
    change (fields ',' (' ' :: (", ".intercalate words).toList)).mapM _ = _
    rw [cut, mapM_blanks]

theorem scriptText_eq (key : KeyCode) (words : List String) :
    scriptText key words =
      "tell application \"System Events\"\n    key code " ++ toString key.number ++ heldText words ++ "\nend tell" :=
  rfl

/-- What a script asks for is read back from its text. -/
theorem ofScript?_scriptText (key : KeyCode) {words : List String} (clean : ∀ word ∈ words, ',' ∉ word.toList) :
    ofScript? (scriptText key words) = some ⟨key.number, words⟩ := by
  have number : (toString key.number).toList = Nat.toDigits 10 key.number := Nat.toList_repr
  have digits : IsDigits (Nat.toDigits 10 key.number) := fun _ => Nat.isDigit_of_mem_toDigits (by decide) (by decide)
  have stop : ∀ c ∈ (heldText words).toList.head?, c.isDigit = false := by
    unfold heldText
    split
    · intro c hc
      cases hc
    · intro c hc
      rw [String.toList_append, String.toList_append] at hc
      cases hc
      decide
  have value : numeral (Nat.toDigits 10 key.number) = key.number := Nat.ofDigitChars_ten_toDigits
  have line : (scriptText key words).toList = "tell application \"System Events\"\n    key code ".toList ++
      ((Nat.toDigits 10 key.number ++ (heldText words).toList) ++ "\nend tell".toList) := by
    simp only [scriptText_eq, String.toList_append, number, List.append_assoc]
  rw [ofScript?, line, between?_append, Option.bind_eq_bind, Option.bind_some, digits.takeWhile_append stop,
    digits.dropWhile_append stop, heldWords?_heldText clean, value]
  simp [Nat.toDigits_ne_nil]

/-! What the words mean. -/

theorem scriptModifier?_eq_some_iff {key : KeyCode} {word : String} :
    key.scriptModifier? = some word ↔ key ∈ sides word := by
  constructor
  · intro said
    cases key <;> cases said <;> decide
  · intro mem
    unfold sides at mem
    split at mem <;> simp at mem
    all_goals rcases mem with rfl | rfl <;> rfl

/-- A modifier has a word unless it is one of two, and no other key has one. -/
theorem isSome_scriptModifier? (key : KeyCode) :
    key.scriptModifier?.isSome = (key.isModifier && key.isSayable) := by cases key <;> rfl

theorem no_comma_of_said {key : KeyCode} {word : String} (said : key.scriptModifier? = some word) :
    ',' ∉ word.toList := by
  cases key <;> cases said <;> decide

/-- The modifiers of a chord that have a word are said one by one. -/
theorem forall₂_filterMap_sides (chord : List KeyCode) :
    List.Forall₂ (fun word modifier => modifier ∈ sides word) (chord.filterMap KeyCode.scriptModifier?)
      (chord.filter fun key => key.isModifier && key.isSayable) := by
  induction chord with
  | nil => exact .nil
  | cons key rest ih =>
    have has := isSome_scriptModifier? key
    cases said : key.scriptModifier? with
    | none =>
      rw [said] at has
      rw [List.filterMap_cons_none said, List.filter_cons, ← has]
      exact ih
    | some word =>
      rw [said] at has
      rw [List.filterMap_cons_some said, List.filter_cons, ← has]
      exact .cons (scriptModifier?_eq_some_iff.1 said) ih

theorem isSayable_of_mem_sides {key : KeyCode} {word : String} (mem : key ∈ sides word) : key.isSayable = true := by
  have has := isSome_scriptModifier? key
  rw [scriptModifier?_eq_some_iff.2 mem] at has
  exact (Bool.and_eq_true_iff.1 has.symm).2

/-- The keys of a chord that is pressed by a stroke can all be said. -/
theorem Presses.isSayable {stroke : Stroke} {chord : List KeyCode} (h : stroke.Presses chord) {key : KeyCode}
    (mem : key ∈ chord) : key.isSayable = true := by
  by_cases modifier : key.isModifier = true
  · have each : List.Forall₂ (fun modifier word => modifier.isSayable = true ∧ modifier ∈ sides word)
        (chord.filter (·.isModifier)) stroke.held :=
      h.held.flip.imp fun _ _ means => ⟨isSayable_of_mem_sides means, means⟩
    exact ((List.forall₂_and_left _ _).1 each).1 key (List.mem_filter.2 ⟨mem, modifier⟩)
  · cases key <;> first | rfl | exact absurd rfl modifier

theorem forall_isSayable_iff {chord : List KeyCode} :
    (∀ key ∈ chord, key.isSayable = true) ↔ KeyCode.fn ∉ chord ∧ KeyCode.capsLock ∉ chord := by
  constructor
  · intro each
    exact ⟨fun mem => (by cases each _ mem), fun mem => (by cases each _ mem)⟩
  · rintro ⟨noFn, noCapsLock⟩ key mem
    have apart : key ≠ .fn ∧ key ≠ .capsLock := by
      constructor
      · rintro rfl
        exact noFn mem
      · rintro rfl
        exact noCapsLock mem
    simpa [KeyCode.isSayable] using apart

/-- A stroke of the keys that can be said is one of all keys just if they can all be said. -/
theorem Presses.presses_iff {stroke : Stroke} {chord : List KeyCode}
    (h : stroke.Presses (chord.filter KeyCode.isSayable)) :
    stroke.Presses chord ↔ KeyCode.fn ∉ chord ∧ KeyCode.capsLock ∉ chord := by
  rw [← forall_isSayable_iff]
  constructor
  · intro all key mem
    exact all.isSayable mem
  · intro each
    rwa [List.filter_eq_self.2 each] at h

end Stroke

/-! The script for a chord. -/

theorem pressedKeys_chordRequests (chord : List KeyCode) :
    pressedKeys (chordRequests [] chord : List (PlayRequest τ)) = chord := by
  rw [chordRequests_eq, pressedKeys, List.filterMap_append, List.filterMap_append, List.filterMap_map,
    List.filterMap_map, List.filterMap_map]
  simp [Function.comp_def, Play.pressKey, Play.releaseKey]

theorem scriptFor_of_single {chord : List KeyCode} {key : KeyCode} (single : chord.filter (!·.isModifier) = [key]) :
    scriptFor chord = .ok (scriptText key (chord.filterMap KeyCode.scriptModifier?)) := by
  rw [scriptFor, single]

theorem scriptFor_eq_error_iff {chord : List KeyCode} {fault : Fault} :
    scriptFor chord = .error fault ↔ (chord.filter (!·.isModifier)).length ≠ 1 ∧ fault = .unfitChord chord := by
  unfold scriptFor
  split
  · next single => simp [single]
  · next other =>
    have several : (chord.filter (!·.isModifier)).length ≠ 1 := fun one => by
      obtain ⟨key, single⟩ := List.length_eq_one_iff.1 one
      exact other key single
    simp [several, eq_comm]

/-- A script asks for the keys of its chord, without those that it has no word for. -/
theorem presses_of_single {chord : List KeyCode} {key : KeyCode} (single : chord.filter (!·.isModifier) = [key]) :
    ∃ stroke, Stroke.ofScript? (scriptText key (chord.filterMap KeyCode.scriptModifier?)) = some stroke ∧
      stroke.Presses (chord.filter KeyCode.isSayable) := by
  have clean : ∀ word ∈ chord.filterMap KeyCode.scriptModifier?, ',' ∉ word.toList := by
    intro word hw
    obtain ⟨modifier, -, said⟩ := List.mem_filterMap.1 hw
    exact Stroke.no_comma_of_said said
  have plain (key : KeyCode) : (!key.isModifier && key.isSayable) = !key.isModifier := by cases key <;> rfl
  refine ⟨_, Stroke.ofScript?_scriptText key clean, ⟨key, ?_, rfl⟩, ?_⟩
  · simpa only [List.filter_filter, plain] using single
  · simpa only [List.filter_filter] using Stroke.forall₂_filterMap_sides chord

/-- Every gesture has a script, and it asks for all keys of the gesture. -/
theorem exists_gesture_script (kind : Gesture) :
    ∃ script stroke, scriptFor kind.chord = .ok script ∧ Stroke.ofScript? script = some stroke ∧
      stroke.Presses kind.chord := by
  obtain ⟨key, single⟩ : ∃ key, kind.chord.filter (!·.isModifier) = [key] := by cases kind <;> exact ⟨_, rfl⟩
  have said : kind.chord.filter KeyCode.isSayable = kind.chord := by cases kind <;> rfl
  obtain ⟨stroke, reads, presses⟩ := presses_of_single single
  exact ⟨_, stroke, scriptFor_of_single single, reads, said ▸ presses⟩

/-- A chord has a script just if it has exactly one key that is no modifier. The script asks for this key and, in the
order of the chord, for each modifier that it has a word for; so it presses what playing the chord presses just if
neither of the two modifiers without a word is in the chord. -/
theorem scriptFor_presses (chord : List KeyCode) :
    ((∃ fault, scriptFor chord = .error fault) ↔ (chord.filter (!·.isModifier)).length ≠ 1) ∧
    (∀ fault, scriptFor chord = .error fault → fault = .unfitChord chord) ∧
    ∀ script, scriptFor chord = .ok script → ∃ stroke made, Stroke.ofScript? script = some stroke ∧
      Makes (Play.chord chord : Play τ Unit) made () ∧ pressedKeys made = chord ∧
      stroke.Presses (chord.filter KeyCode.isSayable) ∧
      (stroke.Presses chord ↔ KeyCode.fn ∉ chord ∧ KeyCode.capsLock ∉ chord) := by
  simp only [scriptFor_eq_error_iff]
  refine ⟨⟨fun ⟨_, several, _⟩ => several, fun several => ⟨_, several, rfl⟩⟩, fun _ raised => raised.2, ?_⟩
  intro script written
  have one : (chord.filter (!·.isModifier)).length = 1 := by
    by_contra several
    rw [scriptFor_eq_error_iff.2 ⟨several, rfl⟩] at written
    cases written
  obtain ⟨key, single⟩ := List.length_eq_one_iff.1 one
  rw [scriptFor_of_single single] at written
  cases written
  obtain ⟨stroke, reads, presses⟩ := presses_of_single single
  exact ⟨stroke, _, reads, Makes.chordOver [] chord, pressedKeys_chordRequests chord, presses, presses.presses_iff⟩

/-- Modifiers that repeat, on either side of the keyboard and of the key. -/
theorem scriptFor_presses_shifts :
    let chord : List KeyCode := [.shiftRight, .a, .shiftLeft, .shiftRight]
    ∃ script stroke, scriptFor chord = .ok script ∧ Stroke.ofScript? script = some stroke ∧ stroke.Presses chord := by
  intro chord
  obtain ⟨-, -, scripted⟩ := scriptFor_presses (τ := Unit) chord
  obtain ⟨stroke, made, reads, -, -, -, presses⟩ := scripted _ (scriptFor_of_single rfl)
  exact ⟨_, stroke, scriptFor_of_single rfl, reads, presses.2 (by decide)⟩

/-- A chord of two keys of which the script asks for one. -/
theorem scriptFor_fn_dropped :
    ∃ script, scriptFor [.fn, .f] = .ok script ∧ Stroke.ofScript? script = some ⟨3, []⟩ ∧
      ¬ (⟨3, []⟩ : Stroke).Presses [.fn, .f] := by
  refine ⟨_, scriptFor_of_single rfl, Stroke.ofScript?_scriptText .f fun _ said => (by cases said), fun presses => ?_⟩
  have said : KeyCode.fn.isSayable = true := presses.isSayable (by simp)
  cases said

end InputReplay
