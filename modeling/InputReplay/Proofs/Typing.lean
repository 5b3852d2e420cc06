import InputReplay.Proofs.Expansion

/-! Texts that are typed. Each character of a text is pressed and released on its own, whatever it is. A completion
types how a text begins, waits, and types the full text but for as many characters as were typed; so the two make up
the full text just if it does begin so. -/

namespace InputReplay

variable {τ : Type}

/-- The press and the release of a character. They carry the character and no key. -/
def keystroke (c : Char) : List (PlayRequest τ) :=
  [.post (.key (.text (String.singleton c)) true), .post (.key (.text (String.singleton c)) false)]

/-- What a request types: the text that is pressed. -/
def PlayRequest.typed : PlayRequest τ → List Char
  | .post (.key (.text text) true) => text.toList
  | _ => []

/-- The text that is typed by requests. -/
def typedBy (made : List (PlayRequest τ)) : List Char := made.flatMap PlayRequest.typed

theorem typedBy_append (first second : List (PlayRequest τ)) :
    typedBy (first ++ second) = typedBy first ++ typedBy second := List.flatMap_append

theorem typedBy_keystroke (c : Char) : typedBy (keystroke c : List (PlayRequest τ)) = [c] := by
  simp [typedBy, keystroke, PlayRequest.typed]

theorem typedBy_keystrokes (text : List Char) : typedBy (text.flatMap keystroke : List (PlayRequest τ)) = text := by
  induction text with
  | nil => rfl
  | cons c rest ih =>
    rw [List.flatMap_cons, typedBy_append, typedBy_keystroke, ih]
    rfl

namespace Binary64

theorem not_isPositive_of_isZero {x : Binary64} (none : x.isZero = true) : ¬ x.isPositive = true := by
  obtain ⟨origin, same, still⟩ := zero_eq
  unfold isZero at none
  unfold isPositive
  rw [same] at none ⊢
  cases x with
  | nan | infinite => cases none
  | finite negative m =>
    have empty : m.units = 0 := by
      simp only [eqv, Bool.and_eq_true, beq_iff_eq] at none
      rw [none.1, still]
    simp [lt, still, empty]

end Binary64

/-- A time of zero is not waited for. -/
theorem waitFor_of_isZero {time : Binary64} (none : time.isZero = true) : waitFor time = [] :=
  if_neg (Binary64.not_isPositive_of_isZero none)

theorem typedBy_waitFor [Duration τ] (time : τ) : typedBy (waitFor time) = [] := by
  unfold waitFor
  split <;> rfl

/-- What is left of a text after so many characters completes them to this text just if it begins with them. -/
theorem append_drop_length_eq_iff {start full : List Char} :
    start ++ full.drop start.length = full ↔ start <+: full := by
  constructor
  · intro same
    exact ⟨_, same⟩
  · rintro ⟨rest, rfl⟩
    rw [List.drop_left]

namespace Player

theorem makes_typeEach (text : List Char) : Makes (typeEach text : Play τ Unit) (text.flatMap keystroke) () := by
  induction text with
  | nil => exact .value ()
  | cons c rest ih =>
    have down := Makes.post (τ := τ) (.key (.text c.toString) true)
    have up := Makes.post (τ := τ) (.key (.text c.toString) false)
    exact down.bind (up.bind ih)

variable [Duration τ] (p : Player τ)

def completionRequests (start full : String) : List (PlayRequest τ) :=
  start.toList.flatMap keystroke ++
    (waitFor p.settings.autocompleteSettle ++ (full.toList.drop start.length).flatMap keystroke)

theorem makes_autocomplete (start full : String) :
    Makes (p.perform (.autocomplete start full)) (p.completionRequests start full) () := by
  have rest : (completion start full).toList = full.toList.drop start.length := by
    rw [completion, String.toList_ofList, String.length_toList]
  have first : Makes (type start : Play τ Unit) (start.toList.flatMap keystroke) () := makes_typeEach _
  have second : Makes (type (completion start full) : Play τ Unit)
      ((full.toList.drop start.length).flatMap keystroke) () := by
    rw [← rest]
    exact makes_typeEach _
  unfold perform completionRequests
  exact first.bind ((Makes.pause _).bind second)

theorem typedBy_completionRequests (start full : String) :
    typedBy (p.completionRequests start full) = start.toList ++ full.toList.drop start.length := by
  unfold completionRequests
  rw [typedBy_append, typedBy_append, typedBy_keystrokes, typedBy_waitFor, typedBy_keystrokes, List.nil_append]

theorem makes_type {text : String} (full : text ≠ "")
    (last : ∀ c ∈ text.toList.getLast?, Command.isLineEnd c = false) :
    Makes (p.run ("type:" ++ text)) (text.toList.flatMap keystroke) (.succeeded ("type:" ++ text)) := by
  have some : text.toList ≠ [] := by simpa using full
  have consists : Command.Consists ("type:" ++ text) .type text.toList :=
    Command.consists_of_text String.toList_append some last
  have typed : Makes (p.perform (.type (String.ofList text.toList))) (text.toList.flatMap keystroke) () := by
    rw [String.ofList_toList]
    exact makes_typeEach text.toList
  exact p.makes_of_parse (consists.parse_eq.trans (Tag.Denotes.type _).readArgument_eq) (by simp) typed

theorem makes_completion {start full : String} (clean : ',' ∉ start.toList)
    (last : ∀ c ∈ (start ++ "," ++ full).toList.getLast?, Command.isLineEnd c = false) :
    Makes (p.run s!"autocomplete-text:{start},{full}") (p.completionRequests start full)
      (.succeeded s!"autocomplete-text:{start},{full}") := by
  have parts : (start ++ "," ++ full).toList = start.toList ++ ',' :: full.toList := by simp
  rw [parts] at last
  have consists : Command.Consists s!"autocomplete-text:{start},{full}" .autocomplete
      (start.toList ++ ',' :: full.toList) :=
    Command.consists_of_text (toList_place "autocomplete-text:" start full) (by simp) last
  have read := consists.parse_eq.trans (Tag.Denotes.autocomplete clean).readArgument_eq
  rw [String.ofList_toList, String.ofList_toList] at read
  exact p.makes_of_parse read (by simp) (p.makes_autocomplete start full)

/-- Where nothing raises, a text is typed character by character, whatever separators there are in it. A completion
types how a text begins, waits if there is a time to wait, and types the full text after that many characters: both
together are the full text just if it begins so. -/
theorem texts_typed (p : Player τ) :
    (∀ text : String, text ≠ "" → (∀ c ∈ text.toList.getLast?, Command.isLineEnd c = false) →
      Makes (p.run ("type:" ++ text)) (text.toList.flatMap keystroke) (.succeeded ("type:" ++ text))) ∧
    (∀ start full : String, ',' ∉ start.toList →
      (∀ c ∈ (start ++ "," ++ full).toList.getLast?, Command.isLineEnd c = false) →
      let command := s!"autocomplete-text:{start},{full}"
      let made := start.toList.flatMap keystroke ++
        (waitFor p.settings.autocompleteSettle ++ (full.toList.drop start.length).flatMap keystroke)
      Makes (p.run command) made (.succeeded command) ∧
      typedBy made = start.toList ++ full.toList.drop start.length ∧
      (typedBy made = full.toList ↔ start.toList <+: full.toList)) ∧
    ∀ time : Binary64, time.isZero = true → waitFor time = [] := by
  refine ⟨fun text => p.makes_type, fun start full clean last => ?_, fun time => waitFor_of_isZero⟩
  have typed := p.typedBy_completionRequests start full
  refine ⟨p.makes_completion clean last, typed, ?_⟩
  change typedBy (p.completionRequests start full) = _ ↔ _
  rw [typed, ← String.length_toList]
  exact append_drop_length_eq_iff

/-- A text of separators and a letter beyond ASCII, and a text that does not begin as it was typed. -/
theorem texts_typed_separators :
    let p : Player Binary64 := ⟨.standard, chordGestures⟩
    Makes (p.run "type::,;+é") (":,;+é".toList.flatMap keystroke) (.succeeded "type::,;+é") ∧
      ∃ made, Makes (p.run "autocomplete-text:held,help, me") made (.succeeded "autocomplete-text:held,help, me") ∧
        typedBy made = "held, me".toList ∧ typedBy made ≠ "help, me".toList := by
  intro p
  obtain ⟨typing, completing, -⟩ := texts_typed p
  have typed := typing ":,;+é" (by decide) (by simp [Command.isLineEnd])
  obtain ⟨made, total, whole⟩ := completing "held" "help, me" (by decide) (by simp [Command.isLineEnd])
  exact ⟨typed, _, made, total, fun same => absurd (whole.1 same) (by decide)⟩

end Player
end InputReplay
