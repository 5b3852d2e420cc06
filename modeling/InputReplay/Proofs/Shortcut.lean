import InputReplay.Proofs.Expansion
import InputReplay.Proofs.Recasing

/-! Shortcuts as they are written. Names of keys with plus signs between them are read as these keys, in order and as
often as they are named; the first name that no key has is told. No name of a key has a plus sign in it, so that keys
written by their display names, in whatever case, are read as themselves. -/

namespace InputReplay

theorem KeyText.of_recased {name : String} {key : KeyCode} (h : Recased name.toList key.name.toList) :
    KeyText name.toList key := by
  have found : KeyCode.lookup? name = some key := (KeyCode.lookup?_eq_of_recased h).trans key.lookup?_name
  rwa [← String.ofList_toList (s := name), KeyCode.lookup?_eq_some_iff] at found

/-- Names of keys, one for each. -/
abbrev KeyTexts (names : List String) (keys : List KeyCode) : Prop :=
  List.Forall₂ (fun name key => KeyText name.toList key) names keys

/-- The first of some names that no key has. -/
inductive FirstUnknown : List String → String → Prop
  | mk {before name after keys} (known : KeyTexts before keys) (unknown : ∀ key, ¬ KeyText name.toList key) :
      FirstUnknown (before ++ name :: after) name

/-- Names are all names of keys, or there is a first that is none. -/
theorem keyTexts_or_unknown (names : List String) :
    (∃ keys, KeyTexts names keys) ∨ ∃ name, FirstUnknown names name := by
  have either (name : String) : (∃ key, KeyText name.toList key) ∨ ∀ key, ¬ KeyText name.toList key := by
    rw [← not_exists]
    exact Classical.em _
  rcases forall₂_or_first either names with named | ⟨before, name, after, keys, rfl, known, unknown⟩
  · exact .inl named
  · exact .inr ⟨name, .mk known unknown⟩

namespace Tag

theorem readKeys_eq_ok_iff (tag : Tag) {names : List String} {keys : List KeyCode} :
    (names.map String.toList).mapM tag.readKey = .ok keys ↔ KeyTexts names keys := by
  rw [Reading.mapM_eq_ok_iff, List.forall₂_map_left_iff]
  simp only [tag.readKey_eq_ok_iff]

theorem readKeys_of_unknown (tag : Tag) {names : List String} {name : String} (first : FirstUnknown names name) :
    (names.map String.toList).mapM tag.readKey = .error (.rejected (.unknownKey (some tag.text) name)) := by
  obtain ⟨known, unknown⟩ := first
  have wrong := tag.readKey_of_unknown unknown
  rw [String.ofList_toList] at wrong
  rw [List.map_append, List.map_cons]
  exact Reading.mapM_append_cons
    (List.forall₂_map_left_iff.2 (known.imp fun _ _ => tag.readKey_eq_ok_iff.2)) wrong

end Tag

namespace Command

variable {names : List String} {keys : List KeyCode}

/-- The names between the plus signs of a shortcut are read one by one. -/
theorem parse_shortcut (some : names ≠ []) (clean : ∀ name ∈ names, '+' ∉ name.toList)
    (consists : Consists ("shortcut:" ++ "+".intercalate names) .shortcut
      (['+'].intercalate (names.map String.toList))) :
    parse ("shortcut:" ++ "+".intercalate names) =
      (names.map String.toList).mapM Tag.shortcut.readKey >>= fun keys => return .shortcut keys := by
  have cut : fields '+' (['+'].intercalate (names.map String.toList)) = names.map String.toList :=
    fields_eq_iff.2 ⟨by simpa using some, by simpa using clean, rfl⟩
  rw [consists.parse_eq]
  change Tag.shortcut.readShortcut _ = _
  rw [Tag.readShortcut, cut]

theorem consists_shortcut (full : "+".intercalate names ≠ "")
    (last : ∀ c ∈ ("+".intercalate names).toList.getLast?, isLineEnd c = false) :
    Consists ("shortcut:" ++ "+".intercalate names) .shortcut (['+'].intercalate (names.map String.toList)) := by
  have joined : ("+".intercalate names).toList = ['+'].intercalate (names.map String.toList) := by
    rw [String.toList_intercalate]
    rfl
  rw [← joined]
  exact consists_of_text String.toList_append (fun none => full (String.toList_eq_nil_iff.1 none)) last

/-- Keys that are written by their names, in whatever case, are read as themselves. -/
theorem parse_shortcut_of_recased (some : keys ≠ [])
    (written : List.Forall₂ (fun key name => Recased name.toList key.name.toList) keys names) :
    parse ("shortcut:" ++ "+".intercalate names) = .ok (.shortcut keys) := by
  have named : KeyTexts names keys := (written.imp fun _ _ => KeyText.of_recased).flip
  have each : ∀ name ∈ names, '+' ∉ name.toList ∧ (KeyCode.lookup? name).isSome = true := by
    refine ((List.forall₂_and_left names keys).1 (named.imp fun name key h => ⟨⟨h.not_mem (by decide), ?_⟩, h⟩)).1
    rw [← KeyCode.lookup?_eq_some_iff, String.ofList_toList] at h
    rw [h, Option.isSome_some]
  have named' : names ≠ [] := by
    rintro rfl
    exact some (List.forall₂_nil_left_iff.1 named)
  have spells := Player.spells_shortcut named' fun name hn => (each name hn).2
  rw [parse_shortcut named' (fun name hn => (each name hn).1) spells.consists,
    Tag.shortcut.readKeys_eq_ok_iff.2 named]
  rfl

/-- A shortcut with names between its plus signs is read as the keys that have these names, one for each name and in
their order, if every name is one of a key. Otherwise the first name that no key has is told as unknown. What is
written with the display names of keys, each in any mixture of cases, is read as these keys. -/
theorem parse_shortcut_iff :
    (∀ names : List String, names ≠ [] → (∀ name ∈ names, '+' ∉ name.toList) → "+".intercalate names ≠ "" →
      (∀ c ∈ ("+".intercalate names).toList.getLast?, isLineEnd c = false) →
      (∀ action, parse ("shortcut:" ++ "+".intercalate names) = .ok action ↔
        ∃ keys, KeyTexts names keys ∧ action = .shortcut keys) ∧
      ∀ fault, parse ("shortcut:" ++ "+".intercalate names) = .error fault ↔
        ∃ name, FirstUnknown names name ∧ fault = .rejected (.unknownKey (some "shortcut") name)) ∧
    ∀ (keys : List KeyCode) (names : List String), keys ≠ [] →
      List.Forall₂ (fun key name => Recased name.toList key.name.toList) keys names →
      parse ("shortcut:" ++ "+".intercalate names) = .ok (.shortcut keys) := by
  refine ⟨fun names some clean full last => ?_, fun keys names => parse_shortcut_of_recased⟩
  rw [parse_shortcut some clean (consists_shortcut full last)]
  refine ⟨fun action => ⟨fun read => ?_, ?_⟩, fun fault => ⟨fun raised => ?_, ?_⟩⟩
  · obtain ⟨keys, named, rfl⟩ := Reading.map_eq_ok_iff.1 read
    exact ⟨keys, Tag.shortcut.readKeys_eq_ok_iff.1 named, rfl⟩
  · rintro ⟨keys, named, rfl⟩
    rw [Tag.shortcut.readKeys_eq_ok_iff.2 named]
    rfl
  · rcases keyTexts_or_unknown names with ⟨keys, named⟩ | ⟨name, first⟩
    · rw [Tag.shortcut.readKeys_eq_ok_iff.2 named] at raised
      cases raised
    · rw [Tag.shortcut.readKeys_of_unknown first] at raised
      exact ⟨name, first, (Except.error.inj raised).symm⟩
  · rintro ⟨name, first, rfl⟩
    rw [Tag.shortcut.readKeys_of_unknown first]
    rfl

/-- A name that is empty comes before one that no key has, and keys that repeat are written in mixed case. -/
theorem parse_shortcut_iff_mixedCase :
    parse "shortcut:SHIFT++nope" = .error (.rejected (.unknownKey (some "shortcut") "")) ∧
      parse "shortcut:cOMMAND (lEFT)+§+A+a" = .ok (.shortcut [.commandLeft, .sectionSign, .a, .a]) := by
  obtain ⟨reads, recased⟩ := parse_shortcut_iff
  constructor
  · have shift : KeyText "SHIFT".toList .shiftLeft :=
      ⟨("shift", .shiftLeft), List.mem_append_right _ (by simp [KeyCode.aliases]), by decide +kernel, rfl⟩
    have first : FirstUnknown (["SHIFT"] ++ "" :: ["nope"]) "" :=
      .mk (.cons shift .nil) fun key named => named.ne_nil rfl
    have ends : ∀ c ∈ ("+".intercalate ["SHIFT", "", "nope"]).toList.getLast?, isLineEnd c = false := by
      rintro _ ⟨⟩
      decide
    exact ((reads ["SHIFT", "", "nope"] (by simp) (by decide) (by decide) ends).2 _).2 ⟨_, first, rfl⟩
  · exact recased [.commandLeft, .sectionSign, .a, .a] ["cOMMAND (lEFT)", "§", "A", "a"] (by simp) (by decide)

end Command

end InputReplay
