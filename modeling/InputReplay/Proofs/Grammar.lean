import InputReplay.Proofs.Fields
import InputReplay.Proofs.Names
import InputReplay.Proofs.Numeral
import InputReplay.Proofs.Reading
import Mathlib.Data.List.Forall2

/-! The language of commands. Each tag has arguments of its own and says what action they denote; a command is
read as an action exactly if it is a tag, a colon and an argument that denotes this action. -/

namespace InputReplay

/-! Parts of arguments. -/

/-- A finite number as it is written: the binary64 number nearest to the decimal. -/
def NumberText (text : List Char) (x : Binary64) : Prop :=
  ∃ d, DecimalText text d ∧ d.toBinary64 = x ∧ x.isFinite = true

/-- Two numbers with a comma between them. -/
inductive PointText : List Char → Point → Prop
  | mk {x y point} (hx : NumberText x point.x) (hy : NumberText y point.y) : PointText (x ++ ',' :: y) point

/-- A positive integer, of no more digits than are read. -/
def CountText (text : List Char) (n : Int) : Prop :=
  ∃ digits, IntegerText text digits n ∧ digits.length ≤ numeralLimit ∧ 1 ≤ n

/-- A name of a key among the key symbols, in whatever case. -/
def KeyText (name : List Char) (key : KeyCode) : Prop :=
  ∃ e ∈ KeyCode.symbolEntries, lowerCase e.1 = lowerCase (String.ofList name) ∧ e.2 = key

/-- Parts that hold no separator, put together with separators between them. -/
structure Joined (sep : Char) (parts : List (List Char)) (text : List Char) : Prop where
  full : parts ≠ []
  clean : ∀ part ∈ parts, sep ∉ part
  text : text = [sep].intercalate parts

/-- The arguments of a tag, and the actions they denote. -/
inductive Tag.Denotes : Tag → List Char → Action → Prop
  | keyDown {name key} (h : KeyText name key) : Denotes .keyDown name (.key key true)
  | keyUp {name key} (h : KeyText name key) : Denotes .keyUp name (.key key false)
  | press {name key} (h : KeyText name key) : Denotes .press name (.press key)
  | type (text) : Denotes .type text (.type (String.ofList text))
  | click {place point} (h : PointText place point) : Denotes .click place (.click point .left 1)
  | doubleClick {place point} (h : PointText place point) : Denotes .doubleClick place (.click point .left 2)
  | rightClick {place point} (h : PointText place point) : Denotes .rightClick place (.click point .right 1)
  | multiClick {place count point n} (h : PointText place point) (counted : CountText count n) :
      Denotes .multiClick (place ++ ',' :: count) (.click point .left n)
  | scroll {amount delta} (h : NumberText amount delta) : Denotes .scroll amount (.scroll delta)
  | move {place point} (h : PointText place point) : Denotes .move place (.move point)
  | scrollTo {place point} (h : PointText place point) : Denotes .scrollTo place (.scrollTo point)
  | holdClick {place name point key} (h : PointText place point) (named : KeyText name key) :
      Denotes .holdClick (place ++ ',' :: name) (.holdClick point key 1)
  | drag {first second start finish} (h : PointText first start) (h' : PointText second finish) :
      Denotes .drag (first ++ ',' :: second) (.drag start finish)
  | shortcut {text tokens codes} (joined : Joined '+' tokens text) (named : List.Forall₂ KeyText tokens codes) :
      Denotes .shortcut text (.shortcut codes)
  | autocomplete {typed full} (clean : ',' ∉ typed) :
      Denotes .autocomplete (typed ++ ',' :: full) (.autocomplete (String.ofList typed) (String.ofList full))
  | batch {text parts} (joined : Joined ';' parts text) (some : ∃ part ∈ parts, part ≠ []) :
      Denotes .batch text (.batch ((parts.filter (· ≠ [])).map String.ofList))
  | touchpad {kind : Gesture} (h : kind.isTouchpad = true) : Denotes .touchpad kind.name.toList (.gesture kind)
  | window {kind : Gesture} (h : kind.isTouchpad = false) : Denotes .window kind.name.toList (.gesture kind)

/-- A command that is a tag, a colon and an argument, up to line ends after it. -/
structure Command.Consists (raw : String) (tag : Tag) (argument : List Char) : Prop where
  text : ∃ ends, raw.toList = tag.text.toList ++ ':' :: argument ++ ends ∧ ∀ c ∈ ends, isLineEnd c = true
  full : argument ≠ []
  last : ∀ c ∈ argument.getLast?, isLineEnd c = false

theorem fields_eq_iff_joined {sep : Char} {text : List Char} {parts : List (List Char)} :
    fields sep text = parts ↔ Joined sep parts text := by
  rw [fields_eq_iff]
  exact ⟨fun ⟨full, clean, text⟩ => ⟨full, clean, text⟩, fun ⟨full, clean, text⟩ => ⟨full, clean, text⟩⟩

namespace NumberText

variable {text : List Char} {x : Binary64}

theorem no_comma (h : NumberText text x) : ',' ∉ text := by
  obtain ⟨d, written, -⟩ := h
  exact written.isNumberText.not_mem (by decide)

end NumberText

theorem CountText.no_comma {text : List Char} {n : Int} (h : CountText text n) : ',' ∉ text := by
  obtain ⟨digits, written, -⟩ := h
  exact written.isNumberText.not_mem (by decide)

namespace KeyCode

/-- What a name means among the key symbols. -/
theorem lookup?_eq_some_iff {name : List Char} {key : KeyCode} :
    lookup? (String.ofList name) = some key ↔ KeyText name key := symbols_lists _ _

theorem resolve_eq (name : String) (tag : Option String) :
    resolve name tag = (lookup? name).elim (.error (.unknownKey tag name)) .ok := by
  -- The unfolding is a step between functions: of an application it would look into the table of symbols.
  obtain ⟨f, same⟩ : ∃ f, f = resolve := ⟨_, rfl⟩
  rw [← same]
  delta resolve at same
  cases found : lookup? name with
  | none => simp [same, found]
  | some key => simp [same, found]

theorem resolve_eq_ok_iff {name : String} {tag : Option String} {key : KeyCode} :
    resolve name tag = .ok key ↔ lookup? name = some key := by
  rw [resolve_eq]
  cases lookup? name <;> simp

end KeyCode

/-- Names of keys are not empty and have neither line ends nor plus signs, in whatever case they are. -/
theorem KeyCode.lowerCase_symbolEntries : ∀ e ∈ symbolEntries,
    lowerCase e.1 ≠ "" ∧ (lowerCase e.1).toList.all (fun c => c ∉ ['\r', '\n', '+']) = true := by decide +kernel

theorem KeyText.ne_nil {name : List Char} {key : KeyCode} (h : KeyText name key) : name ≠ [] := by
  rintro rfl
  obtain ⟨e, he, unnamed, -⟩ := h
  exact (KeyCode.lowerCase_symbolEntries e he).1 unnamed

theorem Gesture.ofName?_eq_some_iff {name : String} {kind : Gesture} :
    ofName? name = some kind ↔ name = kind.name := by
  constructor
  · intro found
    exact (eq_of_beq (List.find?_some (p := fun g : Gesture => g.name == name) found)).symm
  · rintro rfl
    cases kind <;> decide

namespace Reading

variable {α β : Type}

theorem ofOption_eq_ok_iff {error : CommandError} {x : Option α} {a : α} :
    ofOption error x = .ok a ↔ x = some a := by
  cases x <;> simp [ofOption, reject]

theorem bind_eq_ok_iff {x : Reading α} {f : α → Reading β} {b : β} :
    (x >>= f) = .ok b ↔ ∃ a, x = .ok a ∧ f a = .ok b := by
  constructor
  · exact bind_eq_ok
  · rintro ⟨a, rfl, h⟩
    exact h

theorem map_eq_ok_iff {x : Reading α} {f : α → β} {b : β} :
    (x >>= fun a => pure (f a)) = .ok b ↔ ∃ a, x = .ok a ∧ b = f a := by
  rw [bind_eq_ok_iff]
  constructor
  · rintro ⟨a, read, h⟩
    exact ⟨a, read, (Except.ok.inj h).symm⟩
  · rintro ⟨a, read, rfl⟩
    exact ⟨a, read, rfl⟩

theorem mapM_eq_ok_iff {f : α → Reading β} {as : List α} {bs : List β} :
    as.mapM f = .ok bs ↔ List.Forall₂ (fun a b => f a = .ok b) as bs := by
  induction as generalizing bs with
  | nil =>
    rw [List.forall₂_nil_left_iff]
    exact ⟨fun h => (Except.ok.inj h).symm, fun h => congrArg Except.ok h.symm⟩
  | cons a rest ih =>
    rw [List.mapM_cons, bind_eq_ok_iff, List.forall₂_cons_left_iff]
    constructor
    · rintro ⟨b, hb, h⟩
      obtain ⟨more, hmore, rfl⟩ := map_eq_ok_iff.1 h
      exact ⟨b, more, hb, ih.1 hmore, rfl⟩
    · rintro ⟨b, more, hb, hmore, rfl⟩
      exact ⟨b, hb, map_eq_ok_iff.2 ⟨more, ih.2 hmore, rfl⟩⟩

end Reading

namespace Tag

variable (tag : Tag)

theorem readKey_eq_ok_iff {token : List Char} {key : KeyCode} :
    tag.readKey token = .ok key ↔ KeyText token key := by
  rw [← KeyCode.lookup?_eq_some_iff, ← KeyCode.resolve_eq_ok_iff]
  unfold readKey
  cases KeyCode.resolve (String.ofList token) (some tag.text) <;> simp [Except.mapError]

theorem readNumber_eq_ok_iff {isCoordinate : Bool} {field : String} {text : List Char} {x : Binary64} :
    tag.readNumber isCoordinate field text = .ok x ↔ NumberText text x := by
  unfold readNumber NumberText
  cases read : Decimal.read? text with
  | none =>
    refine ⟨fun h => (by cases h), ?_⟩
    rintro ⟨d, written, -⟩
    rw [Decimal.read?_eq_some_iff.2 written] at read
    cases read
  | some d =>
    have written := Decimal.read?_eq_some_iff.1 read
    dsimp only
    split
    · next finite =>
      constructor
      · rintro ⟨⟩
        exact ⟨d, written, rfl, finite⟩
      · rintro ⟨d', written', rfl, -⟩
        rw [Decimal.read?_eq_some_iff.2 written'] at read
        cases read
        rfl
    · next infinite =>
      refine ⟨fun h => (by cases h), ?_⟩
      rintro ⟨d', written', rfl, finite⟩
      rw [Decimal.read?_eq_some_iff.2 written'] at read
      cases read
      exact absurd finite infinite

/-- An integer is a count if it has no more digits than are read and is positive. -/
theorem readCount_of_text {text digits : List Char} {n : Int} (written : IntegerText text digits n) (field : String) :
    tag.readCount field text =
      if numeralLimit < digits.length then .error (.tooLong ⟨digits.length⟩)
      else if n < 1 then .reject (tag.fieldError field (.notPositive n))
      else .ok n := by
  unfold readCount
  rw [readInteger?_eq_some_iff.2 ⟨digits, written⟩]
  dsimp only
  rw [written.takeSign]

theorem readCount_eq_ok_iff {field : String} {text : List Char} {n : Int} :
    tag.readCount field text = .ok n ↔ CountText text n := by
  constructor
  · intro h
    cases read : readInteger? text with
    | none =>
      unfold readCount at h
      rw [read] at h
      cases h
    | some m =>
      obtain ⟨digits, written⟩ := readInteger?_eq_some_iff.1 read
      rw [tag.readCount_of_text written] at h
      split at h
      · cases h
      · split at h
        · cases h
        · cases h
          exact ⟨digits, written, by omega, by omega⟩
  · rintro ⟨digits, written, short, positive⟩
    rw [tag.readCount_of_text written, if_neg (by omega), if_neg (by omega)]

theorem isLong_of_text {text digits : List Char} {n : Int} (written : IntegerText text digits n)
    (long : numeralLimit < digits.length) : IsLong text := by
  refine ⟨?_, by rwa [written.takeSign]⟩
  rw [readInteger?_eq_some_iff.2 ⟨digits, written⟩]
  rfl

theorem readCoordinates_eq_ok_iff {names : List String} {i : Nat} {texts : List (List Char)}
    {values : List Binary64} :
    tag.readCoordinates names i texts = .ok values ↔ List.Forall₂ NumberText texts values := by
  induction texts generalizing i values with
  | nil =>
    rw [List.forall₂_nil_left_iff]
    exact ⟨fun h => (Except.ok.inj h).symm, fun h => congrArg Except.ok h.symm⟩
  | cons text rest ih =>
    rw [readCoordinates, Reading.bind_eq_ok_iff, List.forall₂_cons_left_iff]
    constructor
    · rintro ⟨x, hx, h⟩
      obtain ⟨more, hmore, rfl⟩ := Reading.map_eq_ok_iff.1 h
      exact ⟨x, more, tag.readNumber_eq_ok_iff.1 hx, ih.1 hmore, rfl⟩
    · rintro ⟨x, more, hx, hmore, rfl⟩
      exact ⟨x, tag.readNumber_eq_ok_iff.2 hx, Reading.map_eq_ok_iff.2 ⟨more, ih.2 hmore, rfl⟩⟩

theorem readXY_eq_ok_iff {x y : List Char} {point : Point} :
    tag.readXY x y = .ok point ↔ NumberText x point.x ∧ NumberText y point.y := by
  unfold readXY
  rw [Reading.bind_eq_ok_iff]
  constructor
  · rintro ⟨a, ha, h⟩
    obtain ⟨b, hb, rfl⟩ := Reading.map_eq_ok_iff.1 h
    exact ⟨tag.readNumber_eq_ok_iff.1 ha, tag.readNumber_eq_ok_iff.1 hb⟩
  · rintro ⟨hx, hy⟩
    exact ⟨_, tag.readNumber_eq_ok_iff.2 hx, Reading.map_eq_ok_iff.2 ⟨_, tag.readNumber_eq_ok_iff.2 hy, rfl⟩⟩

theorem readPoint_eq_ok_iff {argument : List Char} {point : Point} :
    tag.readPoint argument = .ok point ↔ PointText argument point := by
  unfold readPoint
  rw [Reading.bind_eq_ok_iff]
  constructor
  · rintro ⟨values, read, h⟩
    rw [readCoordinates_eq_ok_iff] at read
    split at h
    · cases h
      obtain ⟨x, _, hx, others, cut⟩ := List.forall₂_cons_right_iff.1 read
      obtain ⟨y, _, hy, ⟨⟩, rfl⟩ := List.forall₂_cons_right_iff.1 others
      obtain ⟨_, rfl, -, cut⟩ := (fields_eq_cons_iff (List.cons_ne_nil _ _)).1 cut
      obtain ⟨rfl, -⟩ := fields_eq_singleton_iff.1 cut
      exact .mk hx hy
    · cases h
  · rintro ⟨hx, hy⟩
    refine ⟨[point.x, point.y], ?_, rfl⟩
    rw [fields_append hx.no_comma, fields_of_not_mem hy.no_comma, readCoordinates_eq_ok_iff]
    exact .cons hx (.cons hy .nil)

theorem readDrag_eq_ok_iff {argument : List Char} {action : Action} :
    tag.readDrag argument = .ok action ↔ ∃ first second start finish, argument = first ++ ',' :: second ∧
      PointText first start ∧ PointText second finish ∧ action = .drag start finish := by
  unfold readDrag
  rw [Reading.bind_eq_ok_iff]
  constructor
  · rintro ⟨values, read, h⟩
    rw [readCoordinates_eq_ok_iff] at read
    split at h
    · cases h
      obtain ⟨x₁, _, hx₁, more₁, cut⟩ := List.forall₂_cons_right_iff.1 read
      obtain ⟨y₁, _, hy₁, more₂, rfl⟩ := List.forall₂_cons_right_iff.1 more₁
      obtain ⟨x₂, _, hx₂, more₃, rfl⟩ := List.forall₂_cons_right_iff.1 more₂
      obtain ⟨y₂, _, hy₂, ⟨⟩, rfl⟩ := List.forall₂_cons_right_iff.1 more₃
      obtain ⟨_, rfl, -, cut⟩ := (fields_eq_cons_iff (List.cons_ne_nil _ _)).1 cut
      obtain ⟨_, rfl, -, cut⟩ := (fields_eq_cons_iff (List.cons_ne_nil _ _)).1 cut
      obtain ⟨_, rfl, -, cut⟩ := (fields_eq_cons_iff (List.cons_ne_nil _ _)).1 cut
      obtain ⟨rfl, -⟩ := fields_eq_singleton_iff.1 cut
      exact ⟨x₁ ++ ',' :: y₁, _, ⟨_, _⟩, ⟨_, _⟩, by simp, .mk hx₁ hy₁, .mk hx₂ hy₂, rfl⟩
    · cases h
  · rintro ⟨_, _, start, finish, rfl, ⟨hx₁, hy₁⟩, ⟨hx₂, hy₂⟩, rfl⟩
    refine ⟨[start.x, start.y, finish.x, finish.y], ?_, rfl⟩
    rw [List.append_assoc, List.cons_append, fields_append hx₁.no_comma, fields_append hy₁.no_comma,
      fields_append hx₂.no_comma, fields_of_not_mem hy₂.no_comma, readCoordinates_eq_ok_iff]
    exact .cons hx₁ (.cons hy₁ (.cons hx₂ (.cons hy₂ .nil)))

theorem readMultiClick_eq_ok_iff {argument : List Char} {action : Action} :
    tag.readMultiClick argument = .ok action ↔ ∃ place count point n, argument = place ++ ',' :: count ∧
      PointText place point ∧ CountText count n ∧ action = .click point .left n := by
  unfold readMultiClick
  constructor
  · intro h
    split at h
    · next x y count cut =>
      obtain ⟨point, read, h⟩ := Reading.bind_eq_ok h
      obtain ⟨n, counted, rfl⟩ := Reading.map_eq_ok_iff.1 h
      obtain ⟨hx, hy⟩ := tag.readXY_eq_ok_iff.1 read
      obtain ⟨_, rfl, -, cut⟩ := (fields_eq_cons_iff (List.cons_ne_nil _ _)).1 cut
      obtain ⟨_, rfl, -, cut⟩ := (fields_eq_cons_iff (List.cons_ne_nil _ _)).1 cut
      obtain ⟨rfl, -⟩ := fields_eq_singleton_iff.1 cut
      exact ⟨x ++ ',' :: y, _, point, n, by simp, .mk hx hy, tag.readCount_eq_ok_iff.1 counted, rfl⟩
    · cases h
  · rintro ⟨_, count, point, n, rfl, ⟨hx, hy⟩, counted, rfl⟩
    rw [List.append_assoc, List.cons_append, fields_append hx.no_comma, fields_append hy.no_comma,
      fields_of_not_mem counted.no_comma]
    exact Reading.bind_eq_ok_iff.2 ⟨point, tag.readXY_eq_ok_iff.2 ⟨hx, hy⟩,
      Reading.map_eq_ok_iff.2 ⟨n, tag.readCount_eq_ok_iff.2 counted, rfl⟩⟩

theorem holdFields?_eq_some_iff {argument x y name : List Char} :
    holdFields? argument = some (x, y, name) ↔
      argument = x ++ ',' :: (y ++ ',' :: name) ∧ ',' ∉ x ∧ ',' ∉ y ∧ name ≠ [] := by
  unfold holdFields?
  constructor
  · intro h
    obtain ⟨⟨first, rest⟩, cut, h⟩ := Option.bind_eq_some_iff.1 h
    obtain ⟨⟨second, last⟩, cut', h⟩ := Option.bind_eq_some_iff.1 h
    obtain ⟨⟨⟩, full, h⟩ := Option.bind_eq_some_iff.1 h
    cases h
    obtain ⟨rfl, clean⟩ := splitFirst?_eq_some_iff.1 cut
    obtain ⟨rfl, clean'⟩ := splitFirst?_eq_some_iff.1 cut'
    exact ⟨rfl, clean, clean', (Option.guard_eq_some' _).1 full⟩
  · rintro ⟨rfl, clean, clean', full⟩
    rw [splitFirst?_append clean, Option.bind_eq_bind, Option.bind_some]
    dsimp only
    rw [splitFirst?_append clean']
    simp [full]

theorem readHoldClick_eq_ok_iff {argument : List Char} {action : Action} :
    tag.readHoldClick argument = .ok action ↔ ∃ place name point key, argument = place ++ ',' :: name ∧
      PointText place point ∧ KeyText name key ∧ action = .holdClick point key 1 := by
  unfold readHoldClick
  rw [Reading.bind_eq_ok_iff]
  constructor
  · rintro ⟨⟨x, y, name⟩, cut, h⟩
    rw [Reading.ofOption_eq_ok_iff, holdFields?_eq_some_iff] at cut
    obtain ⟨rfl, -⟩ := cut
    obtain ⟨point, read, h⟩ := Reading.bind_eq_ok h
    obtain ⟨key, named, rfl⟩ := Reading.map_eq_ok_iff.1 h
    obtain ⟨hx, hy⟩ := tag.readXY_eq_ok_iff.1 read
    exact ⟨x ++ ',' :: y, name, point, key, by simp, .mk hx hy, tag.readKey_eq_ok_iff.1 named, rfl⟩
  · rintro ⟨_, name, point, key, rfl, ⟨hx, hy⟩, named, rfl⟩
    refine ⟨_, Reading.ofOption_eq_ok_iff.2 (holdFields?_eq_some_iff.2
      ⟨List.append_assoc _ _ _, hx.no_comma, hy.no_comma, named.ne_nil⟩), ?_⟩
    exact Reading.bind_eq_ok_iff.2 ⟨point, tag.readXY_eq_ok_iff.2 ⟨hx, hy⟩,
      Reading.map_eq_ok_iff.2 ⟨key, tag.readKey_eq_ok_iff.2 named, rfl⟩⟩

theorem readShortcut_eq_ok_iff {argument : List Char} {action : Action} :
    tag.readShortcut argument = .ok action ↔ ∃ tokens codes, Joined '+' tokens argument ∧
      List.Forall₂ KeyText tokens codes ∧ action = .shortcut codes := by
  unfold readShortcut
  have each : (fun token key => tag.readKey token = .ok key) = KeyText := by
    funext token key
    exact propext tag.readKey_eq_ok_iff
  rw [Reading.map_eq_ok_iff]
  simp only [Reading.mapM_eq_ok_iff, each]
  constructor
  · rintro ⟨codes, named, rfl⟩
    exact ⟨_, codes, fields_eq_iff_joined.1 rfl, named, rfl⟩
  · rintro ⟨tokens, codes, joined, named, rfl⟩
    exact ⟨codes, fields_eq_iff_joined.2 joined ▸ named, rfl⟩

theorem readAutocomplete_eq_ok_iff {argument : List Char} {action : Action} :
    tag.readAutocomplete argument = .ok action ↔ ∃ typed full, argument = typed ++ ',' :: full ∧ ',' ∉ typed ∧
      action = .autocomplete (String.ofList typed) (String.ofList full) := by
  unfold readAutocomplete
  constructor
  · intro h
    split at h
    · next typed full cut =>
      cases h
      obtain ⟨joined, clean⟩ := splitFirst?_eq_some_iff.1 cut
      exact ⟨typed, full, joined, clean, rfl⟩
    · cases h
  · rintro ⟨typed, full, rfl, clean, rfl⟩
    rw [splitFirst?_append clean]

theorem readBatch_eq_ok_iff {argument : List Char} {action : Action} :
    tag.readBatch argument = .ok action ↔ ∃ parts, Joined ';' parts argument ∧ (∃ part ∈ parts, part ≠ []) ∧
      action = .batch ((parts.filter (· ≠ [])).map String.ofList) := by
  have full_iff (parts : List (List Char)) :
      (parts.filter (· ≠ [])).map String.ofList ≠ [] ↔ ∃ part ∈ parts, part ≠ [] := by
    simp [List.filter_eq_nil_iff]
  unfold readBatch
  constructor
  · intro h
    dsimp only at h
    split at h
    · cases h
    · next full =>
      cases h
      exact ⟨_, fields_eq_iff_joined.1 rfl, (full_iff _).1 full, rfl⟩
  · rintro ⟨parts, joined, full, rfl⟩
    rw [fields_eq_iff_joined.2 joined]
    exact if_neg ((full_iff parts).2 full)

theorem readGesture_eq_ok_iff {touchpad : Bool} {argument : List Char} {action : Action} :
    tag.readGesture touchpad argument = .ok action ↔
      ∃ kind : Gesture, argument = kind.name.toList ∧ kind.isTouchpad = touchpad ∧ action = .gesture kind := by
  unfold readGesture
  constructor
  · intro h
    split at h
    · next kind found =>
      split at h
      · next own =>
        cases h
        refine ⟨kind, ?_, own, rfl⟩
        rw [← Gesture.ofName?_eq_some_iff.1 found, String.toList_ofList]
      · cases h
    · cases h
  · rintro ⟨kind, rfl, own, rfl⟩
    rw [String.ofList_toList, Gesture.ofName?_eq_some_iff.2 rfl]
    exact if_pos own

/-- Only what denotes an action is read as it. -/
theorem denotes_of_readArgument {argument : List Char} {action : Action}
    (h : tag.readArgument argument = .ok action) : tag.Denotes argument action := by
  unfold readArgument at h
  cases tag <;> dsimp only at h
  case keyDown | keyUp | press =>
    obtain ⟨key, read, rfl⟩ := Reading.map_eq_ok_iff.1 h
    constructor
    exact (readKey_eq_ok_iff _).1 read
  case type =>
    cases h
    exact .type argument
  case click | doubleClick | rightClick | move | scrollTo =>
    obtain ⟨point, read, rfl⟩ := Reading.map_eq_ok_iff.1 h
    constructor
    exact (readPoint_eq_ok_iff _).1 read
  case scroll =>
    obtain ⟨delta, read, rfl⟩ := Reading.map_eq_ok_iff.1 h
    exact .scroll ((readNumber_eq_ok_iff _).1 read)
  case multiClick =>
    obtain ⟨place, count, point, n, rfl, placed, counted, rfl⟩ := (readMultiClick_eq_ok_iff _).1 h
    exact .multiClick placed counted
  case holdClick =>
    obtain ⟨place, name, point, key, rfl, placed, named, rfl⟩ := (readHoldClick_eq_ok_iff _).1 h
    exact .holdClick placed named
  case drag =>
    obtain ⟨first, second, start, finish, rfl, placed, placed', rfl⟩ := (readDrag_eq_ok_iff _).1 h
    exact .drag placed placed'
  case shortcut =>
    obtain ⟨tokens, codes, joined, named, rfl⟩ := (readShortcut_eq_ok_iff _).1 h
    exact .shortcut joined named
  case autocomplete =>
    obtain ⟨typed, full, rfl, clean, rfl⟩ := (readAutocomplete_eq_ok_iff _).1 h
    exact .autocomplete clean
  case batch =>
    obtain ⟨parts, joined, full, rfl⟩ := (readBatch_eq_ok_iff _).1 h
    exact .batch joined full
  case touchpad =>
    obtain ⟨kind, rfl, own, rfl⟩ := (readGesture_eq_ok_iff _).1 h
    exact .touchpad own
  case window =>
    obtain ⟨kind, rfl, own, rfl⟩ := (readGesture_eq_ok_iff _).1 h
    exact .window own

/-- What denotes an action is read as it. -/
theorem Denotes.readArgument_eq {tag : Tag} {argument : List Char} {action : Action}
    (h : tag.Denotes argument action) : tag.readArgument argument = .ok action := by
  unfold readArgument
  cases h with
  | keyDown named | keyUp named | press named =>
    exact Reading.map_eq_ok_iff.2 ⟨_, (readKey_eq_ok_iff _).2 named, rfl⟩
  | type => rfl
  | click placed | doubleClick placed | rightClick placed | move placed | scrollTo placed =>
    exact Reading.map_eq_ok_iff.2 ⟨_, (readPoint_eq_ok_iff _).2 placed, rfl⟩
  | scroll written => exact Reading.map_eq_ok_iff.2 ⟨_, (readNumber_eq_ok_iff _).2 written, rfl⟩
  | multiClick placed counted => exact (readMultiClick_eq_ok_iff _).2 ⟨_, _, _, _, rfl, placed, counted, rfl⟩
  | holdClick placed named => exact (readHoldClick_eq_ok_iff _).2 ⟨_, _, _, _, rfl, placed, named, rfl⟩
  | drag placed placed' => exact (readDrag_eq_ok_iff _).2 ⟨_, _, _, _, rfl, placed, placed', rfl⟩
  | shortcut joined named => exact (readShortcut_eq_ok_iff _).2 ⟨_, _, joined, named, rfl⟩
  | autocomplete clean => exact (readAutocomplete_eq_ok_iff _).2 ⟨_, _, rfl, clean, rfl⟩
  | batch joined full => exact (readBatch_eq_ok_iff _).2 ⟨_, joined, full, rfl⟩
  | touchpad own | window own => exact (readGesture_eq_ok_iff _).2 ⟨_, rfl, own, rfl⟩

/-- An argument denotes one action at most. -/
theorem Denotes.unique {tag : Tag} {argument : List Char} {action other : Action}
    (h : tag.Denotes argument action) (h' : tag.Denotes argument other) : action = other :=
  Except.ok.inj (h.readArgument_eq.symm.trans h'.readArgument_eq)

theorem ofText?_text (tag : Tag) : ofText? tag.text = some tag := by cases tag <;> decide +kernel

theorem noColon (tag : Tag) : ':' ∉ tag.text.toList := by cases tag <;> decide

end Tag

namespace Command

variable {raw : String} {tag : Tag} {argument : List Char} {action : Action}

/-- A line that is a tag, a colon and an argument is read as its tag demands. -/
theorem parseLine_append (full : argument ≠ []) :
    parseLine (tag.text.toList ++ ':' :: argument) = tag.readArgument argument := by
  unfold parseLine split
  rw [splitFirst?_append tag.noColon]
  change (Reading.ofOption _ (Tag.ofText? (String.ofList tag.text.toList)) >>= fun tag =>
    if argument = [] then _ else tag.readArgument argument) = _
  rw [String.ofList_toList, tag.ofText?_text]
  exact if_neg full

theorem parseLine_eq_ok_iff {line : List Char} :
    parseLine line = .ok action ↔ ∃ (tag : Tag) (argument : List Char),
      line = tag.text.toList ++ ':' :: argument ∧ argument ≠ [] ∧ tag.Denotes argument action := by
  constructor
  · intro h
    obtain ⟨⟨word, argument⟩, cut, h'⟩ := Reading.bind_eq_ok h
    obtain ⟨tag, found, h'⟩ := Reading.bind_eq_ok h'
    split at h'
    · cases h'
    · next full =>
      refine ⟨tag, argument, ?_, full, tag.denotes_of_readArgument h'⟩
      rw [append_of_split cut, text_of_ofOption found, String.toList_ofList]
  · rintro ⟨tag, argument, rfl, full, h⟩
    rw [parseLine_append full, h.readArgument_eq]

theorem consists_iff :
    Consists raw tag argument ↔
      dropEnd isLineEnd raw.toList = tag.text.toList ++ ':' :: argument ∧ argument ≠ [] := by
  have last (full : argument ≠ []) : (tag.text.toList ++ ':' :: argument).getLast? = argument.getLast? := by
    rw [List.getLast?_append_of_ne_nil _ (List.cons_ne_nil _ _), List.getLast?_cons_of_ne_nil full]
  rw [dropEnd_eq_iff]
  constructor
  · rintro ⟨text, full, ends⟩
    exact ⟨⟨text, last full ▸ ends⟩, full⟩
  · rintro ⟨⟨text, ends⟩, full⟩
    exact ⟨text, full, last full ▸ ends⟩

/-- A command that consists of a tag and an argument is read as its tag demands. -/
theorem Consists.parse_eq (h : Consists raw tag argument) : parse raw = tag.readArgument argument := by
  obtain ⟨line, full⟩ := consists_iff.1 h
  rw [parse, line, parseLine_append full]

theorem consists_of_text (text : raw.toList = tag.text.toList ++ ':' :: argument) (full : argument ≠ [])
    (last : ∀ c ∈ argument.getLast?, isLineEnd c = false) : Consists raw tag argument := by
  refine ⟨⟨[], ?_, fun c hc => absurd hc List.not_mem_nil⟩, full, last⟩
  rw [List.append_nil, text]

/-- A command is read as an action just if it is one of the tags, a colon and an argument that denotes this action,
up to line ends. Any other command has an error of its own, but for a click count of too many digits. -/
theorem parse_eq_ok_iff_denotes (raw : String) :
    (∀ action, parse raw = .ok action ↔
      ∃ tag argument, Consists raw tag argument ∧ tag.Denotes argument action) ∧
    ((∃ action, parse raw = .ok action) ∨ (∃ error, parse raw = .error (.rejected error)) ∨ HasLongCount raw) := by
  constructor
  · intro action
    simp only [consists_iff, and_assoc]
    exact parseLine_eq_ok_iff
  · by_cases long : HasLongCount raw
    · exact .inr (.inr long)
    · have contained := (parse_contained_iff raw).2 long
      cases read : parse raw with
      | ok action => exact .inl ⟨action, rfl⟩
      | error fault =>
        cases fault with
        | rejected error => exact .inr (.inl ⟨error, rfl⟩)
        | tooLong numeral => exact absurd read (contained numeral)

end Command
end InputReplay
