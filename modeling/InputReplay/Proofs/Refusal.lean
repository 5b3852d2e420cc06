import InputReplay.Proofs.Containment
import InputReplay.Proofs.Overflow

/-! What is wrong with an argument that places something. Where coordinates are all that is expected, the fields are
read before they are counted, and the first that is no number is told. Where a count or a key follows two coordinates,
the fields are counted before they are read. A command with such an argument is refused with just the error that the
relation of this module gives it, and with a count of too many digits it is neither refused nor read. -/

namespace InputReplay

/-- The names of the coordinates that a tag expects, if it expects nothing else. -/
def Tag.coordinates? : Tag → Option (List String)
  | .click | .doubleClick | .rightClick | .move | .scrollTo => some ["x", "y"]
  | .drag => some ["x1", "y1", "x2", "y2"]
  | _ => none

/-- The fields of an argument in which a count or a key follows two coordinates. The name of a key may have commas in
it, but it is not empty. -/
inductive Tag.Parts : Tag → List Char → List Char → List Char → List Char → Prop
  | count {x y count} (noX : ',' ∉ x) (noY : ',' ∉ y) (noCount : ',' ∉ count) :
      Parts .multiClick (x ++ ',' :: (y ++ ',' :: count)) x y count
  | name {x y name} (noX : ',' ∉ x) (noY : ',' ∉ y) (full : name ≠ []) :
      Parts .holdClick (x ++ ',' :: (y ++ ',' :: name)) x y name

/-- What is wrong with a text where a count is expected. -/
inductive CountFlaw (text : List Char) : FieldError → Prop
  | spelled (other : ∀ digits n, ¬ IntegerText text digits n) : CountFlaw text (.notInteger (String.ofList text))
  | small {digits n} (written : IntegerText text digits n) (short : digits.length ≤ numeralLimit) (less : n < 1) :
      CountFlaw text (.notPositive n)

inductive Tag.Refuses : Tag → List Char → CommandError → Prop
  | coordinate {tag names argument before text after values flaw} (expects : tag.coordinates? = some names)
      (joined : Joined ',' (before ++ text :: after) argument) (earlier : List.Forall₂ NumberText before values)
      (wrong : NumberFlaw true text flaw) :
      Refuses tag argument (.argument tag.text (names.getD before.length s!"field {before.length + 1}") flaw)
  | coordinateCount {tag names argument parts values} (expects : tag.coordinates? = some names)
      (joined : Joined ',' parts argument) (numbers : List.Forall₂ NumberText parts values)
      (other : parts.length ≠ names.length) :
      Refuses tag argument
        (.argument tag.text (",".intercalate names) (.coordinateCount names.length parts.length))
  | fieldCount {argument parts} (joined : Joined ',' parts argument) (other : parts.length ≠ 3) :
      Refuses .multiClick argument (.argument "Multi-click" "x,y,count" (.fieldCount 3 parts.length))
  | fieldsWanted {argument} (other : ∀ x y name, ¬ Tag.holdClick.Parts argument x y name) :
      Refuses .holdClick argument
        (.argument "hold-click" "x,y,keyName" (.fieldsWanted 3 (String.ofList argument)))
  | x {tag argument x y last flaw} (parts : tag.Parts argument x y last) (wrong : NumberFlaw true x flaw) :
      Refuses tag argument (.argument tag.text "x" flaw)
  | y {tag argument x y last a flaw} (parts : tag.Parts argument x y last) (hx : NumberText x a)
      (wrong : NumberFlaw true y flaw) : Refuses tag argument (.argument tag.text "y" flaw)
  | count {argument x y count a b flaw} (parts : Tag.multiClick.Parts argument x y count) (hx : NumberText x a)
      (hy : NumberText y b) (wrong : CountFlaw count flaw) :
      Refuses .multiClick argument (.argument "Multi-click" "count" flaw)
  | key {argument x y name a b} (parts : Tag.holdClick.Parts argument x y name) (hx : NumberText x a)
      (hy : NumberText y b) (unknown : ∀ key, ¬ KeyText name key) :
      Refuses .holdClick argument (.unknownKey (some "hold-click") (String.ofList name))

/-- The tag that an error names. -/
def CommandError.tag? : CommandError → Option String
  | malformed _ => none
  | unknownAction tag => some tag
  | unknownKey tag _ => tag
  | unknownGesture tag _ => some tag
  | argument tag _ _ => some tag

theorem Tag.Refuses.tag_eq {tag : Tag} {argument : List Char} {e : CommandError} (h : tag.Refuses argument e) :
    e.tag? = some tag.text := by
  cases h <;> rfl

/-! The first that is wrong. -/

/-- Where each is one or the other, all are the one, or there is a first that is the other. -/
theorem forall₂_or_first {α β : Type} {R : α → β → Prop} {Wrong : α → Prop} (either : ∀ a, (∃ b, R a b) ∨ Wrong a)
    (as : List α) :
    (∃ bs, List.Forall₂ R as bs) ∨
    ∃ before a after bs, as = before ++ a :: after ∧ List.Forall₂ R before bs ∧ Wrong a := by
  induction as with
  | nil => exact .inl ⟨[], .nil⟩
  | cons a rest ih =>
    rcases either a with ⟨b, right⟩ | wrong
    · rcases ih with ⟨bs, all⟩ | ⟨before, other, after, bs, rfl, earlier, wrong⟩
      · exact .inl ⟨b :: bs, .cons right all⟩
      · exact .inr ⟨a :: before, other, after, b :: bs, rfl, .cons right earlier, wrong⟩
    · exact .inr ⟨[], a, rest, [], rfl, .nil, wrong⟩

/-- What is read part by part is not read past the first part that is wrong. -/
theorem Reading.mapM_append_cons {α β : Type} {f : α → Reading β} {before after : List α} {a : α} {bs : List β}
    {fault : ReadFault} (earlier : List.Forall₂ (fun a b => f a = .ok b) before bs) (wrong : f a = .error fault) :
    (before ++ a :: after).mapM f = .error fault := by
  induction earlier with
  | nil =>
    rw [List.nil_append, List.mapM_cons, wrong]
    rfl
  | cons right _ ih =>
    rw [List.cons_append, List.mapM_cons, right, ih]
    rfl

/-! Coordinates. -/

/-- Texts are all numbers, or there is a first that is none. -/
theorem numbers_or_flaw (texts : List (List Char)) :
    (∃ values, List.Forall₂ NumberText texts values) ∨
    ∃ before text after values flaw, texts = before ++ text :: after ∧
      List.Forall₂ NumberText before values ∧ NumberFlaw true text flaw := by
  rcases forall₂_or_first (numberText_or_flaw true) texts with
    numbers | ⟨before, text, after, values, cut, earlier, flaw, wrong⟩
  · exact .inl numbers
  · exact .inr ⟨before, text, after, values, flaw, cut, earlier, wrong⟩

namespace Tag

variable (tag : Tag) {argument : List Char}

theorem fieldName_eq (names : List String) (i : Nat) : fieldName names i = names.getD i s!"field {i + 1}" := by
  unfold fieldName
  rw [List.getD_eq_getElem?_getD]
  cases names[i]? <;> rfl

/-- The first text that is no number is told. -/
theorem readCoordinates_of_flaw (names : List String) {before after : List (List Char)} {text : List Char}
    {values : List Binary64} {flaw : FieldError} (earlier : List.Forall₂ NumberText before values)
    (wrong : NumberFlaw true text flaw) (i : Nat) :
    tag.readCoordinates names i (before ++ text :: after) =
      .error (.rejected (.argument tag.text (fieldName names (i + before.length)) flaw)) := by
  induction earlier generalizing i with
  | nil =>
    rw [List.nil_append, readCoordinates, tag.readNumber_of_flaw wrong]
    rfl
  | @cons part x rest values number _ ih =>
    rw [List.cons_append, readCoordinates, tag.readNumber_eq_ok_iff.2 number]
    change (tag.readCoordinates names (i + 1) (rest ++ text :: after) >>= _) = _
    rw [ih, List.length_cons, Nat.add_assoc, Nat.add_comm 1]
    rfl

/-- The error of numbers that are not as many as the names. -/
def miscount (names : List String) (values : List Binary64) : Reading Action :=
  .error (.rejected (.argument tag.text (",".intercalate names) (.coordinateCount names.length values.length)))

theorem readPoint_bind (make : Point → Action) (argument : List Char) :
    (tag.readPoint argument >>= fun point => return make point) =
      (tag.readCoordinates ["x", "y"] 0 (fields ',' argument) >>= fun values =>
        if values.length = 2 then .ok (make ⟨values.getD 0 .zero, values.getD 1 .zero⟩)
        else tag.miscount ["x", "y"] values) := by
  unfold readPoint
  cases tag.readCoordinates ["x", "y"] 0 (fields ',' argument) with
  | error fault => rfl
  | ok values => rcases values with _ | ⟨x, _ | ⟨y, _ | ⟨z, more⟩⟩⟩ <;> rfl

theorem readDrag_eq (argument : List Char) :
    tag.readDrag argument =
      (tag.readCoordinates ["x1", "y1", "x2", "y2"] 0 (fields ',' argument) >>= fun values =>
        if values.length = 4 then
          .ok (.drag ⟨values.getD 0 .zero, values.getD 1 .zero⟩ ⟨values.getD 2 .zero, values.getD 3 .zero⟩)
        else tag.miscount ["x1", "y1", "x2", "y2"] values) := by
  unfold readDrag
  cases tag.readCoordinates ["x1", "y1", "x2", "y2"] 0 (fields ',' argument) with
  | error fault => rfl
  | ok values => rcases values with _ | ⟨a, _ | ⟨b, _ | ⟨c, _ | ⟨d, _ | ⟨e, more⟩⟩⟩⟩⟩ <;> rfl

/-- Where coordinates are all that is expected, they are read and then counted. -/
theorem readArgument_coordinates {names : List String} (expects : tag.coordinates? = some names) :
    ∃ make : List Binary64 → Action, ∀ argument, tag.readArgument argument =
      (tag.readCoordinates names 0 (fields ',' argument) >>= fun values =>
        if values.length = names.length then .ok (make values) else tag.miscount names values) := by
  cases tag with
  | click => cases expects; exact ⟨_, readPoint_bind .click (.click · .left 1)⟩
  | doubleClick => cases expects; exact ⟨_, readPoint_bind .doubleClick (.click · .left 2)⟩
  | rightClick => cases expects; exact ⟨_, readPoint_bind .rightClick (.click · .right 1)⟩
  | move => cases expects; exact ⟨_, readPoint_bind .move .move⟩
  | scrollTo => cases expects; exact ⟨_, readPoint_bind .scrollTo .scrollTo⟩
  | drag => cases expects; exact ⟨_, readDrag_eq .drag⟩
  | _ => cases expects

/-! Two coordinates and what follows them. -/

theorem readXY_of_flaw_x {x y : List Char} {flaw : FieldError} (wrong : NumberFlaw true x flaw) :
    tag.readXY x y = .error (.rejected (.argument tag.text "x" flaw)) := by
  rw [readXY, tag.readNumber_of_flaw wrong]
  rfl

theorem readXY_of_flaw_y {x y : List Char} {a : Binary64} {flaw : FieldError} (hx : NumberText x a)
    (wrong : NumberFlaw true y flaw) : tag.readXY x y = .error (.rejected (.argument tag.text "y" flaw)) := by
  rw [readXY, tag.readNumber_eq_ok_iff.2 hx, tag.readNumber_of_flaw wrong]
  rfl

/-- What is read after the two coordinates. -/
def readLast (last : List Char) (point : Point) : Reading Action :=
  match tag with
  | multiClick => do return .click point .left (← tag.readCount "count" last)
  | _ => do return .holdClick point (← tag.readKey last) 1

theorem readLast_multiClick (count : List Char) (point : Point) : Tag.multiClick.readLast count point =
    (Tag.multiClick.readCount "count" count >>= fun n => return .click point .left n) := rfl

theorem readLast_holdClick (name : List Char) (point : Point) : Tag.holdClick.readLast name point =
    (Tag.holdClick.readKey name >>= fun key => return .holdClick point key 1) := rfl

theorem Parts.readArgument_eq {tag : Tag} {argument x y last : List Char} (h : tag.Parts argument x y last) :
    tag.readArgument argument = (tag.readXY x y >>= tag.readLast last) := by
  cases h with
  | count noX noY noCount =>
    change Tag.readMultiClick _ _ = _
    unfold readMultiClick
    rw [fields_append noX, fields_append noY, fields_of_not_mem noCount]
    rfl
  | name noX noY full =>
    change Tag.readHoldClick _ _ = _
    unfold readHoldClick
    rw [holdFields?_eq_some_iff.2 ⟨rfl, noX, noY, full⟩]
    rfl

theorem Parts.readArgument_of_numbers {tag : Tag} {argument x y last : List Char} {a b : Binary64}
    (h : tag.Parts argument x y last) (hx : NumberText x a) (hy : NumberText y b) :
    tag.readArgument argument = tag.readLast last ⟨a, b⟩ := by
  have point : tag.readXY x y = .ok ⟨a, b⟩ := tag.readXY_eq_ok_iff.2 ⟨hx, hy⟩
  rw [h.readArgument_eq, point]
  rfl

/-! What follows the coordinates. -/

theorem readCount_of_flaw {count : List Char} {flaw : FieldError} (wrong : CountFlaw count flaw) (field : String) :
    tag.readCount field count = .error (.rejected (.argument tag.text field flaw)) := by
  cases wrong with
  | spelled other =>
    unfold readCount
    cases read : readInteger? count with
    | none => rfl
    | some n =>
      obtain ⟨digits, written⟩ := readInteger?_eq_some_iff.1 read
      exact absurd written (other digits n)
  | small written short less =>
    rw [tag.readCount_of_text written, if_neg (by omega), if_pos less]
    rfl

theorem readKey_of_unknown {name : List Char} (unknown : ∀ key, ¬ KeyText name key) :
    tag.readKey name = .error (.rejected (.unknownKey (some tag.text) (String.ofList name))) := by
  cases found : KeyCode.lookup? (String.ofList name) with
  | some key => exact absurd (KeyCode.lookup?_eq_some_iff.1 found) (unknown key)
  | none =>
    unfold readKey
    rw [KeyCode.resolve_eq, found]
    rfl

/-- A count is a count, or something is wrong with it, or it has too many digits. -/
theorem countText_cases (count : List Char) :
    (∃ n, CountText count n) ∨ (∃ flaw, CountFlaw count flaw) ∨ IsLong count := by
  by_cases some : ∃ digits n, IntegerText count digits n
  · obtain ⟨digits, n, written⟩ := some
    rcases Nat.lt_or_ge numeralLimit digits.length with long | short
    · exact .inr (.inr (isLong_of_text written long))
    · rcases lt_or_ge n 1 with less | positive
      · exact .inr (.inl ⟨_, .small written short less⟩)
      · exact .inl ⟨n, digits, written, short, positive⟩
  · exact .inr (.inl ⟨_, .spelled fun digits n written => some ⟨digits, n, written⟩⟩)

/-! Refusals. -/

/-- An argument that has an error is read as this error. -/
theorem Refuses.readArgument_eq {tag : Tag} {e : CommandError} (h : tag.Refuses argument e) :
    tag.readArgument argument = .error (.rejected e) := by
  cases h with
  | @coordinate tag names _ before text after values flaw expects joined earlier wrong =>
    obtain ⟨make, read⟩ := tag.readArgument_coordinates expects
    rw [read, fields_eq_iff_joined.2 joined, tag.readCoordinates_of_flaw names earlier wrong, Nat.zero_add,
      fieldName_eq]
    rfl
  | @coordinateCount tag names _ parts values expects joined numbers other =>
    obtain ⟨make, read⟩ := tag.readArgument_coordinates expects
    rw [read, fields_eq_iff_joined.2 joined, tag.readCoordinates_eq_ok_iff.2 numbers, numbers.length_eq]
    rw [numbers.length_eq] at other
    exact if_neg other
  | @fieldCount _ parts joined other =>
    change Tag.readMultiClick _ _ = _
    unfold readMultiClick
    rw [fields_eq_iff_joined.2 joined]
    split
    · exact absurd rfl other
    · rfl
  | fieldsWanted other =>
    have none : holdFields? argument = none := by
      cases cut : holdFields? argument with
      | none => rfl
      | some parts =>
        obtain ⟨x, y, name⟩ := parts
        obtain ⟨rfl, noX, noY, full⟩ := holdFields?_eq_some_iff.1 cut
        exact absurd (.name noX noY full) (other x y name)
    change Tag.readHoldClick _ _ = _
    unfold readHoldClick
    rw [none]
    rfl
  | x parts wrong =>
    rw [parts.readArgument_eq, readXY_of_flaw_x _ wrong]
    rfl
  | y parts hx wrong =>
    rw [parts.readArgument_eq, readXY_of_flaw_y _ hx wrong]
    rfl
  | count parts hx hy wrong =>
    rw [parts.readArgument_of_numbers hx hy, readLast_multiClick, readCount_of_flaw _ wrong]
    rfl
  | key parts hx hy unknown =>
    rw [parts.readArgument_of_numbers hx hy, readLast_holdClick, readKey_of_unknown _ unknown]
    rfl

/-- A count of too many digits is neither refused nor read. -/
theorem readArgument_of_longClick (long : IsLongClick argument) :
    ∃ numeral, Tag.multiClick.readArgument argument = .error (.tooLong numeral) := by
  have escapes := mt (readMultiClick_contained_iff argument).1 fun short => short long
  obtain ⟨numeral, raised⟩ := not_forall.1 escapes
  exact ⟨numeral, not_not.1 raised⟩

/-- What comes of an argument: an action, an error, or neither, where a count has too many digits. -/
def Settled (tag : Tag) (argument : List Char) : Prop :=
  (∃ action, tag.readArgument argument = .ok action) ∨ (∃ e, tag.Refuses argument e) ∨
    (tag = .multiClick ∧ IsLongClick argument)

theorem settled_coordinates {names : List String} (expects : tag.coordinates? = some names) (argument : List Char) :
    tag.Settled argument := by
  have joined : Joined ',' (fields ',' argument) argument := fields_eq_iff_joined.1 rfl
  rcases numbers_or_flaw (fields ',' argument) with
    ⟨values, numbers⟩ | ⟨before, text, after, values, flaw, cut, earlier, wrong⟩
  · by_cases same : (fields ',' argument).length = names.length
    · obtain ⟨make, read⟩ := tag.readArgument_coordinates expects
      refine .inl ⟨make values, ?_⟩
      rw [read, tag.readCoordinates_eq_ok_iff.2 numbers]
      exact if_pos (numbers.length_eq ▸ same)
    · exact .inr (.inl ⟨_, .coordinateCount expects joined numbers same⟩)
  · rw [cut] at joined
    exact .inr (.inl ⟨_, .coordinate expects joined earlier wrong⟩)

/-- The two coordinates are read before what follows them. -/
theorem settled_parts {tag : Tag} {x y last : List Char} (parts : tag.Parts argument x y last)
    (h : ∀ a b, NumberText x a → NumberText y b → tag.Settled argument) : tag.Settled argument := by
  rcases numberText_or_flaw true x with ⟨a, hx⟩ | ⟨flaw, wrong⟩
  · rcases numberText_or_flaw true y with ⟨b, hy⟩ | ⟨flaw, wrong⟩
    · exact h a b hx hy
    · exact .inr (.inl ⟨_, .y parts hx wrong⟩)
  · exact .inr (.inl ⟨_, .x parts wrong⟩)

theorem settled_multiClick (argument : List Char) : Tag.multiClick.Settled argument := by
  by_cases three : (fields ',' argument).length = 3
  · obtain ⟨x, y, _, cut⟩ := List.length_eq_three.1 three
    obtain ⟨_, rfl, noX, cut'⟩ := (fields_eq_cons_iff (List.cons_ne_nil _ _)).1 cut
    obtain ⟨count, rfl, noY, cut'⟩ := (fields_eq_cons_iff (List.cons_ne_nil _ _)).1 cut'
    obtain ⟨rfl, noCount⟩ := fields_eq_singleton_iff.1 cut'
    have parts := Parts.count noX noY noCount
    refine settled_parts parts fun a b hx hy => ?_
    rcases countText_cases count with ⟨n, counted⟩ | ⟨flaw, wrong⟩ | long
    · refine .inl ⟨.click ⟨a, b⟩ .left n, ?_⟩
      rw [parts.readArgument_of_numbers hx hy, readLast_multiClick]
      exact Reading.map_eq_ok_iff.2 ⟨n, (readCount_eq_ok_iff _).2 counted, rfl⟩
    · exact .inr (.inl ⟨_, .count parts hx hy wrong⟩)
    · exact .inr (.inr ⟨rfl, x, y, count, ⟨a, b⟩, cut, (readXY_eq_ok_iff _).2 ⟨hx, hy⟩, long⟩)
  · exact .inr (.inl ⟨_, .fieldCount (fields_eq_iff_joined.1 rfl) three⟩)

theorem settled_holdClick (argument : List Char) : Tag.holdClick.Settled argument := by
  by_cases some : ∃ x y name, Tag.holdClick.Parts argument x y name
  · obtain ⟨x, y, name, parts⟩ := some
    refine settled_parts parts fun a b hx hy => ?_
    by_cases known : ∃ key, KeyText name key
    · obtain ⟨key, named⟩ := known
      refine .inl ⟨.holdClick ⟨a, b⟩ key 1, ?_⟩
      rw [parts.readArgument_of_numbers hx hy, readLast_holdClick]
      exact Reading.map_eq_ok_iff.2 ⟨key, (readKey_eq_ok_iff _).2 named, rfl⟩
    · exact .inr (.inl ⟨_, .key parts hx hy fun key named => known ⟨key, named⟩⟩)
  · exact .inr (.inl ⟨_, .fieldsWanted fun x y name parts => some ⟨x, y, name, parts⟩⟩)

/-- Whether an argument begins with coordinates. -/
def IsPlacing (tag : Tag) : Prop :=
  (∃ names, tag.coordinates? = some names) ∨ tag = .multiClick ∨ tag = .holdClick

theorem IsPlacing.settled {tag : Tag} (h : tag.IsPlacing) (argument : List Char) : tag.Settled argument := by
  rcases h with ⟨names, expects⟩ | rfl | rfl
  · exact tag.settled_coordinates expects argument
  · exact settled_multiClick argument
  · exact settled_holdClick argument

end Tag

namespace Command

variable {raw : String} {tag : Tag} {argument : List Char}

/-- A command that places something is refused with just the error of its argument, which names the tag of the
command. If the argument has no error the command is read, unless a count in it has too many digits. -/
theorem parse_refused_iff (consists : Consists raw tag argument) (placing : tag.IsPlacing) :
    (∀ e, parse raw = .error (.rejected e) ↔ tag.Refuses argument e) ∧
    (∀ e, tag.Refuses argument e → e.tag? = some tag.text) ∧
    ((∃ action, parse raw = .ok action) ↔
      (∀ e, ¬ tag.Refuses argument e) ∧ ¬ (tag = .multiClick ∧ Tag.IsLongClick argument)) := by
  rw [consists.parse_eq]
  have settled := placing.settled argument
  have neither (own : tag = .multiClick) (long : Tag.IsLongClick argument) :
      ∃ numeral, tag.readArgument argument = .error (.tooLong numeral) := by
    subst own
    exact Tag.readArgument_of_longClick long
  -- Each of the three things that may come of an argument excludes the others by what is read.
  refine ⟨fun e => ⟨fun raised => ?_, Tag.Refuses.readArgument_eq⟩, fun e => Tag.Refuses.tag_eq, ?_, ?_⟩
  · rcases settled with ⟨action, read⟩ | ⟨other, refused⟩ | ⟨own, long⟩
    · rw [read] at raised
      cases raised
    · rw [refused.readArgument_eq] at raised
      cases raised
      exact refused
    · obtain ⟨numeral, escapes⟩ := neither own long
      rw [escapes] at raised
      cases raised
  · rintro ⟨action, read⟩
    refine ⟨fun e refused => ?_, fun ⟨own, long⟩ => ?_⟩
    · rw [refused.readArgument_eq] at read
      cases read
    · obtain ⟨numeral, escapes⟩ := neither own long
      rw [escapes] at read
      cases read
  · rintro ⟨none, short⟩
    rcases settled with read | ⟨e, refused⟩ | long
    · exact read
    · exact absurd refused (none e)
    · exact absurd long short

/-- One field too many, and it is the one that is no number. -/
theorem parse_refused_iff_fifthField :
    let raw := "drag:1,2,3,4,x"
    Consists raw .drag "1,2,3,4,x".toList ∧ Tag.drag.IsPlacing ∧
      parse raw = .error (.rejected (.argument "drag" "field 5" (.notNumber true "x"))) := by
  intro raw
  have consists : Consists raw .drag "1,2,3,4,x".toList :=
    consists_of_text (by decide) (by decide) (by simp [isLineEnd])
  have placing : Tag.drag.IsPlacing := .inl ⟨_, rfl⟩
  have joined : Joined ',' ([['1'], ['2'], ['3'], ['4']] ++ ['x'] :: []) "1,2,3,4,x".toList :=
    fields_eq_iff_joined.1 (by decide)
  have read : Tag.drag.readCoordinates [] 0 [['1'], ['2'], ['3'], ['4']] =
      .ok [.ofInt 1, .ofInt 2, .ofInt 3, .ofInt 4] := by decide +kernel
  have wrong : NumberFlaw true ['x'] (.notNumber true "x") := .spelled fun d written => by
    have read := Decimal.read?_eq_some_iff.2 written
    cases read
  have earlier := (Tag.readCoordinates_eq_ok_iff _).1 read
  have expects : Tag.drag.coordinates? = some ["x1", "y1", "x2", "y2"] := rfl
  have refused : Tag.drag.Refuses _ (.argument "drag" s!"field {4 + 1}" (.notNumber true "x")) :=
    .coordinate expects joined earlier wrong
  exact ⟨consists, placing, ((parse_refused_iff consists placing).1 _).2 refused⟩

/-- The fields are as many as they should be, the coordinates are numbers and the count is an integer that is not
positive, but its zeros are so many that the command has no error. -/
theorem zeroClick_unrefused :
    let raw := Player.zeroClick 4301
    let count := List.replicate 4301 '0'
    (∃ argument x y a b, Consists raw .multiClick argument ∧ Tag.multiClick.Parts argument x y count ∧
      NumberText x a ∧ NumberText y b) ∧
    IntegerText count count 0 ∧ ∀ e, parse raw ≠ .error (.rejected e) := by
  intro raw count
  have noComma : ',' ∉ count := by
    intro mem
    cases List.eq_of_mem_replicate mem
  have parts : Tag.multiClick.Parts ("1,2,".toList ++ count) ['1'] ['2'] count :=
    Tag.Parts.count (x := ['1']) (y := ['2']) (by decide) (by decide) noComma
  have read : Tag.multiClick.readXY ['1'] ['2'] = .ok ⟨.ofInt 1, .ofInt 2⟩ := by decide +kernel
  obtain ⟨hx, hy⟩ := (Tag.readXY_eq_ok_iff _).1 read
  refine ⟨⟨_, _, _, _, _, Player.consists_zeroClick (by decide), parts, hx, hy⟩, integerText_zeros (by decide), ?_⟩
  intro e refused
  have contained : (parse raw).Contained := by
    rw [refused]
    exact Reading.reject_contained e
  exact (parse_contained_iff raw).1 contained (Player.hasLongCount_zeroClick (by decide))

end Command
end InputReplay
