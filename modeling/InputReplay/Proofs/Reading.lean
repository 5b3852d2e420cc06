import InputReplay.Command.Batch

/-! Where reading a command ends without a result and without an error of the command: at the count of
a `Multi-click` that has more digits than are read, and nowhere else. -/

namespace InputReplay

variable {α β : Type}

namespace Reading

/-- A reading that ends with a value or with an error of the command. -/
def Contained (x : Reading α) : Prop := ∀ numeral, x ≠ .error (.tooLong numeral)

theorem ok_contained (a : α) : Contained (.ok a) := by
  intro numeral h
  cases h

theorem reject_contained (error : CommandError) : Contained (reject error : Reading α) := by
  intro numeral h
  cases h

theorem ofOption_contained (error : CommandError) (a? : Option α) : Contained (ofOption error a?) := by
  cases a? with
  | none => exact reject_contained error
  | some a => exact ok_contained a

theorem mapError_contained (x : Except CommandError α) : Contained (x.mapError .rejected) := by
  cases x with
  | error e => exact reject_contained e
  | ok a => exact ok_contained a

theorem bind_contained_of {x : Reading α} {f : α → Reading β} (hx : x.Contained)
    (hf : ∀ a, x = .ok a → (f a).Contained) : (x >>= f).Contained := by
  cases x with
  | error e =>
    intro numeral h
    cases h
    exact hx numeral rfl
  | ok a => exact hf a rfl

theorem bind_contained {x : Reading α} {f : α → Reading β} (hx : x.Contained)
    (hf : ∀ a, (f a).Contained) : (x >>= f).Contained := bind_contained_of hx fun a _ => hf a

theorem mapM_contained {f : α → Reading β} (hf : ∀ a, (f a).Contained) (as : List α) :
    (as.mapM f).Contained := by
  induction as with
  | nil => exact ok_contained []
  | cons a rest ih =>
    rw [List.mapM_cons]
    exact bind_contained (hf a) fun b => bind_contained ih fun bs => ok_contained (b :: bs)

end Reading

open Reading

namespace Tag

variable (tag : Tag)

theorem readKey_contained (token : List Char) : (tag.readKey token).Contained := mapError_contained _

theorem readNumber_contained (isCoordinate : Bool) (field : String) (text : List Char) :
    (tag.readNumber isCoordinate field text).Contained := by
  unfold readNumber
  split
  · exact reject_contained _
  · split
    · exact ok_contained _
    · exact reject_contained _

theorem readXY_contained (x y : List Char) : (tag.readXY x y).Contained :=
  bind_contained (tag.readNumber_contained _ _ x) fun _ =>
    bind_contained (tag.readNumber_contained _ _ y) fun _ => ok_contained _

theorem readCoordinates_contained (names : List String) (i : Nat) (texts : List (List Char)) :
    (tag.readCoordinates names i texts).Contained := by
  induction texts generalizing i with
  | nil => exact ok_contained []
  | cons text rest ih =>
    exact bind_contained (tag.readNumber_contained _ _ text) fun _ =>
      bind_contained (ih (i + 1)) fun _ => ok_contained _

theorem readPoint_contained (argument : List Char) : (tag.readPoint argument).Contained := by
  refine bind_contained (tag.readCoordinates_contained _ _ _) fun values => ?_
  split
  · exact ok_contained _
  · exact reject_contained _

theorem readDrag_contained (argument : List Char) : (tag.readDrag argument).Contained := by
  refine bind_contained (tag.readCoordinates_contained _ _ _) fun values => ?_
  split
  · exact ok_contained _
  · exact reject_contained _

theorem readHoldClick_contained (argument : List Char) : (tag.readHoldClick argument).Contained :=
  bind_contained (ofOption_contained _ _) fun (x, y, name) =>
    bind_contained (tag.readXY_contained x y) fun _ =>
      bind_contained (tag.readKey_contained name) fun _ => ok_contained _

theorem readAutocomplete_contained (argument : List Char) :
    (tag.readAutocomplete argument).Contained := by
  unfold readAutocomplete
  split
  · exact ok_contained _
  · exact reject_contained _

theorem readBatch_contained (argument : List Char) : (tag.readBatch argument).Contained := by
  unfold readBatch
  simp only
  split
  · exact reject_contained _
  · exact ok_contained _

theorem readGesture_contained (touchpad : Bool) (argument : List Char) :
    (tag.readGesture touchpad argument).Contained := by
  unfold readGesture
  split
  · split
    · exact ok_contained _
    · exact reject_contained _
  · exact reject_contained _

/-- Only the argument of a `Multi-click` holds a count. -/
theorem readArgument_contained (other : tag ≠ .multiClick) (argument : List Char) :
    (tag.readArgument argument).Contained := by
  cases tag with
  | multiClick => exact absurd rfl other
  | type => exact ok_contained _
  | keyDown | keyUp | press => exact bind_contained (readKey_contained _ argument) fun _ => ok_contained _
  | click | doubleClick | rightClick | move | scrollTo =>
    exact bind_contained (readPoint_contained _ argument) fun _ => ok_contained _
  | scroll => exact bind_contained (readNumber_contained _ _ _ argument) fun _ => ok_contained _
  | holdClick => exact readHoldClick_contained _ argument
  | drag => exact readDrag_contained _ argument
  | shortcut => exact bind_contained (mapM_contained (readKey_contained _) _) fun _ => ok_contained _
  | autocomplete => exact readAutocomplete_contained _ argument
  | batch => exact readBatch_contained _ argument
  | touchpad => exact readGesture_contained _ true argument
  | window => exact readGesture_contained _ false argument

/-- A click count of too many digits. -/
def IsLong (count : List Char) : Prop :=
  (readInteger? count).isSome = true ∧ numeralLimit < (takeSign count).2.length

theorem readCount_contained_iff (field : String) (count : List Char) :
    (tag.readCount field count).Contained ↔ ¬ IsLong count := by
  unfold readCount IsLong
  cases readInteger? count with
  | none => simpa using reject_contained _
  | some n =>
    by_cases long : numeralLimit < (takeSign count).2.length
    · simp [Contained, long]
    · simp only [long, if_false]
      split
      · simpa using reject_contained _
      · simpa using ok_contained n

/-- Coordinates that are in order, and then a click count of too many digits. -/
def IsLongClick (argument : List Char) : Prop :=
  ∃ x y count point, fields ',' argument = [x, y, count] ∧ multiClick.readXY x y = .ok point ∧
    IsLong count

theorem readMultiClick_contained_iff (argument : List Char) :
    (multiClick.readMultiClick argument).Contained ↔ ¬ IsLongClick argument := by
  constructor
  · rintro contained ⟨x, y, count, point, cut, hp, long⟩
    refine (multiClick.readCount_contained_iff "count" count).1 (fun numeral hc => ?_) long
    refine contained numeral ?_
    rw [readMultiClick, cut]
    simp only [hp, hc]
    rfl
  · intro short
    unfold readMultiClick
    split
    · next x y count cut =>
      refine bind_contained_of (multiClick.readXY_contained x y) fun point hp => ?_
      refine bind_contained ((multiClick.readCount_contained_iff "count" count).2 fun long => ?_)
        fun _ => ok_contained _
      exact short ⟨x, y, count, point, cut, hp, long⟩
    · exact reject_contained _

end Tag

namespace Command

/-- A `Multi-click` with a count of too many digits. -/
def HasLongCount (raw : String) : Prop :=
  ∃ argument, dropEnd isLineEnd raw.toList = "Multi-click:".toList ++ argument ∧
    Tag.IsLongClick argument

/-- A command is read, or it has an error of its own, unless it has a long count. -/
theorem parse_contained_iff (raw : String) : (parse raw).Contained ↔ ¬ HasLongCount raw := by
  unfold parse HasLongCount
  generalize dropEnd isLineEnd raw.toList = text
  constructor
  · rintro contained ⟨argument, rfl, long⟩
    refine (Tag.readMultiClick_contained_iff argument).1 ?_ long
    have full : argument ≠ [] := by
      rintro rfl
      obtain ⟨x, y, count, point, cut, -⟩ := long
      cases cut
    change Contained (if argument = [] then _ else Tag.multiClick.readArgument argument) at contained
    rw [if_neg full] at contained
    exact contained
  · intro short
    refine bind_contained_of (mapError_contained _) fun (word, argument) hs => ?_
    refine bind_contained_of (ofOption_contained _ _) fun tag ht => ?_
    split
    · exact reject_contained _
    · by_cases other : tag = .multiClick
      · subst other
        refine (Tag.readMultiClick_contained_iff argument).2 fun long => ?_
        have named : word = Tag.multiClick.text.toList := by
          rw [text_of_ofOption ht, String.toList_ofList]
        refine short ⟨argument, ?_, long⟩
        rw [append_of_split hs, named]
        rfl
      · exact tag.readArgument_contained other argument

end Command

end InputReplay
