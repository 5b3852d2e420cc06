import InputReplay.Proofs.Recasing
import InputReplay.Proofs.Refusal

/-! Commands that name keys, in capital and small letters. A name is read as the same key in every mixture of cases,
whatever else is in it, and so a command is read as the same action. If it is not read, it is refused for the same
reason; the name of an unknown key is told as it was written. -/

namespace InputReplay

section
variable {c c' : Char} (same : c.toLower = c'.toLower)
include same

theorem eq_plus_iff : c = '+' ↔ c' = '+' := by
  have alike := eq_of_toLower_eq (f := fun c => decide (c = '+')) (by decide) same
  exact decide_eq_decide.1 alike

theorem isLineEnd_eq : Command.isLineEnd c = Command.isLineEnd c' := eq_of_toLower_eq (by decide) same

end

namespace Recased

variable {text text' : List Char}

/-- Line ends are no letters. -/
theorem dropEnd (h : Recased text text') :
    Recased (dropEnd Command.isLineEnd text) (InputReplay.dropEnd Command.isLineEnd text') := by
  have turned : Recased text.reverse text'.reverse := List.forall₂_reverse_iff.2 h
  exact List.forall₂_reverse_iff.2 (turned.dropWhile fun _ _ => isLineEnd_eq)

theorem eq_nil_iff (h : Recased text text') : text = [] ↔ text' = [] := by
  cases h <;> simp

/-- A plus sign is no letter, so that the names between plus signs are written in other cases, one by one. -/
theorem fields (h : Recased text text') : List.Forall₂ Recased (fields '+' text) (InputReplay.fields '+' text') := by
  induction h with
  | nil => exact .cons .nil .nil
  | @cons c c' rest rest' same _ ih =>
    rw [InputReplay.fields, InputReplay.fields]
    by_cases plus : c = '+'
    · rw [if_pos plus, if_pos ((eq_plus_iff same).1 plus)]
      exact .cons .nil ih
    · rw [if_neg plus, if_neg (mt (eq_plus_iff same).2 plus)]
      generalize InputReplay.fields '+' rest = parts, InputReplay.fields '+' rest' = parts' at ih
      cases ih with
      | nil => exact .cons (.cons same .nil) .nil
      | cons first others => exact .cons (.cons same first) others

end Recased

namespace Reading

variable {α β : Type}

/-- Readings that end alike, but for the case of letters in the name of an unknown key. -/
inductive Respelled : Reading α → Reading α → Prop
  | same (x : Reading α) : Respelled x x
  | unknown (tag : Option String) {name name' : String} (h : Recased name.toList name'.toList) :
      Respelled (.error (.rejected (.unknownKey tag name))) (.error (.rejected (.unknownKey tag name')))

namespace Respelled

variable {x x' : Reading α}

theorem ok_iff (h : Respelled x x') (a : α) : x = .ok a ↔ x' = .ok a := by
  cases h with
  | same => rfl
  | unknown => exact ⟨fun h => (by cases h), fun h => (by cases h)⟩

theorem bind {f f' : α → Reading β} (h : Respelled x x') (later : ∀ a, Respelled (f a) (f' a)) :
    Respelled (x >>= f) (x' >>= f') := by
  cases h with
  | same =>
    cases x with
    | ok a => exact later a
    | error fault => exact .same _
  | unknown tag h => exact .unknown tag h

theorem map (f : α → β) (h : Respelled x x') : Respelled (x >>= fun a => pure (f a)) (x' >>= fun a => pure (f a)) :=
  h.bind fun a => .same (.ok (f a))

theorem mapM {γ : Type} {R : γ → γ → Prop} {f : γ → Reading α} (each : ∀ c c', R c c' → Respelled (f c) (f c'))
    {cs cs' : List γ} (h : List.Forall₂ R cs cs') : Respelled (cs.mapM f) (cs'.mapM f) := by
  induction h with
  | nil => exact .same _
  | cons first _ ih =>
    rw [List.mapM_cons, List.mapM_cons]
    exact (each _ _ first).bind fun a => ih.map (a :: ·)

end Respelled
end Reading

open Reading

namespace Tag

/-- Whether the argument of a tag is a name of a key, or several with plus signs between them. -/
def IsNaming : Tag → Prop
  | keyDown | keyUp | press | shortcut => True
  | _ => False

variable (tag : Tag) {name name' : List Char}

theorem readKey_respelled (h : Recased name name') : Respelled (tag.readKey name) (tag.readKey name') := by
  have written : Recased (String.ofList name).toList (String.ofList name').toList := by
    rwa [String.toList_ofList, String.toList_ofList]
  unfold readKey
  rw [KeyCode.resolve_eq, KeyCode.resolve_eq, KeyCode.lookup?_eq_of_recased written]
  cases KeyCode.lookup? (String.ofList name') with
  | some key => exact .same _
  | none => exact .unknown _ written

theorem IsNaming.readArgument_respelled {tag : Tag} (naming : tag.IsNaming) (h : Recased name name') :
    Respelled (tag.readArgument name) (tag.readArgument name') := by
  cases tag with
  | keyDown => exact (keyDown.readKey_respelled h).map (Action.key · true)
  | keyUp => exact (keyUp.readKey_respelled h).map (Action.key · false)
  | press => exact (press.readKey_respelled h).map Action.press
  | shortcut =>
    have each (token token' : List Char) (h : Recased token token') := Tag.shortcut.readKey_respelled h
    exact (Respelled.mapM each h.fields).map Action.shortcut
  | _ => cases naming

/-- The name after two coordinates may be empty, which is the same in every case. -/
theorem readHoldClick_respelled (h : Recased name name') {x y : List Char} (noX : ',' ∉ x) (noY : ',' ∉ y) :
    Respelled (holdClick.readArgument (x ++ ',' :: (y ++ ',' :: name)))
      (holdClick.readArgument (x ++ ',' :: (y ++ ',' :: name'))) := by
  by_cases empty : name = []
  · rw [h.eq_nil_iff.1 empty, empty]
    exact .same _
  · have parts := Parts.name noX noY empty
    have parts' := Parts.name noX noY (mt h.eq_nil_iff.2 empty)
    rw [parts.readArgument_eq, parts'.readArgument_eq]
    refine (Respelled.same _).bind fun point => ?_
    rw [readLast_holdClick, readLast_holdClick]
    exact (holdClick.readKey_respelled h).map (Action.holdClick point · 1)

end Tag

namespace Command

/-- Commands that are the same but for the case of letters in their names of keys. -/
inductive Respelled : String → String → Prop
  | named {tag : Tag} {names names' : String} (naming : tag.IsNaming) (h : Recased names.toList names'.toList) :
      Respelled (tag.text ++ ":" ++ names) (tag.text ++ ":" ++ names')
  | held {x y name name' : String} (noX : ',' ∉ x.toList) (noY : ',' ∉ y.toList)
      (h : Recased name.toList name'.toList) :
      Respelled ("hold-click:" ++ x ++ "," ++ y ++ "," ++ name) ("hold-click:" ++ x ++ "," ++ y ++ "," ++ name')

variable {raw raw' : String} {tag : Tag} {argument : List Char}

theorem parse_of_text (text : raw.toList = tag.text.toList ++ ':' :: argument) :
    parse raw = if dropEnd isLineEnd argument = [] then .reject (tag.fieldError "argument" .emptyArgument)
      else tag.readArgument (dropEnd isLineEnd argument) := by
  rw [parse, text, dropEnd_append_cons (by decide), parseLine, split, splitFirst?_append tag.noColon]
  change (Reading.ofOption _ (Tag.ofText? (String.ofList tag.text.toList)) >>= _) = _
  rw [String.ofList_toList, tag.ofText?_text]
  rfl

theorem Respelled.parse (h : Respelled raw raw') : (parse raw).Respelled (Command.parse raw') := by
  cases h with
  | @named tag names names' naming h =>
    have text (argument : String) :
        (tag.text ++ ":" ++ argument).toList = tag.text.toList ++ ':' :: argument.toList := by simp
    rw [parse_of_text (text names), parse_of_text (text names')]
    by_cases empty : dropEnd isLineEnd names.toList = []
    · rw [if_pos empty, if_pos (h.dropEnd.eq_nil_iff.1 empty)]
      exact .same _
    · rw [if_neg empty, if_neg (mt h.dropEnd.eq_nil_iff.2 empty)]
      exact naming.readArgument_respelled h.dropEnd
  | @held x y name name' noX noY h =>
    have text (name : String) : ("hold-click:" ++ x ++ "," ++ y ++ "," ++ name).toList =
        Tag.holdClick.text.toList ++ ':' :: (x.toList ++ ',' :: (y.toList ++ ',' :: name.toList)) := by
      simp [Tag.text]
    have dropped (name : List Char) : dropEnd isLineEnd (x.toList ++ ',' :: (y.toList ++ ',' :: name)) =
        x.toList ++ ',' :: (y.toList ++ ',' :: dropEnd isLineEnd name) := by
      rw [dropEnd_append_cons (by decide), dropEnd_append_cons (by decide)]
    rw [parse_of_text (text name), parse_of_text (text name'), dropped, dropped, if_neg (by simp), if_neg (by simp)]
    exact Tag.readHoldClick_respelled h.dropEnd noX noY

/-- Names that differ in the case of ASCII letters alone are found as the same key or not at all, whatever other
characters they hold. Commands that differ so in their names of keys are read as the same action; otherwise they are
refused alike, but for the name that is told as unknown. -/
theorem parse_respelled :
    (∀ name name' : String, Recased name.toList name'.toList → KeyCode.lookup? name = KeyCode.lookup? name') ∧
    ∀ raw raw', Respelled raw raw' →
      (∀ action, parse raw = .ok action ↔ parse raw' = .ok action) ∧ (parse raw).Respelled (parse raw') :=
  ⟨fun _ _ => KeyCode.lookup?_eq_of_recased, fun _ _ h => ⟨h.parse.ok_iff, h.parse⟩⟩

/-- Letters before a final sigma, and the name of a key that is held. -/
theorem parse_respelled_mixedCase :
    KeyCode.lookup? "tABΣ" = KeyCode.lookup? "TabΣ" ∧
      parse "hold-click:1,2,sHIFT (rIGHT)" = .ok (.holdClick ⟨.ofInt 1, .ofInt 2⟩ .shiftRight 1) := by
  obtain ⟨found, read⟩ := parse_respelled
  refine ⟨found _ _ (by decide), ?_⟩
  have respelled : Respelled ("hold-click:" ++ "1" ++ "," ++ "2" ++ "," ++ "sHIFT (rIGHT)")
      ("hold-click:" ++ "1" ++ "," ++ "2" ++ "," ++ "Shift (Right)") :=
    .held (by decide) (by decide) (by decide)
  refine ((read _ _ respelled).1 _).2 ?_
  have point : Tag.holdClick.readXY ['1'] ['2'] = .ok ⟨.ofInt 1, .ofInt 2⟩ := by decide +kernel
  obtain ⟨hx, hy⟩ := (Tag.readXY_eq_ok_iff _).1 point
  have named : KeyText "Shift (Right)".toList .shiftRight := by
    rw [← KeyCode.lookup?_eq_some_iff, String.ofList_toList]
    exact KeyCode.lookup?_name .shiftRight
  have consists : Consists ("hold-click:" ++ "1" ++ "," ++ "2" ++ "," ++ "Shift (Right)") .holdClick
      (['1'] ++ ',' :: ['2'] ++ ',' :: "Shift (Right)".toList) :=
    consists_of_text (by decide) (by simp) (by simp [isLineEnd])
  rw [consists.parse_eq]
  exact (Tag.Denotes.holdClick (.mk hx hy) named).readArgument_eq

end Command
end InputReplay
