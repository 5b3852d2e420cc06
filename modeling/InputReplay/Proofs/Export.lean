import InputReplay.Observe.Listener
import InputReplay.Proofs.Batch
import InputReplay.Proofs.Grammar
import InputReplay.Proofs.Saving
import InputReplay.Proofs.Steady
import InputReplay.Proofs.Whole

/-! The commands that observed events are exported as. Such a command is a tag, a colon and the name of a key
or integers; it is read as what it was made from, and posts what was observed. -/

namespace InputReplay

theorem mem_dropWhile {p : Char → Bool} {c : Char} {text : List Char} (hc : c ∈ text) (hp : p c = false) :
    c ∈ text.dropWhile p := by
  rw [← List.takeWhile_append_dropWhile (p := p) (l := text)] at hc
  rcases List.mem_append.1 hc with hc | hc
  · rw [List.mem_takeWhile_imp hc] at hp
    cases hp
  · exact hc

/-- What is no blank is not stripped. -/
theorem mem_strip {c : Char} {text : List Char} (hc : c ∈ text) (full : isBlank c = false) : c ∈ strip text := by
  unfold strip dropEnd
  exact List.mem_reverse.2 (mem_dropWhile (List.mem_reverse.2 (mem_dropWhile hc full)) full)

theorem IsOneLine.ends {text : List Char} (h : IsOneLine text) :
    ∀ c ∈ text.getLast?, Command.isLineEnd c = false := by
  intro c hc
  have mem := List.mem_of_getLast? hc
  have noReturn : c ≠ '\r' := fun same => h.1 (same ▸ mem)
  have noFeed : c ≠ '\n' := fun same => h.2 (same ▸ mem)
  simp [Command.isLineEnd, noReturn, noFeed]

/-! Integers in a text. -/

theorem mem_toString {n : Int} {c : Char} (hc : c ∈ (toString n).toList) : c = '-' ∨ c.isDigit = true := by
  rw [Decimal.toList_toString] at hc
  rcases List.mem_append.1 hc with hc | hc
  · split at hc
    · exact .inl (List.mem_singleton.1 hc)
    · cases hc
  · exact .inr (Nat.isDigit_of_mem_toDigits (by decide) (by decide) hc)

theorem not_mem_toString {c : Char} (sign : c ≠ '-') (digit : c.isDigit = false) (n : Int) :
    c ∉ (toString n).toList := by
  intro hc
  rcases mem_toString hc with rfl | h
  · exact sign rfl
  · rw [digit] at h
    cases h

theorem isOneLine_toString (n : Int) : IsOneLine (toString n).toList :=
  ⟨not_mem_toString (by decide) (by decide) n, not_mem_toString (by decide) (by decide) n⟩

theorem toString_ne_nil (n : Int) : (toString n).toList ≠ [] := by
  rw [Decimal.toList_toString]
  exact List.append_ne_nil_of_right_ne_nil _ Nat.toDigits_ne_nil

/-- Two integers with a comma between them. -/
def pairText (x y : Int) : List Char := (toString x).toList ++ ',' :: (toString y).toList

theorem toList_pair (word : String) (x y : Int) :
    (word ++ toString x ++ "," ++ toString y).toList = word.toList ++ pairText x y := by
  simp [pairText]

theorem isOneLine_pairText (x y : Int) : IsOneLine (pairText x y) :=
  (isOneLine_toString x).append ((isOneLine_toString y).cons (by decide) (by decide))

/-- A key without a name is found by its character. -/
theorem KeyCode.ofHeard?_text {text : String} (full : text ≠ "") : ofHeard? ⟨none, some text⟩ = lookup? text := by
  unfold ofHeard?
  exact if_neg full

namespace Tag

theorem isOneLine_text (tag : Tag) : IsOneLine tag.text.toList := by
  unfold IsOneLine
  cases tag <;> decide

/-- Two integers are read as a point. -/
theorem readPoint_pairText (tag : Tag) {x y : Int} (hx : Binary64.Holds x) (hy : Binary64.Holds y) :
    tag.readPoint (pairText x y) = .ok ⟨.ofInt x, .ofInt y⟩ := by
  have comma (n : Int) : ',' ∉ (toString n).toList := not_mem_toString (by decide) (by decide) n
  unfold readPoint pairText
  rw [fields_append (comma x), fields_of_not_mem (comma y)]
  simp only [readCoordinates, tag.readNumber_whole true _ hx, tag.readNumber_whole true _ hy]
  rfl

end Tag

namespace Command

/-- A command that is made of a tag, a colon and an argument in one line. -/
structure Spells (command : String) (tag : Tag) (argument : List Char) : Prop where
  text : command.toList = tag.text.toList ++ ':' :: argument
  full : argument ≠ []
  line : IsOneLine argument

namespace Spells

variable {command : String} {tag : Tag} {argument : List Char}

theorem consists (h : Spells command tag argument) : Consists command tag argument :=
  consists_of_text h.text h.full h.line.ends

/-- A command is read as its tag demands. -/
theorem parse_eq (h : Spells command tag argument) : parse command = tag.readArgument argument :=
  h.consists.parse_eq

theorem isOneLine (h : Spells command tag argument) : IsOneLine command.toList := by
  rw [h.text]
  exact tag.isOneLine_text.append (h.line.cons (by decide) (by decide))

theorem colon (h : Spells command tag argument) : ':' ∈ command.toList := by
  rw [h.text]
  simp

end Spells

/-- A command on one line that posts given events, one after another, and does nothing else. -/
structure Echoes (command : String) (events : List Event) : Prop where
  line : IsOneLine command.toList
  colon : ':' ∈ command.toList
  read : ∃ action, parse command = .ok action ∧ (∀ commands, action ≠ .batch commands) ∧
    ∀ (τ : Type) [Duration τ] (p : Player τ), Straight (p.perform action) (events.map .post)

theorem Spells.echoes {command : String} {tag : Tag} {argument : List Char} {action : Action}
    {events : List Event} (h : Spells command tag argument) (read : tag.readArgument argument = .ok action)
    (single : ∀ commands, action ≠ .batch commands)
    (posts : ∀ (τ : Type) [Duration τ] (p : Player τ), Straight (p.perform action) (events.map .post)) :
    Echoes command events :=
  ⟨h.isOneLine, h.colon, action, h.parse_eq.trans read, single, posts⟩

variable {x y : Int}

theorem isWord_name (key : KeyCode) : key.name.toList ≠ [] ∧ IsOneLine key.name.toList := by
  have each : ∀ key ∈ KeyCode.all,
      key.name.toList ≠ [] ∧ key.name.toList.all (fun c => c ≠ '\r' ∧ c ≠ '\n') := by
    decide +kernel
  obtain ⟨full, clean⟩ := each key key.mem_all
  have apart := fun c hc => of_decide_eq_true (List.all_eq_true.1 clean c hc)
  exact ⟨full, fun h => (apart _ h).1 rfl, fun h => (apart _ h).2 rfl⟩

theorem readKey_name (tag : Tag) (key : KeyCode) : tag.readKey key.name.toList = .ok key := by
  rw [Tag.readKey, String.ofList_toList, KeyCode.resolve_eq_ok_iff.2 key.lookup?_name]
  rfl

theorem echoes_key (key : KeyCode) (down : Bool) :
    Echoes ((if down then "key-down:" else "key-up:") ++ key.name) [.key (.code key) down] := by
  obtain ⟨full, line⟩ := isWord_name key
  have posts (τ : Type) [Duration τ] (p : Player τ) :
      Straight (p.perform (.key key down)) [.post (.key (.code key) down)] :=
    Straight.post (.key (.code key) down)
  cases down with
  | true =>
    have spells : Spells ("key-down:" ++ key.name) .keyDown key.name.toList :=
      ⟨by rw [String.toList_append]; rfl, full, line⟩
    have read : Tag.keyDown.readArgument key.name.toList = .ok (.key key true) := by
      rw [Tag.readArgument, readKey_name]
      rfl
    exact spells.echoes read (by simp) posts
  | false =>
    have spells : Spells ("key-up:" ++ key.name) .keyUp key.name.toList :=
      ⟨by rw [String.toList_append]; rfl, full, line⟩
    have read : Tag.keyUp.readArgument key.name.toList = .ok (.key key false) := by
      rw [Tag.readArgument, readKey_name]
      rfl
    exact spells.echoes read (by simp) posts

variable {x y : Int}

theorem echoes_click (button : Button) (tag : Tag)
    (reads : ∀ argument, tag.readArgument argument =
      (tag.readPoint argument >>= fun point => return .click point button 1))
    (hx : Binary64.Holds x) (hy : Binary64.Holds y) {command : String}
    (text : command.toList = tag.text.toList ++ ':' :: pairText x y) :
    Echoes command [.mouse .down ⟨.ofInt x, .ofInt y⟩ button (some 1),
      .mouse .up ⟨.ofInt x, .ofInt y⟩ button (some 1)] := by
  have spells : Spells command tag (pairText x y) := ⟨text, by simp [pairText], isOneLine_pairText x y⟩
  have read : tag.readArgument (pairText x y) = .ok (.click ⟨.ofInt x, .ofInt y⟩ button 1) := by
    rw [reads, tag.readPoint_pairText hx hy]
    rfl
  refine spells.echoes read (by simp) fun τ _ p => ?_
  exact Straight.andThen (.post _) (.andThen (.post _) (.andThen .done .done))

theorem echoes_move (hx : Binary64.Holds x) (hy : Binary64.Holds y) :
    Echoes s!"move:{x},{y}" [.mouse .move ⟨.ofInt x, .ofInt y⟩ .left none] := by
  have spells : Spells s!"move:{x},{y}" .move (pairText x y) :=
    ⟨toList_pair "move:" x y, by simp [pairText], isOneLine_pairText x y⟩
  have read : Tag.move.readArgument (pairText x y) = .ok (.move ⟨.ofInt x, .ofInt y⟩) := by
    rw [Tag.readArgument, Tag.readPoint_pairText _ hx hy]
    rfl
  exact spells.echoes read (by simp) fun _ _ _ => Straight.post _

theorem echoes_scroll {n : Int} (h : Binary64.Holds n) :
    Echoes s!"scroll:{n}" [.scroll (.exactly (.ofInt n)) none] := by
  have spells : Spells s!"scroll:{n}" .scroll (toString n).toList :=
    ⟨String.toList_append, toString_ne_nil n, isOneLine_toString n⟩
  have read : Tag.scroll.readArgument (toString n).toList = .ok (.scroll (.ofInt n)) := by
    rw [Tag.readArgument, Tag.readNumber_whole _ _ _ h]
    rfl
  exact spells.echoes read (by simp) fun _ _ _ => Straight.post _

theorem echoes_leftClick (hx : Binary64.Holds x) (hy : Binary64.Holds y) :
    Echoes s!"click:{x},{y}" [.mouse .down ⟨.ofInt x, .ofInt y⟩ .left (some 1),
      .mouse .up ⟨.ofInt x, .ofInt y⟩ .left (some 1)] :=
  echoes_click .left .click (fun _ => rfl) hx hy (toList_pair "click:" x y)

theorem echoes_rightClick (hx : Binary64.Holds x) (hy : Binary64.Holds y) :
    Echoes s!"right-click:{x},{y}" [.mouse .down ⟨.ofInt x, .ofInt y⟩ .right (some 1),
      .mouse .up ⟨.ofInt x, .ofInt y⟩ .right (some 1)] :=
  echoes_click .right .rightClick (fun _ => rfl) hx hy (toList_pair "right-click:" x y)

end Command

namespace Binary64

/-- The integer part of a number, as a number. -/
def cut (x : Binary64) : Binary64 :=
  match x.truncate with
  | .ok n => .ofInt n
  | .error _ => x

theorem cut_of_truncate {x : Binary64} {n : Int} (h : x.truncate = .ok n) : x.cut = .ofInt n := by
  unfold cut
  rw [h]

/-- Cutting a number leaves its integer part, and nothing else of it. -/
theorem truncate_cut (x : Binary64) : x.cut.truncate = x.truncate := by
  cases h : x.truncate with
  | ok n => rw [cut_of_truncate h, (holds_of_truncate h).truncate_ofInt]
  | error why =>
    unfold cut
    rw [h]
    exact h

end Binary64

def Point.cut (p : Point) : Point := ⟨p.x.cut, p.y.cut⟩

namespace Heard

/-- What a listener can tell of a pointer that has a place and of a wheel that is turned by so many steps. -/
def IsFit : Heard → Prop
  | key _ _ => True
  | move point | click point _ _ => point.x.isFinite = true ∧ point.y.isFinite = true
  | scroll amount => ∃ n : Int, n.natAbs ≤ pow2 53 ∧ amount = .ofInt n

/-- The events that do again what was heard. A click is done when the button comes up. -/
def echo : Heard → List Event
  | key heard down => (KeyCode.ofHeard? heard).toList.map fun code => .key (.code code) down
  | move point => [.mouse .move point.cut .left none]
  | click _ _ true => []
  | click point name false =>
    match Button.ofName? name with
    | some .middle | none => []
    | some button => [.mouse .down point.cut button (some 1), .mouse .up point.cut button (some 1)]
  | scroll amount => [.scroll (.exactly amount) none]

/-- What becomes of what was heard: no event, an event without a command, or a command. -/
inductive Comes (h : Heard) : Prop
  | passed (unknown : h.event? = .ok none) (silent : h.echo = [])
  | kept (e : ObservedEvent) (heard : h.event? = .ok (some e)) (none : e.command? = none) (silent : h.echo = [])
  | told (e : ObservedEvent) (command : String) (heard : h.event? = .ok (some e))
      (some : e.command? = some command) (echoes : Command.Echoes command h.echo)

theorem event?_click {point : Point} {name : String} {button : Button} {x y : Int}
    (known : Button.ofName? name = some button) (down : Bool) (hx : point.x.truncate = .ok x)
    (hy : point.y.truncate = .ok y) :
    (click point name down).event? = .ok (some (.button down (ObservedEvent.buttonNumber button) x y)) := by
  simp only [event?, known, ObservedEvent.ofButton, hx, hy]
  rfl

theorem event?_scroll {amount : Binary64} {n : Int} (h : amount.truncate = .ok n) :
    (scroll amount).event? = .ok (some (.scroll n)) := by
  simp only [event?, h]
  rfl

theorem comes {h : Heard} (fit : h.IsFit) : h.Comes := by
  cases h with
  | key heard down =>
    cases known : KeyCode.ofHeard? heard with
    | none => exact .passed (by simp [event?, known]) (by simp [echo, known])
    | some code =>
      have echoes := Command.echoes_key code down
      refine .told (.ofKey code down) _ (by simp [event?, known]) rfl ?_
      simpa [echo, known] using echoes
  | move point =>
    obtain ⟨x, hx⟩ := Binary64.truncate_finite fit.1
    obtain ⟨y, hy⟩ := Binary64.truncate_finite fit.2
    have echoes := Command.echoes_move (Binary64.holds_of_truncate hx) (Binary64.holds_of_truncate hy)
    refine .told (.move x y) _ (by simp [event?, ObservedEvent.ofMove, hx, hy]; rfl) rfl ?_
    simpa only [echo, Point.cut, Binary64.cut_of_truncate hx, Binary64.cut_of_truncate hy] using echoes
  | click point name down =>
    obtain ⟨x, hx⟩ := Binary64.truncate_finite fit.1
    obtain ⟨y, hy⟩ := Binary64.truncate_finite fit.2
    have holdsX := Binary64.holds_of_truncate hx
    have holdsY := Binary64.holds_of_truncate hy
    cases known : Button.ofName? name with
    | none =>
      refine .passed (by simp [event?, known]) ?_
      cases down <;> simp [echo, known]
    | some button =>
      have heard := event?_click known down hx hy
      cases down with
      | true => exact .kept _ heard rfl rfl
      | false =>
        cases button with
        | left =>
          refine .told _ _ heard rfl ?_
          simpa only [echo, known, Point.cut, Binary64.cut_of_truncate hx, Binary64.cut_of_truncate hy]
            using Command.echoes_leftClick holdsX holdsY
        | right =>
          refine .told _ _ heard rfl ?_
          simpa only [echo, known, Point.cut, Binary64.cut_of_truncate hx, Binary64.cut_of_truncate hy]
            using Command.echoes_rightClick holdsX holdsY
        | middle => exact .kept _ heard rfl (by simp only [echo, known])
  | scroll amount =>
    obtain ⟨n, small, same⟩ := fit
    rw [same]
    have holds := Binary64.holds_of_le small
    exact .told (.scroll n) _ (event?_scroll holds.truncate_ofInt) rfl (Command.echoes_scroll holds)

end Heard
end InputReplay
