import InputReplay.Proofs.Export
import InputReplay.Proofs.Refusal

/-! Composite commands and the primitive ones that they stand for. Where nothing raises, a program makes requests
that can be told beforehand, rule by rule. A shortcut, a press, a click under a held key and a row of clicks make
those of the key, move and click commands that they are put together from. -/

namespace InputReplay

open Program

variable {τ σ α β : Type}

namespace Injector

/-- Nothing that is asked raises a fault. -/
def IsQuiet (inj : Injector τ σ) : Prop := ∀ r s, faultOf (inj.host r s).1 = none

/-- The state that requests leave behind. -/
def after (inj : Injector τ σ) (s : σ) (made : List (PlayRequest τ)) : σ :=
  made.foldl (fun s r => (inj.host r s).2) s

theorem after_append (inj : Injector τ σ) (s : σ) (first second : List (PlayRequest τ)) :
    inj.after s (first ++ second) = inj.after (inj.after s first) second := List.foldl_append

end Injector

theorem eq_ok_of_faultOf {result : Except Fault Unit} (h : faultOf result = none) : result = .ok () := by
  cases result with
  | ok _ => rfl
  | error fault => cases h

/-- The wait for a time, if it is one. -/
def waitFor [Duration τ] (time : τ) : List (PlayRequest τ) :=
  if Duration.isPositive time then [.pause time] else []

/-- A program that makes given requests where nothing raises, and comes to a value. -/
def Makes (q : Play τ α) (I : List (PlayRequest τ)) (a : α) : Prop :=
  ∀ (σ : Type) (inj : Injector τ σ), inj.IsQuiet → ∀ s,
    inj.acts q s = I.map (fun r => ⟨r, none⟩) ∧ inj.run q s = (.ok a, inj.after s I)

namespace Makes

variable {q : Play τ α} {I J : List (PlayRequest τ)} {a : α} {b : β}

theorem value (a : α) : Makes (pure a : Play τ α) [] a := fun _ _ _ _ => ⟨rfl, rfl⟩

theorem next {f : Except Fault α → Play τ β} (h : Makes q I a) (h' : Makes (f (.ok a)) J b) :
    Makes (q.next f) (I ++ J) b := by
  intro σ inj quiet s
  obtain ⟨acts, ran⟩ := h σ inj quiet s
  obtain ⟨acts', ran'⟩ := h' σ inj quiet (inj.after s I)
  rw [inj.acts_next, inj.run_next, ran, acts, acts', ran', inj.after_append, List.map_append]
  exact ⟨rfl, rfl⟩

theorem bind {f : α → Play τ β} (h : Makes q I a) (h' : Makes (f a) J b) : Makes (q >>= f) (I ++ J) b :=
  next (f := onResult f) h h'

theorem map (f : α → β) (h : Makes q I a) : Makes (f <$> q) I (f a) := by
  intro σ inj quiet s
  obtain ⟨acts, ran⟩ := h σ inj quiet s
  rw [inj.acts_map, inj.run_map, ran]
  exact ⟨acts, rfl⟩

theorem post (e : Event) : Makes (Play.post e : Play τ Unit) [.post e] () := by
  intro σ inj quiet s
  have taken : faultOf (inj.post e s).1 = none := quiet (.post e) s
  rw [inj.acts_post, inj.run_post, taken]
  exact ⟨rfl, Prod.ext (eq_ok_of_faultOf taken) rfl⟩

theorem pause [Duration τ] (time : τ) : Makes (Play.pause time) (waitFor time) () := by
  rcases Play.pause_cases time with ⟨h, asks⟩ | ⟨h, skips⟩
  · rw [asks, waitFor, if_pos h]
    intro σ inj quiet s
    have taken : faultOf (inj.pause time s).1 = none := quiet (.pause time) s
    refine ⟨?_, Prod.ext (eq_ok_of_faultOf taken) rfl⟩
    change [(⟨.pause time, faultOf (inj.pause time s).1⟩ : Attempt τ)] = _
    rw [taken]
    rfl
  · rw [skips, waitFor, if_neg h]
    exact .value ()

theorem releaseEach (releases : List Event) :
    Makes (Play.releaseEach releases : Play τ (Option Fault)) (releases.map .post) none := by
  induction releases with
  | nil => exact .value none
  | cons e rest ih => exact next (post e) ih

theorem releaseFinally (releases : List Event) :
    Makes (Play.releaseFinally releases : Play τ Unit) (releases.map .post) () := by
  have made : Makes (Play.releaseFinally releases : Play τ Unit) (releases.map .post ++ []) () :=
    bind (releaseEach releases) (value ())
  rwa [List.append_nil] at made

theorem whileHeld {body : Play τ Unit} (releases : List Event) (h : Makes body I ()) :
    Makes (Play.whileHeld releases body) (I ++ releases.map .post) () := next h (releaseFinally releases)

theorem locked {body : Play τ α} (h : Makes body I a) : Makes (Play.locked body) I a := by
  intro σ inj quiet s
  rw [inj.acts_locked, inj.run_locked]
  exact h σ inj quiet s

theorem chordOver (releases : List Event) (keys : List KeyCode) :
    Makes (Play.chordOver releases keys : Play τ Unit) (chordRequests releases keys) () := by
  induction keys generalizing releases with
  | nil => exact releaseFinally releases
  | cons key rest ih => exact next (post (Play.pressKey key)) (ih (Play.releaseKey key :: releases))

end Makes

namespace Injector

/-- The same injector, but nothing that is asked of it raises. -/
def calmed (inj : Injector τ σ) : Injector τ σ where
  post e s := (.ok (), (inj.post e s).2)
  pause time s := (.ok (), (inj.pause time s).2)
  launch command timeout s :=
    ((match (inj.launch command timeout s).1 with
      | .ok outcome => .ok outcome
      | .error _ => .ok (.exited 0 "")), (inj.launch command timeout s).2)

variable (inj : Injector τ σ)

theorem calmed_isQuiet : inj.calmed.IsQuiet := by
  intro r s
  cases r with
  | launch command timeout =>
    change faultOf (match (inj.launch command timeout s).1 with
      | .ok outcome => (.ok outcome : Except Fault ScriptOutcome)
      | .error _ => .ok (.exited 0 "")) = none
    cases (inj.launch command timeout s).1 <;> rfl
  | _ => rfl

theorem host_calmed {r : PlayRequest τ} {s : σ} (taken : faultOf (inj.host r s).1 = none) :
    inj.calmed.host r s = inj.host r s := by
  cases r with
  | enter | leave => rfl
  | post e => exact Prod.ext (eq_ok_of_faultOf taken).symm rfl
  | pause time => exact Prod.ext (eq_ok_of_faultOf taken).symm rfl
  | launch command timeout =>
    refine Prod.ext ?_ rfl
    change (match (inj.launch command timeout s).1 with
      | .ok outcome => (.ok outcome : Except Fault ScriptOutcome)
      | .error _ => .ok (.exited 0 "")) = (inj.launch command timeout s).1
    change faultOf (inj.launch command timeout s).1 = none at taken
    cases h : (inj.launch command timeout s).1 with
    | ok outcome => rfl
    | error fault =>
      rw [h] at taken
      cases taken

/-- A run in which nothing raises is one of an injector of which nothing raises. -/
theorem acts_calmed (q : Play τ α) {s : σ} (quiet : ∀ a ∈ inj.acts q s, a.fault? = none) :
    inj.calmed.acts q s = inj.acts q s := by
  induction q generalizing s with
  | finish result => rfl
  | ask r k ih =>
    have taken : faultOf (inj.host r s).1 = none := by
      by_cases seen : r.isAct = true
      · refine quiet ⟨r, faultOf (inj.host r s).1⟩ ?_
        unfold acts
        rw [if_pos seen]
        exact List.mem_cons_self
      · cases r <;> first | rfl | exact absurd rfl seen
    have later : ∀ a ∈ inj.acts (k (inj.host r s).1) (inj.host r s).2, a.fault? = none := fun a mem =>
      quiet a (by unfold acts; exact List.mem_append_right _ mem)
    unfold acts
    rw [inj.host_calmed taken, ih _ later]

end Injector

/-- What a program makes where nothing raises it also makes where something might, as long as nothing does. -/
theorem Makes.acts_of_unraised {q : Play τ α} {I : List (PlayRequest τ)} {a : α} (h : Makes q I a)
    (inj : Injector τ σ) {s : σ} (quiet : ∀ x ∈ inj.acts q s, x.fault? = none) :
    inj.acts q s = I.map (fun r => ⟨r, none⟩) := by
  rw [← inj.acts_calmed q quiet]
  exact (h σ inj.calmed inj.calmed_isQuiet s).1

/-- A chord presses its keys in order and releases them the other way round. -/
theorem chordRequests_eq (releases : List Event) (keys : List KeyCode) :
    (chordRequests releases keys : List (PlayRequest τ)) =
      keys.map (fun key => .post (Play.pressKey key)) ++
        (keys.reverse.map (fun key => .post (Play.releaseKey key)) ++ releases.map .post) := by
  induction keys generalizing releases with
  | nil => rfl
  | cons key rest ih =>
    rw [chordRequests, ih]
    simp

/-- A request as it stands in the `i`-th click of a row. -/
def PlayRequest.numbered (i : Nat) : PlayRequest τ → PlayRequest τ
  | .post (.mouse kind point button (some _)) => .post (.mouse kind point button (some i))
  | r => r

namespace Player

variable [Duration τ] (p : Player τ)

def clickRequests (point : Point) (button : Button) (i : Nat) : List (PlayRequest τ) :=
  [.post (.mouse .down point button (some i)), .post (.mouse .up point button (some i))]

/-- A row of clicks waits between any two of them and not after the last. -/
theorem makes_clicks (point : Point) (button : Button) (index more : Nat) :
    Makes (p.clicks point button index more)
      ((waitFor p.settings.clickSettle).intercalate
        ((List.range' index more).map (clickRequests point button))) () := by
  induction more generalizing index with
  | zero => exact .value ()
  | succ more ih =>
    have down := Makes.post (τ := τ) (.mouse .down point button (some index))
    have up := Makes.post (τ := τ) (.mouse .up point button (some index))
    unfold clicks
    cases more with
    | zero => exact down.bind (up.bind (.bind (.value ()) (.value ())))
    | succ more =>
      have later := ih (index + 1)
      have wait := Makes.pause p.settings.clickSettle
      rw [List.range'_succ, List.map_cons, List.range'_succ, List.map_cons, List.intercalate_cons_cons]
      rw [List.range'_succ, List.map_cons] at later
      rw [if_pos (Nat.succ_ne_zero more), List.append_assoc]
      exact down.bind (up.bind (wait.bind later))

theorem makes_execute {action : Action} {I : List (PlayRequest τ)} (single : ∀ commands, action ≠ .batch commands)
    (h : Makes (p.perform action) I ()) (command : String) :
    Makes (p.execute action command) I (.succeeded (labelOf action command)) := by
  intro σ inj quiet s
  obtain ⟨acts, ran⟩ := h σ inj quiet s
  rw [p.acts_execute single, p.run_execute single, ran, acts]
  exact ⟨rfl, rfl⟩

/-- A command makes the requests of the action that it is read as. -/
theorem makes_of_parse {command : String} {action : Action} {I : List (PlayRequest τ)}
    (read : Command.parse command = .ok action) (single : ∀ commands, action ≠ .batch commands)
    (h : Makes (p.perform action) I ()) : Makes (p.run command) I (.succeeded command) := by
  have label : labelOf action command = command := if_neg (Command.ne_empty_of_parse read)
  have made := p.makes_execute single h command
  rwa [label, ← p.run_of_parse read] at made

/-- A command makes the requests of the action that it denotes. -/
theorem makes_run {command : String} {tag : Tag} {argument : List Char} {action : Action}
    {I : List (PlayRequest τ)} (spells : Command.Spells command tag argument)
    (denotes : tag.Denotes argument action) (single : ∀ commands, action ≠ .batch commands)
    (h : Makes (p.perform action) I ()) : Makes (p.run command) I (.succeeded command) :=
  p.makes_of_parse (spells.parse_eq.trans denotes.readArgument_eq) single h

theorem makes_runEach {commands : List String} {parts : List (List (PlayRequest τ))}
    (each : List.Forall₂ (fun c I => Makes (p.run c) I (.succeeded c)) commands parts) :
    Makes (p.runEach commands) parts.flatten (commands.map .succeeded) := by
  induction each with
  | nil => exact .value []
  | @cons c I rest parts first _ ih =>
    have made : Makes (p.runEach (c :: rest)) (I ++ (parts.flatten ++ [])) _ := first.bind (ih.bind (.value _))
    rwa [List.append_nil] at made

end Player

/-! Commands in one line. -/

/-- A character that is its own lower case stands in the lower case of a text in which it stands. -/
theorem mem_lowerCase {c : Char} (same : lowerChar c = [c]) (apart : c ≠ 'Σ') {text : String}
    (hc : c ∈ text.toList) : c ∈ (lowerCase text).toList := by
  have after (before rest : List Char) (hc : c ∈ rest) : c ∈ lowerAfter before rest := by
    induction rest generalizing before with
    | nil => cases hc
    | cons first rest ih =>
      rw [lowerAfter, List.mem_append]
      rcases List.mem_cons.1 hc with rfl | hc
      · left
        rw [if_neg apart, same]
        exact List.mem_singleton_self c
      · exact .inr (ih (first :: before) hc)
  rw [lowerCase, String.toList_ofList]
  exact after [] _ hc

theorem KeyText.not_mem {name : List Char} {key : KeyCode} (h : KeyText name key) {c : Char}
    (hc : c ∈ ['\r', '\n', '+']) : c ∉ name := by
  have own : lowerChar c = [c] ∧ c ≠ 'Σ' := by
    simp only [List.mem_cons, List.not_mem_nil, or_false] at hc
    rcases hc with rfl | rfl | rfl <;> decide
  obtain ⟨e, he, named, -⟩ := h
  intro mem
  rw [← String.toList_ofList (l := name)] at mem
  have kept := mem_lowerCase own.1 own.2 mem
  rw [← named] at kept
  exact of_decide_eq_true (List.all_eq_true.1 (KeyCode.lowerCase_symbolEntries e he).2 c kept) hc

theorem KeyText.isOneLine {name : List Char} {key : KeyCode} (h : KeyText name key) : IsOneLine name :=
  ⟨h.not_mem (by decide), h.not_mem (by decide)⟩

theorem exists_keyText {name : String} (h : (KeyCode.lookup? name).isSome = true) :
    ∃ key, KeyText name.toList key := by
  obtain ⟨key, found⟩ := Option.isSome_iff_exists.1 h
  rw [← String.ofList_toList (s := name), KeyCode.lookup?_eq_some_iff] at found
  exact ⟨key, found⟩

theorem NumberText.isOneLine {text : List Char} {x : Binary64} (h : NumberText text x) : IsOneLine text := by
  obtain ⟨d, written, -⟩ := h
  exact ⟨written.isNumberText.not_mem (by decide), written.isNumberText.not_mem (by decide)⟩

theorem IntegerText.isOneLine {text digits : List Char} {n : Int} (h : IntegerText text digits n) :
    IsOneLine text := ⟨h.isNumberText.not_mem (by decide), h.isNumberText.not_mem (by decide)⟩

theorem IsOneLine.intercalate {parts : List (List Char)} (each : ∀ part ∈ parts, IsOneLine part) {sep : Char}
    (noReturn : sep ≠ '\r') (noFeed : sep ≠ '\n') : IsOneLine ([sep].intercalate parts) := by
  induction parts with
  | nil => exact ⟨List.not_mem_nil, List.not_mem_nil⟩
  | cons part rest ih =>
    obtain ⟨first, others⟩ := List.forall_mem_cons.1 each
    cases rest with
    | nil => simpa using first
    | cons next more =>
      rw [List.intercalate_cons_cons, List.append_assoc]
      exact first.append ((ih others).cons noReturn noFeed)

/-- Two texts with a comma between them. -/
def placeText (x y : String) : List Char := x.toList ++ ',' :: y.toList

theorem pointText_place {x y : String} {a b : Binary64} (hx : NumberText x.toList a) (hy : NumberText y.toList b) :
    PointText (placeText x y) ⟨a, b⟩ := .mk hx hy

theorem isOneLine_placeText {x y : String} (hx : IsOneLine x.toList) (hy : IsOneLine y.toList) :
    IsOneLine (placeText x y) := hx.append (hy.cons (by decide) (by decide))

theorem toList_place (word x y : String) : (word ++ x ++ "," ++ y).toList = word.toList ++ placeText x y := by
  simp [placeText]

theorem toList_placed (word x y z : String) :
    (word ++ x ++ "," ++ y ++ "," ++ z).toList = word.toList ++ (placeText x y ++ ',' :: z.toList) := by
  simp [placeText]

namespace Player

variable [Duration τ] (p : Player τ)

/-- A command and others that, run one after another, make the same requests as it does. -/
def ExpandsTo (composite : String) (primitives : List String) : Prop :=
  ∃ I, Makes (p.run composite) I (.succeeded composite) ∧
    Makes (p.runEach primitives) I (primitives.map .succeeded)

section
variable {name x y count : String} {key : KeyCode} {a b : Binary64}

theorem makes_keyDown (named : KeyText name.toList key) :
    Makes (p.run ("key-down:" ++ name)) [.post (Play.pressKey key)] (.succeeded ("key-down:" ++ name)) := by
  have spells : Command.Spells ("key-down:" ++ name) .keyDown name.toList :=
    ⟨String.toList_append, named.ne_nil, named.isOneLine⟩
  exact p.makes_run spells (.keyDown named) (by simp) (.post _)

theorem makes_keyUp (named : KeyText name.toList key) :
    Makes (p.run ("key-up:" ++ name)) [.post (Play.releaseKey key)] (.succeeded ("key-up:" ++ name)) := by
  have spells : Command.Spells ("key-up:" ++ name) .keyUp name.toList :=
    ⟨String.toList_append, named.ne_nil, named.isOneLine⟩
  exact p.makes_run spells (.keyUp named) (by simp) (.post _)

theorem makes_press (named : KeyText name.toList key) :
    Makes (p.run ("press:" ++ name)) [.post (Play.pressKey key), .post (Play.releaseKey key)]
      (.succeeded ("press:" ++ name)) := by
  have spells : Command.Spells ("press:" ++ name) .press name.toList :=
    ⟨String.toList_append, named.ne_nil, named.isOneLine⟩
  exact p.makes_run spells (.press named) (by simp) (.bind (.post _) (.post _))

theorem makes_move (hx : NumberText x.toList a) (hy : NumberText y.toList b) :
    Makes (p.run s!"move:{x},{y}") [.post (mouse .move ⟨a, b⟩)] (.succeeded s!"move:{x},{y}") := by
  have spells : Command.Spells s!"move:{x},{y}" .move (placeText x y) :=
    ⟨toList_place "move:" x y, by simp [placeText], isOneLine_placeText hx.isOneLine hy.isOneLine⟩
  exact p.makes_run spells (.move (pointText_place hx hy)) (by simp) (.post _)

theorem makes_click (hx : NumberText x.toList a) (hy : NumberText y.toList b) :
    Makes (p.run s!"click:{x},{y}") (clickRequests ⟨a, b⟩ .left 1) (.succeeded s!"click:{x},{y}") := by
  have spells : Command.Spells s!"click:{x},{y}" .click (placeText x y) :=
    ⟨toList_place "click:" x y, by simp [placeText], isOneLine_placeText hx.isOneLine hy.isOneLine⟩
  have made := p.makes_clicks ⟨a, b⟩ .left 1 1
  exact p.makes_run spells (.click (pointText_place hx hy)) (by simp) made

theorem makes_holdClick (hx : NumberText x.toList a) (hy : NumberText y.toList b) (named : KeyText name.toList key) :
    Makes (p.run s!"hold-click:{x},{y},{name}")
      (.post (Play.pressKey key) :: (.post (mouse .move ⟨a, b⟩) :: clickRequests ⟨a, b⟩ .left 1 ++
        [.post (Play.releaseKey key)])) (.succeeded s!"hold-click:{x},{y},{name}") := by
  have line := (isOneLine_placeText hx.isOneLine hy.isOneLine).append
    (named.isOneLine.cons (c := ',') (by decide) (by decide))
  have spells : Command.Spells s!"hold-click:{x},{y},{name}" .holdClick (placeText x y ++ ',' :: name.toList) :=
    ⟨toList_placed "hold-click:" x y name, by simp, line⟩
  have click := p.makes_clicks ⟨a, b⟩ .left 1 1
  have body : Makes (do Play.post (mouse .move ⟨a, b⟩); p.click ⟨a, b⟩ .left 1)
      (.post (mouse .move ⟨a, b⟩) :: clickRequests ⟨a, b⟩ .left 1) () := .bind (.post _) click
  have held : Makes (p.holdClick ⟨a, b⟩ key 1) ([.post (Play.pressKey key)] ++ _) () :=
    .bind (.post _) (.whileHeld [Play.releaseKey key] body)
  exact p.makes_run spells (.holdClick (pointText_place hx hy) named) (by simp) held

theorem spells_multiClick (hx : NumberText x.toList a) (hy : NumberText y.toList b) {digits : List Char} {n : Int}
    (counted : IntegerText count.toList digits n) :
    Command.Spells s!"Multi-click:{x},{y},{count}" .multiClick (placeText x y ++ ',' :: count.toList) := by
  have line := (isOneLine_placeText hx.isOneLine hy.isOneLine).append
    (counted.isOneLine.cons (c := ',') (by decide) (by decide))
  exact ⟨toList_placed "Multi-click:" x y count, by simp, line⟩

theorem makes_multiClick (hx : NumberText x.toList a) (hy : NumberText y.toList b) {digits : List Char} {n : Int}
    (counted : IntegerText count.toList digits n) (short : digits.length ≤ numeralLimit) (positive : 1 ≤ n) :
    Makes (p.run s!"Multi-click:{x},{y},{count}")
      ((waitFor p.settings.clickSettle).intercalate
        ((List.range' 1 n.toNat).map (clickRequests ⟨a, b⟩ .left)))
      (.succeeded s!"Multi-click:{x},{y},{count}") := by
  have made := p.makes_clicks ⟨a, b⟩ .left 1 n.toNat
  refine p.makes_run (spells_multiClick hx hy counted) (.multiClick (pointText_place hx hy) ?_) (by simp) made
  exact ⟨digits, counted, short, positive⟩

/-- A count of too many digits is no count, whatever number it is. -/
theorem run_multiClick_long (hx : NumberText x.toList a) (hy : NumberText y.toList b) {digits : List Char} {n : Int}
    (counted : IntegerText count.toList digits n) (long : numeralLimit < digits.length) :
    p.run s!"Multi-click:{x},{y},{count}" = .throw (.numeralTooLong ⟨digits.length⟩) := by
  have noComma : ',' ∉ count.toList := counted.isNumberText.not_mem (by decide)
  have parts : Tag.multiClick.Parts (placeText x y ++ ',' :: count.toList) x.toList y.toList count.toList := by
    rw [placeText, List.append_assoc, List.cons_append]
    exact .count hx.no_comma hy.no_comma noComma
  have read : Command.parse s!"Multi-click:{x},{y},{count}" = .error (.tooLong ⟨digits.length⟩) := by
    rw [(spells_multiClick hx hy counted).parse_eq, parts.readArgument_of_numbers hx hy, Tag.readLast_multiClick,
      Tag.readCount_of_text _ counted, if_pos long]
    rfl
  unfold run
  rw [read]

end

/-- Keys are pressed and released by commands of their own. -/
theorem makes_keys {names : List String} {keys : List KeyCode}
    (named : List.Forall₂ (fun name key => KeyText name.toList key) names keys) :
    Makes (p.runEach (names.map ("key-down:" ++ ·) ++ names.reverse.map ("key-up:" ++ ·)))
      (keys.map (fun key => .post (Play.pressKey key)) ++
        keys.reverse.map (fun key => .post (Play.releaseKey key)))
      ((names.map ("key-down:" ++ ·) ++ names.reverse.map ("key-up:" ++ ·)).map .succeeded) := by
  have down : List.Forall₂ (fun c I => Makes (p.run c) I (.succeeded c)) (names.map ("key-down:" ++ ·))
      (keys.map fun key => [.post (Play.pressKey key)]) := by
    rw [List.forall₂_map_left_iff, List.forall₂_map_right_iff]
    exact named.imp fun _ _ h => p.makes_keyDown h
  have up : List.Forall₂ (fun c I => Makes (p.run c) I (.succeeded c)) (names.reverse.map ("key-up:" ++ ·))
      (keys.reverse.map fun key => [.post (Play.releaseKey key)]) := by
    rw [List.forall₂_map_left_iff, List.forall₂_map_right_iff, List.forall₂_reverse_iff]
    exact named.imp fun _ _ h => p.makes_keyUp h
  have made := p.makes_runEach (List.rel_append down up)
  rwa [List.flatten_append, ← List.flatMap_def, ← List.flatMap_def, ← List.map_eq_flatMap,
    ← List.map_eq_flatMap] at made

/-- Names that mean keys, as the commands of keys and chords read them. -/
theorem exists_keys {names : List String} (each : ∀ name ∈ names, (KeyCode.lookup? name).isSome = true) :
    ∃ keys, List.Forall₂ (fun name key => KeyText name.toList key) names keys := by
  induction names with
  | nil => exact ⟨[], .nil⟩
  | cons name rest ih =>
    obtain ⟨first, others⟩ := List.forall_mem_cons.1 each
    obtain ⟨key, named⟩ := exists_keyText first
    obtain ⟨keys, more⟩ := ih others
    exact ⟨key :: keys, .cons named more⟩

theorem spells_shortcut {names : List String} (some : names ≠ [])
    (each : ∀ name ∈ names, (KeyCode.lookup? name).isSome = true) :
    Command.Spells ("shortcut:" ++ "+".intercalate names) .shortcut
      (['+'].intercalate (names.map String.toList)) := by
  have words : ∀ part ∈ names.map String.toList, part ≠ [] ∧ IsOneLine part := by
    intro part hp
    obtain ⟨name, hn, rfl⟩ := List.mem_map.1 hp
    obtain ⟨key, named⟩ := exists_keyText (each name hn)
    exact ⟨named.ne_nil, named.isOneLine⟩
  refine ⟨?_, fun none => ?_, .intercalate (fun part hp => (words part hp).2) (by decide) (by decide)⟩
  · rw [String.toList_append, String.toList_intercalate]
    rfl
  · have last := getLast?_intercalate '+' (by simpa using some) fun part hp => (words part hp).1
    rw [none, List.getLast?_nil, eq_comm, List.getLast?_eq_none_iff] at last
    exact (words _ (List.getLast_mem _)).1 last

/-- A shortcut posts what its keys post when they are pressed in order and released the other way round. -/
theorem expands_shortcut {names : List String} (some : names ≠ [])
    (each : ∀ name ∈ names, '+' ∉ name.toList ∧ (KeyCode.lookup? name).isSome = true) :
    p.ExpandsTo ("shortcut:" ++ "+".intercalate names)
      (names.map ("key-down:" ++ ·) ++ names.reverse.map ("key-up:" ++ ·)) := by
  obtain ⟨keys, named⟩ := exists_keys fun name hn => (each name hn).2
  have joined : Joined '+' (names.map String.toList) (['+'].intercalate (names.map String.toList)) := by
    refine ⟨by simpa using some, fun part hp => ?_, rfl⟩
    obtain ⟨name, hn, rfl⟩ := List.mem_map.1 hp
    exact (each name hn).1
  have spells := spells_shortcut some fun name hn => (each name hn).2
  have chord := p.makes_run spells (.shortcut joined (List.forall₂_map_left_iff.2 named)) (by simp)
    (.chordOver [] keys)
  rw [chordRequests_eq, List.map_nil, List.append_nil] at chord
  exact ⟨_, chord, p.makes_keys named⟩

theorem expands_press {name : String} (h : (KeyCode.lookup? name).isSome = true) :
    p.ExpandsTo ("press:" ++ name) ["key-down:" ++ name, "key-up:" ++ name] := by
  obtain ⟨key, named⟩ := exists_keyText h
  exact ⟨_, p.makes_press named,
    p.makes_runEach (.cons (p.makes_keyDown named) (.cons (p.makes_keyUp named) .nil))⟩

theorem expands_holdClick {x y name : String} {a b : Binary64} (hx : NumberText x.toList a)
    (hy : NumberText y.toList b) (h : (KeyCode.lookup? name).isSome = true) :
    p.ExpandsTo s!"hold-click:{x},{y},{name}"
      ["key-down:" ++ name, s!"move:{x},{y}", s!"click:{x},{y}", "key-up:" ++ name] := by
  obtain ⟨key, named⟩ := exists_keyText h
  exact ⟨_, p.makes_holdClick hx hy named, p.makes_runEach (.cons (p.makes_keyDown named)
    (.cons (p.makes_move hx hy) (.cons (p.makes_click hx hy) (.cons (p.makes_keyUp named) .nil))))⟩

theorem makes_doubleClick {x y : String} {a b : Binary64} (hx : NumberText x.toList a)
    (hy : NumberText y.toList b) :
    Makes (p.run s!"double-click:{x},{y}")
      ((waitFor p.settings.clickSettle).intercalate ((List.range' 1 2).map (clickRequests ⟨a, b⟩ .left)))
      (.succeeded s!"double-click:{x},{y}") := by
  have spells : Command.Spells s!"double-click:{x},{y}" .doubleClick (placeText x y) :=
    ⟨toList_place "double-click:" x y, by simp [placeText], isOneLine_placeText hx.isOneLine hy.isOneLine⟩
  have made := p.makes_clicks ⟨a, b⟩ .left 1 2
  exact p.makes_run spells (.doubleClick (pointText_place hx hy)) (by simp) made

/-- Composite commands make the requests of the primitive ones that they stand for, where nothing raises. A row of
clicks makes those of one click as often as it says, numbered from one on, with a wait between any two; but a count
of too many digits keeps it from being played at all. -/
theorem composites_expand (p : Player τ) :
    (∀ names : List String, names ≠ [] →
      (∀ name ∈ names, '+' ∉ name.toList ∧ (KeyCode.lookup? name).isSome = true) →
      p.ExpandsTo ("shortcut:" ++ "+".intercalate names)
        (names.map ("key-down:" ++ ·) ++ names.reverse.map ("key-up:" ++ ·))) ∧
    (∀ name, (KeyCode.lookup? name).isSome = true →
      p.ExpandsTo ("press:" ++ name) ["key-down:" ++ name, "key-up:" ++ name]) ∧
    ∀ (x y : String) (a b : Binary64), NumberText x.toList a → NumberText y.toList b →
      (∀ name, (KeyCode.lookup? name).isSome = true →
        p.ExpandsTo s!"hold-click:{x},{y},{name}"
          ["key-down:" ++ name, s!"move:{x},{y}", s!"click:{x},{y}", "key-up:" ++ name]) ∧
      (∀ (count : String) (digits : List Char) (n : Int), IntegerText count.toList digits n → 1 ≤ n →
        if digits.length ≤ numeralLimit then
          ∃ copy, Makes (p.run s!"click:{x},{y}") copy (.succeeded s!"click:{x},{y}") ∧
            Makes (p.run s!"Multi-click:{x},{y},{count}")
              ((waitFor p.settings.clickSettle).intercalate
                ((List.range' 1 n.toNat).map fun i => copy.map (·.numbered i)))
              (.succeeded s!"Multi-click:{x},{y},{count}")
        else p.run s!"Multi-click:{x},{y},{count}" = .throw (.numeralTooLong ⟨digits.length⟩)) ∧
      ∃ I, Makes (p.run s!"double-click:{x},{y}") I (.succeeded s!"double-click:{x},{y}") ∧
        Makes (p.run s!"Multi-click:{x},{y},2") I (.succeeded s!"Multi-click:{x},{y},2") := by
  refine ⟨fun names => p.expands_shortcut, fun name => p.expands_press, fun x y a b hx hy =>
    ⟨fun name => p.expands_holdClick hx hy, fun count digits n counted positive => ?_, ?_⟩⟩
  · split
    · next short => exact ⟨_, p.makes_click hx hy, p.makes_multiClick hx hy counted short positive⟩
    · next long => exact p.run_multiClick_long hx hy counted (by omega)
  · have two : IntegerText "2".toList ['2'] 2 :=
      .mk .none (List.forall_mem_singleton.2 rfl) (List.cons_ne_nil _ _)
    have made := p.makes_multiClick hx hy two (by decide) (by decide)
    have same : s!"Multi-click:{x},{y}" ++ "," ++ "2" = s!"Multi-click:{x},{y},2" := by
      rw [String.append_assoc]
      rfl
    exact ⟨_, p.makes_doubleClick hx hy, same ▸ made⟩

/-- A modifier in a case of its own, and a key that is pressed twice. -/
theorem composites_expand_repeated_key :
    let p : Player Binary64 := ⟨.standard, chordGestures⟩
    p.ExpandsTo "shortcut:SHIFT+A+A" ["key-down:SHIFT", "key-down:A", "key-down:A",
      "key-up:A", "key-up:A", "key-up:SHIFT"] := by
  intro p
  have shift : KeyText "SHIFT".toList .shiftLeft :=
    ⟨("shift", .shiftLeft), List.mem_append_right _ (by simp [KeyCode.aliases]), by decide +kernel, rfl⟩
  have shiftKey : KeyCode.lookup? "SHIFT" = some .shiftLeft := KeyCode.lookup?_eq_some_iff.2 shift
  have aKey : KeyCode.lookup? "A" = some .a := KeyCode.lookup?_name .a
  exact (composites_expand p).1 ["SHIFT", "A", "A"] (by simp) (by simp [shiftKey, aKey])

end Player

/-- One, written with zeros before it. -/
def paddedOne (zeros : Nat) : String := String.ofList (List.replicate zeros '0' ++ ['1'])

theorem integerText_paddedOne (zeros : Nat) :
    IntegerText (paddedOne zeros).toList (List.replicate zeros '0' ++ ['1']) 1 := by
  have digits : IsDigits (List.replicate zeros '0' ++ ['1']) := by
    intro c hc
    rcases List.mem_append.1 hc with hc | hc
    · exact isDigits_zeros zeros c hc
    · rw [List.mem_singleton.1 hc]
      rfl
  have written := IntegerText.mk .none digits (by simp)
  rw [numeral_zeros] at written
  rw [paddedOne, String.toList_ofList]
  exact written

/-- One click at a place is not played when its count has zeros enough before it. -/
theorem Player.multiClick_paddedOne_without_result :
    let p : Player Binary64 := ⟨.standard, chordGestures⟩
    let x := "1"
    let y := "2"
    let count := paddedOne 4300
    let q := p.run s!"Multi-click:{x},{y},{count}"
    (∃ digits, IntegerText count.toList digits 1) ∧ (∀ r, (Injector.accepting.run q ()).1 ≠ .ok r) ∧
      Injector.accepting.acts q () = [] := by
  intro p x y count q
  have ordered : (Tag.multiClick.readXY x.toList y.toList).isOk = true := by decide +kernel
  cases read : Tag.multiClick.readXY x.toList y.toList with
  | error e =>
    rw [read] at ordered
    cases ordered
  | ok point =>
    obtain ⟨hx, hy⟩ := (Tag.readXY_eq_ok_iff _).1 read
    have long : numeralLimit < (List.replicate 4300 '0' ++ ['1']).length := by
      rw [List.length_append, List.length_replicate]
      decide
    have thrown : q = .throw _ := p.run_multiClick_long hx hy (integerText_paddedOne 4300) long
    rw [thrown]
    refine ⟨⟨_, integerText_paddedOne 4300⟩, fun r hr => ?_, rfl⟩
    cases hr

end InputReplay
