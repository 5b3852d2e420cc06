import InputReplay.Command.Parser

/-! Batches of commands get smaller as they are read: what a batch holds is less text than the
command it was read from, so that a batch within a batch is played in finitely many steps. -/

namespace InputReplay

def total {α : Type} (f : α → Nat) : List α → Nat
  | [] => 0
  | a :: rest => f a + total f rest

/-- How much text a list of commands holds, with a separator after each. -/
def Command.size (commands : List String) : Nat := total (fun c => c.length + 1) commands

/-- How much text an action still has to read. -/
def Action.size : Action → Nat
  | .batch commands => Command.size commands + 1
  | _ => 0

theorem Action.single_or_batch (action : Action) :
    (∀ commands, action ≠ .batch commands) ∨ ∃ commands, action = .batch commands := by
  cases action with
  | batch commands => exact .inr ⟨commands, rfl⟩
  | _ => exact .inl fun commands h => by cases h

/-- How much text a read command still has to read. -/
def Command.restSize (entry : String × Except CommandError Action) : Nat :=
  match entry.2 with
  | .ok a => a.size + 1
  | .error _ => 1

theorem Reading.bind_eq_ok {α β : Type} {x : Reading α} {f : α → Reading β} {b : β}
    (h : x >>= f = .ok b) : ∃ a, x = .ok a ∧ f a = .ok b := by
  cases x with
  | error e => cases h
  | ok a => exact ⟨a, rfl, h⟩

theorem total_length_fields (sep : Char) (text : List Char) :
    total (fun field => field.length + 1) (fields sep text) = text.length + 1 := by
  induction text with
  | nil => rfl
  | cons c rest ih =>
    unfold fields
    split
    · simp only [total, ih, List.length_nil, List.length_cons]; omega
    · split
      · next h => rw [h] at ih; simp [total] at ih
      · next h =>
        rw [h] at ih
        simp only [total, List.length_cons] at ih ⊢
        omega

theorem total_filter_le {α : Type} (p : α → Bool) (f : α → Nat) (xs : List α) :
    total f (xs.filter p) ≤ total f xs := by
  induction xs with
  | nil => exact Nat.le_refl _
  | cons x rest ih =>
    rw [List.filter_cons]
    split <;> simp only [total] <;> omega

theorem total_map {α β : Type} (f : β → Nat) (g : α → β) (xs : List α) :
    total f (xs.map g) = total (f ∘ g) xs := by
  induction xs with
  | nil => rfl
  | cons x rest ih => simp only [List.map_cons, total, ih, Function.comp]

theorem le_total_of_mem {α : Type} (f : α → Nat) {a : α} {as : List α} (ha : a ∈ as) :
    f a ≤ total f as := by
  induction as with
  | nil => cases ha
  | cons b rest ih =>
    unfold total
    rcases List.mem_cons.1 ha with rfl | ha
    · omega
    · have := ih ha
      omega

namespace Tag

variable {tag : Tag} {argument : List Char} {a : Action}

/-- What a batch holds is no more text than its argument. -/
theorem size_le_of_readBatch (h : tag.readBatch argument = .ok a) : a.size ≤ argument.length + 2 := by
  unfold readBatch at h
  simp only at h
  split at h
  · cases h
  · cases h
    simp only [Action.size, Command.size, total_map]
    have := total_filter_le (· ≠ []) (fun field : List Char => field.length + 1) (fields ';' argument)
    rw [total_length_fields] at this
    have same : ((fun c : String => c.length + 1) ∘ String.ofList) =
        fun field : List Char => field.length + 1 := by
      funext field; simp
    rw [same]
    omega

theorem size_of_readArgument (h : tag.readArgument argument = .ok a) (other : tag ≠ .batch) :
    a.size = 0 := by
  unfold readArgument at h
  cases tag
  case batch => exact absurd rfl other
  all_goals simp only at h
  case type => cases h; rfl
  case multiClick =>
    unfold readMultiClick at h
    split at h
    · obtain ⟨_, _, h⟩ := Reading.bind_eq_ok h
      obtain ⟨_, _, h⟩ := Reading.bind_eq_ok h
      cases h; rfl
    · cases h
  case holdClick =>
    unfold readHoldClick at h
    obtain ⟨_, _, h⟩ := Reading.bind_eq_ok h
    obtain ⟨_, _, h⟩ := Reading.bind_eq_ok h
    obtain ⟨_, _, h⟩ := Reading.bind_eq_ok h
    cases h; rfl
  case drag =>
    unfold readDrag at h
    obtain ⟨_, _, h⟩ := Reading.bind_eq_ok h
    split at h <;> cases h
    rfl
  case autocomplete =>
    unfold readAutocomplete at h
    split at h <;> cases h
    rfl
  case touchpad | window =>
    unfold readGesture at h
    split at h
    · split at h <;> cases h
      rfl
    · cases h
  all_goals
    obtain ⟨_, _, h⟩ := Reading.bind_eq_ok h
    cases h; rfl

end Tag

namespace Command

theorem append_of_splitFirst? {sep : Char} {text before after : List Char}
    (h : splitFirst? sep text = some (before, after)) : text = before ++ sep :: after := by
  induction text generalizing before with
  | nil => cases h
  | cons c rest ih =>
    unfold splitFirst? at h
    split at h
    · next same =>
      cases h
      rw [same]
      rfl
    · obtain ⟨⟨b, a⟩, hr, h⟩ := Option.map_eq_some_iff.1 h
      cases h
      rw [ih hr]
      rfl

theorem append_of_split {text word argument : List Char}
    (h : (split text).mapError ReadFault.rejected = .ok (word, argument)) :
    text = word ++ ':' :: argument := by
  unfold split at h
  split at h
  · next cut =>
    cases h
    exact append_of_splitFirst? cut
  · cases h

theorem text_of_ofOption {word : String} {error : CommandError} {tag : Tag}
    (h : Reading.ofOption error (Tag.ofText? word) = .ok tag) : tag.text = word := by
  unfold Reading.ofOption at h
  split at h
  · next found =>
    cases h
    exact eq_of_beq (List.find?_some (p := fun t : Tag => t.text == word) found)
  · cases h

theorem length_dropEnd_le (p : Char → Bool) (text : List Char) :
    (dropEnd p text).length ≤ text.length := by
  have := (List.dropWhile_sublist p (l := text.reverse)).length_le
  simpa [dropEnd] using this

theorem size_le_of_parseLine {text : List Char} {a : Action} (h : parseLine text = .ok a) :
    a.size + 4 ≤ text.length ∨ a.size = 0 := by
  unfold parseLine at h
  obtain ⟨⟨word, argument⟩, hs, h⟩ := Reading.bind_eq_ok h
  obtain ⟨tag, ht, h⟩ := Reading.bind_eq_ok h
  split at h
  · cases h
  · by_cases other : tag = .batch
    · subst other
      left
      have size := Tag.size_le_of_readBatch h
      have named : word = Tag.batch.text.toList := by
        rw [text_of_ofOption ht, String.toList_ofList]
      have long : Tag.batch.text.toList.length = 5 := rfl
      rw [append_of_split hs, named, List.length_append, List.length_cons]
      omega
    · exact .inr (Tag.size_of_readArgument h other)

/-- What a command holds is less text than the command. -/
theorem size_le_of_parse {raw : String} {a : Action} (h : parse raw = .ok a) :
    a.size ≤ raw.length := by
  have := length_dropEnd_le isLineEnd raw.toList
  rw [String.length_toList] at this
  rcases size_le_of_parseLine h with h | h <;> omega

/-- The commands of a batch are shorter than the batch. -/
theorem length_lt_of_mem {raw c : String} {commands : List String}
    (read : parse raw = .ok (.batch commands)) (hc : c ∈ commands) : c.length < raw.length := by
  have batch := size_le_of_parse read
  have part := le_total_of_mem (fun c => c.length + 1) hc
  simp only [Action.size, Command.size] at batch
  omega

/-- What holds of a command when it holds of the commands of the batch that it is, holds of every command. -/
@[elab_as_elim]
theorem inductionOn {motive : String → Prop} (raw : String)
    (step : ∀ raw, (∀ commands, parse raw = .ok (.batch commands) → ∀ c ∈ commands, motive c) → motive raw) :
    motive raw := by
  induction hn : raw.length using Nat.strongRecOn generalizing raw with | _ n ih
  subst hn
  exact step raw fun commands read c hc => ih c.length (length_lt_of_mem read hc) c rfl

/-- Reading every command of a list leaves no more text to read than the list holds. -/
theorem total_restSize_le {commands : List String}
    {entries : List (String × Except CommandError Action)} (h : expand commands = .ok entries) :
    total restSize entries ≤ size commands := by
  induction commands generalizing entries with
  | nil => cases h; exact Nat.le_refl _
  | cons raw more ih =>
    unfold expand at h
    cases hm : expand more with
    | error n => rw [hm] at h; split at h <;> cases h
    | ok rest =>
      rw [hm] at h
      have tail := ih hm
      simp only [size] at tail
      split at h
      · next a ha =>
        cases h
        have := size_le_of_parse ha
        simp only [total, restSize, size]
        omega
      · cases h
        simp only [total, restSize, size]
        omega
      · cases h

end Command

end InputReplay
