import InputReplay.Command.Batch
import Mathlib.Data.List.Basic
import Mathlib.Data.List.TakeWhile

/-! Texts that are cut at their end or at a separator. Cutting a text at its first separator, or at every one,
undoes putting separators between parts that hold none, and no other parts are ever found. -/

namespace InputReplay

variable {sep : Char} {text : List Char}

theorem dropEnd_eq_self {p : Char → Bool} {text : List Char} (h : ∀ c ∈ text.getLast?, p c = false) :
    dropEnd p text = text := by
  unfold dropEnd
  rw [← List.head?_reverse] at h
  cases hr : text.reverse with
  | nil => rw [List.reverse_eq_nil_iff.1 hr]; rfl
  | cons c rest =>
    rw [hr] at h
    rw [List.dropWhile_cons_of_neg (by simp [h c rfl]), ← hr, List.reverse_reverse]

theorem dropEnd_append {p : Char → Bool} {ends : List Char} (each : ∀ c ∈ ends, p c = true) (text : List Char) :
    dropEnd p (text ++ ends) = dropEnd p text := by
  unfold dropEnd
  rw [List.reverse_append, List.dropWhile_append_of_pos fun c hc => each c (List.mem_reverse.1 hc)]

/-- The end of a text is dropped as far as its characters go with it, and no further. -/
theorem dropEnd_eq_iff {p : Char → Bool} {start : List Char} :
    dropEnd p text = start ↔
      (∃ ends, text = start ++ ends ∧ ∀ c ∈ ends, p c = true) ∧ ∀ c ∈ start.getLast?, p c = false := by
  constructor
  · rintro rfl
    refine ⟨⟨(text.reverse.takeWhile p).reverse, ?_, fun c hc => ?_⟩, fun c hc => ?_⟩
    · rw [dropEnd, ← List.reverse_append, List.takeWhile_append_dropWhile, List.reverse_reverse]
    · exact List.mem_takeWhile_imp (List.mem_reverse.1 hc)
    · rw [dropEnd, List.getLast?_reverse] at hc
      have first := List.head?_dropWhile_not p text.reverse
      rwa [Option.mem_def.1 hc] at first
  · rintro ⟨⟨ends, rfl, each⟩, last⟩
    rw [dropEnd_append each, dropEnd_eq_self last]

/-- A character that stays keeps what is before it from being dropped. -/
theorem dropEnd_append_cons {p : Char → Bool} {c : Char} (stays : p c = false) (before rest : List Char) :
    dropEnd p (before ++ c :: rest) = before ++ c :: dropEnd p rest := by
  obtain ⟨⟨ends, cut, each⟩, last⟩ := dropEnd_eq_iff.1 (rfl : dropEnd p rest = dropEnd p rest)
  refine dropEnd_eq_iff.2 ⟨⟨ends, ?_, each⟩, fun e he => ?_⟩
  · rw [List.append_assoc, List.cons_append, ← cut]
  · rw [List.getLast?_append_of_ne_nil _ (List.cons_ne_nil _ _), List.getLast?_cons] at he
    cases found : (dropEnd p rest).getLast? with
    | none =>
      rw [found] at he
      cases he
      exact stays
    | some d =>
      rw [found] at he
      cases he
      exact last d found

/-- A text is cut at the first separator in it. -/
theorem splitFirst?_append {before : List Char} (clean : sep ∉ before) (after : List Char) :
    splitFirst? sep (before ++ sep :: after) = some (before, after) := by
  induction before with
  | nil => exact if_pos rfl
  | cons c rest ih =>
    obtain ⟨other, clean⟩ := List.ne_and_not_mem_of_not_mem_cons clean
    rw [List.cons_append, splitFirst?, if_neg (Ne.symm other), ih clean]
    rfl

theorem not_mem_of_splitFirst? {before after : List Char}
    (h : splitFirst? sep text = some (before, after)) : sep ∉ before := by
  induction text generalizing before with
  | nil => cases h
  | cons c rest ih =>
    rw [splitFirst?] at h
    split at h
    · cases h
      exact List.not_mem_nil
    · next other =>
      obtain ⟨⟨first, second⟩, cut, same⟩ := Option.map_eq_some_iff.1 h
      cases same
      intro mem
      rcases List.mem_cons.1 mem with same | mem
      · exact other same.symm
      · exact ih cut mem

theorem splitFirst?_eq_some_iff {before after : List Char} :
    splitFirst? sep text = some (before, after) ↔ text = before ++ sep :: after ∧ sep ∉ before := by
  constructor
  · intro h
    exact ⟨Command.append_of_splitFirst? h, not_mem_of_splitFirst? h⟩
  · rintro ⟨rfl, clean⟩
    exact splitFirst?_append clean after

theorem fields_append {field : List Char} (clean : sep ∉ field) (rest : List Char) :
    fields sep (field ++ sep :: rest) = field :: fields sep rest := by
  induction field with
  | nil => exact if_pos rfl
  | cons c more ih =>
    obtain ⟨other, clean⟩ := List.ne_and_not_mem_of_not_mem_cons clean
    rw [List.cons_append, fields, if_neg (Ne.symm other), ih clean]

theorem fields_eq_splitOn (sep : Char) (text : List Char) : fields sep text = text.splitOn sep := by
  induction text with
  | nil => rfl
  | cons c rest ih =>
    rw [List.splitOn_cons_eq_if_modifyHead, ← ih, fields]
    by_cases h : c = sep
    · simp [h]
    · rw [if_neg h, if_neg (by simpa using h)]
      cases hf : fields sep rest with
      | nil =>
        rw [ih] at hf
        exact absurd hf (List.splitOn_ne_nil sep rest)
      | cons field more => rfl

theorem fields_of_not_mem (clean : sep ∉ text) : fields sep text = [text] := by
  rw [fields_eq_splitOn, List.splitOn_eq_singleton clean]

/-- The fields of a text hold its characters, but no separator. -/
theorem mem_of_mem_fields {field : List Char} (hf : field ∈ fields sep text) {c : Char} (hc : c ∈ field) :
    c ∈ text ∧ c ≠ sep := by
  induction text generalizing field with
  | nil =>
    rw [List.mem_singleton.1 hf] at hc
    cases hc
  | cons first rest ih =>
    rw [fields] at hf
    split at hf
    · rcases List.mem_cons.1 hf with rfl | hf
      · cases hc
      · exact (ih hf hc).imp_left (List.mem_cons_of_mem first)
    · next other =>
      cases cut : fields sep rest with
      | nil =>
        rw [fields_eq_splitOn] at cut
        exact absurd cut (List.splitOn_ne_nil sep rest)
      | cons head more =>
        rw [cut] at hf ih
        rcases List.mem_cons.1 hf with rfl | hf
        · rcases List.mem_cons.1 hc with rfl | hc
          · exact ⟨List.mem_cons_self, other⟩
          · exact (ih List.mem_cons_self hc).imp_left (List.mem_cons_of_mem first)
        · exact (ih (List.mem_cons_of_mem head hf) hc).imp_left (List.mem_cons_of_mem first)

theorem fields_eq_iff {parts : List (List Char)} :
    fields sep text = parts ↔ parts ≠ [] ∧ (∀ part ∈ parts, sep ∉ part) ∧ text = [sep].intercalate parts := by
  constructor
  · rintro rfl
    refine ⟨?_, fun part hp mem => (mem_of_mem_fields hp mem).2 rfl, ?_⟩
    · rw [fields_eq_splitOn]
      exact List.splitOn_ne_nil sep text
    · rw [fields_eq_splitOn, List.intercalate_splitOn]
  · rintro ⟨full, clean, rfl⟩
    rw [fields_eq_splitOn]
    exact List.splitOn_intercalate sep clean full

/-- A text has a first field and others just if it is this field, a separator and a text with the others. -/
theorem fields_eq_cons_iff {part : List Char} {more : List (List Char)} (others : more ≠ []) :
    fields sep text = part :: more ↔ ∃ rest, text = part ++ sep :: rest ∧ sep ∉ part ∧ fields sep rest = more := by
  constructor
  · intro cut
    obtain ⟨-, clean, joined⟩ := fields_eq_iff.1 cut
    refine ⟨[sep].intercalate more, ?_, clean part List.mem_cons_self, ?_⟩
    · rw [joined, List.intercalate_cons_of_ne_nil others]
      simp
    · exact fields_eq_iff.2 ⟨others, fun part hp => clean part (List.mem_cons_of_mem _ hp), rfl⟩
  · rintro ⟨rest, rfl, clean, rfl⟩
    exact fields_append clean rest

theorem fields_eq_singleton_iff {part : List Char} : fields sep text = [part] ↔ text = part ∧ sep ∉ part := by
  rw [fields_eq_iff]
  constructor
  · rintro ⟨-, clean, joined⟩
    exact ⟨by simpa using joined, clean part List.mem_cons_self⟩
  · rintro ⟨rfl, clean⟩
    exact ⟨List.cons_ne_nil _ _, by simpa using clean, by simp⟩

end InputReplay
