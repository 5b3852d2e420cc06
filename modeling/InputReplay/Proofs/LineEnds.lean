import InputReplay.Proofs.Saving
import Mathlib.Data.List.Forall2

/-! A recorded log in a file whose lines are ended in any mixture of ways. Where a carriage return is followed by the
line feed of an empty line the two are one end, so that the lines of the file are not always the lines that were put
into it; but they differ in empty lines after the first only, and these have no entry. -/

namespace InputReplay

/-- The ways to end a line. -/
inductive LineEnd
  | feed
  | carriage
  | both

namespace LineEnd

def text : LineEnd → List Char
  | feed => ['\n']
  | carriage => ['\r']
  | both => ['\r', '\n']

/-- Whether a line feed that follows would belong to the end. -/
def takesFeed : LineEnd → Bool
  | carriage => true
  | _ => false

end LineEnd

/-- Lines and a text that they make, each with an end of its own. The last need not be ended. -/
inductive Ended : List (List Char) → List Char → Prop
  | nil : Ended [] []
  | last {line} (one : IsOneLine line) : Ended [line] line
  | cons {line more text} (one : IsOneLine line) (e : LineEnd) (rest : Ended more text) :
      Ended (line :: more) (line ++ (e.text ++ text))

instance : DecidablePred IsOneLine := fun _ => inferInstanceAs (Decidable (_ ∧ _))

theorem IsOneLine.of_cons {c : Char} {text : List Char} (h : IsOneLine (c :: text)) :
    (c ≠ '\r' ∧ c ≠ '\n') ∧ IsOneLine text := by
  obtain ⟨noReturn, cleanReturn⟩ := List.ne_and_not_mem_of_not_mem_cons h.1
  obtain ⟨noFeed, cleanFeed⟩ := List.ne_and_not_mem_of_not_mem_cons h.2
  exact ⟨⟨noReturn.symm, noFeed.symm⟩, cleanReturn, cleanFeed⟩

/-- A character that ends no line settles what came before it. -/
theorem plainEnds_cons {c : Char} (plain : c ≠ '\r' ∧ c ≠ '\n') (afterReturn : Bool) (rest : List Char) :
    plainEnds afterReturn (c :: rest) = c :: plainEnds false rest := by
  rw [plainEnds, if_neg plain.1, if_neg fun h => plain.2 h.1]

theorem plainEnds_append {line : List Char} (one : IsOneLine line) (rest : List Char) :
    plainEnds false (line ++ rest) = line ++ plainEnds false rest := by
  induction line with
  | nil => rfl
  | cons c more ih =>
    obtain ⟨plain, one⟩ := one.of_cons
    rw [List.cons_append, plainEnds_cons plain, ih one, List.cons_append]

theorem plainEnds_end (e : LineEnd) (rest : List Char) :
    plainEnds false (e.text ++ rest) = '\n' :: plainEnds e.takesFeed rest := by
  cases e <;> rfl

/-- The end of a line is one of its own, unless a carriage return came before, the line is empty and its end is a line
feed. -/
theorem plainEnds_line (afterReturn : Bool) {line : List Char} (one : IsOneLine line) (e : LineEnd)
    (rest : List Char) :
    plainEnds afterReturn (line ++ (e.text ++ rest)) = line ++ '\n' :: plainEnds e.takesFeed rest ∨
      (line = [] ∧ e = .feed ∧ afterReturn = true) := by
  cases line with
  | nil =>
    cases e with
    | feed =>
      cases afterReturn with
      | false => exact .inl rfl
      | true => exact .inr ⟨rfl, rfl, rfl⟩
    | carriage => exact .inl rfl
    | both => exact .inl rfl
  | cons c more =>
    obtain ⟨plain, one⟩ := one.of_cons
    refine .inl ?_
    rw [List.cons_append, plainEnds_cons plain, plainEnds_append one, plainEnds_end, List.cons_append]

theorem plainEnds_last (afterReturn : Bool) {line : List Char} (one : IsOneLine line) :
    plainEnds afterReturn line = line := by
  cases line with
  | nil => rfl
  | cons c more =>
    obtain ⟨plain, one⟩ := one.of_cons
    rw [plainEnds_cons plain, plainEnds_of_no_return one.1]

/-- The lines of a text are its fields, but that nothing after the last line end is no line. -/
theorem fields_eq_lines (text : List Char) :
    fields '\n' (plainEnds false text) = lines text ∨ fields '\n' (plainEnds false text) = lines text ++ [[]] := by
  unfold lines
  dsimp only
  split
  · next last =>
    obtain ⟨front, cut⟩ := List.getLast?_eq_some_iff.1 last
    rw [cut, List.dropLast_concat]
    exact .inr rfl
  · exact .inl rfl

/-- The lines that are not empty. -/
def filled (ls : List (List Char)) : List (List Char) := ls.filter fun l => !l.isEmpty

@[simp]
theorem filled_append (ls more : List (List Char)) : filled (ls ++ more) = filled ls ++ filled more :=
  List.filter_append ..

@[simp]
theorem filled_empty : filled [[]] = [] := rfl

theorem filled_nil_cons (ls : List (List Char)) : filled ([] :: ls) = filled ls := rfl

theorem filled_cons_congr {ls more : List (List Char)} (h : filled ls = filled more) (l : List Char) :
    filled (l :: ls) = filled (l :: more) := by
  change filled ([l] ++ ls) = filled ([l] ++ more)
  rw [filled_append, filled_append, h]

theorem filterMap_filled {α : Type} {f : List Char → Option α} (empty : f [] = none)
    (ls : List (List Char)) : (filled ls).filterMap f = ls.filterMap f := by
  rw [filled, List.filterMap_filter]
  refine List.filterMap_congr fun l _ => ?_
  cases l with
  | nil => exact empty.symm
  | cons c more => rfl

namespace Ended

variable {ls : List (List Char)} {text : List Char}

/-- Whatever came before a text, its lines are those that were put into it, but for empty ones. -/
theorem filled_fields (h : Ended ls text) (afterReturn : Bool) :
    filled (fields '\n' (plainEnds afterReturn text)) = filled ls := by
  -- The end of each line tells whether a carriage return comes before the next.
  induction h generalizing afterReturn with
  | nil => rfl
  | last one => rw [plainEnds_last afterReturn one, fields_of_not_mem one.2]
  | @cons line more text one e rest ih =>
    rcases plainEnds_line afterReturn one e text with plain | ⟨rfl, rfl, rfl⟩
    · rw [plain, fields_append one.2]
      exact filled_cons_congr (ih _) line
    · exact (ih false).trans (filled_nil_cons more).symm

/-- The first line is the one that was put first. -/
theorem fields_eq (h : Ended ls text) :
    ∃ more, fields '\n' (plainEnds false text) = ls.headD [] :: more ∧ filled more = filled ls.tail := by
  cases h with
  | nil => exact ⟨[], rfl, rfl⟩
  | last one => exact ⟨[], by rw [plainEnds_last false one, fields_of_not_mem one.2]; rfl, rfl⟩
  | @cons line more text one e rest =>
    rcases plainEnds_line false one e text with plain | ⟨-, -, other⟩
    · exact ⟨_, by rw [plain, fields_append one.2]; rfl, rest.filled_fields _⟩
    · cases other

/-- The lines of a text have the first line that was put into it, and after it the same lines but for empty ones. -/
theorem lines_resemble (h : Ended ls text) :
    (lines text).headD [] = ls.headD [] ∧ filled (lines text).tail = filled ls.tail := by
  obtain ⟨more, cut, same⟩ := h.fields_eq
  rw [← same]
  rcases fields_eq_lines text with whole | ended
  · rw [← whole, cut]
    exact ⟨rfl, rfl⟩
  · -- What was dropped is an empty line, and the first one only if there is no other.
    rw [cut] at ended
    cases all : lines text with
    | nil =>
      rw [all] at ended
      obtain ⟨first, rfl⟩ := List.cons_eq_cons.1 ended
      exact ⟨first.symm, rfl⟩
    | cons first rest =>
      rw [all] at ended
      obtain ⟨rfl, rfl⟩ := List.cons_eq_cons.1 ended
      exact ⟨rfl, by simp⟩

end Ended

namespace RecordedLog

/-- Only the first line matters as a line, and of the others those that are not empty. -/
theorem ofLines_eq (ls : List (List Char)) :
    ofLines ls = if strip (ls.headD []) = heading.toList then (filled ls.tail).filterMap timedEntry?
      else ( plainEntry? (ls.headD [])).toList ++ (filled ls.tail).filterMap plainEntry? := by
  have timed : timedEntry? [] = none := rfl
  have plain : plainEntry? [] = none := rfl
  cases ls with
  | nil => rfl
  | cons first rest =>
    rw [List.headD_cons, List.tail_cons, filterMap_filled timed, filterMap_filled plain, ofLines]
    split
    · rfl
    · rw [List.filterMap_cons]
      cases plainEntry? first <;> rfl

theorem ofText_ended {ls : List (List Char)} {text : List Char} (h : Ended ls text) : ofText text = ofLines ls := by
  obtain ⟨first, rest⟩ := h.lines_resemble
  rw [ofText, ofLines_eq, ofLines_eq ls, first, rest]

/-- Whether a line is the heading, with blanks before and after it. -/
def IsTitle (line : List Char) : Prop :=
  ∃ before after, line = before ++ (heading.toList ++ after) ∧ (∀ c ∈ before, isBlank c) ∧ ∀ c ∈ after, isBlank c

theorem strip_eq_heading_iff {line : List Char} : strip line = heading.toList ↔ IsTitle line := by
  have last : ∀ c ∈ heading.toList.getLast?, isBlank c = false := by simp [heading, isBlank]
  rw [strip, dropEnd_eq_iff]
  constructor
  · rintro ⟨⟨after, whole, each⟩, -⟩
    refine ⟨line.takeWhile isBlank, after, ?_, fun c => List.mem_takeWhile_imp, each⟩
    rw [← whole, List.takeWhile_append_dropWhile]
  · rintro ⟨before, after, rfl, each, each'⟩
    refine ⟨⟨after, ?_, each'⟩, last⟩
    rw [List.dropWhile_append_of_pos each]
    rfl

/-- An entry whose time stands before the first comma of a line. -/
def Timed (line : List Char) (e : LogEntry) : Prop :=
  ∃ time, e.time = some time ∧ line = time.toList ++ ',' :: e.command.toList ∧ ',' ∉ time.toList

/-- An entry that is a line. -/
def Untimed (line : List Char) (e : LogEntry) : Prop := e.time = none ∧ e.command.toList = line

/-- The log that lines are: the first line tells of what kind they are. -/
inductive IsLogOf : List (List Char) → RecordedLog → Prop
  | timed {first rest log} (title : IsTitle first)
      (entries : List.Forall₂ Timed (rest.filter fun l => !isBlankLine l && l.contains ',') log) :
      IsLogOf (first :: rest) log
  | untimed {ls log} (other : ∀ first ∈ ls.head?, ¬ IsTitle first)
      (entries : List.Forall₂ Untimed (ls.filter fun l => !isBlankLine l) log) : IsLogOf ls log

theorem forall₂_filter_iff {α β : Type} {keep : α → Bool} {R : α → β → Prop} {g : α → Option β}
    (kept : ∀ a, keep a = (g a).isSome) (value : ∀ a, keep a = true → ∀ b, R a b ↔ g a = some b)
    {as : List α} {bs : List β} : List.Forall₂ R (as.filter keep) bs ↔ as.filterMap g = bs := by
  induction as generalizing bs with
  | nil => exact List.forall₂_nil_left_iff.trans eq_comm
  | cons a rest ih =>
    cases made : g a with
    | none =>
      have left : keep a = false := by rw [kept, made]; rfl
      rw [List.filter_cons_of_neg (by rw [left]; decide), List.filterMap_cons_none made, ih]
    | some b =>
      have right : keep a = true := by rw [kept, made]; rfl
      rw [List.filter_cons_of_pos right, List.filterMap_cons_some made, List.forall₂_cons_left_iff]
      constructor
      · rintro ⟨other, more, own, others, rfl⟩
        rw [value a right, made] at own
        cases own
        rw [ih.1 others]
      · rintro rfl
        exact ⟨b, _, (value a right b).2 made, ih.2 rfl, rfl⟩

theorem isSome_splitFirst? (sep : Char) (text : List Char) : (splitFirst? sep text).isSome = text.contains sep := by
  rw [Bool.eq_iff_iff, List.contains_iff_mem, Option.isSome_iff_exists]
  constructor
  · rintro ⟨⟨before, after⟩, cut⟩
    rw [(splitFirst?_eq_some_iff.1 cut).1]
    exact List.mem_append_right _ List.mem_cons_self
  · intro mem
    obtain ⟨before, after, rfl, clean⟩ := List.eq_append_cons_of_mem mem
    exact ⟨_, splitFirst?_append clean after⟩

theorem timedEntry?_eq (line : List Char) :
    timedEntry? line = if isBlankLine line then none else
      (splitFirst? ',' line).map fun parts => ⟨some (String.ofList parts.1), String.ofList parts.2⟩ := by
  unfold timedEntry?
  cases isBlankLine line with
  | true => rfl
  | false => cases splitFirst? ',' line <;> rfl

theorem isSome_timedEntry? (line : List Char) :
    (!isBlankLine line && line.contains ',') = ( timedEntry? line).isSome := by
  rw [timedEntry?_eq, ← isSome_splitFirst?]
  cases isBlankLine line with
  | true => rfl
  | false => exact (Option.isSome_map ..).symm

theorem timed_iff {line : List Char} (full : isBlankLine line = false) (e : LogEntry) :
    Timed line e ↔ timedEntry? line = some e := by
  rw [timedEntry?_eq, full, if_neg Bool.false_ne_true, Option.map_eq_some_iff]
  constructor
  · rintro ⟨time, known, whole, first⟩
    refine ⟨_, splitFirst?_eq_some_iff.2 ⟨whole, first⟩, ?_⟩
    rw [String.ofList_toList, String.ofList_toList, ← known]
  · rintro ⟨⟨time, command⟩, cut, rfl⟩
    obtain ⟨whole, first⟩ := splitFirst?_eq_some_iff.1 cut
    exact ⟨_, rfl, by simpa using whole, by simpa using first⟩

theorem isSome_plainEntry? (line : List Char) : (!isBlankLine line) = ( plainEntry? line).isSome := by
  unfold plainEntry?
  cases isBlankLine line <;> rfl

theorem untimed_iff {line : List Char} (full : isBlankLine line = false) (e : LogEntry) :
    Untimed line e ↔ plainEntry? line = some e := by
  unfold plainEntry?
  rw [full, if_neg Bool.false_ne_true, Option.some.injEq]
  constructor
  · rintro ⟨unknown, rfl⟩
    rw [String.ofList_toList, ← unknown]
  · rintro rfl
    exact ⟨rfl, String.toList_ofList⟩

theorem forall₂_timed_iff {ls : List (List Char)} {log : RecordedLog} :
    List.Forall₂ Timed (ls.filter fun l => !isBlankLine l && l.contains ',') log ↔ ls.filterMap timedEntry? = log :=
  forall₂_filter_iff isSome_timedEntry? fun _ kept => timed_iff (by simpa using (Bool.and_eq_true_iff.1 kept).1)

theorem forall₂_untimed_iff {ls : List (List Char)} {log : RecordedLog} :
    List.Forall₂ Untimed (ls.filter fun l => !isBlankLine l) log ↔ ls.filterMap plainEntry? = log :=
  forall₂_filter_iff isSome_plainEntry? fun _ kept => untimed_iff (by simpa using kept)

theorem isLogOf_iff {ls : List (List Char)} {log : RecordedLog} : IsLogOf ls log ↔ ofLines ls = log := by
  cases ls with
  | nil =>
    constructor
    · rintro (_ | ⟨-, entries⟩)
      exact forall₂_untimed_iff.1 entries
    · exact fun made => .untimed (by rintro _ ⟨⟩) (forall₂_untimed_iff.2 made)
  | cons first rest =>
    rw [ofLines]
    constructor
    · rintro (⟨title, entries⟩ | ⟨other, entries⟩)
      · rw [if_pos (strip_eq_heading_iff.2 title)]
        exact forall₂_timed_iff.1 entries
      · rw [if_neg fun title => other first rfl (strip_eq_heading_iff.1 title)]
        exact forall₂_untimed_iff.1 entries
    · split
      · next title => exact fun made => .timed (strip_eq_heading_iff.1 title) (forall₂_timed_iff.2 made)
      · next other =>
        refine fun made => .untimed ?_ (forall₂_untimed_iff.2 made)
        rintro _ ⟨⟩ title
        exact other (strip_eq_heading_iff.2 title)

/-- The log in a file is that of the lines that were put into it, however they are ended. -/
theorem ofBytes_ended (ls : List (List Char)) :
    ∃ log, (∀ other, IsLogOf ls other ↔ log = other) ∧
      ∀ text, Ended ls text → ofBytes (Utf8.encode (String.ofList text)) = .ok log := by
  refine ⟨ofLines ls, fun other => isLogOf_iff, fun text ended => ?_⟩
  rw [ofBytes_encode, String.toList_ofList, ofText_ended ended]

/-- Of six lines the first two are ended with what would end one, the fifth is blank, and the last has a separator of
lines in it that ends none. -/
theorem ofBytes_ended_merged :
    let ls := [" Timestamp,Command\t", "", "1,type:a,b", "no time", " ", "2,\u2028press:a"].map String.toList
    let text := " Timestamp,Command\t\r\n1,type:a,b\r\nno time\r \n2,\u2028press:a"
    Ended ls text.toList ∧
      ofBytes (Utf8.encode text) = .ok [⟨some "1", "type:a,b"⟩, ⟨some "2", "\u2028press:a"⟩] := by
  intro ls text
  have made :=
    @Ended.cons " Timestamp,Command\t".toList _ _ (by decide) .carriage <|
    @Ended.cons "".toList _ _ (by decide) .feed <|
    @Ended.cons "1,type:a,b".toList _ _ (by decide) .both <|
    @Ended.cons "no time".toList _ _ (by decide) .carriage <|
    @Ended.cons " ".toList _ _ (by decide) .feed <|
    @Ended.last "2,\u2028press:a".toList (by decide)
  have ended : Ended ls text.toList := (congrArg (Ended ls) (by decide)).mp made
  obtain ⟨log, same, read⟩ := ofBytes_ended ls
  have title : IsTitle " Timestamp,Command\t".toList := ⟨[' '], ['\t'], by decide, by simp [isBlank], by simp [isBlank]⟩
  have own := read _ ended
  rw [String.ofList_toList, (same _).1 (.timed title (forall₂_timed_iff.2 rfl))] at own
  exact ⟨ended, own⟩

end RecordedLog
end InputReplay
