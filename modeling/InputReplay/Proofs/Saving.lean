import InputReplay.Log.Basic
import InputReplay.Proofs.Fields
import InputReplay.Proofs.Utf8

/-! A log that is saved and loaded again. Its written form is a list of lines, and each line falls apart at its
first comma: what has no comma in its times and no line end anywhere comes back as it was. What was loaded is
always of this kind, so nothing else comes back. -/

namespace InputReplay

/-- Whether a text has no line end in it. -/
def IsOneLine (text : List Char) : Prop := '\r' ∉ text ∧ '\n' ∉ text

theorem IsOneLine.append {before after : List Char} (h : IsOneLine before) (h' : IsOneLine after) :
    IsOneLine (before ++ after) := by
  constructor
  · exact fun mem => (List.mem_append.1 mem).elim h.1 h'.1
  · exact fun mem => (List.mem_append.1 mem).elim h.2 h'.2

theorem IsOneLine.of_append {before after : List Char} (h : IsOneLine (before ++ after)) :
    IsOneLine before ∧ IsOneLine after := by
  simp only [IsOneLine, List.mem_append, not_or] at h
  exact ⟨⟨h.1.1, h.2.1⟩, ⟨h.1.2, h.2.2⟩⟩

theorem IsOneLine.cons {c : Char} {text : List Char} (noReturn : c ≠ '\r') (noFeed : c ≠ '\n')
    (h : IsOneLine text) : IsOneLine (c :: text) :=
  ⟨List.not_mem_cons_of_ne_of_not_mem noReturn.symm h.1, List.not_mem_cons_of_ne_of_not_mem noFeed.symm h.2⟩

theorem not_mem_plainEnds (afterReturn : Bool) (text : List Char) : '\r' ∉ plainEnds afterReturn text := by
  induction text generalizing afterReturn with
  | nil => exact List.not_mem_nil
  | cons c rest ih =>
    rw [plainEnds]
    split
    · exact List.not_mem_cons_of_ne_of_not_mem (by decide) (ih true)
    · next other =>
      split
      · exact ih false
      · exact List.not_mem_cons_of_ne_of_not_mem (Ne.symm other) (ih false)

theorem plainEnds_of_no_return {text : List Char} (clean : '\r' ∉ text) : plainEnds false text = text := by
  induction text with
  | nil => rfl
  | cons c rest ih =>
    obtain ⟨other, clean⟩ := List.ne_and_not_mem_of_not_mem_cons clean
    rw [plainEnds, if_neg (Ne.symm other), if_neg (fun h => Bool.false_ne_true h.2), ih clean]

theorem fields_ended {ls : List (List Char)} (each : ∀ l ∈ ls, IsOneLine l) :
    fields '\n' (ls.flatMap (· ++ ['\n'])) = ls ++ [[]] := by
  induction ls with
  | nil => rfl
  | cons l rest ih =>
    obtain ⟨first, others⟩ := List.forall_mem_cons.1 each
    rw [List.flatMap_cons, List.append_assoc, List.singleton_append, fields_append first.2, ih others]
    rfl

/-- Lines that are ended are the lines of their text. -/
theorem lines_ended {ls : List (List Char)} (each : ∀ l ∈ ls, IsOneLine l) :
    lines (ls.flatMap (· ++ ['\n'])) = ls := by
  have clean : '\r' ∉ ls.flatMap (· ++ ['\n']) := by
    intro h
    obtain ⟨l, hl, h⟩ := List.mem_flatMap.1 h
    rcases List.mem_append.1 h with h | h
    · exact (each l hl).1 h
    · cases List.mem_singleton.1 h
  unfold lines
  rw [plainEnds_of_no_return clean, fields_ended each]
  simp

/-- No line of a text has a line end in it. -/
theorem isOneLine_of_mem_lines {text l : List Char} (hl : l ∈ lines text) : IsOneLine l := by
  have field : l ∈ fields '\n' (plainEnds false text) := by
    unfold lines at hl
    dsimp only at hl
    split at hl
    · exact List.dropLast_subset _ hl
    · exact hl
  constructor
  · intro mem
    exact not_mem_plainEnds false text (mem_of_mem_fields field mem).1
  · intro mem
    exact (mem_of_mem_fields field mem).2 rfl

namespace LogEntry

/-- An entry is written on one line, with its time before the first comma. -/
structure IsPlain (e : LogEntry) : Prop where
  noComma : ',' ∉ (e.time.getD "").toList
  time : IsOneLine (e.time.getD "").toList
  command : IsOneLine e.command.toList

/-- An entry as it is loaded: a time that was not known is empty. -/
def loaded (e : LogEntry) : LogEntry := ⟨some (e.time.getD ""), e.command⟩

theorem isPlain_loaded_iff {e : LogEntry} : e.loaded.IsPlain ↔ e.IsPlain :=
  ⟨fun h => ⟨h.noComma, h.time, h.command⟩, fun h => ⟨h.noComma, h.time, h.command⟩⟩

end LogEntry

namespace RecordedLog

/-- The line of an entry, without its end. -/
def entryLine (e : LogEntry) : List Char := (e.time.getD "").toList ++ ',' :: e.command.toList

theorem toList_text (log : RecordedLog) :
    (text log).toList = (heading.toList :: log.map entryLine).flatMap (· ++ ['\n']) := by
  have each : (fun e => (line e).toList) = fun e => entryLine e ++ ['\n'] := by
    funext e
    simp [line, entryLine]
  unfold text
  rw [String.toList_append, String.toList_append, String.toList_join, List.flatMap_map, each,
    List.flatMap_cons, List.flatMap_map]
  rfl

theorem isOneLine_entryLine {e : LogEntry} (plain : e.IsPlain) : IsOneLine (entryLine e) :=
  plain.time.append (plain.command.cons (by decide) (by decide))

theorem timedEntry?_entryLine {e : LogEntry} (plain : e.IsPlain) :
    timedEntry? (entryLine e) = some e.loaded := by
  have full : isBlankLine (entryLine e) = false := by
    unfold isBlankLine entryLine
    rw [List.all_append, List.all_cons]
    simp [isBlank]
  have cut : splitFirst? ',' (entryLine e) = some ((e.time.getD "").toList, e.command.toList) :=
    splitFirst?_append plain.noComma _
  unfold timedEntry?
  rw [full, cut]
  change some (LogEntry.mk (some (String.ofList _)) (String.ofList _)) = _
  rw [String.ofList_toList, String.ofList_toList]
  rfl

theorem filterMap_entryLine {log : RecordedLog} (plain : ∀ e ∈ log, e.IsPlain) :
    (log.map entryLine).filterMap timedEntry? = log.map LogEntry.loaded := by
  induction log with
  | nil => rfl
  | cons e rest ih =>
    obtain ⟨first, others⟩ := List.forall_mem_cons.1 plain
    rw [List.map_cons, List.filterMap_cons_some (timedEntry?_entryLine first), ih others, List.map_cons]

theorem ofText_text {log : RecordedLog} (plain : ∀ e ∈ log, e.IsPlain) :
    ofText (text log).toList = log.map LogEntry.loaded := by
  have title : IsOneLine heading.toList := by
    unfold IsOneLine
    decide
  have each : ∀ l ∈ heading.toList :: log.map entryLine, IsOneLine l := by
    refine List.forall_mem_cons.2 ⟨title, fun l hl => ?_⟩
    obtain ⟨e, he, rfl⟩ := List.mem_map.1 hl
    exact isOneLine_entryLine (plain e he)
  have stripped : strip heading.toList = heading.toList := by decide
  rw [toList_text, ofText, lines_ended each, ofLines, if_pos stripped, filterMap_entryLine plain]

theorem ofBytes_encode (text : String) : ofBytes (Utf8.encode text) = .ok (ofText text.toList) := by
  unfold ofBytes
  rw [Utf8.decode_encode]
  rfl

/-- Loading undoes saving. -/
theorem ofBytes_text {log : RecordedLog} (plain : ∀ e ∈ log, e.IsPlain) :
    ofBytes (Utf8.encode (text log)) = .ok (log.map LogEntry.loaded) := by
  rw [ofBytes_encode, ofText_text plain]

theorem isPlain_of_timedEntry? {l : List Char} (line : IsOneLine l) {e : LogEntry} (h : timedEntry? l = some e) :
    e.IsPlain := by
  unfold timedEntry? at h
  obtain ⟨_, -, h⟩ := Option.bind_eq_some_iff.1 h
  obtain ⟨⟨time, command⟩, cut, same⟩ := Option.bind_eq_some_iff.1 h
  cases same
  obtain ⟨rfl, clean⟩ := splitFirst?_eq_some_iff.1 cut
  obtain ⟨before, after⟩ := line.of_append
  refine ⟨?_, ?_, ?_⟩
  · simpa using clean
  · simpa using before
  · have rest : IsOneLine ([','] ++ command) := after
    simpa using rest.of_append.2

theorem isPlain_of_plainEntry? {l : List Char} (line : IsOneLine l) {e : LogEntry} (h : plainEntry? l = some e) :
    e.IsPlain := by
  unfold plainEntry? at h
  split at h
  · cases h
  · cases h
    refine ⟨?_, ?_, ?_⟩
    · simp
    · simp [IsOneLine]
    · simpa using line

/-- Whatever a text is, its entries are written back on one line each. -/
theorem isPlain_of_mem_ofText {text : List Char} {e : LogEntry} (he : e ∈ ofText text) : e.IsPlain := by
  have lined : ∀ l ∈ lines text, IsOneLine l := fun _ => isOneLine_of_mem_lines
  unfold ofText at he
  cases all : lines text with
  | nil =>
    rw [all] at he
    cases he
  | cons first rest =>
    rw [all] at he lined
    rw [ofLines] at he
    split at he
    · obtain ⟨l, hl, read⟩ := List.mem_filterMap.1 he
      exact isPlain_of_timedEntry? (lined l (List.mem_cons_of_mem first hl)) read
    · obtain ⟨l, hl, read⟩ := List.mem_filterMap.1 he
      exact isPlain_of_plainEntry? (lined l hl) read

theorem isPlain_of_ofBytes {bytes : List UInt8} {log : RecordedLog} (h : ofBytes bytes = .ok log) :
    ∀ e ∈ log, e.IsPlain := by
  unfold ofBytes at h
  cases read : Utf8.decode bytes with
  | error fault =>
    rw [read] at h
    cases h
  | ok text =>
    rw [read] at h
    cases h
    exact fun e => isPlain_of_mem_ofText

theorem commands_loaded (log : RecordedLog) : commands (log.map LogEntry.loaded) = commands log := by
  simp [commands, LogEntry.loaded]

/-- A log comes back from its file exactly if no time in it has a comma or a line end and no command has a line
end. A log that was loaded from any file is of this kind, so that its commands are the same when it is saved and
loaded again. -/
theorem saved_iff_plain (log : RecordedLog) (bytes : List UInt8) :
    (ofBytes (Utf8.encode (text log)) = .ok (log.map LogEntry.loaded) ↔ ∀ e ∈ log, e.IsPlain) ∧
    ∀ first, ofBytes bytes = .ok first →
      (∀ e ∈ first, e.IsPlain) ∧
      ∃ second, ofBytes (Utf8.encode (text first)) = .ok second ∧ commands second = commands first := by
  refine ⟨⟨fun saved e he => ?_, ofBytes_text⟩, fun first read => ?_⟩
  · have loaded := isPlain_of_ofBytes saved e.loaded (List.mem_map_of_mem he)
    exact LogEntry.isPlain_loaded_iff.1 loaded
  · have plain := isPlain_of_ofBytes read
    exact ⟨plain, _, ofBytes_text plain, commands_loaded first⟩

/-- A file with every kind of line end, blank lines, and an entry of which nothing is known. -/
def mixedEnds : String := "Timestamp,Command\r\n\r1,type:a,b\n \n ,\r\n\n"

theorem saved_iff_plain_mixedEnds :
    ∃ second,
      ofBytes (Utf8.encode mixedEnds) = .ok [⟨some "1", "type:a,b"⟩, ⟨some " ", ""⟩] ∧
      ofBytes (Utf8.encode (text [⟨some "1", "type:a,b"⟩, ⟨some " ", ""⟩])) = .ok second ∧
      commands second = ["type:a,b", ""] := by
  have read : ofBytes (Utf8.encode mixedEnds) = .ok [⟨some "1", "type:a,b"⟩, ⟨some " ", ""⟩] := by
    rw [ofBytes_encode]
    exact congrArg Except.ok (by decide +kernel)
  obtain ⟨-, second, saved, same⟩ := (saved_iff_plain [] (Utf8.encode mixedEnds)).2 _ read
  exact ⟨second, read, saved, same⟩

end RecordedLog
end InputReplay
