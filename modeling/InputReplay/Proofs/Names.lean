import InputReplay.Key.Names

/-! Tables of key names. A table that was built maps a name to a key just if an entry does: a name that would
mean two keys is not entered. The table of key symbols was built, so that each key is found by its name. -/

namespace InputReplay
namespace KeyTable

/-- Whether a table maps the names of entries, and no others, each to its key. -/
def Lists (table : KeyTable) (entries : List (String × KeyCode)) : Prop :=
  ∀ name key, table.lookup name = some key ↔ ∃ e ∈ entries, lowerCase e.1 = name ∧ e.2 = key

variable {table table' : KeyTable} {done : List (String × KeyCode)} {name : String} {key : KeyCode}

/-- What a name means after it was entered. The other names mean what they meant. -/
theorem lookup_insert (entered : table.insert name key = .ok table') (other : String) :
    table'.lookup other = if other = lowerCase name then some key else table.lookup other := by
  unfold KeyTable.insert at entered
  split at entered
  · cases entered
    split
    · next same => rw [same, List.lookup_cons_self]
    · next apart => rw [List.lookup_cons, beq_eq_false_iff_ne.2 apart]
  · next known found =>
    split at entered
    · next same =>
      cases entered
      split
      · next named => rw [named, found, same]
      · rfl
    · cases entered

/-- A name that was entered meant no other key before. -/
theorem eq_of_insert (entered : table.insert name key = .ok table') {known : KeyCode}
    (found : table.lookup (lowerCase name) = some known) : known = key := by
  unfold KeyTable.insert at entered
  rw [found] at entered
  dsimp only at entered
  split at entered
  · assumption
  · cases entered

theorem Lists.insert (h : table.Lists done) (entered : table.insert name key = .ok table') :
    table'.Lists (done ++ [(name, key)]) := by
  intro other code
  rw [lookup_insert entered]
  split
  · next named =>
    constructor
    · rintro ⟨⟩
      exact ⟨(name, key), by simp, named.symm, rfl⟩
    · rintro ⟨d, hd, same, rfl⟩
      rcases List.mem_append.1 hd with hd | hd
      · have known := (h _ _).2 ⟨d, hd, same.trans named, rfl⟩
        rw [eq_of_insert entered known]
      · rw [List.mem_singleton.1 hd]
  · next apart =>
    rw [h other code]
    simp [Ne.symm apart]

theorem Lists.foldlM {entries : List (String × KeyCode)} (h : table.Lists done)
    (built : entries.foldlM (fun table e => KeyTable.insert table e.1 e.2) table = .ok table') :
    table'.Lists (done ++ entries) := by
  induction entries generalizing table done with
  | nil =>
    cases built
    rwa [List.append_nil]
  | cons e rest ih =>
    rw [List.foldlM_cons] at built
    cases entered : KeyTable.insert table e.1 e.2 with
    | error collision =>
      rw [entered] at built
      cases built
    | ok next =>
      rw [entered] at built
      rw [List.append_cons]
      exact ih (h.insert entered) built

theorem lists_of_build {entries : List (String × KeyCode)} (built : build entries = .ok table) :
    table.Lists entries := by
  have empty : Lists [] [] := fun _ _ => by simp
  exact empty.foldlM built

end KeyTable

namespace KeyCode

/-- No name among the key symbols means two keys. -/
theorem build_symbolEntries : KeyTable.build symbolEntries = .ok symbols := by
  -- Unfolding the table of symbols would build it again.
  have built : (KeyTable.build symbolEntries).toOption = some symbols := by decide +kernel
  cases h : KeyTable.build symbolEntries with
  | error collision =>
    rw [h] at built
    cases built
  | ok table =>
    rw [h] at built
    rw [Option.some.inj built]

theorem symbols_lists : symbols.Lists symbolEntries := KeyTable.lists_of_build build_symbolEntries

theorem mem_all (key : KeyCode) : key ∈ all := by cases key <;> decide

/-- A key is found by its display name. -/
theorem lookup?_name (key : KeyCode) : lookup? key.name = some key :=
  (symbols_lists _ _).2
    ⟨(key.name, key), List.mem_append_left _ (List.mem_map_of_mem key.mem_all), rfl, rfl⟩

end KeyCode
end InputReplay
