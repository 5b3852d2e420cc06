import InputReplay.Proofs.Names

/-! Which entries make a table of key names. A table is built just if the entries agree: no name, in whatever case, is
given to two keys. It then holds each name once, and it is the same table for all lists of the same entries. Where
entries do not agree, the first that disagrees with an earlier one is told, and no order of the entries hides that they
disagree. -/

namespace InputReplay

/-- Whether entries give a name, in lower case, to a key. -/
def Gives (entries : List (String × KeyCode)) (name : String) (key : KeyCode) : Prop :=
  ∃ e ∈ entries, lowerCase e.1 = name ∧ e.2 = key

/-- Whether entries give the name of a collision to both of its keys, and these are two. -/
structure KeyCollision.IsReal (c : KeyCollision) (entries : List (String × KeyCode)) : Prop where
  first : Gives entries c.name c.first
  second : Gives entries c.name c.second
  apart : c.first ≠ c.second

namespace KeyTable

/-- Whether no two entries give different keys to names that are the same in lower case. -/
def Agreed (entries : List (String × KeyCode)) : Prop :=
  ∀ e ∈ entries, ∀ e' ∈ entries, lowerCase e.1 = lowerCase e'.1 → e.2 = e'.2

/-- The collision at the first entry that gives another key to a name than an entry before it. -/
inductive FirstClash : List (String × KeyCode) → KeyCollision → Prop
  | mk {before after : List (String × KeyCode)} {known e : String × KeyCode} (agreed : Agreed before)
      (earlier : known ∈ before) (same : lowerCase known.1 = lowerCase e.1) (apart : known.2 ≠ e.2) :
      FirstClash (before ++ e :: after) ⟨lowerCase e.1, known.2, e.2⟩

variable {table table' : KeyTable} {entries entries' done : List (String × KeyCode)} {name : String} {key : KeyCode}
  {c : KeyCollision}

theorem FirstClash.isReal (h : FirstClash entries c) : c.IsReal entries := by
  obtain ⟨-, earlier, same, apart⟩ := h
  refine ⟨⟨_, List.mem_append_left _ earlier, same, rfl⟩, ⟨_, ?_, rfl, rfl⟩, apart⟩
  exact List.mem_append_right _ List.mem_cons_self

/-! Whether entries agree, and which collisions are real, does not depend on their order and number. -/

section
variable (alike : ∀ e, e ∈ entries ↔ e ∈ entries')
include alike

theorem gives_congr : Gives entries name key ↔ Gives entries' name key := by
  unfold Gives
  simp only [alike]

theorem agreed_congr : Agreed entries ↔ Agreed entries' := by
  unfold Agreed
  simp only [alike]

theorem isReal_congr : c.IsReal entries ↔ c.IsReal entries' := by
  constructor
  · rintro ⟨first, second, apart⟩
    exact ⟨(gives_congr alike).1 first, (gives_congr alike).1 second, apart⟩
  · rintro ⟨first, second, apart⟩
    exact ⟨(gives_congr alike).2 first, (gives_congr alike).2 second, apart⟩

end

theorem not_agreed_of_isReal (h : c.IsReal entries) : ¬ Agreed entries := by
  obtain ⟨⟨e, he, named, own⟩, ⟨e', he', named', own'⟩, apart⟩ := h
  intro agreed
  have one := agreed e he e' he' (named.trans named'.symm)
  exact apart (own.symm.trans (one.trans own'))

/-! One entry. What a table holds of the entries before is all that counts. -/

/-- Entries that are listed in a table agree, as a name is found with one key. -/
theorem Lists.agreed (h : table.Lists done) : Agreed done := by
  intro e he e' he' same
  have known := (h _ _).2 ⟨e, he, rfl, rfl⟩
  have known' := (h _ _).2 ⟨e', he', same.symm, rfl⟩
  exact Option.some.inj (known.symm.trans known')

theorem insert_of_free (free : table.lookup (lowerCase name) = none) :
    table.insert name key = .ok ((lowerCase name, key) :: table) := by
  rw [KeyTable.insert, free]

theorem insert_of_known {known : KeyCode} (found : table.lookup (lowerCase name) = some known) :
    table.insert name key = if known = key then .ok table else .error ⟨lowerCase name, known, key⟩ := by
  rw [KeyTable.insert, found]

/-- An entry that clashes with one before it is told together with the key that was given before. -/
theorem Lists.insert_eq_error_iff (h : table.Lists done) :
    table.insert name key = .error c ↔
      ∃ known ∈ done, lowerCase known.1 = lowerCase name ∧ known.2 ≠ key ∧ c = ⟨lowerCase name, known.2, key⟩ := by
  constructor
  · intro refused
    cases found : table.lookup (lowerCase name) with
    | none =>
      rw [insert_of_free found] at refused
      cases refused
    | some code =>
      obtain ⟨known, earlier, same, rfl⟩ := (h _ _).1 found
      rw [insert_of_known found] at refused
      split at refused
      · cases refused
      · next apart => exact ⟨known, earlier, same, apart, (Except.error.inj refused).symm⟩
  · rintro ⟨known, earlier, same, apart, rfl⟩
    have found : table.lookup (lowerCase name) = some known.2 := (h _ _).2 ⟨known, earlier, same, rfl⟩
    rw [insert_of_known found, if_neg apart]

/-- A name is entered only where it is not held, so that none is held twice. -/
theorem nodup_insert (distinct : (table.map Prod.fst).Nodup) (entered : table.insert name key = .ok table') :
    (table'.map Prod.fst).Nodup := by
  cases found : table.lookup (lowerCase name) with
  | none =>
    rw [insert_of_free found] at entered
    cases entered
    refine List.nodup_cons.2 ⟨fun held => ?_, distinct⟩
    obtain ⟨e, he, named⟩ := List.mem_map.1 held
    have other := List.lookup_eq_none_iff.1 found e he
    rw [named, bne_self_eq_false] at other
    cases other
  | some known =>
    rw [insert_of_known found] at entered
    split at entered
    · cases entered
      exact distinct
    · cases entered

/-! All entries: by induction on those that are still to be entered, with the table listing those that were. -/

theorem foldlM_insert_cons (e : String × KeyCode) (rest : List (String × KeyCode)) (table : KeyTable) :
    (e :: rest).foldlM (fun table e => KeyTable.insert table e.1 e.2) table =
      (table.insert e.1 e.2 >>= rest.foldlM fun table e => KeyTable.insert table e.1 e.2) := List.foldlM_cons

/-- Entries are all entered, or there is a first that clashes. -/
theorem Lists.foldlM_cases (h : table.Lists done) (entries : List (String × KeyCode)) :
    (∃ table', entries.foldlM (fun table e => KeyTable.insert table e.1 e.2) table = .ok table') ∨
    ∃ c, entries.foldlM (fun table e => KeyTable.insert table e.1 e.2) table = .error c ∧
      FirstClash (done ++ entries) c := by
  induction entries generalizing table done with
  | nil => exact .inl ⟨table, rfl⟩
  | cons e rest ih =>
    rw [foldlM_insert_cons]
    cases entered : table.insert e.1 e.2 with
    | error c =>
      obtain ⟨known, earlier, same, apart, rfl⟩ := h.insert_eq_error_iff.1 entered
      exact .inr ⟨_, rfl, .mk h.agreed earlier same apart⟩
    | ok next =>
      rw [List.append_cons]
      exact ih (h.insert entered)

theorem nodup_foldlM (distinct : (table.map Prod.fst).Nodup)
    (built : entries.foldlM (fun table e => KeyTable.insert table e.1 e.2) table = .ok table') :
    (table'.map Prod.fst).Nodup := by
  induction entries generalizing table with
  | nil =>
    cases built
    exact distinct
  | cons e rest ih =>
    rw [foldlM_insert_cons] at built
    cases entered : table.insert e.1 e.2 with
    | error c =>
      rw [entered] at built
      cases built
    | ok next =>
      rw [entered] at built
      exact ih (nodup_insert distinct entered) built

theorem build_cases (entries : List (String × KeyCode)) :
    (∃ table, build entries = .ok table) ∨ ∃ c, build entries = .error c ∧ FirstClash entries c := by
  have empty : Lists [] [] := fun _ _ => by simp
  exact empty.foldlM_cases entries

theorem nodup_of_build (built : build entries = .ok table) : (table.map Prod.fst).Nodup := by
  have empty : (([] : KeyTable).map Prod.fst).Nodup := List.nodup_nil
  exact nodup_foldlM empty built

theorem exists_build_iff : (∃ table, build entries = .ok table) ↔ Agreed entries := by
  constructor
  · rintro ⟨table, built⟩
    exact (lists_of_build built).agreed
  · intro agreed
    rcases build_cases entries with built | ⟨c, -, clash⟩
    · exact built
    · exact absurd agreed (not_agreed_of_isReal clash.isReal)

theorem build_eq_error_iff : build entries = .error c ↔ FirstClash entries c := by
  constructor
  · intro refused
    rcases build_cases entries with ⟨table, built⟩ | ⟨c', refused', clash⟩
    · rw [built] at refused
      cases refused
    · rw [refused'] at refused
      cases refused
      exact clash
  · rintro ⟨agreed, earlier, same, apart⟩
    obtain ⟨table, built⟩ := exists_build_iff.2 agreed
    have clashes := (lists_of_build built).insert_eq_error_iff.2 ⟨_, earlier, same, apart, rfl⟩
    rw [build] at built ⊢
    rw [List.foldlM_append, built]
    change List.foldlM _ table _ = _
    rw [foldlM_insert_cons, clashes]
    rfl

/-! Tables as sets of names with their keys. -/

theorem lookup_eq_some_iff_mem (distinct : (table.map Prod.fst).Nodup) :
    table.lookup name = some key ↔ (name, key) ∈ table := by
  induction table with
  | nil => simp
  | cons e rest ih =>
    obtain ⟨held, code⟩ := e
    obtain ⟨fresh, distinct⟩ := List.nodup_cons.1 distinct
    rw [List.mem_cons]
    by_cases named : name = held
    · subst named
      have elsewhere : (name, key) ∉ rest := fun mem => fresh (List.mem_map.2 ⟨_, mem, rfl⟩)
      simp [elsewhere, eq_comm]
    · have next : List.lookup name ((held, code) :: rest) = List.lookup name rest := by
        rw [List.lookup_cons, beq_eq_false_iff_ne.2 named]
      rw [next, ih distinct]
      simp [named]

theorem nodup_of_keys (distinct : (table.map Prod.fst).Nodup) : table.Nodup :=
  List.Pairwise.of_map Prod.fst (fun _ _ apart same => apart (congrArg Prod.fst same)) distinct

theorem perm_of_lists (h : table.Lists entries) (h' : table'.Lists entries') (distinct : (table.map Prod.fst).Nodup)
    (distinct' : (table'.map Prod.fst).Nodup) (alike : ∀ e, e ∈ entries ↔ e ∈ entries') : table.Perm table' := by
  refine (List.perm_ext_iff_of_nodup (nodup_of_keys distinct) (nodup_of_keys distinct')).2 fun ⟨name, key⟩ => ?_
  rw [← lookup_eq_some_iff_mem distinct, ← lookup_eq_some_iff_mem distinct', h, h']
  exact gives_congr alike

/-- A table is built of entries just if no two of them give different keys to one name in lower case. It holds each
name once and maps it to the key that the entries give to it, so that a list of the same entries in any order and
number has the same table. Otherwise the first collision is told, and every list of the same entries has one, in a name
that they do give to two keys. -/
theorem build_iff_agreed (entries : List (String × KeyCode)) :
    ((∃ table, build entries = .ok table) ↔ Agreed entries) ∧
    (∀ table, build entries = .ok table → (table.map Prod.fst).Nodup ∧ table.Lists entries) ∧
    (∀ c, build entries = .error c ↔ FirstClash entries c) ∧
    ∀ entries' : List (String × KeyCode), (∀ e, e ∈ entries ↔ e ∈ entries') →
      (∀ table, build entries = .ok table →
        ∃ table', build entries' = .ok table' ∧ table.Perm table' ∧ ∀ name, table.lookup name = table'.lookup name) ∧
      ∀ c, build entries = .error c → ∃ c', build entries' = .error c' ∧ c'.IsReal entries := by
  refine ⟨exists_build_iff, fun table built => ⟨nodup_of_build built, lists_of_build built⟩,
    fun c => build_eq_error_iff, fun entries' alike => ⟨fun table built => ?_, fun c refused => ?_⟩⟩
  · obtain ⟨table', built'⟩ := exists_build_iff.2 ((agreed_congr alike).1 (exists_build_iff.1 ⟨table, built⟩))
    have lists := lists_of_build built
    have lists' := lists_of_build built'
    refine ⟨table', built', perm_of_lists lists lists' (nodup_of_build built) (nodup_of_build built') alike, ?_⟩
    intro name
    ext key
    rw [lists, lists']
    exact gives_congr alike
  · have real := (build_eq_error_iff.1 refused).isReal
    rcases build_cases entries' with ⟨table', built'⟩ | ⟨c', refused', clash⟩
    · exact absurd (exists_build_iff.1 ⟨table', built'⟩) (not_agreed_of_isReal ((isReal_congr alike).1 real))
    · exact ⟨c', refused', (isReal_congr alike).2 clash.isReal⟩

/-- Entries that agree on the key with the number zero are built in another order, one of them twice; entries that
collide at this key do so in another order, too. -/
theorem build_iff_agreed_twoOrders :
    (∃ table, build [("B", .b), ("a", .a), ("A", .a), ("B", .b)] = .ok table ∧
      List.Perm [("b", .b), ("a", .a)] table) ∧
    ∃ c, build [("X", .a), ("b", .b), ("x", .x)] = .error c ∧ c.IsReal [("x", .x), ("b", .b), ("X", .a)] := by
  constructor
  · obtain ⟨-, -, -, others⟩ := build_iff_agreed [("A", .a), ("a", .a), ("B", .b)]
    have built : build [("A", .a), ("a", .a), ("B", .b)] = .ok [("b", .b), ("a", .a)] := by rfl
    have alike : ∀ e : String × KeyCode,
        e ∈ [("A", KeyCode.a), ("a", .a), ("B", .b)] ↔ e ∈ [("B", KeyCode.b), ("a", .a), ("A", .a), ("B", .b)] := by
      grind
    obtain ⟨table, built', same, -⟩ := (others _ alike).1 _ built
    exact ⟨table, built', same⟩
  · obtain ⟨-, -, -, others⟩ := build_iff_agreed [("x", .x), ("b", .b), ("X", .a)]
    have refused : build [("x", .x), ("b", .b), ("X", .a)] = .error ⟨"x", .x, .a⟩ := by rfl
    have alike : ∀ e : String × KeyCode,
        e ∈ [("x", KeyCode.x), ("b", .b), ("X", .a)] ↔ e ∈ [("X", KeyCode.a), ("b", .b), ("x", .x)] := by
      grind
    exact (others _ alike).2 _ refused

end KeyTable
end InputReplay
