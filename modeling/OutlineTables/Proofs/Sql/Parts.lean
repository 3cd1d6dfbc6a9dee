import OutlineTables.Proofs.Success
import OutlineTables.Sql.Statement

/-!
The parts of statements that have SQL text.
-/
namespace OutlineTables

theorem forM_eq_ok {ε α : Type} {f : α → Except ε Unit} {as : List α} :
    as.forM f = .ok () ↔ ∀ a ∈ as, f a = .ok () := by
  induction as with
  | nil => simp [List.forM, pure, Except.pure]
  | cons a as ih =>
    rw [List.forM, bind_eq_ok, List.forall_mem_cons]
    constructor
    · rintro ⟨_, ha, has⟩
      exact ⟨ha, ih.mp has⟩
    · rintro ⟨ha, has⟩
      exact ⟨(), ha, ih.mpr has⟩

theorem Schema.table_eq_ok {s : Schema} {name : String} {t : Table} (h : s.table name = .ok t) :
    t ∈ s.tables ∧ t.name = name := by
  unfold Schema.table at h
  split at h
  · rename_i a ha
    cases h
    exact ⟨List.mem_of_find?_eq_some ha, by simpa using List.find?_some ha⟩
  · cases h

theorem Table.column_eq_ok {t : Table} {name : String} {c : Column} (h : t.column name = .ok c) :
    c ∈ t.columns ∧ c.name = name := by
  unfold Table.column at h
  split at h
  · rename_i a ha
    cases h
    exact ⟨List.mem_of_find?_eq_some ha, by simpa using List.find?_some ha⟩
  · cases h

namespace Sql

theorem found_eq_ok {α : Type} {x : Except LookupFault α} {a : α} :
    found x = .ok a ↔ x = .ok a := by
  unfold found
  cases x <;> simp

/-- A look that keeps nothing of what it finds. -/
theorem discard_found_eq_ok {α : Type} {x : Except LookupFault α} :
    (do discard (found x)) = Except.ok () ↔ ∃ a, x = .ok a := by
  unfold found
  cases x <;> simp [discard, Functor.discard, Functor.mapConst, Except.map]

variable {write : LiteralWriter} {s : Schema} {t : Table} {table : String}
  {values tests : Record} {text : Text}

theorem columns_eq_ok {names : List String} {cs : List Column} :
    columns t names = .ok cs ↔ (∀ n ∈ names, ∃ c, t.column n = .ok c) ∧
      cs = t.columns.filter fun c => c.name ∈ names := by
  unfold columns
  rw [bind_eq_ok]
  constructor
  · rintro ⟨_, hall, hcs⟩
    cases hcs
    exact ⟨fun n hn => discard_found_eq_ok.mp (forM_eq_ok.mp hall n hn), rfl⟩
  · rintro ⟨hall, rfl⟩
    exact ⟨(), forM_eq_ok.mpr fun n hn => discard_found_eq_ok.mpr (hall n hn), rfl⟩

theorem columns_ne_nil {names : List String} {cs : List Column} (hne : names ≠ [])
    (h : columns t names = .ok cs) : cs ≠ [] := by
  obtain ⟨hall, rfl⟩ := columns_eq_ok.mp h
  obtain ⟨n, names, rfl⟩ := List.exists_cons_of_ne_nil hne
  obtain ⟨c, hc⟩ := hall n List.mem_cons_self
  obtain ⟨hmem, hname⟩ := Table.column_eq_ok hc
  exact List.ne_nil_of_mem (List.mem_filter.mpr ⟨hmem, by simp [hname]⟩)

theorem fields_eq_ok {fs : List (Column × Value)} :
    fields t values = .ok fs ↔ (∀ n ∈ values.map (·.1), ∃ c, t.column n = .ok c) ∧
      fs = (t.columns.filter fun c => c.name ∈ values.map (·.1)).map fun c =>
        (c, (values.lookup c.name).getD .null) := by
  unfold fields
  rw [bind_eq_ok]
  constructor
  · rintro ⟨cs, hcs, hfs⟩
    obtain ⟨hall, rfl⟩ := columns_eq_ok.mp hcs
    cases hfs
    exact ⟨hall, rfl⟩
  · rintro ⟨hall, rfl⟩
    exact ⟨_, columns_eq_ok.mpr ⟨hall, rfl⟩, rfl⟩

theorem fields_ne_nil {fs : List (Column × Value)} (hne : values ≠ [])
    (h : fields t values = .ok fs) : fs ≠ [] := by
  obtain ⟨hall, rfl⟩ := fields_eq_ok.mp h
  have hcs := columns_ne_nil (by simpa using hne) (columns_eq_ok.mpr ⟨hall, rfl⟩)
  simpa using hcs

/-- The text of an insertion. -/
def insertText (t : Table) (fs : List (Column × Value)) (literals : List Text) : Text :=
  "INSERT INTO ".toList ++ t.name.toList ++ ' ' ::
    parenthesized (fs.map (·.1.name.toList)) ++ " VALUES ".toList ++
      parenthesized literals ++ [';']

theorem insert_eq_ok : insert write s table values = .ok text ↔ ∃ t fs literals,
    s.table table = .ok t ∧ values ≠ [] ∧ fields t values = .ok fs ∧
      List.Forall₂ (fun f literal => write f.1 f.2 = .ok literal) fs literals ∧
        text = insertText t fs literals := by
  unfold insert
  rw [bind_eq_ok]
  constructor
  · rintro ⟨t, ht, h⟩
    split at h
    · cases h
    · rename_i hv
      obtain ⟨fs, hfs, h⟩ := bind_eq_ok.mp h
      obtain ⟨literals, hl, h⟩ := bind_eq_ok.mp h
      cases h
      exact ⟨t, fs, literals, found_eq_ok.mp ht, by simpa using hv, hfs, mapM_eq_ok.mp hl, rfl⟩
  · rintro ⟨t, fs, literals, ht, hv, hfs, hl, rfl⟩
    refine ⟨t, found_eq_ok.mpr ht, ?_⟩
    rw [if_neg (by simpa using hv)]
    refine bind_eq_ok.mpr ⟨fs, hfs, bind_eq_ok.mpr ⟨literals, mapM_eq_ok.mpr hl, rfl⟩⟩

theorem condition_eq_ok : condition write t tests = .ok text ↔ tests = [] ∧ text = [] ∨
    tests ≠ [] ∧ ∃ fs ts, fields t tests = .ok fs ∧
      List.Forall₂ (fun f a => test write f.1 f.2 = .ok a) fs ts ∧
        text = " WHERE ".toList ++ Text.join " AND ".toList ts := by
  unfold condition
  cases tests with
  | nil => simp [eq_comm]
  | cons a tests =>
    rw [if_neg (by simp), bind_eq_ok]
    constructor
    · rintro ⟨fs, hfs, h⟩
      obtain ⟨ts, hts, h⟩ := bind_eq_ok.mp h
      cases h
      exact Or.inr ⟨List.cons_ne_nil a tests, fs, ts, hfs, mapM_eq_ok.mp hts, rfl⟩
    · rintro (⟨h, -⟩ | ⟨-, fs, ts, hfs, hts, rfl⟩)
      · exact absurd h (List.cons_ne_nil a tests)
      · exact ⟨fs, hfs, bind_eq_ok.mpr ⟨ts, mapM_eq_ok.mpr hts, rfl⟩⟩

theorem update_eq_ok : update write s table values tests = .ok text ↔ ∃ t fs assignments where',
    s.table table = .ok t ∧ values ≠ [] ∧ fields t values = .ok fs ∧
      List.Forall₂ (fun f a => assignment write f.1 f.2 = .ok a) fs assignments ∧
        condition write t tests = .ok where' ∧
          text = "UPDATE ".toList ++ t.name.toList ++ " SET ".toList ++
            commaSeparated assignments ++ where' ++ [';'] := by
  unfold update
  rw [bind_eq_ok]
  constructor
  · rintro ⟨t, ht, h⟩
    split at h
    · cases h
    · rename_i hv
      obtain ⟨fs, hfs, h⟩ := bind_eq_ok.mp h
      obtain ⟨assignments, ha, h⟩ := bind_eq_ok.mp h
      obtain ⟨where', hw, h⟩ := bind_eq_ok.mp h
      cases h
      exact ⟨t, fs, assignments, where', found_eq_ok.mp ht, by simpa using hv, hfs,
        mapM_eq_ok.mp ha, hw, rfl⟩
  · rintro ⟨t, fs, assignments, where', ht, hv, hfs, ha, hw, rfl⟩
    refine ⟨t, found_eq_ok.mpr ht, ?_⟩
    rw [if_neg (by simpa using hv)]
    exact bind_eq_ok.mpr ⟨fs, hfs, bind_eq_ok.mpr ⟨assignments, mapM_eq_ok.mpr ha,
      bind_eq_ok.mpr ⟨where', hw, rfl⟩⟩⟩

theorem delete_eq_ok : delete write s table tests = .ok text ↔ ∃ t where',
    s.table table = .ok t ∧ condition write t tests = .ok where' ∧
      text = "DELETE FROM ".toList ++ t.name.toList ++ where' ++ [';'] := by
  unfold delete
  rw [bind_eq_ok]
  constructor
  · rintro ⟨t, ht, h⟩
    obtain ⟨where', hw, h⟩ := bind_eq_ok.mp h
    cases h
    exact ⟨t, where', found_eq_ok.mp ht, hw, rfl⟩
  · rintro ⟨t, where', ht, hw, rfl⟩
    exact ⟨t, found_eq_ok.mpr ht, bind_eq_ok.mpr ⟨where', hw, rfl⟩⟩

/-- The text of a selection. -/
def selectText (t : Table) (selected where' : Text) : Text :=
  "SELECT ".toList ++ selected ++ " FROM ".toList ++ t.name.toList ++ where' ++ [';']

theorem select_eq_ok {names : List String} : select write s table names tests = .ok text ↔
    ∃ t where', s.table table = .ok t ∧ condition write t tests = .ok where' ∧
      (names = [] ∧ text = selectText t ['*'] where' ∨
        names ≠ [] ∧ ∃ cs, columns t names = .ok cs ∧
          text = selectText t (commaSeparated (cs.map (·.name.toList))) where') := by
  unfold select
  rw [bind_eq_ok]
  constructor
  · rintro ⟨t, ht, h⟩
    dsimp only at h
    split at h
    · rename_i hn
      obtain ⟨_, hs, h⟩ := bind_eq_ok.mp h
      obtain ⟨where', hw, h⟩ := bind_eq_ok.mp h
      cases hs
      cases h
      exact ⟨t, where', found_eq_ok.mp ht, hw, Or.inl ⟨by simpa using hn, rfl⟩⟩
    · rename_i hn
      obtain ⟨cs, hcs, h⟩ := bind_eq_ok.mp h
      obtain ⟨_, hs, h⟩ := bind_eq_ok.mp h
      cases hs
      obtain ⟨where', hw, h⟩ := bind_eq_ok.mp h
      cases h
      exact ⟨t, where', found_eq_ok.mp ht, hw, Or.inr ⟨by simpa using hn, cs, hcs, rfl⟩⟩
  · rintro ⟨t, where', ht, hw, h⟩
    refine ⟨t, found_eq_ok.mpr ht, ?_⟩
    rcases h with ⟨rfl, rfl⟩ | ⟨hn, cs, hcs, rfl⟩
    · exact bind_eq_ok.mpr ⟨_, rfl, bind_eq_ok.mpr ⟨where', hw, rfl⟩⟩
    · rw [if_neg (by simpa using hn)]
      exact bind_eq_ok.mpr ⟨cs, hcs, bind_eq_ok.mpr ⟨_, rfl, bind_eq_ok.mpr ⟨where', hw, rfl⟩⟩⟩

end Sql

end OutlineTables
