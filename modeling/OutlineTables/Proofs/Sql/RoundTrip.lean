import OutlineTables.Proofs.Rows.Targets
import OutlineTables.Proofs.Sql.Statements
import OutlineTables.Sql.Definition

/-!
Statements and their SQL text. The text does not depend on the order of names, and what is read
from it is the statement again, with its names in the order of the schema.
-/
namespace OutlineTables

open Sql

/-! ### Names in any order -/

/-- The same values under the same names, with no name twice. -/
structure Record.Reordered (values values' : Record) : Prop where
  perm : values.Perm values'
  nodup : (values.map (·.1)).Nodup

/-- The same statement with its names in another order. -/
inductive Statement.Reordered : Statement → Statement → Prop where
  | insert {table : String} {values values' : Record} (h : values.Reordered values') :
    Reordered (.insert table values) (.insert table values')
  | update {table : String} {values values' condition condition' : Record}
    (h : values.Reordered values') (hw : condition.Reordered condition') :
    Reordered (.update table values condition) (.update table values' condition')
  | delete {table : String} {condition condition' : Record} (hw : condition.Reordered condition') :
    Reordered (.delete table condition) (.delete table condition')
  | select {table : String} {columns columns' : List String} {condition condition' : Record}
    (h : columns.Perm columns') (hw : condition.Reordered condition') :
    Reordered (.select table columns condition) (.select table columns' condition')

namespace Sql

variable {d : Dialect} {s : Schema} {t : Table} {text : Text}

theorem columns_perm {names names' : List String} (h : names.Perm names') {cs : List Column}
    (hcs : columns t names = .ok cs) : columns t names' = .ok cs := by
  obtain ⟨hall, rfl⟩ := columns_eq_ok.mp hcs
  refine columns_eq_ok.mpr ⟨fun n hn => hall n (h.mem_iff.mpr hn), ?_⟩
  simp only [h.mem_iff]

theorem fields_reordered {values values' : Record} {fs : List (Column × Value)}
    (h : values.Reordered values') (hfs : fields t values = .ok fs) :
    fields t values' = .ok fs := by
  obtain ⟨hall, rfl⟩ := fields_eq_ok.mp hfs
  have hmem (n : String) : n ∈ values.map (·.1) ↔ n ∈ values'.map (·.1) :=
    (h.perm.map (·.1)).mem_iff
  refine fields_eq_ok.mpr ⟨fun n hn => hall n ((hmem n).mpr hn), ?_⟩
  simp only [hmem, lookup_perm h.nodup h.perm]

theorem ne_nil_of_perm {α : Type} {as bs : List α} (h : as.Perm bs) (hne : as ≠ []) : bs ≠ [] := by
  rintro rfl
  exact hne h.eq_nil

theorem condition_reordered {tests tests' : Record} (h : tests.Reordered tests')
    (hw : condition d.literal t tests = .ok text) : condition d.literal t tests' = .ok text := by
  rcases condition_eq_ok.mp hw with ⟨rfl, rfl⟩ | ⟨hne, fs, ts, hfs, hts, rfl⟩
  · exact condition_eq_ok.mpr (Or.inl ⟨h.perm.symm.eq_nil, rfl⟩)
  · exact condition_eq_ok.mpr (Or.inr ⟨ne_nil_of_perm h.perm hne, fs, ts,
      fields_reordered h hfs, hts, rfl⟩)

end Sql

namespace Statement

variable {d : Dialect} {s : Schema} {x y : Statement} {text : Text}

theorem toSql_reordered (h : x.Reordered y) (hx : x.toSql d s = .ok text) :
    y.toSql d s = .ok text := by
  cases h with
  | insert h =>
    obtain ⟨t, fs, ls, ht, hne, hfs, hls, rfl⟩ := insert_eq_ok.mp hx
    exact insert_eq_ok.mpr ⟨t, fs, ls, ht, ne_nil_of_perm h.perm hne, fields_reordered h hfs, hls,
      rfl⟩
  | update h hw =>
    obtain ⟨t, fs, as, where', ht, hne, hfs, has, hwhere, rfl⟩ := update_eq_ok.mp hx
    exact update_eq_ok.mpr ⟨t, fs, as, where', ht, ne_nil_of_perm h.perm hne,
      fields_reordered h hfs, has, condition_reordered hw hwhere, rfl⟩
  | delete hw =>
    obtain ⟨t, where', ht, hwhere, rfl⟩ := delete_eq_ok.mp hx
    exact delete_eq_ok.mpr ⟨t, where', ht, condition_reordered hw hwhere, rfl⟩
  | select h hw =>
    obtain ⟨t, where', ht, hwhere, hcase⟩ := select_eq_ok.mp hx
    refine select_eq_ok.mpr ⟨t, where', ht, condition_reordered hw hwhere, ?_⟩
    rcases hcase with ⟨rfl, rfl⟩ | ⟨hne, cs, hcs, rfl⟩
    · exact Or.inl ⟨h.symm.eq_nil, rfl⟩
    · exact Or.inr ⟨ne_nil_of_perm h hne, cs, columns_perm h hcs, rfl⟩

end Statement

/-! ### Typed values -/

/-- Null, and the values of the type of a column. -/
def Column.Holds (c : Column) : Value → Prop
  | .null => True
  | .bool _ => c.type = .boolean
  | .int _ => c.type = .integer
  | .text _ => c.type = .enum ∨ c.type = .text
  | _ => False

/-- Values of the types of their columns, under different names. -/
structure Record.Typed (s : Schema) (table : String) (values : Record) : Prop where
  nodup : (values.map (·.1)).Nodup
  holds : ∀ t, s.table table = .ok t → ∀ c ∈ t.columns, ∀ v, (c.name, v) ∈ values → c.Holds v

def Statement.Typed (s : Schema) : Statement → Prop
  | insert table values => values.Typed s table
  | update table values condition => values.Typed s table ∧ condition.Typed s table
  | delete table condition => condition.Typed s table
  | select table columns condition => columns.Nodup ∧ condition.Typed s table

theorem Column.canonical_of_holds {c : Column} {v : Value} (h : c.Holds v) : c.canonical v = v := by
  cases v with
  | null => rfl
  | bool b =>
    have htype : c.type = .boolean := h
    simp [Column.canonical, htype, Value.truthy]
  | int n =>
    have htype : c.type = .integer := h
    simp [Column.canonical, htype]
  | text t =>
    have htype : c.type = .enum ∨ c.type = .text := h
    rcases htype with htype | htype <;> simp [Column.canonical, htype]
  | float x => cases h
  | list items => cases h
  | object fields => cases h

namespace Sql

variable {d : Dialect} {s : Schema} {t : Table} {text : Text}

/-- Typed values are kept as they are, in another order. -/
theorem reordered_canonical {table : String} {values : Record} (ht : s.table table = .ok t)
    (hcolumns : (t.columns.map (·.name)).Nodup) (htyped : values.Typed s table)
    (hknown : ∀ n ∈ values.map (·.1), ∃ c, t.column n = .ok c) :
    values.Reordered (t.canonical values) := by
  have hvalue {c : Column} (hc : c ∈ t.columns) {v : Value} (hv : (c.name, v) ∈ values) :
      (c.name, c.canonical ((values.lookup c.name).getD .null)) = (c.name, v) := by
    rw [lookup_of_mem htyped.nodup hv, Option.getD_some,
      Column.canonical_of_holds (htyped.holds t ht c hc v hv)]
  have hnames : (t.canonical values).map (·.1) =
      (t.columns.filter fun c => c.name ∈ values.map (·.1)).map (·.name) := by
    simp [Table.canonical, Function.comp_def]
  have hnodup : (t.canonical values).Nodup := by
    refine List.Nodup.of_map (·.1) ?_
    rw [hnames]
    exact hcolumns.sublist (List.filter_sublist.map _)
  -- Neither list holds anything twice, so having the same members is enough.
  refine ⟨(List.perm_ext_iff_of_nodup (List.Nodup.of_map _ htyped.nodup) hnodup).mpr ?_, htyped.nodup⟩
  rintro ⟨n, v⟩
  constructor
  · intro hv
    obtain ⟨c, hc⟩ := hknown n (List.mem_map.mpr ⟨_, hv, rfl⟩)
    obtain ⟨hmem, rfl⟩ := Table.column_eq_ok hc
    refine List.mem_map.mpr ⟨c, List.mem_filter.mpr ⟨hmem, ?_⟩, hvalue hmem hv⟩
    exact decide_eq_true (List.mem_map.mpr ⟨_, hv, rfl⟩)
  · intro hv
    obtain ⟨c, hc, he⟩ := List.mem_map.mp hv
    obtain ⟨hmem, hc⟩ := List.mem_filter.mp hc
    obtain ⟨⟨m, w⟩, hw, hm⟩ := List.mem_map.mp (of_decide_eq_true hc)
    dsimp only at hm
    subst hm
    rw [hvalue hmem hw] at he
    rw [← he]
    exact hw

theorem condition_known {tests : Record} (h : condition d.literal t tests = .ok text) :
    ∀ n ∈ tests.map (·.1), ∃ c, t.column n = .ok c := by
  rcases condition_eq_ok.mp h with ⟨rfl, -⟩ | ⟨-, fs, -, hfs, -, -⟩
  · exact fun n hn => absurd hn List.not_mem_nil
  · exact (fields_eq_ok.mp hfs).1

theorem perm_names (hcolumns : (t.columns.map (·.name)).Nodup) {names : List String}
    (hnames : names.Nodup) (hknown : ∀ n ∈ names, ∃ c, t.column n = .ok c) :
    names.Perm ((t.columns.filter (·.name ∈ names)).map (·.name)) := by
  refine (List.perm_ext_iff_of_nodup hnames
    (hcolumns.sublist (List.filter_sublist.map _))).mpr fun n => ?_
  constructor
  · intro hn
    obtain ⟨c, hc⟩ := hknown n hn
    obtain ⟨hmem, rfl⟩ := Table.column_eq_ok hc
    exact List.mem_map.mpr ⟨c, List.mem_filter.mpr ⟨hmem, decide_eq_true hn⟩, rfl⟩
  · intro hn
    obtain ⟨c, hc, rfl⟩ := List.mem_map.mp hn
    exact of_decide_eq_true (List.mem_filter.mp hc).2

end Sql

/-- Nothing but the order of names gets lost in a statement with typed values. -/
theorem Statement.reordered_canonical {d : Dialect} {s : Schema} (hs : s.Readable) {x : Statement}
    {text : Text} (hx : x.Typed s) (h : x.toSql d s = .ok text) : x.Reordered (x.canonical s) := by
  cases x with
  | insert table values =>
    obtain ⟨t, fs, ls, ht, -, hfs, -, -⟩ := insert_eq_ok.mp h
    have hcolumns := (hs.readable t (Schema.table_eq_ok ht).1).columns
    have hvalues := Sql.reordered_canonical ht hcolumns hx (fields_eq_ok.mp hfs).1
    simp only [Statement.canonical, canonical_table ht]
    exact .insert hvalues
  | update table values condition =>
    obtain ⟨t, fs, as, where', ht, -, hfs, -, hwhere, -⟩ := update_eq_ok.mp h
    have hcolumns := (hs.readable t (Schema.table_eq_ok ht).1).columns
    have hvalues := Sql.reordered_canonical ht hcolumns hx.1 (fields_eq_ok.mp hfs).1
    have hcondition := Sql.reordered_canonical ht hcolumns hx.2 (condition_known hwhere)
    simp only [Statement.canonical, canonical_table ht]
    exact .update hvalues hcondition
  | delete table condition =>
    obtain ⟨t, where', ht, hwhere, -⟩ := delete_eq_ok.mp h
    have hcolumns := (hs.readable t (Schema.table_eq_ok ht).1).columns
    have hcondition := Sql.reordered_canonical ht hcolumns hx (condition_known hwhere)
    simp only [Statement.canonical, canonical_table ht]
    exact .delete hcondition
  | select table columns condition =>
    obtain ⟨t, where', ht, hwhere, hcase⟩ := select_eq_ok.mp h
    have hcolumns := (hs.readable t (Schema.table_eq_ok ht).1).columns
    have hcondition := Sql.reordered_canonical ht hcolumns hx.2 (condition_known hwhere)
    simp only [Statement.canonical, canonical_table ht]
    refine .select (perm_names hcolumns hx.1 ?_) hcondition
    rcases hcase with ⟨rfl, -⟩ | ⟨-, cs, hcs, -⟩
    · exact fun n hn => absurd hn List.not_mem_nil
    · exact (columns_eq_ok.mp hcs).1

/-! ### Transactions -/

namespace Sql

/-- The lines of a transaction before its statements. -/
def preamble : Dialect → List Text
  | .sqlite => ["PRAGMA foreign_keys = ON;".toList, "BEGIN TRANSACTION;".toList]
  | .postgres => ["BEGIN TRANSACTION;".toList]

/-- A transaction of single lines is cut into them again. -/
theorem pieces_transaction (d : Dialect) {ts : List Text} (h : ∀ t ∈ ts, '\n' ∉ t) :
    Text.pieces '\n' (transaction d ts) = preamble d ++ ts ++ ["COMMIT;".toList] := by
  have hlines : transaction d ts = Text.join ['\n'] (preamble d ++ ts ++ ["COMMIT;".toList]) := by
    cases d <;> rfl
  rw [hlines]
  refine Text.pieces_join (by simp) ?_
  intro p hp
  -- The lines around the statements hold no line feed either.
  rw [List.mem_append, List.mem_append] at hp
  rcases hp with (hp | hp) | hp
  · revert p
    cases d <;> decide
  · exact h p hp
  · rw [List.mem_singleton.mp hp]
    decide

end Sql

namespace Rows

theorem readable : schema.Readable where
  tables := nodup_schema
  readable := fun t ht => {
    name := by
      revert t
      decide
    columns := nodup_columns t ht
    names := by
      revert t
      decide
    allowed := by
      revert t
      decide
  }

/-- The text of a statement is one line that says the statement and nothing else, names come in
the order of the schema, and a transaction falls into its statements at the ends of lines. -/
theorem statements_read_back (d : Dialect) :
    (∀ (x : Statement) (t : Text), x.toSql d schema = .ok t →
      '\n' ∉ t ∧ read? d schema t = some (x.canonical schema) ∧
        (x.Typed schema → x.Reordered (x.canonical schema)) ∧
          ∀ y, x.Reordered y → y.toSql d schema = .ok t) ∧
    ∀ (xs : List Statement) (ts : List Text), xs.mapM (Statement.toSql d schema) = .ok ts →
      Text.pieces '\n' (transaction d ts) = preamble d ++ ts ++ ["COMMIT;".toList] := by
  constructor
  · intro x t h
    obtain ⟨hline, hread⟩ := Statement.writes_of_toSql readable h
    exact ⟨hline, hread, fun hx => Statement.reordered_canonical readable hx h,
      fun y hy => Statement.toSql_reordered hy h⟩
  · intro xs ts h
    refine pieces_transaction d fun t ht => ?_
    obtain ⟨x, -, hx⟩ := exists_of_mem_mapM h ht
    exact (Statement.writes_of_toSql readable hx).line

/-- A file whose path imitates the end of a statement and a spliced line feed. -/
def quotingFile : Statement :=
  .insert "files" [("size", .int (-3)), ("file_path", .text "a'||char(10)||'\n'); --".toList)]

theorem statements_read_back_quoting : ∃ t, quotingFile.toSql .sqlite schema = .ok t ∧ '\n' ∉ t ∧
    read? .sqlite schema t = some (.insert "files"
      [("file_path", .text "a'||char(10)||'\n'); --".toList), ("size", .int (-3))]) ∧
    Text.pieces '\n' (transaction .sqlite [t]) = preamble .sqlite ++ [t] ++ ["COMMIT;".toList] := by
  obtain ⟨t, ht⟩ := exists_ok (x := quotingFile.toSql .sqlite schema) (by decide +kernel)
  obtain ⟨hstatement, htransaction⟩ := statements_read_back .sqlite
  obtain ⟨hline, hread, -, -⟩ := hstatement quotingFile t ht
  have hall : [quotingFile].mapM (Statement.toSql .sqlite schema) = .ok [t] :=
    mapM_eq_ok.mpr (List.Forall₂.cons ht List.Forall₂.nil)
  exact ⟨t, ht, hline, hread, htransaction [quotingFile] [t] hall⟩

end Rows

end OutlineTables
