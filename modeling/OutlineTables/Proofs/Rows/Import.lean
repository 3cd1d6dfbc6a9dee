import OutlineTables.Proofs.Rows.Insertion
import OutlineTables.Proofs.Rows.Integers
import OutlineTables.Proofs.Rows.Planning
import OutlineTables.Proofs.Rows.Tags

/-!
Import of the rows of a text into an empty store. Main statement: the store takes them, unless a
heading has a planning word twice; then it refuses the second of the planning rows.
-/
namespace OutlineTables

/-- Values that a column of a type stores as they are. -/
def ColumnType.Exact : ColumnType → Value → Prop
  | .integer, .int n => Dialect.sqlite.Fits n
  | .enum, .text _ => True
  | .text, .text _ => True
  | _, _ => False

namespace Cell

theorem ofTyped_ne_null {type : ColumnType} {v : Value} (h : type.admits v) (hv : v ≠ .null) :
    ofTyped (some type) (some v) ≠ .null := by
  cases type <;> cases v <;>
    first | exact False.elim h | exact absurd rfl hv | exact ofInt_ne_null _ | exact nofun

theorem toValue_ofTyped {type : ColumnType} {v : Value} (h : type.Exact v) :
    (ofTyped (some type) (some v)).toValue = v := by
  have hint {n : Int} (hn : Dialect.sqlite.Fits n) : (ofInt n).toValue = .int n := by
    unfold Dialect.Fits at hn
    unfold ofInt
    rw [if_pos hn]
    rfl
  cases type <;> cases v <;> first | rfl | exact hint h | cases h

end Cell

namespace Rows

/-- Keys consist of texts and positions, which are never null. -/
theorem keyColumn_cases : ∀ table ∈ schema.tables, ∀ name ∈ table.primaryKey,
    ∃ c ∈ table.columns, c.name = name ∧ c.notNull = true ∧
      (c.type = .text ∨ c.type = .enum ∨ c.type = .integer ∧ name ∈ positionColumns) := by
  decide

variable {o : Options} {t file md5 : Text} {size : Option Int} {r : Rows}

/-- The value of a column in a record, and what is stored for it. -/
theorem exists_value {table : Table} (ht : table ∈ schema.tables) {values : Record}
    (hv : values ∈ r.recordsOf table.name) {c : Column} (hc : c ∈ table.columns) :
    ∃ v, (c.name, v) ∈ values ∧ values.lookup c.name = some v ∧ r.Takes c (c.name, v) ∧
      (table.row values).cell c.name = Cell.ofTyped (some c.type) (some v) := by
  have htakes := takes_record ht hv
  have hnames : table.columns.map (·.name) = values.map Prod.fst :=
    map_eq_of_forall₂ htakes fun _ _ h => h.name.symm
  have hn := nodup_columns table ht
  obtain ⟨⟨name, v⟩, hmem, hentry⟩ := exists_right_of_mem htakes hc
  obtain rfl : name = c.name := hentry.name
  have hlookup := lookup_of_mem (hnames ▸ hn) hmem
  refine ⟨v, hmem, hlookup, hentry, ?_⟩
  rw [Table.cell_row, hlookup, find?_of_mem hn hc]
  rfl

/-- No row lacks a value that it must have. -/
theorem filled_content (hsized : r.Sized) {table : Table} (ht : table ∈ schema.tables) {row : Row}
    (hrow : row ∈ r.content table) {c : Column} (hc : c ∈ table.columns)
    (hrequired : c.notNull = true) : row.cell c.name ≠ .null := by
  obtain ⟨values, hv, rfl⟩ := List.mem_map.mp hrow
  obtain ⟨v, -, -, htakes, hcell⟩ := exists_value ht hv hc
  rw [hcell]
  exact Cell.ofTyped_ne_null htakes.typed (htakes.filled hsized hrequired)

/-- What is stored in a column of a key is the value itself. -/
theorem lookup_key (hr : ofOutline o (Outline.read o t) file md5 size = .ok r) (hsized : r.Sized)
    (ht : t.length < 9223372036854775808) {table : Table} (htable : table ∈ schema.tables)
    {values : Record} (hv : values ∈ r.recordsOf table.name) {name : String}
    (hname : name ∈ table.primaryKey) :
    values.lookup name = some ((table.row values).cell name).toValue := by
  obtain ⟨c, hc, rfl, hrequired, htype⟩ := keyColumn_cases table htable name hname
  obtain ⟨v, hmem, hlookup, htakes, hcell⟩ := exists_value htable hv hc
  have hne := htakes.filled hsized hrequired
  -- Only a large integer would be stored as something else, but positions are small.
  have hexact : c.type.Exact v := by
    have htyped := htakes.typed
    rcases htype with htype | htype | ⟨htype, hpos⟩
    · rw [htype] at htyped ⊢
      cases v <;> first | exact absurd rfl hne | trivial
    · rw [htype] at htyped ⊢
      cases v <;> first | exact absurd rfl hne | trivial
    · obtain ⟨n, rfl, hlow, hhigh⟩ :=
        positions_ofText hr htable hv v (Record.mem_valuesIn_iff.mpr ⟨_, hpos, hmem⟩)
      rw [htype]
      unfold ColumnType.Exact Dialect.Fits
      omega
  rw [hlookup, hcell, Cell.toValue_ofTyped hexact]

/-- Rows have different keys exactly if their records have. -/
theorem nodup_content_iff (hr : ofOutline o (Outline.read o t) file md5 size = .ok r)
    (hsized : r.Sized) (ht : t.length < 9223372036854775808) {table : Table}
    (htable : table ∈ schema.tables) :
    ((r.content table).map table.keyOf).Nodup ↔
      ((r.recordsOf table.name).map (Record.key table.primaryKey)).Nodup := by
  unfold content
  rw [List.map_map]
  -- Two keys are compared column by column.
  refine nodup_map_iff fun v hv w hw => ?_
  unfold Record.key
  rw [Function.comp_apply, Function.comp_apply, Table.keyOf, Table.keyOf, Row.key, Row.key,
    List.map_inj_left, List.map_inj_left]
  refine forall₂_congr fun name hname => ?_
  constructor
  · intro hcell
    rw [lookup_key hr hsized ht htable hv hname, lookup_key hr hsized ht htable hw hname, hcell]
  · intro hlookup
    rw [Table.cell_row, Table.cell_row, hlookup]

/-- Outside the table of planning rows, no two records have one key. -/
theorem nodup_recordKeys (hr : ofOutline o (Outline.read o t) file md5 size = .ok r)
    {table : Table} (htable : table ∈ schema.tables) (hne : table ≠ planningTable) :
    ((r.recordsOf table.name).map (Record.key table.primaryKey)).Nodup := by
  have hn := Outline.nodup_offsets o t
  induction table, htable using tables_cases with
  | files =>
    change ((r.files.map FileRow.record).map _).Nodup
    rw [files_ofOutline hr]
    exact List.nodup_singleton _
  | headings => exact nodup_keys (fun _ => rfl) (owned_headings hr).nodup
  | closures =>
    refine nodup_keys_of ?_ (nodup_ancestors hn hr)
    rintro ⟨⟩ ⟨⟩ h
    cases h
    rfl
  | stamps => exact nodup_keys (fun _ => rfl) (owned_stamps hr).nodup
  | planning => exact absurd rfl hne
  | fileTags =>
    refine nodup_keys_of ?_ (nodup_fileTags hr)
    rintro ⟨⟩ ⟨⟩ h
    cases h
    rfl
  | headingTags =>
    refine nodup_keys_of ?_ (nodup_headingTags hn hr)
    rintro ⟨⟩ ⟨⟩ h
    cases h
    rfl
  | properties => exact nodup_keys (fun _ => rfl) (owned_properties hr).nodup
  | fileProperties => exact nodup_keys (fun _ => rfl) (owned_fileProperties hr).nodup
  | headingProperties => exact nodup_keys (fun _ => rfl) (owned_headingProperties hr).nodup
  | links => exact nodup_keys (fun _ => rfl) (owned_links hr).nodup
  | clocks => exact nodup_keys (fun _ => rfl) (owned_clocks hr).nodup
  | notes => exact nodup_keys (fun _ => rfl) (owned_notes hr).nodup
  | states => exact nodup_keys (fun _ => rfl) (owned_states hr).nodup
  | planningChanges => exact nodup_keys (fun _ => rfl) (owned_planningChanges hr).nodup

theorem nodup_planningKeys_iff (hr : ofOutline o (Outline.read o t) file md5 size = .ok r) :
    ((r.recordsOf planningTable.name).map (Record.key planningTable.primaryKey)).Nodup ↔
      (Outline.read o t).PlansOnce o := by
  rw [← nodup_planning_iff (Outline.nodup_offsets o t) hr]
  have hfile : ∀ x ∈ r.planning, x.file = file := by
    intro x hx
    rw [planning_ofOutline hr, List.mem_flatMap] at hx
    obtain ⟨p, -, hx⟩ := hx
    obtain ⟨q, -, rfl⟩ := List.mem_map.mp hx
    rfl
  change ((r.planning.map PlanningRow.record).map _).Nodup ↔ _
  rw [List.map_map]
  refine nodup_map_iff fun a ha b hb => ?_
  have hname {k l : PlanningKind} (h : k.name.toList = l.name.toList) : k = l := by
    revert h
    cases k <;> cases l <;> decide
  have hab := (hfile a ha).trans (hfile b hb).symm
  obtain ⟨af, ah, ak, ap⟩ := a
  obtain ⟨bf, bh, bk, bp⟩ := b
  obtain rfl : af = bf := hab
  constructor
  · intro h
    change [some (Value.text af), some (.int ah), some (.text ak.name.toList)] =
      [some (.text af), some (.int bh), some (.text bk.name.toList)] at h
    simp only [List.cons.injEq, Option.some.injEq, Value.int.injEq, Value.text.injEq] at h
    rw [h.2.1, hname h.2.2.1]
  · intro h
    cases h
    rfl

/-- A text has at most one planning row for a heading and a planning word exactly if no heading has
such a word twice, and exactly then an empty store takes its rows; otherwise the store refuses one
for its primary key. -/
theorem import_ofText {n : Int}
    (hr : ofOutline o (Outline.read o t) file md5 (some n) = .ok r)
    (ht : t.length < 9223372036854775808) :
    ((r.planning.map fun row => (row.heading, row.kind)).Nodup ↔
      (Outline.read o t).PlansOnce o) ∧
    ((Outline.read o t).PlansOnce o → ∃ s,
      (Store.ofSchema schema).execAll (Statement.inserts schema r.records) = .ok s) ∧
    (¬(Outline.read o t).PlansOnce o →
      (Store.ofSchema schema).execAll (Statement.inserts schema r.records) =
        .error (.notUnique planningTable.name planningTable.primaryKey)) := by
  have hsized : r.Sized := by
    intro x hx
    rw [files_ofOutline hr, List.mem_singleton] at hx
    rw [hx]
    exact nofun
  have hplanning : planningTable ∈ schema.tables := by decide
  have hkeys {table : Table} (htable : table ∈ schema.tables) (hne : table ≠ planningTable) :
      ((r.content table).map table.keyOf).Nodup :=
    (nodup_content_iff hr hsized ht htable).mpr (nodup_recordKeys hr htable hne)
  have hiff : ((r.content planningTable).map planningTable.keyOf).Nodup ↔
      (Outline.read o t).PlansOnce o :=
    (nodup_content_iff hr hsized ht hplanning).trans (nodup_planningKeys_iff hr)
  have hnew : New (Store.ofSchema schema) r :=
    ⟨Store.fits_ofSchema schema, refers_ofOutline hr,
      fun t ht row hrow c hc => filled_content hsized ht hrow hc, fun t _ row _ hm => by
        rw [Store.rows_ofSchema] at hm
        cases hm⟩
  refine ⟨nodup_planning_iff (Outline.nodup_offsets o t) hr, fun h => ?_, fun h => ?_⟩
  · -- Then the keys of all tables are different.
    apply hnew.exists_insertions
    intro table htable
    by_cases hne : table = planningTable
    · rw [hne]
      exact hiff.mpr h
    · exact hkeys htable hne
  · -- The run cannot succeed, and what stops it is a key that comes twice.
    cases hrun : (Store.ofSchema schema).execAll (Statement.inserts schema r.records) with
    | ok s => exact absurd (hiff.mp (nodup_of_insertions hnew.fits hrun _ hplanning)) h
    | error f =>
      obtain ⟨table, htable, rfl, htwice⟩ := hnew.exists_twice hrun
      obtain rfl : table = planningTable := by
        by_contra hne
        exact htwice (hkeys htable hne)
      rfl

/-- A heading with two different planning words. -/
theorem import_ofText_deadline :
    let t := "* a\nDEADLINE: <2024-01-02> SCHEDULED: <2024-01-01>\n".toList
    ∃ r, ofOutline .default (Outline.read .default t) "a.org".toList [] (some 51) = .ok r ∧
      r.planning.length = 2 ∧ t.length < 9223372036854775808 ∧
      ((r.planning.map fun row => (row.heading, row.kind)).Nodup ↔
        (Outline.read .default t).PlansOnce .default) ∧
      ((Outline.read .default t).PlansOnce .default → ∃ s,
        (Store.ofSchema schema).execAll (Statement.inserts schema r.records) = .ok s) ∧
      (¬(Outline.read .default t).PlansOnce .default →
        (Store.ofSchema schema).execAll (Statement.inserts schema r.records) =
          .error (.notUnique planningTable.name planningTable.primaryKey)) := by
  intro t
  have h : ((ofOutline .default (Outline.read .default t) "a.org".toList [] (some 51)).map
      fun r => r.planning.length).toOption = some 2 := by
    decide +kernel
  have ht : t.length < 9223372036854775808 := by decide +kernel
  obtain ⟨r, hr, h⟩ := exists_of_map h
  exact ⟨r, hr, h, ht, import_ofText hr ht⟩

/-- A heading with one planning word in two timestamps. -/
theorem import_ofText_twice :
    let t := "* a\nSCHEDULED: <2024-01-01> SCHEDULED: <2024-01-02>\n".toList
    ∃ r, ofOutline .default (Outline.read .default t) "a.org".toList [] (some 52) = .ok r ∧
      r.planning.map (fun row => (row.heading, row.kind)) = [(1, .scheduled), (1, .scheduled)] ∧
      (Store.ofSchema schema).execAll (Statement.inserts schema r.records) =
        .error (.notUnique planningTable.name planningTable.primaryKey) := by
  intro t
  have h : ((ofOutline .default (Outline.read .default t) "a.org".toList [] (some 52)).map
      fun r => decide (r.planning.map (fun row => (row.heading, row.kind)) =
          [(1, .scheduled), (1, .scheduled)] ∧
        (Store.ofSchema schema).execAll (Statement.inserts schema r.records) =
          .error (.notUnique planningTable.name planningTable.primaryKey))).toOption =
      some true := by
    decide +kernel
  obtain ⟨r, hr, h⟩ := exists_of_map h
  exact ⟨r, hr, of_decide_eq_true h⟩

end Rows

end OutlineTables
