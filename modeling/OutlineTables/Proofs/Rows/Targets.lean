import OutlineTables.Proofs.Lookup
import OutlineTables.Proofs.Rows.References
import OutlineTables.Rows.Record
import OutlineTables.Rows.Schema
import OutlineTables.Schema.Data
import OutlineTables.Store.Exec

/-!
References between the records of an outline, and between the rows that tables store for them.
-/
namespace OutlineTables

/-- The values of several columns. -/
def Record.key (columns : List String) (r : Record) : List (Option Value) :=
  columns.map fun c => r.lookup c

/-- What a column of a type stores for a value that may be absent. -/
def Cell.ofTyped : Option ColumnType → Option Value → Cell
  | some type, v => ofValue { name := "", type } (v.getD .null)
  | none, _ => null

theorem Cell.ofInt_ne_null (n : Int) : Cell.ofInt n ≠ .null := by
  unfold Cell.ofInt
  split <;> simp

namespace Table

/-- The types of several columns. -/
def types (t : Table) (columns : List String) : List (Option ColumnType) :=
  columns.map fun name => (t.columns.find? (·.name = name)).map (·.type)

theorem cell_row (t : Table) (values : Record) (name : String) :
    (t.row values).cell name =
      Cell.ofTyped ((t.columns.find? (·.name = name)).map (·.type)) (values.lookup name) := by
  unfold Row.cell row
  rw [lookup_map]
  cases h : t.columns.find? (·.name = name) with
  | none => rfl
  | some c =>
    have hc : c.name = name := by simpa using List.find?_some h
    subst hc
    rfl

/-- A key depends on the types and the values of its columns. -/
theorem key_row (t : Table) (values : Record) (columns : List String) :
    (t.row values).key columns =
      List.zipWith Cell.ofTyped (t.types columns) (values.key columns) := by
  unfold Row.key types Record.key
  induction columns with
  | nil => rfl
  | cons c cs ih => simp only [List.map_cons, List.zipWith_cons_cons, ih, cell_row]

end Table

namespace Rows

/-- The records of one table. -/
def recordsOf (r : Rows) (name : String) : List Record := (r.records.lookup name).getD []

/-- The value of a key of one or two columns: a file, or a position in it. -/
inductive IsPlace : List (Option Value) → Prop where
  | file (f : Text) : IsPlace [some (.text f)]
  | position (f : Text) (n : Int) : IsPlace [some (.text f), some (.int n)]

theorem HasFile.target {base : Rows} {file : Text} (h : base.HasFile file) :
    ∃ target ∈ base.recordsOf "files", target.key ["file_path"] = [some (.text file)] := by
  obtain ⟨x, hx, rfl⟩ := h
  exact ⟨x.record, List.mem_map_of_mem hx, rfl⟩

theorem HasHeading.target {base : Rows} {file : Text} {n : Int} (h : base.HasHeading file n) :
    ∃ target ∈ base.recordsOf "headlines",
      target.key ["file_path", "headline_offset"] = [some (.text file), some (.int n)] := by
  obtain ⟨x, hx, rfl, rfl⟩ := h
  exact ⟨x.record, List.mem_map_of_mem hx, rfl⟩

theorem HasStamp.target {base : Rows} {file : Text} {n : Int} (h : base.HasStamp file n) :
    ∃ target ∈ base.recordsOf "timestamps",
      target.key ["file_path", "timestamp_offset"] = [some (.text file), some (.int n)] := by
  obtain ⟨x, hx, rfl, rfl⟩ := h
  exact ⟨x.record, List.mem_map_of_mem hx, rfl⟩

theorem HasProperty.target {base : Rows} {file : Text} {n : Int} (h : base.HasProperty file n) :
    ∃ target ∈ base.recordsOf "properties",
      target.key ["file_path", "property_offset"] = [some (.text file), some (.int n)] := by
  obtain ⟨x, hx, rfl, rfl⟩ := h
  exact ⟨x.record, List.mem_map_of_mem hx, rfl⟩

theorem HasNote.target {base : Rows} {file : Text} {n : Int} (h : base.HasNote file n) :
    ∃ target ∈ base.recordsOf "logbook_entries",
      target.key ["file_path", "entry_offset"] = [some (.text file), some (.int n)] := by
  obtain ⟨x, hx, rfl, rfl⟩ := h
  exact ⟨x.record, List.mem_map_of_mem hx, rfl⟩

/-- What is so for each table of the schema is so for all. -/
theorem tables_cases {motive : (t : Table) → t ∈ schema.tables → Prop}
    (files : ∀ h, motive filesTable h)
    (headings : ∀ h, motive headlinesTable h)
    (closures : ∀ h, motive closuresTable h)
    (stamps : ∀ h, motive timestampsTable h)
    (planning : ∀ h, motive planningTable h)
    (fileTags : ∀ h, motive fileTagsTable h)
    (headingTags : ∀ h, motive headlineTagsTable h)
    (properties : ∀ h, motive propertiesTable h)
    (fileProperties : ∀ h, motive filePropertiesTable h)
    (headingProperties : ∀ h, motive headlinePropertiesTable h)
    (links : ∀ h, motive linksTable h)
    (clocks : ∀ h, motive clockingTable h)
    (notes : ∀ h, motive logbookTable h)
    (states : ∀ h, motive statesTable h)
    (planningChanges : ∀ h, motive planningChangesTable h)
    (t : Table) (ht : t ∈ schema.tables) : motive t ht := by
  have h := ht
  simp only [schema, List.mem_cons, List.not_mem_nil, or_false] at h
  rcases h with rfl | rfl | rfl | rfl | rfl | rfl | rfl | rfl | rfl | rfl | rfl | rfl | rfl | rfl |
      rfl
  exacts [files _, headings _, closures _, stamps _, planning _, fileTags _, headingTags _,
    properties _, fileProperties _, headingProperties _, links _, clocks _, notes _, states _,
    planningChanges _]

/-- Every reference of a record leads to a record of the parent table. -/
theorem reference_target {base r : Rows} (hr : Refers base r) {t : Table}
    (ht : t ∈ schema.tables) {k : ForeignKey} (hk : k ∈ t.foreignKeys) {values : Record}
    (hv : values ∈ r.recordsOf t.name) :
    IsPlace (values.key k.columns) ∧
      ∃ target ∈ base.recordsOf k.parent, target.key k.parentColumns = values.key k.columns := by
  induction t, ht using tables_cases <;> obtain ⟨x, hx, rfl⟩ := List.mem_map.mp hv
  case files =>
    cases hk
  case headings =>
    cases List.mem_singleton.mp hk
    exact ⟨.file _, (hr.headings x hx).target⟩
  case closures =>
    rcases List.mem_pair.mp hk with rfl | rfl
    · exact ⟨.position _ _, (hr.closures x hx).1.target⟩
    · exact ⟨.position _ _, (hr.closures x hx).2.target⟩
  case stamps =>
    cases List.mem_singleton.mp hk
    exact ⟨.position _ _, (hr.stamps x hx).target⟩
  case planning =>
    rcases List.mem_pair.mp hk with rfl | rfl
    · exact ⟨.position _ _, (hr.planning x hx).1.target⟩
    · exact ⟨.position _ _, (hr.planning x hx).2.target⟩
  case fileTags =>
    cases List.mem_singleton.mp hk
    exact ⟨.file _, (hr.fileTags x hx).target⟩
  case headingTags =>
    cases List.mem_singleton.mp hk
    exact ⟨.position _ _, (hr.headingTags x hx).target⟩
  case properties =>
    cases List.mem_singleton.mp hk
    exact ⟨.file _, (hr.properties x hx).target⟩
  case fileProperties =>
    rcases List.mem_pair.mp hk with rfl | rfl
    · exact ⟨.file _, (hr.fileProperties x hx).1.target⟩
    · exact ⟨.position _ _, (hr.fileProperties x hx).2.target⟩
  case headingProperties =>
    rcases List.mem_pair.mp hk with rfl | rfl
    · exact ⟨.position _ _, (hr.headingProperties x hx).1.target⟩
    · exact ⟨.position _ _, (hr.headingProperties x hx).2.target⟩
  case links =>
    cases List.mem_singleton.mp hk
    exact ⟨.position _ _, (hr.links x hx).target⟩
  case clocks =>
    cases List.mem_singleton.mp hk
    exact ⟨.position _ _, (hr.clocks x hx).target⟩
  case notes =>
    cases List.mem_singleton.mp hk
    exact ⟨.position _ _, (hr.notes x hx).target⟩
  case states =>
    cases List.mem_singleton.mp hk
    exact ⟨.position _ _, (hr.states x hx).target⟩
  case planningChanges =>
    rcases List.mem_pair.mp hk with rfl | rfl
    · exact ⟨.position _ _, (hr.planningChanges x hx).1.target⟩
    · exact ⟨.position _ _, (hr.planningChanges x hx).2.target⟩

theorem schema_rule : Schema.rule schema = none := by decide

theorem nodup_schema : (schema.tables.map (·.name)).Nodup := by decide

theorem nodup_columns : ∀ t ∈ schema.tables, (t.columns.map (·.name)).Nodup := by decide

theorem reference_types : ∀ t ∈ schema.tables, ∀ k ∈ t.foreignKeys, ∀ p ∈ schema.tables,
    p.name = k.parent → p.types k.parentColumns = t.types k.columns ∧
      t.types k.columns ∈ [[some ColumnType.text], [some .text, some .integer]] := by
  decide

/-- What is stored for a record refers to what is stored for its target. -/
theorem meets_target {t p : Table} (ht : t ∈ schema.tables) (hp : p ∈ schema.tables)
    {k : ForeignKey} (hk : k ∈ t.foreignKeys) (hn : p.name = k.parent) {values target : Record}
    (hplace : IsPlace (values.key k.columns))
    (hkey : target.key k.parentColumns = values.key k.columns) :
    k.meets ((t.row values).key k.columns) (p.row target) = true := by
  obtain ⟨htypes, hshape⟩ := reference_types t ht k hk p hp hn
  simp only [ForeignKey.meets, decide_eq_true_eq]
  rw [Table.key_row, Table.key_row, htypes, hkey]
  refine ⟨rfl, ?_⟩
  have hlength : (t.types k.columns).length = (values.key k.columns).length := by
    simp only [Table.types, Record.key, List.length_map]
  generalize values.key k.columns = key at hplace hlength ⊢
  simp only [List.mem_cons, List.not_mem_nil, or_false] at hshape
  cases hplace with
  | file f =>
    rcases hshape with hshape | hshape <;> rw [hshape] at hlength ⊢
    · simp [Cell.ofTyped, Cell.ofValue]
    · simp at hlength
  | position f n =>
    rcases hshape with hshape | hshape <;> rw [hshape] at hlength ⊢
    · simp at hlength
    · simp [Cell.ofTyped, Cell.ofValue, (Cell.ofInt_ne_null n).symm]

end Rows

end OutlineTables
