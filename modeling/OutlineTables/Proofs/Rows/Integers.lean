import OutlineTables.Proofs.Rows.Columns
import OutlineTables.Proofs.Rows.Moved
import OutlineTables.Proofs.Rows.Times
import OutlineTables.Sql.Definition

/-!
Integers and the columns that take them. Positions, depths and truth values fit every column of
integers, and times fit those of 64 bits. Nothing bounds efforts and the counts of warnings and
repeaters, which are as long as they are written.
-/
namespace OutlineTables

namespace Dialect

/-- Integers of the type `INTEGER`. -/
def Fits : Dialect → Int → Prop
  | sqlite, n => -9223372036854775808 ≤ n ∧ n < 9223372036854775808
  | postgres, n => -2147483648 ≤ n ∧ n < 2147483648

instance : (d : Dialect) → DecidablePred d.Fits
  | sqlite, _ => inferInstanceAs (Decidable (_ ∧ _))
  | postgres, _ => inferInstanceAs (Decidable (_ ∧ _))

/-- What fits in 32 bits fits in both dialects. -/
theorem fits_of_bounds {n : Int} (hlow : -2147483648 ≤ n) (hhigh : n < 2147483648)
    (d : Dialect) : d.Fits n := by
  cases d <;> unfold Fits <;> omega

theorem fits_time {n : Int} (h : Calendar.InRange n) : sqlite.Fits n := by
  unfold Calendar.InRange at h
  unfold Fits
  omega

end Dialect

/-- The integer that a value is in a column of integers. -/
def Value.integer? : Value → Option Int
  | int n => some n
  | bool b => some (if b then 1 else 0)
  | _ => none

theorem ClosureRow.depth_of_mem {x : ClosureRow} {v : Value} (h : ("depth", v) ∈ x.record) :
    v = .int x.depth := by
  simpa [record, fileColumn, headingColumn] using h

theorem FileRow.size_of_mem {x : FileRow} {n : Int} (h : ("size", .int n) ∈ x.record) :
    x.size = some n := by
  have h : Value.int n = .ofInt? x.size := by simpa [record, fileColumn] using h
  cases hs : x.size with
  | none =>
    rw [hs] at h
    cases h
  | some m =>
    rw [hs] at h
    cases h
    rfl

namespace Rows

/-- The columns that hold times. -/
def timeColumns : List String := ["time_start", "time_end", "time_logged"]

/-- The columns whose integers are as long as they are written. -/
def countColumns : List String := ["effort", "warning_value", "repeat_value"]

/-- The columns whose integers may not fit. -/
def looseColumns : Dialect → List String
  | .sqlite => countColumns
  | .postgres => countColumns ++ timeColumns

/-- The integers that the rows put into a column. -/
def integersIn (r : Rows) (table : Table) (c : Column) : List Int :=
  (r.recordsOf table.name).flatMap fun values => (values.valuesIn [c.name]).filterMap Value.integer?

/-- The columns of the schema that a dialect declares as columns of integers. -/
structure IntegerColumn (d : Dialect) (table : Table) (c : Column) : Prop where
  declares : table ∈ schema.tables
  column : c ∈ table.columns
  type : d.type table c = "INTEGER".toList

variable {o : Options} {t file md5 : Text} {size : Option Int} {r : Rows}

theorem mem_integersIn_iff {table : Table} {c : Column} {n : Int} :
    n ∈ r.integersIn table c ↔
      ∃ values ∈ r.recordsOf table.name, ∃ v, (c.name, v) ∈ values ∧ v.integer? = some n := by
  unfold integersIn
  simp only [List.mem_flatMap, List.mem_filterMap, Record.mem_valuesIn_iff, List.mem_singleton,
    exists_eq_left]

/-- The times in records lie in the calendar. -/
theorem Timed.valuesIn (h : r.Timed) {table : Table} (ht : table ∈ schema.tables)
    {values : Record} (hv : values ∈ r.recordsOf table.name) :
    ∀ v ∈ values.valuesIn timeColumns, ∀ n, v = .int n → Calendar.InRange n := by
  have hint {m : Int} (hm : Calendar.InRange m) :
      ∀ n, Value.int m = .int n → Calendar.InRange n := by
    rintro n ⟨⟩
    exact hm
  have hoption {a : Option Int} (ha : ∀ m, a = some m → Calendar.InRange m) :
      ∀ n, Value.ofInt? a = .int n → Calendar.InRange n := by
    intro n hn
    cases a with
    | none => cases hn
    | some m =>
      cases hn
      exact ha n rfl
  -- Only timestamps, clocks and notes have columns of times.
  induction table, ht using tables_cases <;> obtain ⟨x, hx, rfl⟩ := List.mem_map.mp hv
  case stamps =>
    have hx := h.stamps x hx
    refine List.forall_mem_cons.mpr ⟨hint hx.start, List.forall_mem_singleton.mpr (hoption ?_)⟩
    intro m hm
    obtain ⟨e, he, rfl⟩ := Option.map_eq_some_iff.mp hm
    exact hx.finish e he
  case clocks =>
    have hx := h.clocks x hx
    exact List.forall_mem_cons.mpr ⟨hint hx.1, List.forall_mem_singleton.mpr (hoption hx.2)⟩
  case notes =>
    exact List.forall_mem_singleton.mpr (hoption (h.notes x hx))
  all_goals exact List.forall_mem_nil _

/-- Columns of integers hold positions, times, counts, depths or sizes. -/
theorem integerColumn_cases : ∀ table ∈ schema.tables, ∀ c ∈ table.columns, c.type = .integer →
    c.name ∈ positionColumns ∨ c.name ∈ timeColumns ∨ c.name ∈ countColumns ∨
      table = closuresTable ∧ c.name = "depth" ∨ table = filesTable ∧ c.name = "size" := by
  decide

/-- The integers of records fit their columns, efforts, counts and, in columns of 32 bits, times
apart. -/
theorem fits_record (hr : ofOutline o (Outline.read o t) file md5 size = .ok r)
    (ht : t.length < 2147483648) {d : Dialect} (hsize : ∀ n, size = some n → d.Fits n)
    {table : Table} {c : Column} (htable : table ∈ schema.tables) (hcolumn : c ∈ table.columns)
    (htype : c.type = .integer) (hc : c.name ∉ looseColumns d) {values : Record}
    (hvalues : values ∈ r.recordsOf table.name) {n : Int} (hn : (c.name, .int n) ∈ values) :
    d.Fits n := by
  have hcount : c.name ∉ countColumns := fun hmem => hc <| by
    cases d with
    | sqlite => exact hmem
    | postgres => exact List.mem_append_left _ hmem
  -- Positions and depths are bounded by the length of the text, and times by the calendar.
  rcases integerColumn_cases table htable c hcolumn htype with
    hpos | htime | hmem | ⟨rfl, hname⟩ | ⟨rfl, hname⟩
  · obtain ⟨p, hp, hlow, hhigh⟩ :=
      positions_ofText hr htable hvalues _ (Record.mem_valuesIn_iff.mpr ⟨_, hpos, hn⟩)
    cases hp
    exact Dialect.fits_of_bounds (by omega) (by omega) d
  · cases d with
    | sqlite =>
      have hin := (timed_ofOutline hr).valuesIn htable hvalues _
        (Record.mem_valuesIn_iff.mpr ⟨_, htime, hn⟩)
      exact Dialect.fits_time (hin n rfl)
    | postgres => exact absurd (List.mem_append_right _ htime) hc
  · exact absurd hmem hcount
  · obtain ⟨x, hx, rfl⟩ := List.mem_map.mp hvalues
    have hdepth := depth_lt_ofText hr hx
    cases ClosureRow.depth_of_mem (hname ▸ hn)
    exact Dialect.fits_of_bounds (by omega) (by omega) d
  · obtain ⟨x, hx, rfl⟩ := List.mem_map.mp hvalues
    have hx : x ∈ r.files := hx
    rw [files_ofOutline hr, List.mem_singleton] at hx
    subst hx
    exact hsize n (FileRow.size_of_mem (hname ▸ hn))

/-- Integers fit the columns that hold them, efforts, counts and, in columns of 32 bits, times
apart. -/
theorem fits_ofText (hr : ofOutline o (Outline.read o t) file md5 size = .ok r)
    (ht : t.length < 2147483648) {d : Dialect} (hsize : ∀ n, size = some n → d.Fits n)
    {table : Table} {c : Column} (h : IntegerColumn d table c) (hc : c.name ∉ looseColumns d) :
    ∀ n ∈ r.integersIn table c, d.Fits n := by
  obtain ⟨htable, hcolumn, -⟩ := h
  intro n hn
  obtain ⟨values, hvalues, v, hv, hn⟩ := mem_integersIn_iff.mp hn
  -- The value is of the type of its column, for a table has one column of each name.
  have htyped : c.type.admits v := by
    obtain ⟨c', hc', htakes⟩ := exists_left_of_mem (takes_record htable hvalues) hv
    obtain rfl := List.inj_on_of_nodup_map (nodup_columns table htable) hc' hcolumn
      htakes.name.symm
    exact htakes.typed
  cases v with
  | int m =>
    obtain rfl : m = n := Option.some.inj hn
    have htype : c.type = .integer := by
      generalize c.type = type at htyped
      cases type <;> first | rfl | cases htyped
    exact fits_record hr ht hsize htable hcolumn htype hc hvalues hv
  | bool b =>
    obtain rfl := Option.some.inj hn
    cases b <;> exact Dialect.fits_of_bounds (by decide) (by decide) d
  | null | float | text | list | object => cases hn

/-- A time that needs more than 32 bits fits a column of 64. -/
theorem fits_ofText_year :
    let t := "* a\n<2112-01-01>\n".toList
    let c := required "time_start" .integer "start time in epoch seconds"
    ∃ r, ofOutline .default (Outline.read .default t) "a.org".toList "md5".toList (some 17) =
        .ok r ∧
      r.integersIn timestampsTable c = [4481049600] ∧
      ∀ n ∈ r.integersIn timestampsTable c, Dialect.sqlite.Fits n := by
  intro t c
  have h : ((ofOutline .default (Outline.read .default t) "a.org".toList "md5".toList
      (some 17)).map fun r => r.integersIn timestampsTable c).toOption = some [4481049600] := by
    decide +kernel
  obtain ⟨r, hr, h⟩ := exists_of_map h
  refine ⟨r, hr, h, fits_ofText hr (by decide) ?_ ?_ (by decide)⟩
  · rintro n ⟨⟩
    decide
  · exact ⟨by decide, by decide, rfl⟩

/-- Every column that may be too small is too small for an integer of this text. -/
theorem not_fits_ofText :
    let t := "* a\n:PROPERTIES:\n:Effort: 9223372036854775808\n:END:\n".toList ++
      ":LOGBOOK:\n- State \"B\" from \"A\" [2112-01-01]\n:END:\n".toList ++
      "<2112-01-01 +9223372036854775808w -9223372036854775808d>--<2112-01-02>\n".toList
    t.length < 2147483648 ∧
    ∃ r, ofOutline .default (Outline.read .default t) "a.org".toList "md5".toList (some 173) =
        .ok r ∧
      ∀ d ∈ Dialect.all, ∀ name ∈ looseColumns d, ∃ table c, IntegerColumn d table c ∧
        c.name = name ∧ ∃ n ∈ r.integersIn table c, ¬ d.Fits n := by
  intro t
  have h : ((ofOutline .default (Outline.read .default t) "a.org".toList "md5".toList
      (some 173)).map fun r => decide (∀ d ∈ Dialect.all, ∀ name ∈ looseColumns d,
        ∃ table ∈ schema.tables, ∃ c ∈ table.columns, d.type table c = "INTEGER".toList ∧
          c.name = name ∧ ∃ n ∈ r.integersIn table c, ¬ d.Fits n)).toOption = some true := by
    decide +kernel
  refine ⟨by decide +kernel, ?_⟩
  obtain ⟨r, hr, h⟩ := exists_of_map h
  refine ⟨r, hr, fun d hd name hname => ?_⟩
  obtain ⟨table, htable, c, hc, htype, hn, hfits⟩ := of_decide_eq_true h d hd name hname
  exact ⟨table, c, ⟨htable, hc, htype⟩, hn, hfits⟩

end Rows

end OutlineTables
