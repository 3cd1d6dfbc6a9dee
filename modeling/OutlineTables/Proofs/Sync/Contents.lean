import Mathlib.Data.List.Perm.Basic
import OutlineTables.Proofs.Rows.Insertion
import OutlineTables.Proofs.Sql.Moved
import OutlineTables.Proofs.Store.Sound

/-!
Stores as collections of files. A store mirrors some files if its tables hold their rows and no
others; deletions, renames and insertions of files keep that up.
-/
namespace OutlineTables

open Rows (schema)

namespace Rows

theorem parents_declared : ∀ t ∈ schema.tables, ∀ k ∈ t.foreignKeys,
    ∃ p ∈ schema.tables, p.name = k.parent := by decide

theorem names_content {t : Table} (ht : t ∈ schema.tables) {r : Rows} {row : Row}
    (h : row ∈ r.content t) : (row.map Prod.fst).Nodup := by
  obtain ⟨values, -, rfl⟩ := List.mem_map.mp h
  unfold Table.row
  rw [List.map_map]
  exact nodup_columns t ht

/-- The rows of an outline refer to rows of the same outline. -/
theorem content_refers {r : Rows} (hr : Refers r r) {t : Table} (ht : t ∈ schema.tables)
    {row : Row} (h : row ∈ r.content t) {k : ForeignKey} (hk : k ∈ t.foreignKeys) :
    ∃ p ∈ schema.tables, p.name = k.parent ∧ ∃ target ∈ r.content p,
      k.meets (row.key k.columns) target = true := by
  obtain ⟨values, hv, rfl⟩ := List.mem_map.mp h
  obtain ⟨p, hp, hn⟩ := parents_declared t ht k hk
  obtain ⟨hplace, target, htarget, hkey⟩ := reference_target hr ht hk hv
  rw [← hn] at htarget
  exact ⟨p, hp, hn, p.row target, List.mem_map_of_mem htarget,
    meets_target ht hp hk hn hplace hkey⟩

end Rows

namespace Mapping

/-- The rows that a file of some contents has under a path, all of which can be inserted. -/
structure Holds (m : Mapping) (path : Text) (bytes : Encoding.Bytes) (r : Rows) : Prop where
  read : ∃ text, Encoding.readText bytes = .ok text ∧
    Rows.ofOutline m.options (Outline.read m.options text) path (Md5.digest bytes)
      (some bytes.length) = .ok r
  written : ∀ p ∈ Placed.ofRecords schema.tables r.records,
    (∃ text, p.statement.toSql m.dialect schema = .ok text) ∧
      p.statement.fault? m.dialect schema = none
  filled : ∀ t ∈ schema.tables, ∀ row ∈ r.content t, ∀ c ∈ t.columns, c.notNull = true →
    row.cell c.name ≠ .null
  unique : ∀ t ∈ schema.tables, ((r.content t).map t.keyOf).Nodup

variable {m : Mapping} {path : Text} {bytes : Encoding.Bytes} {r : Rows}

theorem Holds.cell (h : m.Holds path bytes r) {t : Table} (ht : t ∈ schema.tables) {row : Row}
    (hrow : row ∈ r.content t) : row.cell "file_path" = .text path := by
  obtain ⟨text, -, hr⟩ := h.read
  exact Rows.cell_content hr ht hrow

theorem Holds.isOf (h : m.Holds path bytes r) {t : Table} (ht : t ∈ schema.tables) {row : Row}
    (hrow : row ∈ r.content t) : row.isOf path = true := by
  simpa [Row.isOf] using h.cell ht hrow

theorem Holds.not_isOf (h : m.Holds path bytes r) {t : Table} (ht : t ∈ schema.tables) {row : Row}
    (hrow : row ∈ r.content t) {other : Text} (hne : path ≠ other) : row.isOf other = false := by
  simpa [Row.isOf, h.cell ht hrow] using hne

theorem Holds.refers (h : m.Holds path bytes r) : Rows.Refers r r := by
  obtain ⟨text, -, hr⟩ := h.read
  exact Rows.refers_ofOutline hr

/-- A file has one row in `files`, with its path, digest and size. -/
theorem Holds.content_files (h : m.Holds path bytes r) : r.content Rows.filesTable =
    [Rows.filesTable.row (FileRow.record ⟨path, Md5.digest bytes, some bytes.length⟩)] := by
  obtain ⟨text, -, hr⟩ := h.read
  have hrecords : r.recordsOf "files" = r.files.map (·.record) := rfl
  unfold Rows.content
  rw [show Rows.filesTable.name = "files" from rfl, hrecords, Rows.files_ofOutline hr]
  rfl

/-- Contents under a path have one set of rows. -/
theorem Holds.eq {r' : Rows} (h : m.Holds path bytes r) (h' : m.Holds path bytes r') : r = r' := by
  obtain ⟨text, htext, hr⟩ := h.read
  obtain ⟨text', htext', hr'⟩ := h'.read
  rw [htext] at htext'
  cases htext'
  exact Except.ok.inj (hr.symm.trans hr')

/-- What can be inserted under one path can be inserted under any other that can be written. -/
theorem Holds.moved (h : m.Holds path bytes r) {q : Text} (hq : m.dialect.Writes q) :
    m.Holds q bytes (r.moved q) where
  read := by
    obtain ⟨text, htext, hr⟩ := h.read
    exact ⟨text, htext, Rows.ofOutline_moved hr q⟩
  written := by
    rintro ⟨t, values⟩ hp
    obtain ⟨ht, hv⟩ := Placed.mem_ofRecords.mp hp
    have hv : values ∈ (r.moved q).recordsOf t.name := hv
    rw [Rows.recordsOf_moved] at hv
    obtain ⟨old, hold, rfl⟩ := List.mem_map.mp hv
    obtain ⟨⟨text, htext⟩, hfault⟩ := h.written ⟨t, old⟩ (Placed.mem_ofRecords.mpr ⟨ht, hold⟩)
    obtain ⟨text', htext', hfault'⟩ := Sql.insert_moved htext hfault hq
    exact ⟨⟨text', htext'⟩, hfault'⟩
  filled := by
    intro t ht row hrow c hc hn
    rw [Rows.content_moved ht] at hrow
    obtain ⟨old, hold, rfl⟩ := List.mem_map.mp hrow
    by_cases hf : c.name = "file_path"
    · have hnull : old.cell "file_path" ≠ .null := by
        rw [h.cell ht hold]
        simp
      rw [hf, Row.cell_moved_file hnull]
      simp
    · rw [Row.cell_moved_other hf]
      exact h.filled t ht old hold c hc hn
  unique := by
    intro t ht
    rw [Rows.content_moved ht]
    exact Store.nodup_keys_moved (fun row hrow => h.isOf ht hrow) (h.unique t ht)

/-- A store whose tables hold the rows of some files, in any order, and no other rows. -/
structure Mirrors (m : Mapping) (s : Store) (files : List (Text × Encoding.Bytes)) : Prop where
  fits : s.Fits schema
  nodup : (files.map Prod.fst).Nodup
  content : ∃ rs, List.Forall₂ (fun f r => m.Holds f.1 f.2 r) files rs ∧
    ∀ t ∈ schema.tables, (s.rows t.name).Perm (rs.flatMap (·.content t))

theorem mirrors_empty (m : Mapping) : m.Mirrors (Store.ofSchema schema) [] where
  fits := Store.fits_ofSchema schema
  nodup := List.nodup_nil
  content := ⟨[], List.Forall₂.nil, fun t _ => by rw [Store.rows_ofSchema]; exact List.Perm.nil⟩

section Mirrors

variable {s s' : Store} {files files' : List (Text × Encoding.Bytes)}

theorem Mirrors.perm (h : m.Mirrors s files) (hp : files'.Perm files) : m.Mirrors s files' where
  fits := h.fits
  nodup := (hp.map Prod.fst).nodup_iff.mpr h.nodup
  content := by
    obtain ⟨rs, hrs, hrows⟩ := h.content
    obtain ⟨rs', hrs', hperm⟩ := List.perm_comp_forall₂ hp hrs
    exact ⟨rs', hrs', fun t ht => (hrows t ht).trans (hperm.symm.flatMap_right _)⟩

/-- Rows of some files are of no other file. -/
theorem not_isOf_of_mem {rs : List Rows} (hrs : List.Forall₂ (fun f r => m.Holds f.1 f.2 r) files rs)
    (hp : path ∉ files.map Prod.fst) {t : Table} (ht : t ∈ schema.tables) {row : Row}
    (hrow : row ∈ rs.flatMap (·.content t)) : row.isOf path = false := by
  obtain ⟨r, hr, hrow⟩ := List.mem_flatMap.mp hrow
  obtain ⟨f, hf, hholds⟩ := exists_left_of_mem hrs hr
  exact hholds.not_isOf ht hrow fun he => hp (List.mem_map.mpr ⟨f, hf, he⟩)

/-- Two stores that mirror the same files have the same rows. -/
theorem Mirrors.rows_perm (h : m.Mirrors s files) (h' : m.Mirrors s' files) {t : Table}
    (ht : t ∈ schema.tables) : (s.rows t.name).Perm (s'.rows t.name) := by
  obtain ⟨rs, hrs, hrows⟩ := h.content
  obtain ⟨rs', hrs', hrows'⟩ := h'.content
  have heq : rs = rs' :=
    List.right_unique_forall₂' (fun _ _ _ ha hb => ha.eq hb) hrs hrs'
  rw [← heq] at hrows'
  exact (hrows t ht).trans (hrows' t ht).symm

theorem Mirrors.exists_of_mem (h : m.Mirrors s files) {t : Table} (ht : t ∈ schema.tables)
    {row : Row} (hrow : row ∈ s.rows t.name) :
    ∃ f ∈ files, ∃ r, m.Holds f.1 f.2 r ∧ row ∈ r.content t ∧
      ∀ u ∈ schema.tables, ∀ a ∈ r.content u, a ∈ s.rows u.name := by
  obtain ⟨rs, hrs, hrows⟩ := h.content
  rw [(hrows t ht).mem_iff, List.mem_flatMap] at hrow
  obtain ⟨r, hr, hrow⟩ := hrow
  obtain ⟨f, hf, hholds⟩ := exists_left_of_mem hrs hr
  refine ⟨f, hf, r, hholds, hrow, ?_⟩
  intro u hu a ha
  rw [(hrows u hu).mem_iff]
  exact List.mem_flatMap.mpr ⟨r, hr, ha⟩

theorem Mirrors.tied (h : m.Mirrors s files) : Store.Tied s.rows where
  named t ht row hrow := by
    obtain ⟨f, -, r, -, hm, -⟩ := h.exists_of_mem ht hrow
    exact Rows.names_content ht hm
  refers t ht row hrow k hk := by
    obtain ⟨f, -, r, hr, hm, hall⟩ := h.exists_of_mem ht hrow
    obtain ⟨p, hp, hn, target, htarget, hmeets⟩ := Rows.content_refers hr.refers ht hm hk
    exact ⟨target, hn ▸ hall p hp target htarget, hmeets⟩

/-- Rows of a file that is not mirrored are not there. -/
theorem Mirrors.not_isOf (h : m.Mirrors s files) {path : Text} (hp : path ∉ files.map Prod.fst)
    {t : Table} (ht : t ∈ schema.tables) {row : Row} (hrow : row ∈ s.rows t.name) :
    row.isOf path = false := by
  obtain ⟨rs, hrs, hrows⟩ := h.content
  exact not_isOf_of_mem hrs hp ht ((hrows t ht).mem_iff.mp hrow)

/-- Deleting a mirrored file leaves the others. -/
theorem Mirrors.delete {path : Text} {bytes : Encoding.Bytes}
    (h : m.Mirrors s ((path, bytes) :: files))
    (hok : s.delete "files" [("file_path", .text path)] = .ok s') : m.Mirrors s' files := by
  obtain ⟨hfits, hrows'⟩ := Store.delete_file h.fits h.tied hok
  have hnodup := h.nodup
  rw [List.map_cons, List.nodup_cons] at hnodup
  obtain ⟨rs, hrs, hrows⟩ := h.content
  obtain ⟨r, rest, hr, hrest, rfl⟩ := List.forall₂_cons_left_iff.mp hrs
  refine ⟨hfits, hnodup.2, rest, hrest, ?_⟩
  intro t ht
  rw [hrows']
  refine ((hrows t ht).filter _).trans ?_
  rw [List.flatMap_cons, List.filter_append]
  have hgone : (r.content t).filter (!·.isOf path) = [] := by
    rw [List.filter_eq_nil_iff]
    intro row hrow
    simp [hr.isOf ht hrow]
  have hkept : (rest.flatMap (·.content t)).filter (!·.isOf path) = rest.flatMap (·.content t) := by
    rw [List.filter_eq_self]
    intro row hrow
    simp [not_isOf_of_mem hrest hnodup.1 ht hrow]
  rw [hgone, hkept, List.nil_append]

/-- Renaming a mirrored file to a path that no other one has leaves its contents. -/
theorem Mirrors.rename {old new : Text} {bytes : Encoding.Bytes}
    (h : m.Mirrors s ((old, bytes) :: files)) (hne : old ≠ new)
    (hfree : new ∉ files.map Prod.fst) (hw : m.dialect.Writes new)
    (hok : s.update "files" [("file_path", .text new)] [("file_path", .text old)] = .ok s') :
    m.Mirrors s' ((new, bytes) :: files) := by
  obtain ⟨hfits, hrows'⟩ := Store.rename_file h.fits h.tied hne hok
  have hnodup := h.nodup
  rw [List.map_cons, List.nodup_cons] at hnodup
  obtain ⟨rs, hrs, hrows⟩ := h.content
  obtain ⟨r, rest, hr, hrest, rfl⟩ := List.forall₂_cons_left_iff.mp hrs
  refine ⟨hfits, List.nodup_cons.mpr ⟨hfree, hnodup.2⟩, r.moved new :: rest,
    List.Forall₂.cons (hr.moved hw) hrest, ?_⟩
  intro t ht
  rw [hrows']
  refine ((hrows t ht).map _).trans ?_
  rw [List.flatMap_cons, List.flatMap_cons, List.map_append, Rows.content_moved ht]
  have hmoved : (r.content t).map (Store.renamed old new) = (r.content t).map (Row.moved new) := by
    apply List.map_congr_left
    intro row hrow
    rw [Store.renamed, if_pos (hr.isOf ht hrow)]
  have hkept : (rest.flatMap (·.content t)).map (Store.renamed old new) =
      rest.flatMap (·.content t) := by
    conv_rhs => rw [← List.map_id (rest.flatMap (·.content t))]
    apply List.map_congr_left
    intro row hrow
    rw [Store.renamed, if_neg (by simp [not_isOf_of_mem hrest hnodup.1 ht hrow])]
    rfl
  rw [hmoved, hkept]

section Insert

variable {path : Text} {bytes : Encoding.Bytes} {r : Rows}

/-- Once the rows of a file are inserted, the file is mirrored too. -/
theorem Mirrors.insert (h : m.Mirrors s files) (hfree : path ∉ files.map Prod.fst)
    (hr : m.Holds path bytes r)
    (hok : s.execAll (Statement.inserts schema r.records) = .ok s') :
    m.Mirrors s' ((path, bytes) :: files) := by
  rw [Placed.inserts_eq] at hok
  obtain ⟨hfits, hrows'⟩ := Store.rows_execAll Rows.nodup_schema
    (fun p hp => (Placed.mem_ofRecords.mp hp).1) h.fits hok
  obtain ⟨rs, hrs, hrows⟩ := h.content
  refine ⟨hfits, List.nodup_cons.mpr ⟨hfree, h.nodup⟩, r :: rs, List.Forall₂.cons hr hrs, ?_⟩
  intro t ht
  rw [hrows', Placed.rowsOf_records ht, List.flatMap_cons]
  exact ((hrows t ht).append_right _).trans List.perm_append_comm

/-- A store takes the rows of a file that it does not have. -/
theorem Mirrors.exists_insert (h : m.Mirrors s files) (hfree : path ∉ files.map Prod.fst)
    (hr : m.Holds path bytes r) :
    ∃ s', s.execAll (Statement.inserts schema r.records) = .ok s' := by
  -- What the table has and what comes into it are rows of different files.
  have hnew : Rows.New s r := ⟨h.fits, hr.refers, hr.filled, fun t ht row hrow hm => by
    obtain ⟨other, hother, he⟩ := List.mem_map.mp hm
    exact Store.keyOf_ne ht (hr.isOf ht hrow) (h.not_isOf hfree ht hother) he⟩
  exact hnew.exists_insertions hr.unique

/-- Rows that a store has taken can be inserted. -/
theorem Mirrors.holds_of_insert (h : m.Mirrors s files)
    (hread : ∃ text, Encoding.readText bytes = .ok text ∧
      Rows.ofOutline m.options (Outline.read m.options text) path (Md5.digest bytes)
        (some bytes.length) = .ok r)
    (hsql : ∀ x ∈ Statement.inserts schema r.records, ∃ text, x.toSql m.dialect schema = .ok text)
    (hok : s.performAll m.dialect schema (Statement.inserts schema r.records) = .ok s') :
    m.Holds path bytes r := by
  obtain ⟨hfaults, hok⟩ := Store.performAll_eq_ok.mp hok
  have hunique := Rows.nodup_of_insertions h.fits hok
  rw [Placed.inserts_eq] at hfaults hsql hok
  have haccepts :=
    (Store.execAll_isOk_iff Rows.nodup_schema (fun _ => Rows.mem_tables) h.fits).mp ⟨s', hok⟩
  refine ⟨hread, ?_, ?_, hunique⟩
  · intro p hp
    exact ⟨hsql _ (List.mem_map_of_mem hp), hfaults _ (List.mem_map_of_mem hp)⟩
  · intro t ht row hrow
    rw [← Placed.rowsOf_records ht] at hrow
    obtain ⟨p, hp, rfl⟩ := List.mem_map.mp hrow
    obtain ⟨hp, hn⟩ := List.mem_filter.mp hp
    obtain ⟨before, after, hsplit⟩ := List.append_of_mem hp
    have hpt : p.table = t := List.inj_on_of_nodup_map Rows.nodup_schema (Rows.mem_tables hp) ht
      (by simpa using hn)
    exact hpt ▸ (haccepts before p after hsplit).filled

end Insert

end Mirrors

end Mapping

end OutlineTables
