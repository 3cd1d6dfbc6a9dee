import OutlineTables.Proofs.Rows.Import
import OutlineTables.Proofs.Sync.Outcome
import OutlineTables.Proofs.Sync.Runs

/-!
Moved files. The rows of an outline depend on the path of its file only in that they hold it, so
the renames of a sync leave the rows that deletions and new imports of the files would leave.
-/
namespace OutlineTables

open Rows (schema)

namespace Rows

/-- Rows of one file that any store takes which has no rows of the file. -/
structure Importable (r : Rows) (path : Text) : Prop where
  refers : Refers r r
  filled : ∀ t ∈ schema.tables, ∀ row ∈ r.content t, ∀ c ∈ t.columns, c.notNull = true →
    row.cell c.name ≠ .null
  unique : ∀ t ∈ schema.tables, ((r.content t).map t.keyOf).Nodup
  isOf : ∀ t ∈ schema.tables, ∀ row ∈ r.content t, row.isOf path = true

variable {s a : Store} {r : Rows} {path : Text}

/-- An import keeps a store sound. -/
theorem Importable.sound (hr : Importable r path) (hs : s.Sound)
    (hfree : ∀ row ∈ s.rows "files", row.isOf path = false) (hfits : a.Fits schema)
    (hrows : ∀ t ∈ schema.tables, a.rows t.name = s.rows t.name ++ r.content t) : a.Sound where
  fits := hfits
  tied := by
    constructor
    · intro t ht row hrow
      rw [hrows t ht] at hrow
      rcases List.mem_append.mp hrow with hrow | hrow
      · exact hs.tied.named t ht row hrow
      · exact names_content ht hrow
    · intro t ht row hrow k hk
      rw [hrows t ht] at hrow
      rcases List.mem_append.mp hrow with hrow | hrow
      · obtain ⟨target, htarget, hmeets⟩ := hs.tied.refers t ht row hrow k hk
        obtain ⟨p, hp, hn⟩ := parents_declared t ht k hk
        rw [← hn] at htarget ⊢
        refine ⟨target, ?_, hmeets⟩
        rw [hrows p hp]
        exact List.mem_append_left _ htarget
      · obtain ⟨p, hp, hn, target, htarget, hmeets⟩ := content_refers hr.refers ht hrow hk
        rw [← hn]
        refine ⟨target, ?_, hmeets⟩
        rw [hrows p hp]
        exact List.mem_append_right _ htarget
  unique := by
    intro t ht
    rw [hrows t ht, List.map_append, List.nodup_append]
    refine ⟨hs.unique t ht, hr.unique t ht, ?_⟩
    intro _ ha _ hb he
    obtain ⟨other, hother, rfl⟩ := List.mem_map.mp ha
    obtain ⟨row, hrow, rfl⟩ := List.mem_map.mp hb
    exact Store.keyOf_ne ht (hr.isOf t ht row hrow) (hs.not_isOf hfree hother) he

/-- A sound store that has no rows of a file takes them. -/
theorem Importable.exists_import (hr : Importable r path) (hs : s.Sound)
    (hfree : ∀ row ∈ s.rows "files", row.isOf path = false) :
    ∃ a, s.execAll (Statement.inserts schema r.records) = .ok a ∧ a.Sound ∧
      ∀ t ∈ schema.tables, a.rows t.name = s.rows t.name ++ r.content t := by
  have hnew : New s r := ⟨hs.fits, hr.refers, hr.filled, fun t ht row hrow hm => by
    obtain ⟨other, hother, he⟩ := List.mem_map.mp hm
    exact Store.keyOf_ne ht (hr.isOf t ht row hrow) (hs.not_isOf hfree hother) he⟩
  obtain ⟨a, ha⟩ := hnew.exists_insertions hr.unique
  have hinserts := ha
  rw [Placed.inserts_eq] at hinserts
  obtain ⟨hfits, hrows⟩ := Store.rows_execAll nodup_schema (fun _ => mem_tables) hs.fits hinserts
  have hcontent : ∀ t ∈ schema.tables, a.rows t.name = s.rows t.name ++ r.content t := by
    intro t ht
    rw [hrows, Placed.rowsOf_records ht]
  exact ⟨a, ha, hr.sound hs hfree hfits hcontent, hcontent⟩

/-- Files that a sound store has no rows of can be imported one after the other. -/
theorem exists_imports {paths : List Text} {rs : List Rows} (hs : s.Sound)
    (hrs : List.Forall₂ (fun p r => Importable r p) paths rs) (hn : paths.Nodup)
    (hfree : ∀ p ∈ paths, ∀ row ∈ s.rows "files", row.isOf p = false) :
    ∃ s', s.execAll (rs.flatMap fun r => Statement.inserts schema r.records) = .ok s' ∧ s'.Sound ∧
      ∀ t ∈ schema.tables, s'.rows t.name = s.rows t.name ++ rs.flatMap (·.content t) := by
  induction hrs generalizing s with
  | nil => exact ⟨s, rfl, hs, fun t _ => (List.append_nil _).symm⟩
  | @cons p r paths rs hr _ ih =>
    rw [List.nodup_cons] at hn
    have hfiles : filesTable ∈ schema.tables := List.mem_cons_self
    obtain ⟨a, ha, hsound, hrows⟩ := hr.exists_import hs (hfree p List.mem_cons_self)
    -- The rows that have come in are those of one file, and the others have other paths.
    have hfree' : ∀ q ∈ paths, ∀ row ∈ a.rows "files", row.isOf q = false := by
      intro q hq row hrow
      rw [show "files" = filesTable.name from rfl, hrows filesTable hfiles] at hrow
      rcases List.mem_append.mp hrow with hrow | hrow
      · exact hfree q (List.mem_cons_of_mem _ hq) row hrow
      · have hpq : p ≠ q := fun he => hn.1 (he ▸ hq)
        simpa [Row.isOf, Row.cell_of_isOf (hr.isOf filesTable hfiles row hrow)] using hpq
    obtain ⟨s', hs', hsound', hrows'⟩ := ih hsound hn.2 hfree'
    refine ⟨s', ?_, hsound', ?_⟩
    · rw [List.flatMap_cons, Store.execAll, List.foldlM_append]
      exact bind_eq_ok.mpr ⟨a, ha, hs'⟩
    · intro t ht
      rw [hrows' t ht, hrows t ht, List.flatMap_cons, List.append_assoc]

end Rows

/-- A file that is stored under one path and found under another, with its rows under the first. -/
structure MovedFile (o : Options) where
  old : Text
  new : Text
  outline : Outline
  md5 : Text
  size : Int
  rows : Rows
  mapped : Rows.ofOutline o outline old md5 (some size) = .ok rows

namespace MovedFile

variable {o : Options}

/-- The file as a report has it. -/
def file (x : MovedFile o) : FileMeta where
  hash := x.md5
  diskPath := some x.new
  storePath := some x.old
  size := some x.size

/-- What a sync asks of the files that it moves and of the store: the store has the rows of each
file under its old path, paths on the way are free, and a new path is free or that of another file
that moves. -/
structure Movable (s : Store) (xs : List (MovedFile o)) : Prop where
  kept : ∀ x ∈ xs, ∀ t ∈ schema.tables,
    ((s.rows t.name).filter (·.isOf x.old)).Perm (x.rows.content t)
  old : (xs.map (·.old)).Nodup
  new : (xs.map (·.new)).Nodup
  between : ∀ x ∈ xs.zipIdx,
    (∀ row ∈ s.rows "files", row.isOf (Report.betweenPath x.1.file x.2) = false) ∧
      ∀ y ∈ xs, Report.betweenPath x.1.file x.2 ≠ y.new
  free : ∀ x ∈ xs, ∀ row ∈ s.rows "files", row.isOf x.new = true →
    ∃ y ∈ xs, row.isOf y.old = true

section Movable

variable {s : Store} {xs : List (MovedFile o)}

/-- The stored rows are those that stay and those of each file that moves. -/
theorem Movable.rows_perm (h : Movable s xs) {t : Table} (ht : t ∈ schema.tables) :
    (s.rows t.name).Perm
      (((s.rows t.name).filter fun row => !(xs.map (·.old)).any (row.isOf ·)) ++
        xs.flatMap (·.rows.content t)) := by
  let leaves (row : Row) : Bool := (xs.map (·.old)).any (row.isOf ·)
  have hkeys : (xs.map fun x => Cell.text x.old).Nodup := by
    have hcells := h.old.map fun a b (he : Cell.text a = Cell.text b) => Cell.text.inj he
    rwa [List.map_map] at hcells
  have hall : ∀ row ∈ (s.rows t.name).filter leaves,
      row.cell "file_path" ∈ xs.map fun x => Cell.text x.old := by
    intro row hrow
    obtain ⟨p, hp, hof⟩ := List.any_eq_true.mp (List.mem_filter.mp hrow).2
    obtain ⟨x, hx, rfl⟩ := List.mem_map.mp hp
    exact List.mem_map.mpr ⟨x, hx, (Row.cell_of_isOf hof).symm⟩
  have hgroups := flatMap_filter_perm (fun row : Row => row.cell "file_path") hkeys hall
  rw [List.flatMap_map] at hgroups
  have hgroup : ∀ x ∈ xs, (((s.rows t.name).filter leaves).filter
      (·.cell "file_path" = Cell.text x.old)).Perm (x.rows.content t) := by
    intro x hx
    have hsame : ((s.rows t.name).filter leaves).filter (·.cell "file_path" = Cell.text x.old) =
        (s.rows t.name).filter (·.isOf x.old) := by
      rw [List.filter_filter]
      apply List.filter_congr
      intro row _
      cases hof : row.isOf x.old with
      | false => simpa [Row.isOf] using fun he => absurd he (by simpa [Row.isOf] using hof)
      | true =>
        have hleaves : leaves row = true :=
          List.any_eq_true.mpr ⟨x.old, List.mem_map_of_mem hx, hof⟩
        simp [hleaves, Row.cell_of_isOf hof]
    rw [hsame]
    exact h.kept x hx t ht
  have hmoved := hgroups.symm.trans (List.Perm.flatMap_left xs hgroup)
  have hsplit := (List.filter_append_perm leaves (s.rows t.name)).symm
  exact hsplit.trans (List.perm_append_comm.trans (hmoved.append_left _))

theorem isOf_content {x : MovedFile o} {t : Table} (ht : t ∈ schema.tables) {row : Row}
    (hrow : row ∈ x.rows.content t) : row.isOf x.old = true := by
  simpa [Row.isOf] using Rows.cell_content x.mapped ht hrow

/-- Each file that moves has a row in `files`. -/
theorem Movable.exists_row (h : Movable s xs) {x : MovedFile o} (hx : x ∈ xs) :
    ∃ row ∈ s.rows "files", row.isOf x.old = true := by
  have hcontent : (x.rows.content Rows.filesTable).length = 1 := by
    have hlength : (x.rows.content Rows.filesTable).length = x.rows.files.length := by
      simp [Rows.content, Rows.recordsOf, Rows.records, Rows.filesTable]
    rw [hlength, Rows.files_ofOutline x.mapped, List.length_singleton]
  obtain ⟨row, hrow⟩ := List.exists_mem_of_length_pos (hcontent ▸ Nat.one_pos)
  have hstored := (h.kept x hx Rows.filesTable List.mem_cons_self).mem_iff.mpr hrow
  exact ⟨row, List.mem_filter.mp hstored⟩

/-- In a store of nothing but these outline files they can all take each other's paths. -/
theorem movable_of_rows (hs : ∀ t ∈ schema.tables, s.rows t.name = xs.flatMap (·.rows.content t))
    (hold : (xs.map (·.old)).Nodup) (hnew : (xs.map (·.new)).Nodup)
    (hpaths : ∀ x ∈ xs, Mapping.IsOutlinePath x.old ∧ Mapping.IsOutlinePath x.new) :
    Movable s xs := by
  have hfiles : s.rows "files" = xs.flatMap (·.rows.content Rows.filesTable) :=
    hs Rows.filesTable List.mem_cons_self
  have hof (row : Row) (hrow : row ∈ s.rows "files") : ∃ y ∈ xs, row.isOf y.old = true := by
    rw [hfiles] at hrow
    obtain ⟨y, hy, hrow⟩ := List.mem_flatMap.mp hrow
    exact ⟨y, hy, isOf_content List.mem_cons_self hrow⟩
  refine ⟨?_, hold, hnew, ?_, fun _ _ row hrow _ => hof row hrow⟩
  · intro x hx t ht
    obtain ⟨before, after, rfl⟩ := List.append_of_mem hx
    rw [List.map_append, List.map_cons, List.nodup_middle, List.nodup_cons] at hold
    have hothers (ys : List (MovedFile o)) (hys : ys ⊆ before ++ after) :
        (ys.flatMap (·.rows.content t)).filter (·.isOf x.old) = [] := by
      rw [List.filter_eq_nil_iff]
      intro row hrow hrowOf
      obtain ⟨y, hy, hrow⟩ := List.mem_flatMap.mp hrow
      have hcell := (Row.cell_of_isOf hrowOf).symm.trans (Row.cell_of_isOf (isOf_content ht hrow))
      apply hold.1
      rw [← List.map_append, Cell.text.inj hcell]
      exact List.mem_map_of_mem (hys hy)
    have hown : (x.rows.content t).filter (·.isOf x.old) = x.rows.content t :=
      List.filter_eq_self.mpr fun row hrow => isOf_content ht hrow
    rw [hs t ht, List.flatMap_append, List.flatMap_cons, List.filter_append, List.filter_append,
      hothers before (List.subset_append_left _ _), hothers after (List.subset_append_right _ _),
      hown, List.nil_append, List.append_nil]
  · intro x hx
    refine ⟨fun row hrow => ?_, fun y hy => Report.ne_of_isOutlinePath _ _ (hpaths y hy).2⟩
    obtain ⟨y, hy, hrowOf⟩ := hof row hrow
    have hne := Report.ne_of_isOutlinePath x.1.file x.2 (hpaths y hy).1
    simpa [Row.isOf, Row.cell_of_isOf hrowOf] using hne.symm

/-- The rows of a file with a size can be imported if their keys are different. -/
theorem importable_of_unique {x : Outline} {path md5 : Text} {size : Int} {r : Rows}
    (hr : Rows.ofOutline o x path md5 (some size) = .ok r)
    (hn : ∀ t ∈ schema.tables, ((r.content t).map t.keyOf).Nodup) : r.Importable path := by
  have hsized : r.Sized := by
    intro f hf
    rw [Rows.files_ofOutline hr, List.mem_singleton] at hf
    subst hf
    simp
  refine ⟨Rows.refers_ofOutline hr, ?_, hn, ?_⟩
  · intro t ht row hrow c hc hrequired
    exact Rows.filled_content hsized ht hrow hc hrequired
  · intro t ht row hrow
    simpa [Row.isOf] using Rows.cell_content hr ht hrow

theorem Movable.importable (h : Movable s xs) (hs : s.Sound) {x : MovedFile o} (hx : x ∈ xs) :
    (x.rows.moved x.new).Importable x.new := by
  apply importable_of_unique (Rows.ofOutline_moved x.mapped x.new)
  intro t ht
  rw [Rows.content_moved ht]
  apply Store.nodup_keys_moved fun row hrow => isOf_content ht hrow
  rw [← ((h.kept x hx t ht).map t.keyOf).nodup_iff]
  exact (hs.unique t ht).sublist (List.filter_sublist.map _)

/-- The renames succeed and take the rows of each file to its new path. -/
theorem Movable.exists_renames (h : Movable s xs) (hs : s.Sound) :
    ∃ a, s.execAll (Report.renames { update := xs.map (·.file) }) = .ok a ∧ a.Sound ∧
      ∀ t ∈ schema.tables, (a.rows t.name).Perm
        (((s.rows t.name).filter fun row => !(xs.map (·.old)).any (row.isOf ·)) ++
          xs.flatMap fun x => (x.rows.moved x.new).content t) := by
  have hold : (xs.zipIdx.map fun x => x.1.old).Nodup := by
    rw [map_zipIdx_fst]
    exact h.old
  have hnew : (xs.zipIdx.map fun x => x.1.new).Nodup := by
    rw [map_zipIdx_fst]
    exact h.new
  have hmid : (xs.zipIdx.map fun x => Report.betweenPath x.1.file x.2).Nodup :=
    Report.nodup_between (fun x : MovedFile o => x.old) xs
  have hinside (x : MovedFile o × Nat) (hx : x ∈ xs.zipIdx) : x.1 ∈ xs :=
    List.fst_mem_of_mem_zipIdx hx
  have hapart : ∀ x ∈ xs.zipIdx, ∀ y ∈ xs.zipIdx,
      Report.betweenPath x.1.file x.2 ≠ y.1.old ∧ Report.betweenPath x.1.file x.2 ≠ y.1.new := by
    intro x hx y hy
    refine ⟨fun he => ?_, (h.between x hx).2 y.1 (hinside y hy)⟩
    -- The old path is that of a row, and no row is on a path between two.
    obtain ⟨row, hrow, hof⟩ := h.exists_row (hinside y hy)
    rw [← he, (h.between x hx).1 row hrow] at hof
    cases hof
  have hfree : ∀ x ∈ xs.zipIdx, ∀ row ∈ s.rows "files", row.isOf x.1.new = true →
      ∃ y ∈ xs.zipIdx, row.isOf y.1.old = true := by
    intro x hx row hrow hof
    obtain ⟨y, hy, hof'⟩ := h.free x.1 (hinside x hx) row hrow hof
    rw [← List.zipIdx_map_fst 0 xs] at hy
    obtain ⟨z, hz, rfl⟩ := List.mem_map.mp hy
    exact ⟨z, hz, hof'⟩
  obtain ⟨a, hrun, hrows⟩ :=
    hs.exists_moves hold hmid hnew hapart (fun x hx => (h.between x hx).1) hfree
  have hrenames : Report.renames { update := xs.map (·.file) } =
      (xs.zipIdx.map fun x => Report.rename (some x.1.old)
        (some (Report.betweenPath x.1.file x.2))) ++
      xs.zipIdx.map fun x => Report.rename (some (Report.betweenPath x.1.file x.2))
        (some x.1.new) := by
    unfold Report.renames
    rw [List.zipIdx_map, List.map_map, List.map_map]
    rfl
  rw [map_zipIdx_fst fun x : MovedFile o => (x.old, x.new)] at hrows
  refine ⟨a, hrenames ▸ hrun.execAll, hrun.target, ?_⟩
  intro t ht
  rw [hrows]
  refine ((h.rows_perm ht).map _).trans (List.Perm.of_eq ?_)
  rw [List.map_append, List.map_flatMap]
  have hpaths : ((xs.map fun x => (x.old, x.new)).map Prod.fst).Nodup := by
    rw [List.map_map]
    exact h.old
  congr 1
  · -- Rows that stay are of no file that moves.
    conv_rhs => rw [← List.map_id ((s.rows t.name).filter _)]
    apply List.map_congr_left
    intro row hrow
    apply Row.relocated_eq_self
    intro m hm
    obtain ⟨x, hx, rfl⟩ := List.mem_map.mp hm
    have hnone := (List.mem_filter.mp hrow).2
    rw [Bool.not_eq_true', List.any_eq_false] at hnone
    simpa using hnone x.old (List.mem_map_of_mem hx)
  · apply List.flatMap_congr
    intro x hx
    rw [Rows.content_moved ht]
    apply List.map_congr_left
    intro row hrow
    exact Row.relocated_of_mem hpaths (List.mem_map_of_mem (f := fun x => (x.old, x.new)) hx)
      (isOf_content ht hrow)

/-- Deletions and new imports succeed as well. -/
theorem Movable.exists_reimports (h : Movable s xs) (hs : s.Sound) :
    ∃ a, s.execAll (Report.deletions { delete := xs.map (·.file) } ++
        (xs.map fun x => x.rows.moved x.new).flatMap fun r =>
          Statement.inserts schema r.records) = .ok a ∧ a.Sound ∧
      ∀ t ∈ schema.tables, a.rows t.name =
        ((s.rows t.name).filter fun row => !(xs.map (·.old)).any (row.isOf ·)) ++
          xs.flatMap fun x => (x.rows.moved x.new).content t := by
  obtain ⟨a, hrun, hrows⟩ := hs.exists_deletions (xs.map (·.old))
  have hdeletions : Report.deletions { delete := xs.map (·.file) } =
      (xs.map (·.old)).map fun p => .delete "files" (Report.pathRecord (some p)) := by
    unfold Report.deletions
    rw [List.map_map, List.map_map]
    rfl
  have himportable : List.Forall₂ (fun p r => Rows.Importable r p) (xs.map (·.new))
      (xs.map fun x => x.rows.moved x.new) := by
    rw [List.forall₂_map_left_iff, List.forall₂_map_right_iff, List.forall₂_same]
    exact fun x hx => h.importable hs hx
  -- Who had a new path has moved away, and is deleted.
  have hfree : ∀ p ∈ xs.map (·.new), ∀ row ∈ a.rows "files", row.isOf p = false := by
    intro p hp row hrow
    obtain ⟨x, hx, rfl⟩ := List.mem_map.mp hp
    rw [hrows] at hrow
    obtain ⟨hrow, hnone⟩ := List.mem_filter.mp hrow
    rw [Bool.eq_false_iff]
    intro hof
    obtain ⟨y, hy, hof'⟩ := h.free x hx row hrow hof
    rw [Bool.not_eq_true', List.any_eq_false] at hnone
    exact hnone y.old (List.mem_map_of_mem hy) hof'
  obtain ⟨b, hb, hsound, hrows'⟩ := Rows.exists_imports hrun.target himportable h.new hfree
  refine ⟨b, ?_, hsound, ?_⟩
  · rw [hdeletions, Store.execAll, List.foldlM_append]
    exact bind_eq_ok.mpr ⟨a, hrun.execAll, hb⟩
  · intro t ht
    rw [hrows' t ht, hrows, List.flatMap_map]

end Movable

end MovedFile

namespace Report

/-- Under another path an outline has the same rows with that path, table by table and in order; all
records hold the path, and only the row of the file holds its hash and size. So the renames of files
that moved leave what deletions and imports under the new paths leave. -/
theorem renames_as_reimports (o : Options) :
    (∀ x path md5 size r, Rows.ofOutline o x path md5 size = .ok r →
      (∀ q, ∃ r', Rows.ofOutline o x q md5 size = .ok r' ∧
        r'.records = r.records.map fun (n, vs) => (n, vs.map (Record.moved q))) ∧
      (∀ n vs, (n, vs) ∈ r.records →
        ∀ values ∈ vs, values.lookup "file_path" = some (.text path)) ∧
      ∀ md5' size', Rows.ofOutline o x path md5' size' =
        .ok { r with files := [⟨path, md5', size'⟩] }) ∧
    ∀ (s : Store) (xs : List (MovedFile o)), s.Sound → MovedFile.Movable s xs →
      ∃ rs a b, List.Forall₂ (fun x r =>
          Rows.ofOutline o x.outline x.new x.md5 (some x.size) = .ok r) xs rs ∧
        s.execAll (renames { update := xs.map (·.file) }) = .ok a ∧
        s.execAll (deletions { delete := xs.map (·.file) } ++
          rs.flatMap fun r => Statement.inserts schema r.records) = .ok b ∧
        a.Same b ∧ a.Sound ∧ b.Sound := by
  refine ⟨?_, ?_⟩
  · intro x path md5 size r hr
    refine ⟨fun q => ⟨r.moved q, Rows.ofOutline_moved hr q, Rows.records_moved q r⟩, ?_,
      Rows.ofOutline_rehashed hr⟩
    intro n vs hvs values hv
    exact Rows.lookup_file hr hvs hv
  · intro s xs hs hxs
    obtain ⟨a, ha, hasound, harows⟩ := hxs.exists_renames hs
    obtain ⟨b, hb, hbsound, hbrows⟩ := hxs.exists_reimports hs
    refine ⟨_, a, b, ?_, ha, hb, ?_, hasound, hbsound⟩
    · rw [List.forall₂_map_right_iff, List.forall₂_same]
      exact fun x _ => Rows.ofOutline_moved x.mapped x.new
    · apply hasound.fits.same hbsound.fits
      intro t ht
      rw [hbrows t ht]
      exact harows t ht

/-- Two files that swap their paths. -/
theorem renames_as_reimports_swap :
    let first := Outline.read .default "* a [2024-01-01 Mon]\nb".toList
    let second := Outline.read .default "* c :d:".toList
    let a := "a.org".toList
    let b := "b.org".toList
    ∃ (s : Store) (xs : List (MovedFile .default)), s.Sound ∧ MovedFile.Movable s xs ∧
      (xs.map fun x => (x.old, x.new, x.outline)) = [(a, b, first), (b, a, second)] ∧
      ∃ rs s₁ s₂, List.Forall₂ (fun x r =>
          Rows.ofOutline .default x.outline x.new x.md5 (some x.size) = .ok r) xs rs ∧
        s.execAll (renames { update := xs.map (·.file) }) = .ok s₁ ∧
        s.execAll (deletions { delete := xs.map (·.file) } ++
          rs.flatMap fun r => Statement.inserts schema r.records) = .ok s₂ ∧
        s₁.Same s₂ ∧ s₁.Sound ∧ s₂.Sound := by
  intro first second a b
  have hempty : (Store.ofFiles []).Sound :=
    Store.sound_ofFiles List.nodup_nil fun f hf => absurd hf List.not_mem_nil
  have hrows : ∀ t ∈ schema.tables, (Store.ofFiles []).rows t.name = [] := by
    intro t ht
    rw [Store.rows_ofFiles ht]
    split <;> rfl
  have hone (x : Outline) (path : Text)
      (hok : (match Rows.ofOutline .default x path [] (some 0) with
      | .ok r => ((Store.ofFiles []).execAll (Statement.inserts schema r.records)).isOk
      | .error _ => false) = true) : ∃ r, Rows.ofOutline .default x path [] (some 0) = .ok r ∧
        ∀ t ∈ schema.tables, ((r.content t).map t.keyOf).Nodup := by
    split at hok
    · rename_i r hr
      obtain ⟨s, hs⟩ := exists_ok hok
      exact ⟨r, hr, Rows.nodup_of_insertions hempty.fits hs⟩
    · cases hok
  obtain ⟨r, hr, hrn⟩ := hone first a (by decide +kernel)
  obtain ⟨q, hq, hqn⟩ := hone second b (by decide +kernel)
  let x : MovedFile .default := ⟨a, b, first, [], 0, r, hr⟩
  let y : MovedFile .default := ⟨b, a, second, [], 0, q, hq⟩
  have hfiles : Rows.filesTable ∈ schema.tables := List.mem_cons_self
  have hnone : ∀ p ∈ [a, b], ∀ row ∈ (Store.ofFiles []).rows "files", row.isOf p = false := by
    intro p _ row hrow
    rw [show "files" = Rows.filesTable.name from rfl, hrows Rows.filesTable hfiles] at hrow
    cases hrow
  obtain ⟨s, -, hs, hcontent⟩ := Rows.exists_imports hempty
    (.cons (MovedFile.importable_of_unique hr hrn)
      (.cons (MovedFile.importable_of_unique hq hqn) .nil)) (by decide) hnone
  have hmovable : MovedFile.Movable s [x, y] := by
    refine MovedFile.movable_of_rows ?_ (by decide : [a, b].Nodup) (by decide : [b, a].Nodup) ?_
    · intro t ht
      rw [hcontent t ht, hrows t ht]
      rfl
    · have ha : Mapping.IsOutlinePath a := List.suffix_append ['a'] _
      have hb : Mapping.IsOutlinePath b := List.suffix_append ['b'] _
      intro z hz
      simp only [List.mem_cons, List.not_mem_nil, or_false] at hz
      rcases hz with rfl | rfl
      · exact ⟨ha, hb⟩
      · exact ⟨hb, ha⟩
  exact ⟨s, [x, y], hs, hmovable, rfl, (renames_as_reimports .default).2 s [x, y] hs hmovable⟩

end Report

end OutlineTables
