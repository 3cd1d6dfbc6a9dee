import OutlineTables.Proofs.Lookup
import OutlineTables.Proofs.Sync.Between
import OutlineTables.Proofs.Sync.Moves
import OutlineTables.Proofs.Sync.Pairs

/-!
The outcome of deletions and renames. Main statement: in a sound store of outline files, whose rows
are the stored side of a report, the deletions and the two rounds of renames all succeed. Moved
files get their new paths all at once, and the paths of the files to be inserted are free.
-/
namespace OutlineTables

open Rows (schema)
open Mapping (IsOutlinePath not_isOutlinePath_between)

namespace Row

/-- A stored file by its row. -/
def fileMeta (row : Row) : FileMeta where
  hash := (Store.cellText? (row.cell "md5")).getD []
  storePath := Store.cellText? (row.cell "file_path")
  size := Store.cellInt? (row.cell "size")

variable {row : Row} {p q : Text}

theorem isOf_iff : row.isOf p = true ↔ row.fileMeta.storePath = some p := by
  unfold isOf fileMeta
  rw [decide_eq_true_iff]
  cases row.cell "file_path" <;> simp [Store.cellText?]

theorem fileMeta_moved (h : row.isOf p = true) :
    (row.moved q).fileMeta = { row.fileMeta with storePath := some q } := by
  have hpath : Store.cellText? ((row.moved q).cell "file_path") = some q := by
    have hof : (row.moved q).isOf q = true := by
      rw [isOf_moved h]
      exact decide_eq_true rfl
    exact isOf_iff.mp hof
  have hmd5 : (row.moved q).cell "md5" = row.cell "md5" := cell_moved_other (by decide)
  have hsize : (row.moved q).cell "size" = row.cell "size" := cell_moved_other (by decide)
  unfold fileMeta
  rw [hmd5, hsize, hpath]

end Row

theorem filter_map_eq_filterMap {α β : Type} {p : α → Bool} {f : α → β} {g : α → Option β}
    {as : List α} (h : ∀ a ∈ as, g a = if p a then some (f a) else none) :
    (as.filter p).map f = as.filterMap g := by
  induction as with
  | nil => rfl
  | cons a as ih =>
    have hrest := ih fun b hb => h b (List.mem_cons_of_mem _ hb)
    have hone := h a List.mem_cons_self
    by_cases hp : p a = true
    · rw [if_pos hp] at hone
      rw [List.filter_cons_of_pos hp, List.filterMap_cons_some hone, List.map_cons, hrest]
    · rw [if_neg hp] at hone
      rw [List.filter_cons_of_neg hp, List.filterMap_cons_none hone, hrest]

theorem map_zipIdx_fst {α β : Type} (f : α → β) (as : List α) :
    (as.zipIdx.map fun a => f a.1) = as.map f := by
  conv_rhs => rw [← List.zipIdx_map_fst 0 as, List.map_map]
  rfl

/-- Members of different parts of a list without repetition have different keys. -/
theorem ne_of_nodup_append {α κ : Type} {key : α → κ} {as bs : List α}
    (h : ((as ++ bs).map key).Nodup) {a b : α} (ha : a ∈ as) (hb : b ∈ bs) : key a ≠ key b := by
  rw [List.map_append, List.nodup_append] at h
  exact h.2.2 _ (List.mem_map_of_mem ha) _ (List.mem_map_of_mem hb)

namespace Report

/-- What becomes of a stored file: it is gone, it gets its path on disk, or it stays as it is. -/
def outcome (r : Report) (f : FileMeta) : Option FileMeta :=
  if f ∈ r.delete then none
  else
    match r.update.find? (·.storePath = f.storePath) with
    | some m => some { f with storePath := m.diskPath }
    | none => some f

/-- Outline files on disk and in a store, on each side no two under one path. -/
structure Sides (disk store : List FileMeta) : Prop where
  diskNodup : (disk.map (·.diskPath)).Nodup
  storeNodup : (store.map (·.storePath)).Nodup
  onDisk : ∀ f ∈ disk, ∃ p, f.diskPath = some p ∧ IsOutlinePath p
  inStore : ∀ f ∈ store, f.diskPath = none ∧ ∃ p, f.storePath = some p ∧ IsOutlinePath p

/-- The stored path of a file that has one. -/
def oldPath (f : FileMeta) : Text := f.storePath.getD []

/-- The path on disk of a file that has one. -/
def newPath (f : FileMeta) : Text := f.diskPath.getD []

theorem ne_of_isOutlinePath (f : FileMeta) (n : Nat) {p : Text} (hp : IsOutlinePath p) :
    betweenPath f n ≠ p := by
  intro he
  rw [← he] at hp
  exact not_isOutlinePath_between (f.storePath.getD "None".toList) n hp

section Pairs

variable {r : Report} {disk store : List FileMeta} {kept moved : List (FileMeta × FileMeta)}
  (h : Sides disk store) (hp : r.Pairs disk store kept moved)

include h hp

theorem Pairs.nodup_disk :
    ((r.insert ++ moved.map Prod.fst ++ kept.map Prod.fst).map (·.diskPath)).Nodup :=
  (hp.disk.map _).nodup_iff.mp h.diskNodup

theorem Pairs.nodup_store :
    ((r.delete ++ moved.map Prod.snd ++ kept.map Prod.snd).map (·.storePath)).Nodup :=
  (hp.store.map _).nodup_iff.mp h.storeNodup

/-- Moved files are on both sides, under paths of outline files. -/
theorem Pairs.update_paths {m : FileMeta} (hm : m ∈ r.update) :
    (m.storePath = some (oldPath m) ∧ IsOutlinePath (oldPath m)) ∧
      m.diskPath = some (newPath m) ∧ IsOutlinePath (newPath m) := by
  rw [hp.update] at hm
  obtain ⟨⟨d, s⟩, hds, rfl⟩ := List.mem_map.mp hm
  have hd := hp.mem_disk (List.mem_append_right _ (List.mem_map_of_mem hds))
  have hs := hp.mem_store (List.mem_append_right _ (List.mem_map_of_mem hds))
  obtain ⟨p, hdp, hpath⟩ := h.onDisk d hd
  obtain ⟨-, q, hsq, hpath'⟩ := h.inStore s hs
  unfold oldPath newPath FileMeta.joined
  dsimp only
  rw [hdp, hsq]
  exact ⟨⟨rfl, hpath'⟩, rfl, hpath⟩

theorem Pairs.delete_path {d : FileMeta} (hd : d ∈ r.delete) : d.storePath = some (oldPath d) := by
  obtain ⟨-, p, hpath, -⟩ := h.inStore d (hp.mem_store (List.mem_append_left _ hd))
  unfold oldPath
  rw [hpath]
  rfl

theorem Pairs.nodup_update_store : (r.update.map (·.storePath)).Nodup := by
  have hmoved : (r.update.map (·.storePath)) = (moved.map Prod.snd).map (·.storePath) := by
    rw [hp.update, List.map_map, List.map_map]
    rfl
  have hin : (moved.map Prod.snd).Sublist (r.delete ++ moved.map Prod.snd ++ kept.map Prod.snd) :=
    (List.sublist_append_right _ _).trans (List.sublist_append_left _ _)
  rw [hmoved]
  exact (hp.nodup_store h).sublist (hin.map _)

theorem Pairs.nodup_update_disk : (r.update.map (·.diskPath)).Nodup := by
  have hmoved : (r.update.map (·.diskPath)) = (moved.map Prod.fst).map (·.diskPath) := by
    rw [hp.update, List.map_map, List.map_map]
    rfl
  have hin : (moved.map Prod.fst).Sublist (r.insert ++ moved.map Prod.fst ++ kept.map Prod.fst) :=
    (List.sublist_append_right _ _).trans (List.sublist_append_left _ _)
  rw [hmoved]
  exact (hp.nodup_disk h).sublist (hin.map _)

theorem Pairs.nodup_oldPath : (r.update.map oldPath).Nodup := by
  have hsome : r.update.map (some ∘ oldPath) = r.update.map (·.storePath) :=
    List.map_congr_left fun m hm => (hp.update_paths h hm).1.1.symm
  apply List.Nodup.of_map some
  rw [List.map_map, hsome]
  exact hp.nodup_update_store h

theorem Pairs.nodup_newPath : (r.update.map newPath).Nodup := by
  have hsome : r.update.map (some ∘ newPath) = r.update.map (·.diskPath) :=
    List.map_congr_left fun m hm => (hp.update_paths h hm).2.1.symm
  apply List.Nodup.of_map some
  rw [List.map_map, hsome]
  exact hp.nodup_update_disk h

/-- A stored file is deleted exactly if one under its path is. -/
theorem Pairs.mem_delete_iff {f : FileMeta} (hf : f ∈ store) :
    f ∈ r.delete ↔ ∃ d ∈ r.delete, d.storePath = f.storePath := by
  constructor
  · intro hd
    exact ⟨f, hd, rfl⟩
  · rintro ⟨d, hd, hpath⟩
    have hds := hp.mem_store (List.mem_append_left _ hd)
    rw [← List.inj_on_of_nodup_map h.storeNodup hds hf hpath]
    exact hd

/-- The row of a stored file is deleted by path exactly if the file is. -/
theorem Pairs.any_delete_iff {row : Row} (hrow : row.fileMeta ∈ store) :
    (r.delete.map oldPath).any (row.isOf ·) = true ↔ row.fileMeta ∈ r.delete := by
  rw [hp.mem_delete_iff h hrow, List.any_eq_true]
  constructor
  · rintro ⟨p, hm, hof⟩
    obtain ⟨d, hd, rfl⟩ := List.mem_map.mp hm
    exact ⟨d, hd, (hp.delete_path h hd).trans (Row.isOf_iff.mp hof).symm⟩
  · rintro ⟨d, hd, hpath⟩
    refine ⟨oldPath d, List.mem_map_of_mem hd, ?_⟩
    exact Row.isOf_iff.mpr (hpath.symm.trans (hp.delete_path h hd))

omit h in
theorem Pairs.mem_update {d f : FileMeta} (hdf : (d, f) ∈ moved) : d.joined f ∈ r.update := by
  rw [hp.update]
  exact List.mem_map_of_mem (f := fun p => p.1.joined p.2) hdf

omit h in
/-- A stored file that is not deleted has a partner on disk. -/
theorem Pairs.exists_partner {f : FileMeta} (hf : f ∈ store) (hdelete : f ∉ r.delete) :
    (∃ d, (d, f) ∈ moved) ∨ ∃ d, (d, f) ∈ kept := by
  have hmem := hp.store.mem_iff.mp hf
  rw [List.append_assoc, List.mem_append] at hmem
  rcases List.mem_append.mp (hmem.resolve_left hdelete) with hmem | hmem
  · obtain ⟨⟨d, s⟩, hds, rfl⟩ := List.mem_map.mp hmem
    exact Or.inl ⟨d, hds⟩
  · obtain ⟨⟨d, s⟩, hds, rfl⟩ := List.mem_map.mp hmem
    exact Or.inr ⟨d, hds⟩

omit h in
/-- A file that is not deleted ends under the path that its partner has on disk. -/
theorem Pairs.outcome_path {f g : FileMeta} (hf : f ∈ store) (hg : r.outcome f = some g) :
    ∃ d ∈ moved.map Prod.fst ++ kept.map Prod.fst, g.storePath = d.diskPath := by
  unfold outcome at hg
  split at hg
  · cases hg
  · rename_i hdelete
    split at hg
    · rename_i m hm
      cases hg
      have hmem := List.mem_of_find?_eq_some hm
      rw [hp.update] at hmem
      obtain ⟨⟨d, s⟩, hds, rfl⟩ := List.mem_map.mp hmem
      exact ⟨d, List.mem_append_left _ (List.mem_map_of_mem hds), rfl⟩
    · rename_i hnone
      cases hg
      rcases hp.exists_partner hf hdelete with ⟨d, hdf⟩ | ⟨d, hdf⟩
      · -- A moved file is found under its path.
        have hnot := List.find?_eq_none.mp hnone _ (hp.mem_update hdf)
        exact absurd (decide_eq_true rfl) hnot
      · exact ⟨d, List.mem_append_right _ (List.mem_map_of_mem hdf), (hp.same _ hdf).2.symm⟩

/-- A stored file whose path one of the moved files takes is deleted or moves away itself. -/
theorem Pairs.exists_moved {f m : FileMeta} (hf : f ∈ store) (hdelete : f ∉ r.delete)
    (hm : m ∈ r.update) (hpath : f.storePath = m.diskPath) :
    ∃ m' ∈ r.update, m'.storePath = f.storePath := by
  rcases hp.exists_partner hf hdelete with ⟨d, hdf⟩ | ⟨d, hdf⟩
  · exact ⟨d.joined f, hp.mem_update hdf, rfl⟩
  · -- A file that stays has its path on disk, where the moved one has it too.
    rw [hp.update] at hm
    obtain ⟨⟨d', s'⟩, hds', rfl⟩ := List.mem_map.mp hm
    have hd := List.mem_map_of_mem (f := Prod.fst) hdf
    have hd' := List.mem_map_of_mem (f := Prod.fst) hds'
    have hne := ne_of_nodup_append (hp.nodup_disk h) (List.mem_append_right _ hd') hd
    exact absurd (hpath.symm.trans (hp.same _ hdf).2.symm) hne

omit hp in
/-- No stored file is on a path between two paths. -/
theorem Sides.not_isOf_between {row : Row} (hrow : row.fileMeta ∈ store) (m : FileMeta) (n : Nat) :
    row.isOf (betweenPath m n) = false := by
  obtain ⟨-, p, hpath, houtline⟩ := h.inStore _ hrow
  rw [Bool.eq_false_iff]
  intro hof
  have he : some (betweenPath m n) = some p := (Row.isOf_iff.mp hof).symm.trans hpath
  exact ne_of_isOutlinePath m n houtline (Option.some.inj he)

/-- A row that is on a new path is deleted or moves away itself. -/
theorem Pairs.isOf_newPath {row : Row} {m : FileMeta} (hrow : row.fileMeta ∈ store)
    (hdelete : row.fileMeta ∉ r.delete) (hm : m ∈ r.update) (hof : row.isOf (newPath m) = true) :
    ∃ m' ∈ r.update, row.isOf (oldPath m') = true := by
  have hpath := (Row.isOf_iff.mp hof).trans (hp.update_paths h hm).2.1.symm
  obtain ⟨m', hm', hold⟩ := hp.exists_moved h hrow hdelete hm hpath
  exact ⟨m', hm', Row.isOf_iff.mpr (hold.symm.trans (hp.update_paths h hm').1.1)⟩

theorem Pairs.deletions_eq : r.deletions =
    (r.delete.map oldPath).map fun p => .delete "files" (pathRecord (some p)) := by
  unfold deletions
  rw [List.map_map]
  apply List.map_congr_left
  intro d hd
  rw [Function.comp_apply, ← hp.delete_path h hd]

theorem Pairs.renames_eq : r.renames =
    (r.update.zipIdx.map fun x => rename (some (oldPath x.1)) (some (betweenPath x.1 x.2))) ++
      r.update.zipIdx.map fun x => rename (some (betweenPath x.1 x.2)) (some (newPath x.1)) := by
  unfold renames
  congr 1
  · apply List.map_congr_left
    rintro ⟨m, n⟩ hm
    dsimp only
    rw [(hp.update_paths h (List.fst_mem_of_mem_zipIdx hm)).1.1]
  · apply List.map_congr_left
    rintro ⟨m, n⟩ hm
    dsimp only
    rw [(hp.update_paths h (List.fst_mem_of_mem_zipIdx hm)).2.1]

/-- The stored file of each part comes to what the part says. -/
theorem Pairs.outcome_parts : (∀ f ∈ r.delete, f ∈ store ∧ r.outcome f = none) ∧
    (∀ m ∈ r.update, ∃ f ∈ store, f.storePath = m.storePath ∧
      r.outcome f = some { f with storePath := m.diskPath }) ∧
    ∀ m ∈ r.noop, ∃ f ∈ store, f.storePath = m.storePath ∧ r.outcome f = some f := by
  have hnodup := hp.nodup_store h
  -- Each part takes that no other part has a file under the path in question.
  refine ⟨?_, ?_, ?_⟩
  · intro f hf
    refine ⟨hp.mem_store (List.mem_append_left _ hf), ?_⟩
    unfold outcome
    rw [if_pos hf]
  · intro m hm
    have hfound := find?_of_mem (hp.nodup_update_store h) hm
    rw [hp.update] at hm
    obtain ⟨⟨d, s⟩, hds, rfl⟩ := List.mem_map.mp hm
    have hs := List.mem_map_of_mem (f := Prod.snd) hds
    refine ⟨s, hp.mem_store (List.mem_append_right _ hs), rfl, ?_⟩
    have hkept : s ∉ r.delete := by
      intro hd
      rw [List.append_assoc] at hnodup
      exact ne_of_nodup_append hnodup hd (List.mem_append_left _ hs) rfl
    have hpath : (d.joined s).storePath = s.storePath := rfl
    rw [hpath] at hfound
    unfold outcome
    rw [if_neg hkept, hfound]
  · intro m hm
    rw [hp.noop] at hm
    obtain ⟨⟨d, s⟩, hds, rfl⟩ := List.mem_map.mp hm
    have hs := List.mem_map_of_mem (f := Prod.snd) hds
    have hstored : s ∈ store := hp.store.mem_iff.mpr (List.mem_append_right _ hs)
    refine ⟨s, hstored, rfl, ?_⟩
    have hkept : s ∉ r.delete := fun hd =>
      ne_of_nodup_append hnodup (List.mem_append_left _ hd) hs rfl
    have hnone : r.update.find? (·.storePath = s.storePath) = none := by
      apply List.find?_eq_none.mpr
      intro m hm he
      rw [hp.update] at hm
      obtain ⟨⟨d', s'⟩, hds', rfl⟩ := List.mem_map.mp hm
      have hs' := List.mem_map_of_mem (f := Prod.snd) hds'
      exact ne_of_nodup_append hnodup (List.mem_append_right _ hs') hs (of_decide_eq_true he)
    unfold outcome
    rw [if_neg hkept, hnone]

end Pairs

section Run

variable {r : Report} {disk store : List FileMeta} {kept moved : List (FileMeta × FileMeta)}
  {s : Store}

/-- The moves of a report at the row of one file. -/
theorem fileMeta_relocated {us : List FileMeta}
    (hus : ∀ m ∈ us, m.storePath = some (oldPath m) ∧ m.diskPath = some (newPath m)) (row : Row) :
    (row.relocated (us.map fun m => (oldPath m, newPath m))).fileMeta =
      match us.find? (·.storePath = row.fileMeta.storePath) with
      | some m => { row.fileMeta with storePath := m.diskPath }
      | none => row.fileMeta := by
  -- Induction on the moves: the first that starts at the path of the row decides on both sides.
  induction us with
  | nil => rfl
  | cons m us ih =>
    obtain ⟨hold, hnew⟩ := hus m List.mem_cons_self
    rw [List.map_cons]
    by_cases hof : row.isOf (oldPath m) = true
    · have hpath := Row.isOf_iff.mp hof
      have hfound : (m :: us).find? (·.storePath = row.fileMeta.storePath) = some m := by
        rw [List.find?_cons_of_pos]
        exact decide_eq_true (hold.trans hpath.symm)
      rw [Row.relocated_cons_of_isOf hof, Row.fileMeta_moved hof, hfound]
      dsimp only
      rw [hnew]
    · have hpath : ¬m.storePath = row.fileMeta.storePath := fun he =>
        hof (Row.isOf_iff.mpr (he.symm.trans hold))
      rw [Row.relocated_cons_of_not_isOf hof, List.find?_cons_of_neg (by simpa using hpath)]
      exact ih fun m' hm' => hus m' (List.mem_cons_of_mem _ hm')

variable (h : Sides disk store) (hp : r.Pairs disk store kept moved) (hs : s.Sound)
  (hfiles : s.files = store)

section Rows

include h hp hs hfiles

/-- Deletions and renames succeed one after the other, and all rows follow their files. -/
theorem exists_run : ∃ s', Store.SoundRun s (r.deletions ++ r.renames) s' ∧
    ∀ n, s'.rows n = ((s.rows n).filter fun row => !(r.delete.map oldPath).any (row.isOf ·)).map
      (Row.relocated (r.update.map fun m => (oldPath m, newPath m))) := by
  have hstored (row : Row) (hrow : row ∈ s.rows "files") : row.fileMeta ∈ store := by
    rw [← hfiles]
    exact List.mem_map_of_mem hrow
  have hinside (x : FileMeta × Nat) (hx : x ∈ r.update.zipIdx) : x.1 ∈ r.update :=
    List.fst_mem_of_mem_zipIdx hx
  obtain ⟨a, hrun, hrows⟩ := hs.exists_deletions (r.delete.map oldPath)
  have hleft (row : Row) (hrow : row ∈ a.rows "files") :
      row.fileMeta ∈ store ∧ row.fileMeta ∉ r.delete := by
    rw [hrows] at hrow
    obtain ⟨hrow, hany⟩ := List.mem_filter.mp hrow
    have hmem := hstored row hrow
    rw [Bool.not_eq_true', Bool.eq_false_iff, Ne, hp.any_delete_iff h hmem] at hany
    exact ⟨hmem, hany⟩
  -- The detour: paths that are all different and those of no outline file.
  have hmid : (r.update.zipIdx.map fun x => betweenPath x.1 x.2).Nodup :=
    nodup_between (fun m => m.storePath.getD "None".toList) r.update
  have hapart : ∀ x ∈ r.update.zipIdx, ∀ y ∈ r.update.zipIdx,
      betweenPath x.1 x.2 ≠ oldPath y.1 ∧ betweenPath x.1 x.2 ≠ newPath y.1 := by
    intro x _ y hy
    have hpaths := hp.update_paths h (hinside y hy)
    exact ⟨ne_of_isOutlinePath x.1 x.2 hpaths.1.2, ne_of_isOutlinePath x.1 x.2 hpaths.2.2⟩
  have hbetween : ∀ x ∈ r.update.zipIdx, ∀ row ∈ a.rows "files",
      row.isOf (betweenPath x.1 x.2) = false := by
    intro x _ row hrow
    exact h.not_isOf_between (hleft row hrow).1 x.1 x.2
  -- A new path may be taken now, but only by a file that is on its way too.
  have hfree : ∀ x ∈ r.update.zipIdx, ∀ row ∈ a.rows "files", row.isOf (newPath x.1) = true →
      ∃ y ∈ r.update.zipIdx, row.isOf (oldPath y.1) = true := by
    intro x hx row hrow hof
    obtain ⟨hrow, hdelete⟩ := hleft row hrow
    obtain ⟨m, hm, hof'⟩ := hp.isOf_newPath h hrow hdelete (hinside x hx) hof
    rw [← List.zipIdx_map_fst 0 r.update] at hm
    obtain ⟨y, hy, rfl⟩ := List.mem_map.mp hm
    exact ⟨y, hy, hof'⟩
  have hold : (r.update.zipIdx.map fun x => oldPath x.1).Nodup := by
    rw [map_zipIdx_fst]
    exact hp.nodup_oldPath h
  have hnew : (r.update.zipIdx.map fun x => newPath x.1).Nodup := by
    rw [map_zipIdx_fst]
    exact hp.nodup_newPath h
  have hmoves := hrun.target.exists_moves hold hmid hnew hapart hbetween hfree
  obtain ⟨s', hrun', hrows'⟩ := hmoves
  rw [map_zipIdx_fst fun m => (oldPath m, newPath m)] at hrows'
  rw [← hp.deletions_eq h] at hrun
  rw [← hp.renames_eq h] at hrun'
  refine ⟨s', hrun.append hrun', ?_⟩
  intro n
  rw [hrows', hrows]

omit hs in
/-- What a run leaves of a stored file, by its row. -/
theorem outcome_fileMeta {row : Row} (hrow : row ∈ s.rows "files") : r.outcome row.fileMeta =
    if !(r.delete.map oldPath).any (row.isOf ·) then
      some (row.relocated (r.update.map fun m => (oldPath m, newPath m))).fileMeta
    else none := by
  have hstored : row.fileMeta ∈ store := by
    rw [← hfiles]
    exact List.mem_map_of_mem hrow
  have hdelete := hp.any_delete_iff h hstored
  have hpaths : ∀ m ∈ r.update, m.storePath = some (oldPath m) ∧ m.diskPath = some (newPath m) := by
    intro m hm
    have hm := hp.update_paths h hm
    exact ⟨hm.1.1, hm.2.1⟩
  unfold outcome
  by_cases hd : row.fileMeta ∈ r.delete
  · rw [if_pos hd, hdelete.mpr hd]
    rfl
  · have hkept := Bool.eq_false_iff.mpr fun hany => hd (hdelete.mp hany)
    rw [if_neg hd, hkept, fileMeta_relocated hpaths]
    cases r.update.find? (·.storePath = row.fileMeta.storePath) <;> rfl

end Rows

end Run

end Report

namespace Store

def fileRow (f : FileMeta) : Row :=
  [("file_path", .text (f.storePath.getD [])), ("md5", .text f.hash),
    ("size", (f.size.map Cell.int).getD .null)]

/-- The store with these files and nothing in them. -/
def ofFiles (fs : List FileMeta) : Store :=
  ⟨schema.tables.map fun t => ⟨t, if t.name = "files" then fs.map fileRow else []⟩⟩

variable {fs : List FileMeta}

theorem fits_ofFiles (fs : List FileMeta) : (ofFiles fs).Fits schema := by
  unfold Fits ofFiles
  rw [List.map_map]
  exact List.map_id _

theorem rows_ofFiles {t : Table} (ht : t ∈ schema.tables) :
    (ofFiles fs).rows t.name = if t.name = "files" then fs.map fileRow else [] := by
  have hm : (⟨t, if t.name = "files" then fs.map fileRow else []⟩ : Relation) ∈
      (ofFiles fs).relations := List.mem_map_of_mem (f := fun t : Table =>
        (⟨t, if t.name = "files" then fs.map fileRow else []⟩ : Relation)) ht
  exact (rows_of_mem (fits_ofFiles fs) Rows.nodup_schema hm).2.symm

/-- Files with different paths are the files of a sound store. -/
theorem sound_ofFiles (hn : (fs.map (·.storePath)).Nodup)
    (hpaths : ∀ f ∈ fs, ∃ p, f.storePath = some p) : (ofFiles fs).Sound where
  fits := fits_ofFiles fs
  tied := by
    constructor
    · intro t ht row hrow
      rw [rows_ofFiles ht] at hrow
      split at hrow
      · obtain ⟨f, -, rfl⟩ := List.mem_map.mp hrow
        have hnames : (fileRow f).map Prod.fst = ["file_path", "md5", "size"] := rfl
        rw [hnames]
        decide
      · cases hrow
    · intro t ht row hrow k hk
      rw [rows_ofFiles ht] at hrow
      split at hrow
      · rename_i hname
        rw [(Rows.files_has_no_references t ht).mp hname] at hk
        cases hk
      · cases hrow
  unique := by
    intro t ht
    rw [rows_ofFiles ht]
    split
    · rename_i hname
      have htable : t = Rows.filesTable :=
        List.inj_on_of_nodup_map Rows.nodup_schema ht List.mem_cons_self hname
      subst htable
      rw [List.map_map]
      refine List.Nodup.map_on ?_ (List.Nodup.of_map _ hn)
      intro f hf g hg hfg
      -- The key of a row in `files` is the path.
      have hcell : Cell.text (f.storePath.getD []) = Cell.text (g.storePath.getD []) :=
        (List.cons.inj hfg).1
      obtain ⟨p, hfp⟩ := hpaths f hf
      obtain ⟨q, hgq⟩ := hpaths g hg
      rw [hfp, hgq] at hcell
      refine List.inj_on_of_nodup_map hn hf hg ?_
      rw [hfp, hgq]
      exact congrArg some (Cell.text.inj hcell)
    · exact List.nodup_nil

theorem files_ofFiles (hpaths : ∀ f ∈ fs, f.diskPath = none ∧ ∃ p, f.storePath = some p) :
    (ofFiles fs).files = fs := by
  have hrows : (ofFiles fs).rows "files" = fs.map fileRow :=
    rows_ofFiles (t := Rows.filesTable) List.mem_cons_self
  have hfiles : (ofFiles fs).files = ((ofFiles fs).rows "files").map Row.fileMeta := rfl
  rw [hfiles, hrows, List.map_map]
  conv_rhs => rw [← List.map_id fs]
  apply List.map_congr_left
  intro f hf
  obtain ⟨hdisk, p, hstore⟩ := hpaths f hf
  obtain ⟨hash, disk, stored, size⟩ := f
  subst hdisk hstore
  cases size <;> rfl

end Store

namespace Report

/-- Deletions and renames between outline files never meet a path that is taken. Moved files get
their paths on disk all at once, whatever chains and cycles they form, and all other files stay as
they are; then the paths of new files are free. -/
theorem moves_at_once {disk store : List FileMeta} (h : Sides disk store) :
    let r := ofFiles disk store
    ((∀ f ∈ r.delete, f ∈ store ∧ r.outcome f = none) ∧
      (∀ m ∈ r.update, ∃ f ∈ store, f.storePath = m.storePath ∧
        r.outcome f = some { f with storePath := m.diskPath }) ∧
      ∀ m ∈ r.noop, ∃ f ∈ store, f.storePath = m.storePath ∧ r.outcome f = some f) ∧
    (∃ s : Store, s.Sound ∧ s.files = store) ∧
    ∀ s : Store, s.Sound → s.files = store →
      (∀ xs, xs <+: r.deletions ++ r.renames → ∃ a, s.execAll xs = .ok a ∧ a.Sound) ∧
      ∃ s', s.execAll (r.deletions ++ r.renames) = .ok s' ∧
        s'.files = store.filterMap r.outcome ∧
        ∀ f ∈ r.insert, f.diskPath ∉ s'.files.map (·.storePath) := by
  intro r
  obtain ⟨kept, moved, hp, -⟩ := exists_pairs disk store
  refine ⟨hp.outcome_parts h, ⟨Store.ofFiles store, ?_, ?_⟩, ?_⟩
  · exact Store.sound_ofFiles h.storeNodup fun f hf =>
      (h.inStore f hf).2.imp fun _ hpath => hpath.1
  · exact Store.files_ofFiles fun f hf =>
      ⟨(h.inStore f hf).1, (h.inStore f hf).2.imp fun _ hpath => hpath.1⟩
  · intro s hs hfiles
    obtain ⟨s', hrun, hrows⟩ := exists_run h hp hs hfiles
    have hafter : s'.files = store.filterMap r.outcome := by
      have hread : s'.files = (s'.rows "files").map Row.fileMeta := rfl
      have hbefore : store.filterMap r.outcome =
          (s.rows "files").filterMap (r.outcome ∘ Row.fileMeta) := by
        rw [← List.filterMap_map, ← hfiles]
        rfl
      rw [hread, hrows, List.map_map, hbefore]
      apply filter_map_eq_filterMap
      intro row hrow
      exact outcome_fileMeta h hp hfiles hrow
    refine ⟨?_, s', hrun.execAll, hafter, ?_⟩
    · intro xs hxs
      obtain ⟨a, ha⟩ := hrun.prefix hxs
      exact ⟨a, ha.execAll, ha.target⟩
    · -- All files that are left end where their partners are, and those are not to be inserted.
      intro f hf hmem
      obtain ⟨g, hg, hpath⟩ := List.mem_map.mp hmem
      rw [hafter] at hg
      obtain ⟨g', hg', hout⟩ := List.mem_filterMap.mp hg
      obtain ⟨d, hd, hd'⟩ := hp.outcome_path hg' hout
      have hnodup := hp.nodup_disk h
      rw [List.append_assoc] at hnodup
      exact ne_of_nodup_append hnodup hf hd (hpath.symm.trans hd')

/-- Two files that swap their paths, and a third that takes the path of one that is gone. -/
theorem moves_at_once_swap :
    let file (hash path : String) : FileMeta :=
      { hash := hash.toList, diskPath := some path.toList }
    let stored (hash path : String) : FileMeta :=
      { hash := hash.toList, storePath := some path.toList }
    let disk := [file "x" "b.org", file "y" "a.org", file "z" "d.org", file "n" "c.org"]
    let store := [stored "x" "a.org", stored "y" "b.org", stored "z" "c.org", stored "g" "d.org"]
    let r := ofFiles disk store
    Sides disk store ∧ r.update.length = 3 ∧ r.delete.length = 1 ∧ r.insert.length = 1 ∧
      store.filterMap r.outcome = [stored "x" "b.org", stored "y" "a.org", stored "z" "d.org"] ∧
      ∃ s s' : Store, s.Sound ∧ s.files = store ∧
        s.execAll (r.deletions ++ r.renames) = .ok s' ∧
        s'.files = store.filterMap r.outcome ∧
        ∀ f ∈ r.insert, f.diskPath ∉ s'.files.map (·.storePath) := by
  intro file stored disk store r
  have hout (name : String) (hp : Disk.outlineEnding <:+ name.toList) :
      ∃ p, some name.toList = some p ∧ IsOutlinePath p := ⟨name.toList, rfl, hp⟩
  have hsides : Sides disk store := by
    refine ⟨by decide, by decide, ?_, ?_⟩
    · intro f hf
      simp only [disk, file, List.mem_cons, List.not_mem_nil, or_false] at hf
      rcases hf with rfl | rfl | rfl | rfl <;> exact hout _ (by decide)
    · intro f hf
      simp only [store, stored, List.mem_cons, List.not_mem_nil, or_false] at hf
      rcases hf with rfl | rfl | rfl | rfl <;> exact ⟨rfl, hout _ (by decide)⟩
  obtain ⟨-, ⟨s, hs, hfiles⟩, hall⟩ := moves_at_once hsides
  obtain ⟨-, s', hok, hafter, hfree⟩ := hall s hs hfiles
  exact ⟨hsides, by decide, by decide, by decide, by decide, s, s', hs, hfiles, hok, hafter, hfree⟩

end Report

end OutlineTables
