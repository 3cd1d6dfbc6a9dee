import OutlineTables.Proofs.Store.Cascade

/-!
Sound stores. Deletions of files, and renames of files to paths that no file has, succeed in every
sound store and leave a sound store.
-/
namespace OutlineTables

open Rows (schema)

namespace Row

variable {row : Row} {p q : Text}

theorem cell_of_isOf (h : row.isOf p = true) : row.cell "file_path" = .text p := by
  simpa [isOf] using h

theorem isOf_moved (h : row.isOf p = true) (q' : Text) :
    (row.moved q).isOf q' = decide (q = q') := by
  have hnull : row.cell "file_path" ≠ .null := by
    rw [cell_of_isOf h]
    simp
  simp [isOf, cell_moved_file hnull]

theorem map_fst_moved (q : Text) (row : Row) : (row.moved q).map Prod.fst = row.map Prod.fst := by
  unfold moved withCells
  rw [List.map_map]
  rfl

end Row

namespace Store

variable {content : String → List Row} {file old new : Text}

theorem Tied.deleted (h : Tied content) : Tied fun n => (content n).filter (!·.isOf file) where
  named t ht row hrow := h.named t ht row (List.mem_filter.mp hrow).1
  refers t ht row hrow k hk := by
    obtain ⟨hrow, hkept⟩ := List.mem_filter.mp hrow
    obtain ⟨p, hp, hmeets⟩ := h.refers t ht row hrow k hk
    -- The target has the path of the row, so it is kept as the row is.
    refine ⟨p, List.mem_filter.mpr ⟨hp, ?_⟩, hmeets⟩
    rw [isOf_of_meets ht hk hmeets]
    exact hkept

/-- A reference still has its target after both are renamed. -/
theorem meets_renamed {t : Table} (ht : t ∈ schema.tables) {k : ForeignKey}
    (hk : k ∈ t.foreignKeys) {row p : Row} (h : k.meets (row.key k.columns) p = true) :
    k.meets ((renamed old new row).key k.columns) (renamed old new p) = true := by
  -- Row and target have one path, so both are renamed or neither is.
  have hsame := isOf_of_meets ht hk h old
  unfold renamed
  rw [hsame]
  by_cases hof : row.isOf old = true
  · rw [if_pos hof, if_pos hof]
    obtain ⟨hc, hp, hct, hpt⟩ := Rows.reference_columns t ht k hk
    obtain ⟨cs, hcs⟩ := List.head?_eq_some_iff.mp hc
    obtain ⟨ps, hps⟩ := List.head?_eq_some_iff.mp hp
    simp only [ForeignKey.meets, decide_eq_true_eq] at h ⊢
    rw [hcs, hps] at h
    rw [hcs, List.tail_cons] at hct
    rw [hps, List.tail_cons] at hpt
    obtain ⟨-, hrest⟩ := List.cons.inj h.1
    have hrow : row.cell "file_path" ≠ .null := by
      rw [Row.cell_of_isOf hof]
      simp
    have htarget : p.cell "file_path" ≠ .null := by
      rw [Row.cell_of_isOf (hsame.trans hof)]
      simp
    have hkeys : p.key ps = row.key cs := hrest
    rw [hcs, hps, Row.key_moved_file hrow hct, Row.key_moved_file htarget hpt, hkeys]
    refine ⟨rfl, ?_⟩
    intro hnull
    have hmem := (List.mem_cons.mp hnull).resolve_left (by simp)
    exact h.2 (List.mem_cons_of_mem _ hmem)
  · rw [if_neg hof, if_neg hof]
    exact h

theorem Tied.renamed (h : Tied content) : Tied fun n => (content n).map (renamed old new) where
  named t ht row hrow := by
    obtain ⟨a, ha, rfl⟩ := List.mem_map.mp hrow
    have hnamed := h.named t ht a ha
    unfold Store.renamed
    split
    · rw [Row.map_fst_moved]
      exact hnamed
    · exact hnamed
  refers t ht row hrow k hk := by
    obtain ⟨a, ha, rfl⟩ := List.mem_map.mp hrow
    obtain ⟨p, hp, hmeets⟩ := h.refers t ht a ha k hk
    exact ⟨Store.renamed old new p, List.mem_map_of_mem hp, meets_renamed ht hk hmeets⟩

/-- A file that has rows has one in `files`. -/
theorem Tied.exists_file (h : Tied content) {t : Table} (ht : t ∈ schema.tables) {row : Row}
    (hrow : row ∈ content t.name) (hof : row.isOf file = true) :
    ∃ f ∈ content "files", f.isOf file = true := by
  -- Induction on the tables that are left, with this known of all tables before them.
  have hall : ∀ ts seen, Schema.referenceFault? seen ts = none → (∀ u ∈ ts, u ∈ schema.tables) →
      (∀ n ∈ seen, ∀ row ∈ content n, row.isOf file = true →
        ∃ f ∈ content "files", f.isOf file = true) →
      ∀ u ∈ ts, ∀ row ∈ content u.name, row.isOf file = true →
        ∃ f ∈ content "files", f.isOf file = true := by
    intro ts
    induction ts with
    | nil =>
      intro seen _ _ _ u hu
      cases hu
    | cons v ts ih =>
      intro seen hfault hts hseen
      obtain ⟨hparents, hrest⟩ := Schema.referenceFault?_cons.mp hfault
      have hv : v ∈ schema.tables := hts v List.mem_cons_self
      have hone : ∀ row ∈ content v.name, row.isOf file = true →
          ∃ f ∈ content "files", f.isOf file = true := by
        intro row hrow hof
        by_cases hn : v.name = "files"
        · exact ⟨row, hn ▸ hrow, hof⟩
        · have hkeys : v.foreignKeys ≠ [] := fun hk =>
            hn ((Rows.files_has_no_references v hv).mpr hk)
          obtain ⟨k, hk⟩ := List.exists_mem_of_ne_nil _ hkeys
          obtain ⟨p, hp, hmeets⟩ := h.refers v hv row hrow k hk
          apply hseen k.parent (hparents k hk) p hp
          rw [isOf_of_meets hv hk hmeets]
          exact hof
      intro u hu
      rcases List.mem_cons.mp hu with rfl | hu
      · exact hone
      · apply ih (v.name :: seen) hrest (fun w hw => hts w (List.mem_cons_of_mem _ hw)) _ u hu
        intro n hn
        rcases List.mem_cons.mp hn with rfl | hn
        · exact hone
        · exact hseen n hn
  exact hall schema.tables [] Rows.schema_rule (fun u hu => hu)
    (fun n hn => absurd hn List.not_mem_nil) t ht row hrow hof

/-- Rows of one file have the same path, so what differs in their keys is not the path. -/
theorem keyOf_of_moved {t : Table} {a b : Row} (ha : a.isOf old = true) (hb : b.isOf old = true)
    (h : t.keyOf (a.moved new) = t.keyOf (b.moved new)) : t.keyOf a = t.keyOf b := by
  apply List.map_congr_left
  intro n hm
  by_cases hf : n = "file_path"
  · rw [hf, Row.cell_of_isOf ha, Row.cell_of_isOf hb]
  · have hcell := List.map_inj_left.mp h n hm
    rwa [Row.cell_moved_other hf, Row.cell_moved_other hf] at hcell

theorem nodup_keys_moved {t : Table} {rows : List Row} (hof : ∀ row ∈ rows, row.isOf old = true)
    (hn : (rows.map t.keyOf).Nodup) : ((rows.map (Row.moved new)).map t.keyOf).Nodup := by
  rw [List.map_map]
  refine List.Nodup.map_on ?_ (List.Nodup.of_map _ hn)
  intro a ha b hb hab
  exact List.inj_on_of_nodup_map hn ha hb (keyOf_of_moved (hof a ha) (hof b hb) hab)

/-- Keys stay different if a file takes a path that no row has. -/
theorem nodup_keys_renamed {t : Table} (ht : t ∈ schema.tables) {rows : List Row}
    (hn : (rows.map t.keyOf).Nodup) (hfree : ∀ row ∈ rows, row.isOf new = false) :
    ((rows.map (renamed old new)).map t.keyOf).Nodup := by
  have hapart (a b : Row) (ha : a.isOf old = true) (hb : b.isOf new = false) :
      t.keyOf (a.moved new) ≠ t.keyOf b := by
    have hof : (a.moved new).isOf new = true := by
      rw [Row.isOf_moved ha]
      simp
    exact (keyOf_ne ht hof hb).symm
  rw [List.map_map]
  refine List.Nodup.map_on ?_ (List.Nodup.of_map _ hn)
  intro a ha b hb hab
  refine List.inj_on_of_nodup_map hn ha hb ?_
  dsimp only [Function.comp_apply] at hab
  unfold renamed at hab
  -- Of two rows with one key, both or neither are renamed, for the new path is that of no other.
  by_cases hao : a.isOf old = true <;> by_cases hbo : b.isOf old = true
  · rw [if_pos hao, if_pos hbo] at hab
    exact keyOf_of_moved hao hbo hab
  · rw [if_pos hao, if_neg hbo] at hab
    exact absurd hab (hapart a b hao (hfree b hb))
  · rw [if_neg hao, if_pos hbo] at hab
    exact absurd hab.symm (hapart b a hbo (hfree a ha))
  · rw [if_neg hao, if_neg hbo] at hab
    exact hab

/-- Only tables of the schema have rows. -/
theorem exists_table {c : Schema} {s : Store} (hs : s.Fits c) {n : String} {row : Row}
    (hrow : row ∈ s.rows n) : ∃ t ∈ c.tables, t.name = n := by
  unfold rows relation? at hrow
  cases hfound : s.relations.find? (·.table.name = n) with
  | none =>
    rw [hfound] at hrow
    exact absurd hrow List.not_mem_nil
  | some r =>
    have hname := List.find?_some hfound
    refine ⟨r.table, ?_, by simpa using hname⟩
    rw [← hs]
    exact List.mem_map_of_mem (List.mem_of_find?_eq_some hfound)

/-- A store over the tables of the schema with different keys in each of them, whose references all
have targets. -/
structure Sound (s : Store) : Prop where
  fits : s.Fits schema
  tied : Tied s.rows
  unique : ∀ t ∈ schema.tables, ((s.rows t.name).map t.keyOf).Nodup

variable {s s' : Store}

/-- A path that no row of `files` has is that of no row at all. -/
theorem Sound.not_isOf (h : s.Sound) (hfree : ∀ row ∈ s.rows "files", row.isOf file = false)
    {n : String} {row : Row} (hrow : row ∈ s.rows n) : row.isOf file = false := by
  obtain ⟨t, ht, rfl⟩ := exists_table h.fits hrow
  cases hof : row.isOf file with
  | false => rfl
  | true =>
    obtain ⟨f, hf, hfile⟩ := h.tied.exists_file ht hrow hof
    exact hfile.symm.trans (hfree f hf)

theorem Sound.exists_delete (h : s.Sound) (file : Text) :
    ∃ s', s.delete "files" [("file_path", .text file)] = .ok s' ∧ s'.Sound ∧
      ∀ n, s'.rows n = (s.rows n).filter (!·.isOf file) := by
  have hfiles : Rows.filesTable ∈ schema.tables := List.mem_cons_self
  obtain ⟨s', hok⟩ : ∃ s', s.delete "files" [("file_path", .text file)] = .ok s' := by
    unfold delete
    rw [show "files" = Rows.filesTable.name from rfl,
      relation?_of_fits h.fits Rows.nodup_schema hfiles]
    exact ⟨_, rfl⟩
  obtain ⟨hfits, hrows⟩ := delete_file h.fits h.tied hok
  refine ⟨s', hok, ⟨hfits, ?_, ?_⟩, hrows⟩
  · rw [funext hrows]
    exact h.tied.deleted
  · intro t ht
    rw [hrows]
    exact (h.unique t ht).sublist (List.filter_sublist.map _)

theorem Sound.exists_rename (h : s.Sound) (hne : old ≠ new)
    (hfree : ∀ row ∈ s.rows "files", row.isOf new = false) :
    ∃ s', s.update "files" [("file_path", .text new)] [("file_path", .text old)] = .ok s' ∧
      s'.Sound ∧ ∀ n, s'.rows n = (s.rows n).map (renamed old new) := by
  have hkeys : ∀ t ∈ schema.tables,
      (((s.rows t.name).map (renamed old new)).map t.keyOf).Nodup := by
    intro t ht
    exact nodup_keys_renamed ht (h.unique t ht) fun row hrow => h.not_isOf hfree hrow
  have hrelations : ∀ r ∈ s.relations,
      ((r.rows.map (renamed old new)).map r.table.keyOf).Nodup := by
    intro r hr
    obtain ⟨ht, hrows⟩ := rows_of_mem h.fits Rows.nodup_schema hr
    rw [hrows]
    exact hkeys r.table ht
  have hok := (rename_file_eq_ok h.fits h.tied hne).mpr ⟨hrelations, rfl⟩
  obtain ⟨hfits, hrows⟩ := rename_file h.fits h.tied hne hok
  refine ⟨_, hok, ⟨hfits, ?_, ?_⟩, hrows⟩
  · rw [funext hrows]
    exact h.tied.renamed
  · intro t ht
    rw [hrows]
    exact hkeys t ht

end Store

end OutlineTables
