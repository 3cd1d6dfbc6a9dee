import Mathlib.Data.List.Induction
import OutlineTables.Proofs.Rows.Integrity
import OutlineTables.Proofs.Rows.Moved

/-!
Insertions of all rows of an outline. If the rows have their values, what decides is whether their
keys are different.
-/
namespace OutlineTables

open Rows (schema)

namespace Placed

theorem rowsOf_ofRecords {ts : List Table} (hn : (ts.map (·.name)).Nodup) {t : Table} (ht : t ∈ ts)
    (records : List (String × List Record)) : rowsOf (ofRecords ts records) t.name =
      ((records.lookup t.name).getD []).map t.row := by
  unfold rowsOf
  rw [filter_ofRecords hn ht, List.map_map]
  rfl

theorem rowsOf_records {t : Table} (ht : t ∈ schema.tables) (r : Rows) :
    rowsOf (ofRecords schema.tables r.records) t.name = r.content t :=
  rowsOf_ofRecords Rows.nodup_schema ht r.records

/-- If each row has another key than those before it, all keys are different. -/
theorem nodup_keys {t : Table} {ps : List Placed}
    (h : ∀ before p after, ps = before ++ p :: after → p.table.name = t.name →
      t.keyOf p.row ∉ (rowsOf before t.name).map t.keyOf) :
    ((rowsOf ps t.name).map t.keyOf).Nodup := by
  induction ps using List.reverseRecOn with
  | nil => exact List.nodup_nil
  | append_singleton ps p ih =>
    have hinit := ih fun before q after hsplit =>
      h before q (after ++ [p]) (by rw [hsplit, List.append_assoc, List.cons_append])
    rw [rowsOf_append]
    by_cases hn : p.table.name = t.name
    · have hlast : rowsOf [p] t.name = [p.row] := by simp [rowsOf, hn]
      rw [hlast, List.map_append, List.nodup_append]
      refine ⟨hinit, List.nodup_singleton _, ?_⟩
      intro a ha b hb hab
      rw [List.map_singleton, List.mem_singleton] at hb
      exact h ps p [] rfl hn (hb ▸ hab ▸ ha)
    · have hlast : rowsOf [p] t.name = [] := by simp [rowsOf, hn]
      rw [hlast, List.append_nil]
      exact hinit

end Placed

namespace Rows

variable {s s' : Store} {r : Rows}

theorem mem_tables {p : Placed} (hp : p ∈ Placed.ofRecords schema.tables r.records) :
    p.table ∈ schema.tables := (Placed.mem_ofRecords.mp hp).1

/-- The rows of a table are those that come before one of them, that one, and those behind it. -/
theorem content_split {before after : List Placed} {p : Placed}
    (hsplit : Placed.ofRecords schema.tables r.records = before ++ p :: after) :
    p.table ∈ schema.tables ∧
      r.content p.table = Placed.rowsOf before p.table.name ++
        p.row :: Placed.rowsOf after p.table.name := by
  have ht : p.table ∈ schema.tables :=
    mem_tables (r := r) (hsplit ▸ List.mem_append_right _ List.mem_cons_self)
  refine ⟨ht, ?_⟩
  rw [← Placed.rowsOf_records ht, hsplit, Placed.rowsOf_append]
  simp [Placed.rowsOf]

/-- Rows that have their values and whose keys a store does not have. -/
structure New (s : Store) (r : Rows) : Prop where
  fits : s.Fits schema
  refers : Refers r r
  filled : ∀ t ∈ schema.tables, ∀ row ∈ r.content t, ∀ c ∈ t.columns, c.notNull = true →
    row.cell c.name ≠ .null
  fresh : ∀ t ∈ schema.tables, ∀ row ∈ r.content t, t.keyOf row ∉ (s.rows t.name).map t.keyOf

/-- A store takes new rows whose keys are different. -/
theorem New.exists_insertions (h : New s r)
    (hunique : ∀ t ∈ schema.tables, ((r.content t).map t.keyOf).Nodup) :
    ∃ s', s.execAll (Statement.inserts schema r.records) = .ok s' := by
  rw [Placed.inserts_eq, Store.execAll_isOk_iff nodup_schema (fun _ => mem_tables) h.fits]
  intro before p after hsplit
  obtain ⟨ht, hcontent⟩ := content_split hsplit
  have hrow : p.row ∈ r.content p.table := by
    rw [hcontent]
    exact List.mem_append_right _ List.mem_cons_self
  constructor
  · exact h.filled p.table ht p.row hrow
  · rw [List.map_append, List.mem_append, not_or]
    refine ⟨h.fresh p.table ht p.row hrow, fun hm => ?_⟩
    have hkeys := hunique p.table ht
    rw [hcontent, List.map_append, List.map_cons, List.nodup_append] at hkeys
    exact hkeys.2.2 _ hm _ List.mem_cons_self rfl
  · intro k hk
    obtain ⟨q, hq, -, hn, -, hmeets⟩ := exists_target h.refers hsplit hk
    refine Or.inr ⟨q.row, ?_, hmeets⟩
    rw [← hn]
    exact List.mem_append_right _ (Placed.mem_rowsOf hq)

/-- Rows that a store has taken have different keys. -/
theorem nodup_of_insertions (hs : s.Fits schema)
    (h : s.execAll (Statement.inserts schema r.records) = .ok s') :
    ∀ t ∈ schema.tables, ((r.content t).map t.keyOf).Nodup := by
  rw [Placed.inserts_eq] at h
  have haccepts := (Store.execAll_isOk_iff nodup_schema (fun _ => mem_tables) hs).mp ⟨s', h⟩
  intro t ht
  rw [← Placed.rowsOf_records ht]
  -- Each row was accepted behind those before it, so its key differs from theirs.
  apply Placed.nodup_keys
  intro before p after hsplit hn hm
  obtain ⟨hpt, -⟩ := content_split hsplit
  obtain rfl := List.inj_on_of_nodup_map nodup_schema hpt ht hn
  apply (haccepts before p after hsplit).unique
  rw [List.map_append]
  exact List.mem_append_right _ hm

/-- New rows are refused only for a key that comes twice. -/
theorem New.exists_twice (h : New s r) {f : StoreFault}
    (hf : s.execAll (Statement.inserts schema r.records) = .error f) :
    ∃ t ∈ schema.tables, f = .notUnique t.name t.primaryKey ∧
      ¬((r.content t).map t.keyOf).Nodup := by
  rw [Placed.inserts_eq] at hf
  obtain ⟨before, p, after, a, hsplit, ha, hp⟩ := Store.exists_refused hf
  obtain ⟨ht, hcontent⟩ := content_split hsplit
  have hbefore (q : Placed) (hq : q ∈ before) : q.table ∈ schema.tables :=
    mem_tables (r := r) (hsplit ▸ List.mem_append_left _ hq)
  obtain ⟨hfits, hrows⟩ := Store.rows_execAll nodup_schema hbefore h.fits ha
  have hmet : ∀ k ∈ p.table.foreignKeys, ∃ row ∈ a.rows k.parent,
      k.meets (p.row.key k.columns) row = true := by
    intro k hk
    obtain ⟨q, hq, -, hn, -, hmeets⟩ := exists_target h.refers hsplit hk
    refine ⟨q.row, ?_, hmeets⟩
    rw [hrows, ← hn]
    exact List.mem_append_right _ (Placed.mem_rowsOf hq)
  have hrow : p.row ∈ r.content p.table := by
    rw [hcontent]
    exact List.mem_append_right _ List.mem_cons_self
  obtain ⟨rfl, hm⟩ :=
    Store.insert_eq_error hfits nodup_schema ht (h.filled p.table ht p.row hrow) hmet hp
  refine ⟨p.table, ht, rfl, fun hn => ?_⟩
  -- The key is one of the rows of the outline that were inserted before.
  rw [hrows, List.map_append, List.mem_append] at hm
  have hm := hm.resolve_left (h.fresh p.table ht p.row hrow)
  rw [hcontent, List.map_append, List.map_cons, List.nodup_append] at hn
  exact hn.2.2 _ hm _ List.mem_cons_self rfl

end Rows

end OutlineTables
