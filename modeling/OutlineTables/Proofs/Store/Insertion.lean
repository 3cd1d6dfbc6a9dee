import Mathlib.Data.List.Nodup
import OutlineTables.Proofs.Success
import OutlineTables.Store.Limits

/-!
Insertions. A store over a schema is known by the rows of its tables; an insertion that is accepted
adds one row at the end of one table, and whether it is accepted depends on those rows alone.
-/
namespace OutlineTables

/-- A record with the table that it is for. -/
structure Placed where
  table : Table
  values : Record

namespace Placed

def statement (p : Placed) : Statement := .insert p.table.name p.values

def row (p : Placed) : Row := p.table.row p.values

/-- The rows that records put into one table. -/
def rowsOf (ps : List Placed) (name : String) : List Row :=
  (ps.filter (·.table.name = name)).map row

theorem rowsOf_append (ps qs : List Placed) (name : String) :
    rowsOf (ps ++ qs) name = rowsOf ps name ++ rowsOf qs name := by
  simp only [rowsOf, List.filter_append, List.map_append]

theorem mem_rowsOf {ps : List Placed} {p : Placed} (hp : p ∈ ps) : p.row ∈ rowsOf ps p.table.name :=
  List.mem_map_of_mem (List.mem_filter.mpr ⟨hp, by simp⟩)

end Placed

namespace Store

/-- The tables of the store are those of a schema. -/
def Fits (s : Store) (c : Schema) : Prop := s.relations.map (·.table) = c.tables

theorem fits_ofSchema (c : Schema) : (ofSchema c).Fits c := by
  simp [Fits, ofSchema, Function.comp_def]

theorem rows_ofSchema (c : Schema) (name : String) : (ofSchema c).rows name = [] := by
  unfold rows relation? ofSchema
  induction c.tables with
  | nil => rfl
  | cons t ts ih =>
    simp only [List.map_cons, List.find?_cons]
    split
    · rfl
    · exact ih

/-- What a table asks of a new row, beside the rows that are there. -/
structure Accepts (content : String → List Row) (t : Table) (row : Row) : Prop where
  filled : ∀ c ∈ t.columns, c.notNull = true → row.cell c.name ≠ .null
  unique : t.keyOf row ∉ (content t.name).map t.keyOf
  referred : ∀ k ∈ t.foreignKeys,
    Cell.null ∈ row.key k.columns ∨ ∃ p ∈ content k.parent, k.meets (row.key k.columns) p = true

theorem holds_iff {k : ForeignKey} {s : Store} {row : Row} :
    k.holds s row = true ↔ Cell.null ∈ row.key k.columns ∨
      ∃ p ∈ s.rows k.parent, k.meets (row.key k.columns) p = true := by
  simp [ForeignKey.holds]

theorem fault?_eq_none {s : Store} {r : Relation} {row : Row} (hr : r.rows = s.rows r.table.name) :
    s.fault? r row = none ↔ Accepts s.rows r.table row := by
  have hunique : (r.rows.any fun other => r.table.keyOf other = r.table.keyOf row) = true ↔
      r.table.keyOf row ∈ (s.rows r.table.name).map r.table.keyOf := by
    simp [hr]
  unfold fault?
  split
  · rename_i c hc
    have hm := List.mem_of_find?_eq_some hc
    have hnull := List.find?_some hc
    simp only [decide_eq_true_eq] at hnull
    simp only [reduceCtorEq, false_iff]
    intro h
    exact h.filled c hm hnull.1 hnull.2
  · rename_i hc
    have hfilled : ∀ c ∈ r.table.columns, c.notNull = true → row.cell c.name ≠ .null := by
      intro c hm hn hnull
      have := List.find?_eq_none.mp hc c hm
      simp [hn, hnull] at this
    dsimp only
    split
    · rename_i hany
      simp only [reduceCtorEq, false_iff]
      intro h
      exact h.unique (hunique.mp hany)
    · rename_i hany
      split
      · rename_i hall
        simp only [true_iff]
        refine ⟨hfilled, fun h => hany (hunique.mpr h), ?_⟩
        intro k hk
        exact holds_iff.mp (List.all_eq_true.mp hall k hk)
      · rename_i hall
        simp only [reduceCtorEq, false_iff]
        intro h
        exact hall (List.all_eq_true.mpr fun k hk => holds_iff.mpr (h.referred k hk))

theorem map_table_addRow (name : String) (row : Row) (rs : List Relation) :
    (addRow name row rs).map (·.table) = rs.map (·.table) := by
  induction rs with
  | nil => rfl
  | cons r rs ih =>
    unfold addRow
    split
    · rfl
    · simp only [List.map_cons, ih]

/-- The new row is the last of its table, and other tables stay as they are. -/
theorem rows_addRow {s : Store} {name : String} {r : Relation} (hr : s.relation? name = some r)
    (row : Row) (n : String) : (Store.mk (addRow name row s.relations)).rows n =
      s.rows n ++ if n = name then [row] else [] := by
  unfold rows relation? at *
  dsimp only
  generalize s.relations = rs at hr ⊢
  induction rs with
  | nil => cases hr
  | cons a rs ih =>
    unfold addRow
    by_cases ha : a.table.name = name
    · subst ha
      by_cases hn : n = a.table.name
      · subst hn
        simp
      · simp [hn, Ne.symm hn]
    · have hr' : rs.find? (fun b => decide (b.table.name = name)) = some r := by
        simpa [List.find?_cons, ha] using hr
      rw [if_neg ha]
      by_cases hn : a.table.name = n
      · subst hn
        simp [ha]
      · simpa [List.find?_cons, hn] using ih hr'

section Insert

variable {c : Schema} {s s' : Store} {t : Table}

theorem relation?_of_mem (hs : s.Fits c) (hc : (c.tables.map (·.name)).Nodup) {r : Relation}
    (hr : r ∈ s.relations) : s.relation? r.table.name = some r := by
  unfold relation?
  unfold Fits at hs
  rw [← hs, List.map_map] at hc
  obtain ⟨a, ha⟩ : ∃ a, s.relations.find? (·.table.name = r.table.name) = some a := by
    rw [← Option.isSome_iff_exists, List.find?_isSome]
    exact ⟨r, hr, by simp⟩
  have hname : a.table.name = r.table.name := by simpa using List.find?_some ha
  rw [ha, List.inj_on_of_nodup_map hc (List.mem_of_find?_eq_some ha) hr hname]

theorem rows_of_mem (hs : s.Fits c) (hc : (c.tables.map (·.name)).Nodup) {r : Relation}
    (hr : r ∈ s.relations) : r.table ∈ c.tables ∧ r.rows = s.rows r.table.name := by
  constructor
  · unfold Fits at hs
    rw [← hs]
    exact List.mem_map_of_mem hr
  · unfold rows
    rw [relation?_of_mem hs hc hr]
    rfl

theorem relation?_of_fits (hs : s.Fits c) (hc : (c.tables.map (·.name)).Nodup)
    (ht : t ∈ c.tables) : s.relation? t.name = some ⟨t, s.rows t.name⟩ := by
  have hm := ht
  rw [← hs] at hm
  obtain ⟨r, hr, rfl⟩ := List.mem_map.mp hm
  rw [relation?_of_mem hs hc hr, ← (rows_of_mem hs hc hr).2]

theorem Fits.relations_eq (hs : s.Fits c) (hc : (c.tables.map (·.name)).Nodup) :
    s.relations = c.tables.map fun t => ⟨t, s.rows t.name⟩ := by
  have hall : s.relations.map (fun r => (⟨r.table, s.rows r.table.name⟩ : Relation)) =
      s.relations.map id := by
    refine List.map_congr_left fun r hr => ?_
    rw [← (rows_of_mem hs hc hr).2]
    rfl
  rw [List.map_id] at hall
  rw [← hs, List.map_map]
  exact hall.symm

/-- All tables changed in one way. -/
theorem rows_map (s : Store) {g : List Row → List Row} (hg : g [] = []) (n : String) :
    (Store.mk (s.relations.map fun r => { r with rows := g r.rows })).rows n = g (s.rows n) := by
  unfold rows relation?
  induction s.relations with
  | nil => exact hg.symm
  | cons r rs ih =>
    rw [List.map_cons]
    by_cases h : r.table.name = n
    · simp [h]
    · simpa [List.find?_cons, h] using ih

/-- An insertion succeeds exactly if its row is accepted. -/
theorem insert_isOk_iff (hs : s.Fits c) (hc : (c.tables.map (·.name)).Nodup) (ht : t ∈ c.tables)
    (values : Record) : (∃ s', s.insert t.name values = .ok s') ↔ Accepts s.rows t (t.row values) := by
  unfold insert
  rw [relation?_of_fits hs hc ht]
  dsimp only
  rw [← fault?_eq_none (r := ⟨t, s.rows t.name⟩) rfl]
  cases s.fault? ⟨t, s.rows t.name⟩ (t.row values) <;> simp

theorem insert_eq_ok (hs : s.Fits c) (hc : (c.tables.map (·.name)).Nodup) (ht : t ∈ c.tables)
    {values : Record} (h : s.insert t.name values = .ok s') :
    s'.Fits c ∧ ∀ n, s'.rows n = s.rows n ++ if n = t.name then [t.row values] else [] := by
  unfold insert at h
  have hr := relation?_of_fits hs hc ht
  rw [hr] at h
  dsimp only at h
  split at h
  · cases h
  · cases h
    exact ⟨(map_table_addRow _ _ _).trans hs, rows_addRow hr _⟩

/-- A row whose references all have targets is never refused for want of one. -/
theorem insert_ne_noParent (hs : s.Fits c) (hc : (c.tables.map (·.name)).Nodup)
    (ht : t ∈ c.tables) {values : Record} (hmet : ∀ k ∈ t.foreignKeys, ∃ p ∈ s.rows k.parent,
      k.meets ((t.row values).key k.columns) p = true) :
    s.insert t.name values ≠ .error .noParent := by
  have hall : t.foreignKeys.all (·.holds s (t.row values)) = true := by
    rw [List.all_eq_true]
    intro k hk
    exact holds_iff.mpr (Or.inr (hmet k hk))
  unfold insert
  rw [relation?_of_fits hs hc ht]
  dsimp only [fault?]
  rw [if_pos hall]
  split
  · rename_i f hf
    split at hf
    · cases hf
      simp
    · split at hf
      · cases hf
        simp
      · cases hf
  · simp

/-- A row that has its values and all targets of its references is refused for its key only. -/
theorem insert_eq_error (hs : s.Fits c) (hc : (c.tables.map (·.name)).Nodup) (ht : t ∈ c.tables)
    {values : Record} {f : StoreFault}
    (hfilled : ∀ c ∈ t.columns, c.notNull = true → (t.row values).cell c.name ≠ .null)
    (hmet : ∀ k ∈ t.foreignKeys, ∃ p ∈ s.rows k.parent,
      k.meets ((t.row values).key k.columns) p = true)
    (h : s.insert t.name values = .error f) :
    f = .notUnique t.name t.primaryKey ∧
      t.keyOf (t.row values) ∈ (s.rows t.name).map t.keyOf := by
  unfold insert at h
  rw [relation?_of_fits hs hc ht] at h
  dsimp only [fault?] at h
  cases hnull : t.columns.find? fun c => c.notNull ∧ (t.row values).cell c.name = .null with
  | some c =>
    have hc := List.find?_some hnull
    simp only [decide_eq_true_eq] at hc
    exact absurd hc.2 (hfilled c (List.mem_of_find?_eq_some hnull) hc.1)
  | none =>
    have hall : t.foreignKeys.all (·.holds s (t.row values)) = true := by
      rw [List.all_eq_true]
      intro k hk
      exact holds_iff.mpr (Or.inr (hmet k hk))
    rw [hnull] at h
    dsimp only at h
    by_cases hany : ((s.rows t.name).any fun other =>
        t.keyOf other = t.keyOf (t.row values)) = true
    · rw [if_pos hany] at h
      cases h
      exact ⟨rfl, by simpa using hany⟩
    · rw [if_neg hany, if_pos hall] at h
      cases h

theorem rows_cons {p : Placed} {ps : List Placed}
    (h : ∀ n, s'.rows n = s.rows n ++ if n = p.table.name then [p.table.row p.values] else [])
    (n : String) : s'.rows n ++ Placed.rowsOf ps n = s.rows n ++ Placed.rowsOf (p :: ps) n := by
  rw [h, List.append_assoc]
  by_cases hn : n = p.table.name
  · simp [Placed.rowsOf, Placed.row, hn]
  · simp [Placed.rowsOf, hn, Ne.symm hn]

/-- Whatever else a store holds, a run of insertions adds the rows of its records. -/
theorem rows_execAll (hc : (c.tables.map (·.name)).Nodup) {ps : List Placed}
    (hps : ∀ p ∈ ps, p.table ∈ c.tables) (hs : s.Fits c)
    (h : s.execAll (ps.map Placed.statement) = .ok s') :
    s'.Fits c ∧ ∀ n, s'.rows n = s.rows n ++ Placed.rowsOf ps n := by
  induction ps generalizing s with
  | nil =>
    cases h
    exact ⟨hs, fun n => (List.append_nil _).symm⟩
  | cons p ps ih =>
    simp only [execAll, List.map_cons, List.foldlM_cons, bind_eq_ok] at h
    obtain ⟨a, ha, h⟩ := h
    obtain ⟨hfits, hrows⟩ := insert_eq_ok hs hc (hps p List.mem_cons_self) ha
    obtain ⟨hfits', hrows'⟩ := ih (fun q hq => hps q (List.mem_cons_of_mem _ hq)) hfits h
    refine ⟨hfits', fun n => ?_⟩
    rw [hrows', rows_cons hrows]

theorem perform_eq_ok {d : Dialect} {x : Statement} :
    s.perform d c x = .ok s' ↔ x.fault? d c = none ∧ s.exec x = .ok s' := by
  unfold perform
  cases x.fault? d c <;> simp

/-- What is performed is executed. -/
theorem performAll_eq_ok {d : Dialect} {xs : List Statement} :
    s.performAll d c xs = .ok s' ↔ (∀ x ∈ xs, x.fault? d c = none) ∧ s.execAll xs = .ok s' := by
  induction xs generalizing s with
  | nil => simp [performAll, execAll]
  | cons x xs ih =>
    simp only [performAll, execAll, List.foldlM_cons, bind_eq_ok, perform_eq_ok,
      List.forall_mem_cons] at ih ⊢
    constructor
    · rintro ⟨a, ⟨hf, hx⟩, h⟩
      obtain ⟨hall, h⟩ := ih.mp h
      exact ⟨⟨hf, hall⟩, a, hx, h⟩
    · rintro ⟨⟨hf, hall⟩, a, hx, h⟩
      exact ⟨a, ⟨hf, hx⟩, ih.mpr ⟨hall, h⟩⟩

/-- A run of insertions succeeds exactly if each row is accepted beside those before it. -/
theorem execAll_isOk_iff (hc : (c.tables.map (·.name)).Nodup) {ps : List Placed}
    (hps : ∀ p ∈ ps, p.table ∈ c.tables) (hs : s.Fits c) :
    (∃ s', s.execAll (ps.map Placed.statement) = .ok s') ↔ ∀ before p after,
      ps = before ++ p :: after →
        Accepts (fun n => s.rows n ++ Placed.rowsOf before n) p.table p.row := by
  induction ps generalizing s with
  | nil => simp [execAll, pure, Except.pure]
  | cons q ps ih =>
    have hq := hps q List.mem_cons_self
    have hps' : ∀ p ∈ ps, p.table ∈ c.tables := fun p hp => hps p (List.mem_cons_of_mem _ hp)
    simp only [execAll, List.map_cons, List.foldlM_cons, bind_eq_ok]
    constructor
    · rintro ⟨s', a, ha, h⟩ before p after hsplit
      obtain ⟨hfits, hrows⟩ := insert_eq_ok hs hc hq ha
      cases before with
      | nil =>
        cases hsplit
        simp only [Placed.rowsOf, List.filter_nil, List.map_nil, List.append_nil]
        exact (insert_isOk_iff hs hc hq _).mp ⟨a, ha⟩
      | cons b before =>
        cases hsplit
        have := (ih hps' hfits).mp ⟨s', h⟩ before p after rfl
        simpa only [← rows_cons hrows] using this
    · intro h
      have hfirst := h [] q ps rfl
      simp only [Placed.rowsOf, List.filter_nil, List.map_nil, List.append_nil] at hfirst
      obtain ⟨a, ha⟩ := (insert_isOk_iff hs hc hq _).mpr hfirst
      obtain ⟨hfits, hrows⟩ := insert_eq_ok hs hc hq ha
      obtain ⟨s', hs'⟩ := (ih hps' hfits).mpr fun before p after hsplit => by
        have := h (q :: before) p after (by rw [hsplit, List.cons_append])
        simpa only [← rows_cons hrows] using this
      exact ⟨s', a, ha, hs'⟩

/-- A run of insertions that fails does so at one of them, once those before it are done. -/
theorem exists_refused {ps : List Placed} {f : StoreFault}
    (h : s.execAll (ps.map Placed.statement) = .error f) :
    ∃ before p after a, ps = before ++ p :: after ∧
      s.execAll (before.map Placed.statement) = .ok a ∧
      a.insert p.table.name p.values = .error f := by
  induction ps generalizing s with
  | nil => cases h
  | cons p ps ih =>
    rw [List.map_cons, execAll, List.foldlM_cons] at h
    cases ha : s.exec p.statement with
    | error g =>
      rw [ha] at h
      cases h
      exact ⟨[], p, ps, s, rfl, rfl, ha⟩
    | ok a =>
      rw [ha] at h
      obtain ⟨before, q, after, b, rfl, hb, hq⟩ := ih h
      refine ⟨p :: before, q, after, b, rfl, ?_, hq⟩
      rw [List.map_cons, execAll, List.foldlM_cons, ha]
      exact hb

end Insert

end Store

end OutlineTables
