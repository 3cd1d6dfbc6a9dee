import OutlineTables.Proofs.Rows.Targets
import OutlineTables.Proofs.Schema.Order
import OutlineTables.Proofs.Store.Insertion

/-!
Insertions of the rows of an outline, one at a time: each finds the rows that it refers to.
-/
namespace OutlineTables

/-- A list that goes on to what its first part does not have goes through all of that part. -/
theorem exists_rest {α : Type} {xs ys before after : List α} {y : α} (hy : y ∉ xs)
    (h : xs ++ ys = before ++ y :: after) :
    ∃ rest, before = xs ++ rest ∧ ys = rest ++ y :: after := by
  rcases List.append_eq_append_iff.mp h with ⟨rest, hbefore, hys⟩ | ⟨rest, hxs, hafter⟩
  · exact ⟨rest, hbefore, hys⟩
  · cases rest with
    | nil => exact ⟨[], by simpa using hxs.symm, by simpa using hafter.symm⟩
    | cons a rest =>
      obtain ⟨rfl, -⟩ := List.cons.inj hafter
      exact absurd (hxs ▸ List.mem_append_right _ List.mem_cons_self) hy

namespace Placed

/-- The records of all tables in the order in which they are inserted. -/
def ofRecords (ts : List Table) (records : List (String × List Record)) : List Placed :=
  ts.flatMap fun t => ((records.lookup t.name).getD []).map (⟨t, ·⟩)

theorem ofRecords_cons (t : Table) (ts : List Table) (records : List (String × List Record)) :
    ofRecords (t :: ts) records =
      ((records.lookup t.name).getD []).map (⟨t, ·⟩) ++ ofRecords ts records :=
  List.flatMap_cons

theorem inserts_eq (c : Schema) (records : List (String × List Record)) :
    Statement.inserts c records = (ofRecords c.tables records).map statement := by
  simp only [Statement.inserts, ofRecords, List.map_flatMap, List.map_map, Function.comp_def,
    statement]

theorem mem_ofRecords {ts : List Table} {records : List (String × List Record)} {p : Placed} :
    p ∈ ofRecords ts records ↔ p.table ∈ ts ∧ p.values ∈ (records.lookup p.table.name).getD [] := by
  simp only [ofRecords, List.mem_flatMap, List.mem_map]
  constructor
  · rintro ⟨t, ht, values, hv, rfl⟩
    exact ⟨ht, hv⟩
  · rintro ⟨ht, hv⟩
    exact ⟨p.table, ht, p.values, hv, rfl⟩

/-- Those of one table are in the order of its records. -/
theorem filter_ofRecords {ts : List Table} (hn : (ts.map (·.name)).Nodup) {t : Table} (ht : t ∈ ts)
    (records : List (String × List Record)) :
    (ofRecords ts records).filter (·.table.name = t.name) =
      ((records.lookup t.name).getD []).map (⟨t, ·⟩) := by
  induction ts with
  | nil => cases ht
  | cons u ts ih =>
    rw [List.map_cons, List.nodup_cons] at hn
    rw [ofRecords_cons, List.filter_append, List.filter_map]
    rcases List.mem_cons.mp ht with rfl | ht
    · have hnone : (ofRecords ts records).filter (·.table.name = t.name) = [] := by
        rw [List.filter_eq_nil_iff]
        intro p hp
        have hpt := (mem_ofRecords.mp hp).1
        have hne : p.table.name ≠ t.name := fun he => hn.1 (he ▸ List.mem_map_of_mem hpt)
        simpa using hne
      rw [hnone, List.append_nil]
      simp [Function.comp_def]
    · have hne : u.name ≠ t.name := fun he => hn.1 (he ▸ List.mem_map_of_mem ht)
      rw [ih hn.2 ht]
      simp [Function.comp_def, hne]

/-- All records of the tables in front of that of a record come before it. -/
theorem ofRecords_split {ts : List Table} {records : List (String × List Record)}
    {before after : List Placed} {p : Placed} (h : ofRecords ts records = before ++ p :: after) :
    ∃ front back, ts = front ++ p.table :: back ∧ ∀ q ∈ ofRecords front records, q ∈ before := by
  induction ts generalizing before with
  | nil => simp [ofRecords] at h
  | cons t ts ih =>
    rw [ofRecords_cons] at h
    by_cases hp : p ∈ ((records.lookup t.name).getD []).map (⟨t, ·⟩)
    · obtain ⟨_, -, rfl⟩ := List.mem_map.mp hp
      exact ⟨[], ts, rfl, fun q hq => absurd hq List.not_mem_nil⟩
    · obtain ⟨rest, rfl, hrest⟩ := exists_rest hp h
      obtain ⟨front, back, rfl, hfront⟩ := ih hrest
      refine ⟨t :: front, back, rfl, ?_⟩
      intro q hq
      rw [ofRecords_cons, List.mem_append] at hq
      rcases hq with hq | hq
      · exact List.mem_append_left _ hq
      · exact List.mem_append_right _ (hfront q hq)

/-- Once the rows of a table are inserted, so are all rows of the tables that it refers to. -/
theorem parents_first {seen : List String} {ts : List Table}
    {records : List (String × List Record)} (h : Schema.referenceFault? seen ts = none)
    {before after : List Placed} {p : Placed} (hsplit : ofRecords ts records = before ++ p :: after) :
    ∀ k ∈ p.table.foreignKeys, k.parent ∈ seen ∨
      ∃ t ∈ ts, t.name = k.parent ∧ ∀ q ∈ ofRecords [t] records, q ∈ before := by
  obtain ⟨front, back, hts, hbefore⟩ := ofRecords_split hsplit
  intro k hk
  rcases Schema.exists_parent h hts k hk with hseen | ⟨t, ht, hname⟩
  · exact Or.inl hseen
  · refine Or.inr ⟨t, ?_, hname, fun q hq => hbefore q ?_⟩
    · rw [hts]
      exact List.mem_append_left _ ht
    · obtain ⟨hqt, hqv⟩ := mem_ofRecords.mp hq
      exact mem_ofRecords.mpr ⟨List.mem_singleton.mp hqt ▸ ht, hqv⟩

end Placed

/-- Insertions that can be executed one at a time: for each foreign key of its table, an insertion
comes after another one that puts a row with equal key columns into the parent table, so that the
store has the row and does not miss it. -/
def Statement.ReferBack (c : Schema) (statements : List Statement) : Prop :=
  ∀ before s after, statements = before ++ s :: after →
    ∃ t ∈ c.tables, ∃ values, s = .insert t.name values ∧
      (∀ k ∈ t.foreignKeys, ∃ target, .insert k.parent target ∈ before ∧
        target.key k.parentColumns = values.key k.columns) ∧
      ∀ store, (Store.ofSchema c).execAll before = .ok store →
        (∀ k ∈ t.foreignKeys, ∃ row ∈ store.rows k.parent,
          k.meets ((t.row values).key k.columns) row = true) ∧
        store.exec s ≠ .error .noParent

namespace Rows

/-- Every reference of a row leads to a row that is inserted before it. -/
theorem exists_target {r : Rows} (hr : Refers r r) {before after : List Placed} {p : Placed}
    (hsplit : Placed.ofRecords schema.tables r.records = before ++ p :: after) {k : ForeignKey}
    (hk : k ∈ p.table.foreignKeys) : ∃ q ∈ before, q.table ∈ schema.tables ∧
      q.table.name = k.parent ∧ q.values.key k.parentColumns = p.values.key k.columns ∧
      k.meets (p.row.key k.columns) q.row = true := by
  have hp : p ∈ Placed.ofRecords schema.tables r.records := by
    rw [hsplit]
    exact List.mem_append_right _ List.mem_cons_self
  obtain ⟨ht, hv⟩ := Placed.mem_ofRecords.mp hp
  obtain ⟨hplace, target, htarget, hkey⟩ := reference_target hr ht hk hv
  rcases Placed.parents_first schema_rule hsplit k hk with hm | ⟨t, htt, hn, hall⟩
  · cases hm
  · rw [← hn] at htarget
    refine ⟨⟨t, target⟩, hall _ ?_, htt, hn, hkey, meets_target ht htt hk hn hplace hkey⟩
    exact Placed.mem_ofRecords.mpr ⟨List.mem_singleton_self t, htarget⟩

/-- The rows of an outline are inserted as their SQL text says, and each row finds every row that
it refers to already in the store. -/
theorem inserts_refer_back {o : Options} {x : Outline} {file md5 : Text} {size : Option Int}
    {r : Rows} {d : Dialect} {texts : List Text} (hr : ofOutline o x file md5 size = .ok r)
    (ht : Sql.inserts d.literal schema r.records = .ok texts) :
    List.Forall₂ (fun s text => s.toSql d schema = .ok text)
        (Statement.inserts schema r.records) texts ∧
      Statement.ReferBack schema (Statement.inserts schema r.records) := by
  constructor
  · obtain ⟨-, -, htexts⟩ := bind_eq_ok.mp ht
    exact mapM_eq_ok.mp htexts
  · intro before s after hsplit
    rw [Placed.inserts_eq] at hsplit
    obtain ⟨before', rest, hplaced, rfl, hrest⟩ := List.map_eq_append_iff.mp hsplit
    obtain ⟨p, after', rfl, rfl, rfl⟩ := List.map_eq_cons_iff.mp hrest
    have hm (q : Placed) (hq : q ∈ before' ++ p :: after') : q.table ∈ schema.tables :=
      (Placed.mem_ofRecords.mp (hplaced ▸ hq)).1
    have htarget := fun k hk => exists_target (refers_ofOutline hr) hplaced (k := k) hk
    have hpt := hm p (List.mem_append_right _ List.mem_cons_self)
    refine ⟨p.table, hpt, p.values, rfl, ?_, ?_⟩
    · intro k hk
      obtain ⟨q, hq, -, hn, hkey, -⟩ := htarget k hk
      exact ⟨q.values, List.mem_map.mpr ⟨q, hq, by rw [Placed.statement, hn]⟩, hkey⟩
    · intro store hstore
      have hbefore (q : Placed) (hq : q ∈ before') : q.table ∈ schema.tables :=
        hm q (List.mem_append_left _ hq)
      obtain ⟨hfits, hrows⟩ :=
        Store.rows_execAll nodup_schema hbefore (Store.fits_ofSchema schema) hstore
      have hmet : ∀ k ∈ p.table.foreignKeys, ∃ row ∈ store.rows k.parent,
          k.meets (p.row.key k.columns) row = true := by
        intro k hk
        obtain ⟨q, hq, -, hn, -, hmeets⟩ := htarget k hk
        refine ⟨q.row, ?_, hmeets⟩
        rw [hrows, ← hn]
        exact List.mem_append_right _ (Placed.mem_rowsOf hq)
      refine ⟨hmet, ?_⟩
      exact Store.insert_ne_noParent hfits nodup_schema hpt hmet

/-- A heading two levels below another. -/
theorem inserts_refer_back_gap :
    let heading (offset level : Int) : Heading := {
      offset, level, title := "a".toList, keyword := none, priority := none, commented := false
      tags := ["x".toList], properties := [⟨offset + 10, "k".toList, "v".toList⟩]
      planning := [], drawers := [], looseEntries := [], content := none
      timestamps := [], links := [] }
    let outline : Outline := ⟨[], [], [.node (heading 1 1) [.node (heading 30 3) []]]⟩
    ∃ r texts, ofOutline .default outline "a.org".toList "h".toList (some 50) = .ok r ∧
      Sql.inserts (Dialect.literal .sqlite) schema r.records = .ok texts ∧
      List.Forall₂ (fun s text => s.toSql .sqlite schema = .ok text)
        (Statement.inserts schema r.records) texts ∧
      Statement.ReferBack schema (Statement.inserts schema r.records) := by
  intro heading outline
  have h : (((ofOutline .default outline "a.org".toList "h".toList (some 50)).mapError fun _ =>
      SqlFault.tooLong) >>= fun r =>
        Sql.inserts (Dialect.literal .sqlite) schema r.records).isOk = true := by
    decide +kernel
  obtain ⟨texts, h⟩ := exists_ok h
  obtain ⟨r, hr, ht⟩ := bind_eq_ok.mp h
  have hr := mapError_eq_ok.mp hr
  exact ⟨r, texts, hr, ht, inserts_refer_back hr ht⟩

end Rows

end OutlineTables
