import OutlineTables.Proofs.Sync.Matching

/-!
Syncs as steps. A sync that succeeds makes the store mirror the outline files that it has scanned,
whatever files the store has mirrored before.
-/
namespace OutlineTables

open Rows (schema)

namespace Mapping

variable {m : Mapping} {d : Disk} {s s' : Store} {f : Text × Encoding.Bytes} {x : FileMeta}
  {stored scanned : List (Text × Encoding.Bytes)} {paths : List Path}

theorem rows_eq_ok (hx : OnDisk f x) (hc : d.content? (Path.ofText f.1) = some f.2) {r : Rows} :
    m.rows d x = .ok r ↔ ∃ text, Encoding.readText f.2 = .ok text ∧
      Rows.ofOutline m.options (Outline.read m.options text) f.1 (Md5.digest f.2)
        (some f.2.length) = .ok r := by
  obtain ⟨hhash, hrest⟩ := Prod.mk.inj hx
  obtain ⟨hpath, hsize⟩ := Prod.mk.inj hrest
  unfold Mapping.rows Mapping.outline Disk.readText
  rw [← hpath]
  dsimp only
  rw [hc, ← hhash, ← hsize]
  cases ht : Encoding.readText f.2 with
  | error e => simp [ht, Except.map]
  | ok text => simp [ht, Except.map, mapError_eq_ok]

theorem insertions_eq_ok (hx : OnDisk f x) (hc : d.content? (Path.ofText f.1) = some f.2)
    {xs : List Statement} :
    m.insertions d x = .ok xs ↔ ∃ r, m.Reads f r ∧ Statement.inserts schema r.records = xs := by
  have hsql (ys : List Statement) : (∃ u, (do discard (m.toSql ys)) = Except.ok u) ↔
      ∀ y ∈ ys, ∃ text, y.toSql m.dialect schema = .ok text := by
    rw [← exists_mapM_iff]
    unfold Mapping.toSql
    cases ys.mapM (Statement.toSql m.dialect schema) <;>
      simp [discard, Functor.discard, Functor.mapConst, Except.map, Except.mapError]
  unfold Mapping.insertions
  rw [bind_eq_ok]
  constructor
  · rintro ⟨r, hr, h⟩
    obtain ⟨u, hu, h⟩ := bind_eq_ok.mp h
    exact ⟨r, ⟨(rows_eq_ok hx hc).mp hr, (hsql _).mp ⟨u, hu⟩⟩, Except.ok.inj h⟩
  · rintro ⟨r, ⟨hr, hall⟩, rfl⟩
    obtain ⟨u, hu⟩ := (hsql _).mpr hall
    exact ⟨r, (rows_eq_ok hx hc).mpr hr, bind_eq_ok.mpr ⟨u, hu, rfl⟩⟩

/-- What a scan has found: files with their contents, each under its own path, which is that of an
outline file. -/
structure Scans (d : Disk) (paths : List Path) (scanned : List (Text × Encoding.Bytes)) : Prop where
  listed : List.Forall₂ OnDisk scanned (d.scanAll paths)
  readable : ∀ f ∈ scanned, d.content? (Path.ofText f.1) = some f.2
  nodup : (scanned.map Prod.fst).Nodup
  outline : ∀ f ∈ scanned, IsOutlinePath f.1

theorem insertions_mapM {new : List (Text × Encoding.Bytes)} {xs : List FileMeta}
    (hxs : List.Forall₂ OnDisk new xs)
    (hread : ∀ f ∈ new, d.content? (Path.ofText f.1) = some f.2) {yss : List (List Statement)} :
    xs.mapM (m.insertions d) = .ok yss ↔
      ∃ rs, List.Forall₂ m.Reads new rs ∧ rs.map (fun r => Statement.inserts schema r.records) = yss := by
  rw [mapM_eq_ok]
  induction hxs generalizing yss with
  | nil =>
    constructor
    · intro h
      cases h
      exact ⟨[], List.Forall₂.nil, rfl⟩
    · rintro ⟨rs, hrs, rfl⟩
      cases hrs
      exact List.Forall₂.nil
  | @cons f x new xs hx _ ih =>
    have hstep := fun ys => @insertions_eq_ok m d f x hx (hread f List.mem_cons_self) ys
    have hrest := fun zss => @ih (fun g hg => hread g (List.mem_cons_of_mem _ hg)) zss
    simp only [List.forall₂_cons_left_iff, hstep, hrest]
    constructor
    · rintro ⟨ys, yss, ⟨r, hr, rfl⟩, ⟨rs, hrs, rfl⟩, rfl⟩
      exact ⟨r :: rs, ⟨r, rs, hr, hrs, rfl⟩, rfl⟩
    · rintro ⟨-, ⟨r, rs, hr, hrs, rfl⟩, rfl⟩
      exact ⟨_, _, ⟨r, hr, rfl⟩, ⟨rs, hrs, rfl⟩, rfl⟩

theorem statements_eq_ok {r : Report} {gone new : List (Text × Encoding.Bytes)} {moves : List Move}
    (h : Asks r gone new moves) (hread : ∀ f ∈ new, d.content? (Path.ofText f.1) = some f.2)
    {xs : List Statement} : r.statements m d = .ok xs ↔
      ∃ rs, List.Forall₂ m.Reads new rs ∧ r.deletions ++ r.renames ++
        (rs.flatMap fun r => Statement.inserts schema r.records) = xs := by
  unfold Report.statements
  rw [bind_eq_ok]
  simp only [insertions_mapM h.insert hread, Except.ok.injEq]
  constructor
  · rintro ⟨-, ⟨rs, hrs, rfl⟩, rfl⟩
    exact ⟨rs, hrs, by rw [List.flatMap_def]⟩
  · rintro ⟨rs, hrs, rfl⟩
    exact ⟨_, ⟨rs, hrs, rfl⟩, by rw [List.flatMap_def]⟩

theorem sync_eq_ok {r : Report} : s.sync m d paths = .ok (r, s') ↔ s.changes d paths = r ∧
    ∃ xs, r.statements m d = .ok xs ∧ s.performAll m.dialect schema xs = .ok s' := by
  unfold Store.sync
  rw [bind_eq_ok]
  constructor
  · rintro ⟨xs, hxs, h⟩
    obtain ⟨a, ha, h⟩ := bind_eq_ok.mp h
    cases h
    exact ⟨rfl, xs, hxs, mapError_eq_ok.mp ha⟩
  · rintro ⟨rfl, xs, hxs, h⟩
    exact ⟨xs, hxs, bind_eq_ok.mpr ⟨s', mapError_eq_ok.mpr h, rfl⟩⟩

theorem sync_eq_error {xs : List Statement} {e : StoreFault}
    (hxs : (s.changes d paths).statements m d = .ok xs)
    (h : s.performAll m.dialect schema xs = .error e) : s.sync m d paths = .error (.store e) := by
  unfold Store.sync
  dsimp only
  rw [hxs]
  dsimp only [bind, Except.bind]
  rw [h]
  rfl

/-- What a store that mirrors some files says about them. -/
theorem Mirrors.files_perm (h : m.Mirrors s stored) :
    (stored.map fun f => (Md5.digest f.2, some f.1)).Perm (s.files.map FileMeta.inStore) := by
  obtain ⟨rs, hrs, hrows⟩ := h.content
  have hfiles : Rows.filesTable ∈ schema.tables := List.mem_cons_self
  have hall : rs.flatMap (·.content Rows.filesTable) = stored.map fun f =>
      Rows.filesTable.row (FileRow.record ⟨f.1, Md5.digest f.2, some f.2.length⟩) := by
    clear hrows h
    induction hrs with
    | nil => rfl
    | cons hf _ ih =>
      rw [List.flatMap_cons, hf.content_files, ih]
      rfl
  have hperm := (hrows Rows.filesTable hfiles)
  rw [hall] at hperm
  unfold Store.files
  rw [List.map_map]
  refine List.Perm.trans (List.Perm.of_eq ?_) (hperm.symm.map _)
  rw [List.map_map]
  rfl

theorem isOutlinePath_of_perm {files others rest : List (Text × Encoding.Bytes)}
    (h : files.Perm (others ++ rest)) (hall : ∀ f ∈ files, IsOutlinePath f.1) :
    ∀ p ∈ rest.map Prod.fst, IsOutlinePath p := by
  intro p hp
  obtain ⟨f, hf, rfl⟩ := List.mem_map.mp hp
  exact hall f (h.mem_iff.mpr (List.mem_append_right _ hf))

/-- A sync that succeeds leaves a mirror of what it has scanned. -/
theorem Mirrors.sync (h : m.Mirrors s stored) (hold : ∀ f ∈ stored, IsOutlinePath f.1)
    (hscan : Scans d paths scanned)
    (hinj : ∀ f ∈ stored, ∀ g ∈ scanned, Md5.digest f.2 = Md5.digest g.2 → f.2 = g.2)
    {r : Report} (hok : s.sync m d paths = .ok (r, s')) : m.Mirrors s' scanned := by
  obtain ⟨hr, xs, hxs, hok⟩ := sync_eq_ok.mp hok
  have hpartition := Report.partitions_ofFiles (d.scanAll paths) s.files
  rw [show Report.ofFiles (d.scanAll paths) s.files = r from hr] at hpartition
  obtain ⟨gone, new, kept, moves, hasks, hstored, hscanned⟩ :=
    exists_asks hpartition hscan.listed h.files_perm hinj
  have hreadable : ∀ f ∈ new, d.content? (Path.ofText f.1) = some f.2 := fun f hf =>
    hscan.readable f (hscanned.mem_iff.mpr (List.mem_append_left _ hf))
  obtain ⟨rs, hrs, rfl⟩ := (statements_eq_ok hasks hreadable).mp hxs
  obtain ⟨c, hok, hinserted⟩ := Store.performAll_append.mp hok
  obtain ⟨a, hdeleted, hrenamed⟩ := Store.performAll_append.mp hok
  rw [hasks.deletions_eq] at hdeleted
  rw [hasks.renames_eq] at hrenamed
  obtain ⟨b, hthere, hback⟩ := Store.performAll_append.mp hrenamed
  have hbefore := (hstored.map Prod.fst).nodup_iff.mp h.nodup
  have hafter := (hscanned.map Prod.fst).nodup_iff.mp hscan.nodup
  simp only [List.map_append, List.map_map] at hbefore hafter
  have holds := isOutlinePath_of_perm hstored hold
  have hnews := isOutlinePath_of_perm hscanned hscan.outline
  simp only [List.map_append, List.map_map] at holds hnews
  -- What is gone is deleted, what moves goes to paths in between and on, and the rest is new.
  have hfirst := (h.perm hstored.symm).deletions hdeleted
  rw [← source_there] at hfirst
  have hsecond := hfirst.renames (nodup_there (List.nodup_append.mp hbefore).2.1 holds) hthere
  rw [target_there] at hsecond
  have hthird := hsecond.renames (nodup_back (List.nodup_append.mp hafter).2.1 hnews) hback
  rw [target_back] at hthird
  exact (hthird.insertions hrs hinserted).1.perm hscanned

theorem Holds.reads {f : Text × Encoding.Bytes} {r : Rows} (h : m.Holds f.1 f.2 r) :
    m.Reads f r := by
  refine ⟨h.read, fun x hx => ?_⟩
  have hx : x ∈ Statement.inserts schema r.records := hx
  rw [Placed.inserts_eq] at hx
  obtain ⟨p, hp, rfl⟩ := List.mem_map.mp hx
  exact (h.written p hp).1

/-- What an empty store becomes when the rows of files are inserted, one file after the other. -/
def Imports (m : Mapping) (files : List (Text × Encoding.Bytes)) (s : Store) : Prop :=
  ∃ rs, List.Forall₂ m.Reads files rs ∧ (Store.ofSchema schema).performAll m.dialect schema
    (rs.flatMap fun r => Statement.inserts schema r.records) = .ok s

/-- The files that a store mirrors can be imported, and what comes of it mirrors them too. -/
theorem Mirrors.exists_imported (h : m.Mirrors s stored) :
    ∃ fresh, m.Imports stored fresh ∧ m.Mirrors fresh stored := by
  obtain ⟨rs, hrs, -⟩ := h.content
  have hnodup : (stored.map Prod.fst ++ ([] : List (Text × Encoding.Bytes)).map Prod.fst).Nodup := by
    rw [List.map_nil, List.append_nil]
    exact h.nodup
  obtain ⟨fresh, hfresh⟩ := (mirrors_empty m).exists_insertions hnodup hrs
  have hreads : List.Forall₂ m.Reads stored rs := hrs.imp fun _ _ => Holds.reads
  obtain ⟨hmirrors, -⟩ := (mirrors_empty m).insertions hreads hfresh
  rw [List.append_nil] at hmirrors
  exact ⟨fresh, ⟨rs, hreads, hfresh⟩, hmirrors⟩

/-- An empty store is asked to take all files. -/
theorem exists_asks_empty (hlisted : List.Forall₂ OnDisk scanned (d.scanAll paths)) :
    ∃ new, Asks ((Store.ofSchema schema).changes d paths) [] new [] ∧ scanned.Perm new := by
  have hpartition := Report.partitions_ofFiles (d.scanAll paths) (Store.ofSchema schema).files
  have hempty := (mirrors_empty (Mapping.mk .default .sqlite)).files_perm
  obtain ⟨gone, new, kept, moves, hasks, hstored, hscanned⟩ :=
    exists_asks hpartition hlisted hempty fun f hf => absurd hf List.not_mem_nil
  have hnil := hstored.nil_eq.symm
  rw [List.append_eq_nil_iff, List.append_eq_nil_iff, List.map_eq_nil_iff] at hnil
  obtain ⟨rfl, rfl, rfl⟩ := hnil
  rw [List.map_nil, List.nil_append, List.append_nil] at hscanned
  exact ⟨new, hasks, hscanned⟩

/-- The files that a store mirrors can be synced into an empty store. -/
theorem Mirrors.exists_fresh (h : m.Mirrors s scanned) (hscan : Scans d paths scanned) :
    ∃ r fresh, (Store.ofSchema schema).sync m d paths = .ok (r, fresh) ∧
      m.Mirrors fresh scanned := by
  have hinj : ∀ f ∈ ([] : List (Text × Encoding.Bytes)), ∀ g ∈ scanned,
      Md5.digest f.2 = Md5.digest g.2 → f.2 = g.2 := fun f hf => absurd hf List.not_mem_nil
  obtain ⟨new, hasks, hscanned⟩ := exists_asks_empty hscan.listed
  -- The rows can be read again because the mirror holds them.
  obtain ⟨rs, hrs, -⟩ := h.content
  obtain ⟨rs', hrs', -⟩ := List.perm_comp_forall₂ hscanned.symm hrs
  have hstatements := (statements_eq_ok hasks fun f hf =>
    hscan.readable f (hscanned.mem_iff.mpr hf)).mpr ⟨rs', hrs'.imp fun _ _ => Holds.reads, rfl⟩
  have hnodup : (new.map Prod.fst ++ ([] : List (Text × Encoding.Bytes)).map Prod.fst).Nodup := by
    rw [List.map_nil, List.append_nil]
    exact (hscanned.map Prod.fst).nodup_iff.mp hscan.nodup
  obtain ⟨fresh, hfresh⟩ := (mirrors_empty m).exists_insertions hnodup hrs'
  rw [hasks.deletions_eq, hasks.renames_eq] at hstatements
  have hok := sync_eq_ok.mpr ⟨rfl, _, hstatements, hfresh⟩
  exact ⟨_, fresh, hok,
    (mirrors_empty m).sync (fun f hf => absurd hf List.not_mem_nil) hscan hinj hok⟩

/-- A sync of what is mirrored already changes nothing. -/
theorem Mirrors.sync_again (h : m.Mirrors s scanned) (hscan : Scans d paths scanned) :
    (s.changes d paths).changes = 0 ∧ s.sync m d paths = .ok (s.changes d paths, s) := by
  have hkeys : (d.scanAll paths).map (fun f => (f.hash, f.diskPath)) =
      scanned.map fun f => (Md5.digest f.2, some f.1) := by
    refine (map_eq_of_forall₂ hscan.listed fun f x hx => ?_).symm
    obtain ⟨hhash, hrest⟩ := Prod.mk.inj hx
    rw [← hhash, ← (Prod.mk.inj hrest).1]
  have hzero : (s.changes d paths).changes = 0 := by
    refine Report.changes_eq_zero ?_
    rw [hkeys]
    exact h.files_perm
  refine ⟨hzero, sync_eq_ok.mpr ⟨rfl, [], ?_, rfl⟩⟩
  unfold Report.changes at hzero
  have hinsert : (s.changes d paths).insert = [] := List.eq_nil_of_length_eq_zero (by omega)
  have hupdate : (s.changes d paths).update = [] := List.eq_nil_of_length_eq_zero (by omega)
  have hdelete : (s.changes d paths).delete = [] := List.eq_nil_of_length_eq_zero (by omega)
  unfold Report.statements Report.deletions Report.renames
  rw [hinsert, hupdate, hdelete]
  rfl

end Mapping

end OutlineTables
