import OutlineTables.Proofs.Disk.Trees
import OutlineTables.Proofs.Sync.Mirror

/-!
Runs, in which the disk changes between syncs. The store mirrors what was scanned last, so a sync
that succeeds leaves the rows that an empty store would get.
-/
namespace OutlineTables

open Rows (schema)

/-- Something that happens in a run. The disk may change in any way. -/
inductive Event where
  | change (disk : Disk)
  | sync (paths : List Text)

/-- A disk and a store. -/
structure World where
  disk : Disk := {}
  store : Store := Store.ofSchema schema

namespace World

def sync (m : Mapping) (w : World) (paths : List Text) : Except SyncFault (Report × Store) :=
  w.store.sync m w.disk (paths.map Path.ofText)

/-- A sync that fails is rolled back as a whole. -/
def step (m : Mapping) (w : World) : Event → World
  | .change d => { w with disk := d }
  | .sync paths =>
    match w.sync m paths with
    | .ok (_, s) => { w with store := s }
    | .error _ => w

/-- The world after a run that starts with empty tables. -/
def run (m : Mapping) (events : List Event) : World := events.foldl (step m) {}

end World

/-- The same tables with the same rows, in any order. -/
def Store.Same (s s' : Store) : Prop :=
  List.Forall₂ (fun a b => a.table = b.table ∧ a.rows.Perm b.rows) s.relations s'.relations

theorem Store.Fits.same {s s' : Store} (h : s.Fits schema) (h' : s'.Fits schema)
    (hrows : ∀ t ∈ schema.tables, (s.rows t.name).Perm (s'.rows t.name)) : s.Same s' := by
  unfold Store.Same
  rw [h.relations_eq Rows.nodup_schema, h'.relations_eq Rows.nodup_schema,
    List.forall₂_map_left_iff, List.forall₂_map_right_iff, List.forall₂_same]
  exact fun t ht => ⟨rfl, hrows t ht⟩

namespace Disk

/-- The paths that a scan lists are those of outline files, and none is listed twice. -/
structure Scannable (d : Disk) (paths : List Text) : Prop where
  nodup : ((d.scanAll (paths.map Path.ofText)).map (·.diskPath)).Nodup
  outline : ∀ f ∈ d.scanAll (paths.map Path.ofText), ∀ p, f.diskPath = some p →
    Mapping.IsOutlinePath p

theorem mem_contents {d : Disk} {p : Path} {bytes : Encoding.Bytes}
    (h : d.content? p = some bytes) : bytes ∈ d.files.map Prod.snd := by
  obtain ⟨place, -, h⟩ := Option.bind_eq_some_iff.mp h
  obtain ⟨before, after, hsplit, -⟩ := List.lookup_eq_some_iff.mp h
  rw [hsplit]
  simp

end Disk

/-- What a run asks of its disks: they are trees, and what is scanned is as it should be. -/
def Event.Admitted (d : Disk) : List Event → Prop
  | [] => True
  | .change d' :: events => d'.IsTree ∧ Admitted d' events
  | .sync paths :: events => d.Scannable paths ∧ Admitted d events

/-- The contents of all files of a run. -/
def Event.contents (events : List Event) : List Encoding.Bytes :=
  events.flatMap fun
    | .change d => d.files.map Prod.snd
    | .sync _ => []

namespace Mapping

variable {m : Mapping} {d : Disk} {paths : List Text}

/-- A scan of a tree as files with contents. -/
theorem exists_listed (hd : d.IsTree) (paths : List Text) : ∃ scanned,
    List.Forall₂ OnDisk scanned (d.scanAll (paths.map Path.ofText)) ∧
      ∀ f ∈ scanned, d.content? (Path.ofText f.1) = some f.2 := by
  have hall (xs : List FileMeta) (hxs : ∀ x ∈ xs, x ∈ d.scanAll (paths.map Path.ofText)) :
      ∃ scanned : List (Text × Encoding.Bytes), List.Forall₂ OnDisk scanned xs ∧
        ∀ f ∈ scanned, d.content? (Path.ofText f.1) = some f.2 := by
    induction xs with
    | nil => exact ⟨[], List.Forall₂.nil, fun f hf => absurd hf List.not_mem_nil⟩
    | cons x xs ih =>
      obtain ⟨scanned, hscanned, hread⟩ := ih fun y hy => hxs y (List.mem_cons_of_mem _ hy)
      obtain ⟨p, hp, hx⟩ := List.mem_flatMap.mp (hxs x List.mem_cons_self)
      obtain ⟨t, -, rfl⟩ := List.mem_map.mp hp
      obtain ⟨path, bytes, rfl, hpath, hbytes⟩ := hd.content?_scan (Path.proper_ofText t) hx
      refine ⟨(path.toText, bytes) :: scanned, List.Forall₂.cons rfl hscanned, ?_⟩
      intro f hf
      rcases List.mem_cons.mp hf with rfl | hf
      · rw [hpath]
        exact hbytes
      · exact hread f hf
  exact hall _ fun x hx => hx

theorem nodup_paths_iff {scanned : List (Text × Encoding.Bytes)} {xs : List FileMeta}
    (h : List.Forall₂ OnDisk scanned xs) :
    (scanned.map Prod.fst).Nodup ↔ (xs.map (·.diskPath)).Nodup := by
  have hpaths : scanned.map (fun f => some f.1) = xs.map (·.diskPath) :=
    map_eq_of_forall₂ h fun _ _ hx => (Prod.mk.inj (Prod.mk.inj hx).2).1
  rw [← hpaths, ← List.nodup_map_iff (Option.some_injective Text), List.map_map]
  rfl

theorem exists_scans (hd : d.IsTree) (h : d.Scannable paths) :
    ∃ scanned, Scans d (paths.map Path.ofText) scanned ∧
      ∀ f ∈ scanned, f.2 ∈ d.files.map Prod.snd := by
  obtain ⟨scanned, hscanned, hread⟩ := exists_listed hd paths
  refine ⟨scanned, ⟨hscanned, hread, (nodup_paths_iff hscanned).mpr h.nodup, ?_⟩,
    fun f hf => Disk.mem_contents (hread f hf)⟩
  intro f hf
  obtain ⟨x, hx, hfx⟩ := exists_right_of_mem hscanned hf
  exact h.outline x hx f.1 (Prod.mk.inj (Prod.mk.inj hfx).2).1.symm

theorem Mirrors.same {s s' : Store} {files : List (Text × Encoding.Bytes)} (h : m.Mirrors s files)
    (h' : m.Mirrors s' files) : s.Same s' :=
  h.fits.same h'.fits fun _ ht => h.rows_perm h' ht

end Mapping

namespace World

variable {m : Mapping} {w : World} {contents : List Encoding.Bytes} {paths : List Text}

/-- What is true throughout a run: the store mirrors outline files with contents that the run has
had at some time. -/
structure Tracks (m : Mapping) (w : World) (contents : List Encoding.Bytes) : Prop where
  tree : w.disk.IsTree
  onDisk : ∀ bytes ∈ w.disk.files.map Prod.snd, bytes ∈ contents
  inStore : ∃ stored, m.Mirrors w.store stored ∧
    ∀ f ∈ stored, Mapping.IsOutlinePath f.1 ∧ f.2 ∈ contents

/-- Contents with one digest are the same. -/
def Distinguished (contents : List Encoding.Bytes) : Prop :=
  ∀ a ∈ contents, ∀ b ∈ contents, Md5.digest a = Md5.digest b → a = b

theorem tracks_empty (m : Mapping) (contents : List Encoding.Bytes) : Tracks m {} contents where
  tree := Disk.isTree_empty
  onDisk _ h := absurd h List.not_mem_nil
  inStore := ⟨[], Mapping.mirrors_empty m, fun _ h => absurd h List.not_mem_nil⟩

/-- A sync that succeeds leaves a mirror of what is on the disk now. -/
theorem Tracks.exists_mirrored (h : w.Tracks m contents) (hc : Distinguished contents)
    (hs : w.disk.Scannable paths) {r : Report} {s : Store} (hok : w.sync m paths = .ok (r, s)) :
    ∃ scanned, Mapping.Scans w.disk (paths.map Path.ofText) scanned ∧ m.Mirrors s scanned ∧
      ∀ f ∈ scanned, Mapping.IsOutlinePath f.1 ∧ f.2 ∈ contents := by
  obtain ⟨scanned, hscans, hbytes⟩ := Mapping.exists_scans h.tree hs
  obtain ⟨stored, hstored, hall⟩ := h.inStore
  have hscanned (f : Text × Encoding.Bytes) (hf : f ∈ scanned) : f.2 ∈ contents :=
    h.onDisk f.2 (hbytes f hf)
  refine ⟨scanned, hscans, ?_, fun f hf => ⟨hscans.outline f hf, hscanned f hf⟩⟩
  exact hstored.sync (fun f hf => (hall f hf).1) hscans
    (fun f hf g hg => hc f.2 (hall f hf).2 g.2 (hscanned g hg)) hok

theorem Tracks.change {d : Disk} (h : w.Tracks m contents) (hd : d.IsTree)
    (hbytes : ∀ bytes ∈ d.files.map Prod.snd, bytes ∈ contents) :
    (w.step m (.change d)).Tracks m contents :=
  ⟨hd, hbytes, h.inStore⟩

theorem Tracks.sync (h : w.Tracks m contents) (hc : Distinguished contents)
    (hs : w.disk.Scannable paths) : (w.step m (.sync paths)).Tracks m contents := by
  unfold step
  dsimp only
  cases hok : w.sync m paths with
  | error e => exact h
  | ok a =>
    obtain ⟨scanned, -, hmirrors, hall⟩ := h.exists_mirrored hc hs hok
    exact ⟨h.tree, h.onDisk, scanned, hmirrors, hall⟩

theorem disk_step_sync (m : Mapping) (w : World) (paths : List Text) :
    (w.step m (.sync paths)).disk = w.disk := by
  unfold step
  dsimp only
  split <;> rfl

/-- The invariant holds throughout a run. -/
theorem Tracks.run {events : List Event} (h : w.Tracks m contents) (hc : Distinguished contents)
    (ha : Event.Admitted w.disk events)
    (hbytes : ∀ bytes ∈ Event.contents events, bytes ∈ contents) :
    (events.foldl (step m) w).Tracks m contents := by
  -- The contents are those of the whole run, so that they do not change from step to step.
  induction events generalizing w with
  | nil => exact h
  | cons e events ih =>
    have hrest : ∀ bytes ∈ Event.contents events, bytes ∈ contents := fun bytes hb =>
      hbytes bytes (List.mem_append_right _ hb)
    cases e with
    | change d =>
      exact ih (h.change ha.1 fun bytes hb => hbytes bytes (List.mem_append_left _ hb)) ha.2 hrest
    | sync paths =>
      refine ih (h.sync hc ha.1) ?_ hrest
      rw [disk_step_sync]
      exact ha.2

theorem admitted_append {events after : List Event}
    (h : Event.Admitted w.disk (events ++ after)) : Event.Admitted w.disk events ∧
      Event.Admitted (events.foldl (step m) w).disk after := by
  induction events generalizing w with
  | nil => exact ⟨trivial, h⟩
  | cons e events ih =>
    cases e with
    | change d =>
      obtain ⟨hd, h⟩ := h
      obtain ⟨hevents, hafter⟩ := @ih { w with disk := d } h
      exact ⟨⟨hd, hevents⟩, hafter⟩
    | sync paths =>
      obtain ⟨hs, h⟩ := h
      -- A sync leaves the disk alone, so what is asked of the rest is asked of the same disk.
      have hdisk := disk_step_sync m w paths
      obtain ⟨hevents, hafter⟩ := @ih (w.step m (.sync paths)) (by rw [hdisk]; exact h)
      rw [hdisk] at hevents
      exact ⟨⟨hs, hevents⟩, hafter⟩

/-- The last sync of a run. If it succeeds, all tables have exactly the rows of the files that were
scanned, as an empty store has once they are imported, and a sync after it finds no changes. If it
fails, all tables are as before. -/
theorem run_sync (m : Mapping) (events : List Event) (paths : List Text)
    (ha : Event.Admitted {} (events ++ [.sync paths])) (hc : Distinguished (Event.contents events)) :
    let w := run m events
    let w' := run m (events ++ [.sync paths])
    (∀ r s, w.sync m paths = .ok (r, s) → w'.store = s ∧
      (∃ scanned, Mapping.Scans w.disk (paths.map Path.ofText) scanned ∧ m.Mirrors s scanned ∧
        ∃ fresh, m.Imports scanned fresh ∧ s.Same fresh) ∧
      (∃ r₀ s₀, { w with store := Store.ofSchema schema }.sync m paths = .ok (r₀, s₀) ∧
        s.Same s₀) ∧
      ∃ r', w'.sync m paths = .ok (r', s) ∧ r'.changes = 0) ∧
    ∀ e, w.sync m paths = .error e → w'.store = w.store := by
  obtain ⟨hevents, hafter⟩ := admitted_append (m := m) (w := {}) ha
  have htracks := (tracks_empty m (Event.contents events)).run hc hevents fun _ hb => hb
  have hlast : run m (events ++ [.sync paths]) = (run m events).step m (.sync paths) := by
    unfold run
    rw [List.foldl_append]
    rfl
  rw [hlast]
  refine ⟨?_, ?_⟩
  · intro r s hok
    obtain ⟨scanned, hscans, hmirrors, -⟩ := htracks.exists_mirrored hc hafter.1 hok
    have hstep : (run m events).step m (.sync paths) = { run m events with store := s } := by
      unfold step
      dsimp only
      rw [hok]
    obtain ⟨fresh, himports, hfresh⟩ := hmirrors.exists_imported
    obtain ⟨r₀, s₀, hsync, hsame⟩ := hmirrors.exists_fresh hscans
    obtain ⟨hzero, hagain⟩ := hmirrors.sync_again hscans
    rw [hstep]
    exact ⟨rfl, ⟨scanned, hscans, hmirrors, fresh, himports, hmirrors.same hfresh⟩,
      ⟨r₀, s₀, hsync, hmirrors.same hsame⟩, _, hagain, hzero⟩
  · intro e he
    unfold step
    dsimp only
    rw [he]

theorem scannable_of_paths {d : Disk} {paths : List Text} (ps : List Text)
    (h : (d.scanAll (paths.map Path.ofText)).map (·.diskPath) = ps.map some) (hn : ps.Nodup)
    (hp : ∀ p ∈ ps, Mapping.IsOutlinePath p) : d.Scannable paths where
  nodup := by
    rw [h]
    exact hn.map (Option.some_injective Text)
  outline f hf p hfp := by
    have hm := List.mem_map_of_mem hf (f := (·.diskPath))
    rw [h, hfp] at hm
    obtain ⟨q, hq, he⟩ := List.mem_map.mp hm
    exact Option.some.inj he ▸ hp q hq

/-- Between two syncs a file is renamed and the folder with the other one removed. -/
theorem run_sync_moved :
    let old := Path.ofText "a.org".toList
    let new := Path.ofText "b.org".toList
    let folder := Path.ofText "d".toList
    let first : Disk := (Disk.write {} old (Encoding.utf8 "* a\n".toList)).write
      (Path.ofText "d/c.org".toList) (Encoding.utf8 "* c\n".toList)
    let second : Disk := (first.rename old new).remove folder
    let both := ["a.org".toList, "d/c.org".toList]
    let here := [".".toList]
    let events : List Event := [.change first, .sync both, .change second]
    let m : Mapping := ⟨.default, .sqlite⟩
    let w := run m events
    let w' := run m (events ++ [.sync here])
    Event.Admitted {} (events ++ [.sync here]) ∧ Distinguished (Event.contents events) ∧
      ∃ r s, w.sync m here = .ok (r, s) ∧ w'.store = s ∧
        (s.rows "headlines").map (fun row => (row.cell "file_path", row.cell "headline_text")) =
          [(.text "b.org".toList, .text "a".toList)] ∧
        (∃ scanned, Mapping.Scans w.disk (here.map Path.ofText) scanned ∧ m.Mirrors s scanned ∧
          ∃ fresh, m.Imports scanned fresh ∧ s.Same fresh) ∧
        (∃ r₀ s₀, { w with store := Store.ofSchema schema }.sync m here = .ok (r₀, s₀) ∧
          s.Same s₀) ∧
        ∃ r', w'.sync m here = .ok (r', s) ∧ r'.changes = 0 := by
  intro old new folder first second both here events m w w'
  have hfirst : first.IsTree :=
    (Disk.isTree_empty.write (Path.proper_ofText _) _).write (Path.proper_ofText _) _
  have hrenaming : (first.renaming? old new).map (·.2) = some (old, new) := by decide +kernel
  have hrenamed : (first.rename old new).IsTree := by
    refine hfirst.rename (Path.proper_ofText _) fun made source target h => ?_
    rw [h] at hrenaming
    cases hrenaming
    decide +kernel
  have hsecond : second.IsTree := hrenamed.remove folder
  have ha : Event.Admitted {} (events ++ [.sync here]) :=
    ⟨hfirst, scannable_of_paths both (by decide +kernel) (by decide)
        (by unfold Mapping.IsOutlinePath; decide),
      hsecond, scannable_of_paths ["b.org".toList] (by decide +kernel) (by decide)
        (by unfold Mapping.IsOutlinePath; decide), trivial⟩
  have hc : Distinguished (Event.contents events) := by
    unfold Distinguished
    decide +kernel
  have hdone : ((w.sync m here).map fun (_, s) => (s.rows "headlines").map fun row =>
      (row.cell "file_path", row.cell "headline_text")).toOption =
        some [(.text "b.org".toList, .text "a".toList)] := by decide +kernel
  obtain ⟨⟨r, s⟩, hok, hrows⟩ := exists_of_map hdone
  obtain ⟨hstore, hrest⟩ := (run_sync m events here ha hc).1 r s hok
  exact ⟨ha, hc, r, s, hok, hstore, hrows, hrest⟩

end World

end OutlineTables
