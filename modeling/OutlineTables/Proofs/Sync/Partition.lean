import OutlineTables.Proofs.Sync.Pairs

/-!
Reports as partitions. Each file on disk is inserted, moved or left alone, each stored file is
deleted, moved or left alone, and none of them twice.
-/
namespace OutlineTables

namespace FileMeta

/-- What is known of a file on disk. -/
def onDisk (f : FileMeta) : Text × Option Text × Option Int := (f.hash, f.diskPath, f.size)

/-- What identifies a file in the store. -/
def inStore (f : FileMeta) : Text × Option Text := (f.hash, f.storePath)

/-- Files with one hash are joined to what both of them are. -/
theorem inStore_joined {d s : FileMeta} (h : d.hash = s.hash) : (d.joined s).inStore = s.inStore :=
  Prod.ext h rfl

end FileMeta

namespace Report

open FileMeta (onDisk inStore)

/-- Every file of both sides is in one part of the report, and files that are left alone keep
their paths. -/
structure Partitions (r : Report) (disk store : List FileMeta) : Prop where
  disk : (disk.map onDisk).Perm ((r.insert ++ r.update ++ r.noop).map onDisk)
  store : (store.map inStore).Perm ((r.delete ++ r.update ++ r.noop).map inStore)
  stays : ∀ f ∈ r.noop, f.storePath = f.diskPath

variable {disk store : List FileMeta}

theorem Pairs.partitions {r : Report} {kept moved : List (FileMeta × FileMeta)}
    (h : r.Pairs disk store kept moved) : r.Partitions disk store where
  disk := by
    have hperm := h.disk.map onDisk
    rw [h.update, h.noop]
    simp only [List.map_append, List.map_map] at hperm ⊢
    exact hperm
  store := by
    have hjoined {f : FileMeta × FileMeta → FileMeta} (ps : List (FileMeta × FileMeta))
        (hf : ∀ p ∈ ps, inStore (f p) = inStore p.2) :
        (ps.map f).map inStore = (ps.map Prod.snd).map inStore := by
      rw [List.map_map, List.map_map]
      exact List.map_congr_left hf
    have hperm := h.store.map inStore
    rw [h.update, h.noop]
    rw [List.map_append, List.map_append] at hperm ⊢
    rw [hjoined kept, hjoined moved]
    · exact hperm
    · exact fun p hp => FileMeta.inStore_joined (h.other p hp).1
    · exact fun p hp => FileMeta.inStore_joined (h.same p hp).1
  stays := by
    intro f hf
    rw [h.noop] at hf
    obtain ⟨p, hp, rfl⟩ := List.mem_map.mp hf
    exact (h.same p hp).2.symm

/-- The report on two lists of files is a partition of both. -/
theorem partitions_ofFiles (disk store : List FileMeta) :
    (ofFiles disk store).Partitions disk store := by
  obtain ⟨kept, moved, hpairs, -⟩ := exists_pairs disk store
  exact hpairs.partitions

/-- Two sides with the same files at the same paths need no changes. -/
theorem changes_eq_zero (h : (disk.map fun f => (f.hash, f.diskPath)).Perm
    (store.map inStore)) : (ofFiles disk store).changes = 0 := by
  obtain ⟨kept, moved, hpairs, hexhausted⟩ := exists_pairs disk store
  -- Of every hash there are as many files under each path on both sides.
  have hpath (k : Text) (path : Option Text) :
      (disk.countP fun d => d.hash = k ∧ d.diskPath = path) =
        store.countP fun s => s.hash = k ∧ s.storePath = path := by
    have hcount := h.countP_eq fun p => p.1 = k ∧ p.2 = path
    rw [List.countP_map, List.countP_map] at hcount
    exact hcount
  have hhash (k : Text) : disk.countP (·.hash = k) = store.countP (·.hash = k) := by
    have hcount := h.countP_eq fun p => p.1 = k
    rw [List.countP_map, List.countP_map] at hcount
    exact hcount
  have hstays (k : Text) : (ofFiles disk store).noop.countP (·.hash = k) =
      disk.countP (·.hash = k) := by
    have hall : ∀ d ∈ disk, d.diskPath ∈ paths disk store := fun d hd => mem_paths hd
    rw [hpairs.count_noop_eq hexhausted k hall, countP_eq_sum (·.diskPath) _ hall]
    apply Finset.sum_congr rfl
    intro path _
    rw [← hpath, min_self]
    apply List.countP_congr
    intro d _
    simp
  have hempty (fs : List FileMeta) (hz : ∀ k, fs.countP (·.hash = k) = 0) : fs = [] := by
    apply List.eq_nil_iff_forall_not_mem.mpr
    intro f hf
    exact List.countP_eq_zero.mp (hz f.hash) f hf (by simp)
  have hzero (k : Text) : (ofFiles disk store).insert.countP (·.hash = k) = 0 ∧
      (ofFiles disk store).update.countP (·.hash = k) = 0 ∧
      (ofFiles disk store).delete.countP (·.hash = k) = 0 := by
    have hd := hpairs.count_disk k
    have hs := hpairs.count_store k
    have hk := hhash k
    have hn := hstays k
    omega
  unfold changes
  rw [hempty _ fun k => (hzero k).1, hempty _ fun k => (hzero k).2.1,
    hempty _ fun k => (hzero k).2.2]
  rfl

end Report

end OutlineTables
