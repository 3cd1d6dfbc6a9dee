import Mathlib.Algebra.BigOperators.Group.Finset.Piecewise
import Mathlib.Data.List.Perm.Basic
import OutlineTables.Sync.Report

/-!
Reports as pairings. Files of both sides with one hash are joined in pairs, first those under one
path and then as many others as both sides have. Main statement: every file is in one part of the
report, and how many files of a hash are in each part does not depend on the order of the files.
-/
namespace OutlineTables

/-- The members with any of several keys, key by key. -/
theorem flatMap_filter_perm {α κ : Type} [DecidableEq κ] (key : α → κ) {keys : List κ}
    (hk : keys.Nodup) {as : List α} (hall : ∀ a ∈ as, key a ∈ keys) :
    (keys.flatMap fun k => as.filter (key · = k)).Perm as := by
  induction keys generalizing as with
  | nil =>
    cases as with
    | nil => exact List.Perm.nil
    | cons a as => exact absurd (hall a List.mem_cons_self) List.not_mem_nil
  | cons k keys ih =>
    rw [List.nodup_cons] at hk
    have hrest : ∀ a ∈ as.filter (fun a => !decide (key a = k)), key a ∈ keys := by
      intro a ha
      obtain ⟨ha, hne⟩ := List.mem_filter.mp ha
      exact (List.mem_cons.mp (hall a ha)).resolve_left (by simpa using hne)
    -- Leaving out members with `k` makes no difference for the other keys.
    have hsame : (keys.flatMap fun m =>
        (as.filter fun a => !decide (key a = k)).filter (key · = m)) =
          keys.flatMap fun m => as.filter (key · = m) := by
      apply List.flatMap_congr
      intro m hm
      rw [List.filter_filter]
      apply List.filter_congr
      intro a _
      have hmk : m ≠ k := fun he => hk.1 (he ▸ hm)
      by_cases ha : key a = m <;> simp [ha, hmk]
    have hperm := ih hk.2 hrest
    rw [hsame] at hperm
    rw [List.flatMap_cons]
    exact (hperm.append_left _).trans (List.filter_append_perm _ as)

theorem perm_of_find? {α : Type} {p : α → Bool} {as : List α} {a : α} (h : as.find? p = some a) :
    as.Perm (a :: as.eraseP p) := by
  induction as with
  | nil => cases h
  | cons b as ih =>
    by_cases hb : p b = true
    · rw [List.find?_cons_of_pos hb] at h
      cases h
      rw [List.eraseP_cons_of_pos hb]
    · rw [List.find?_cons_of_neg hb] at h
      rw [List.eraseP_cons_of_neg hb]
      exact ((ih h).cons b).trans (List.Perm.swap a b _)

/-- Members counted key by key. -/
theorem countP_eq_sum {α κ : Type} [DecidableEq κ] (key : α → κ) (p : α → Bool) {keys : Finset κ}
    {as : List α} (hall : ∀ a ∈ as, key a ∈ keys) :
    as.countP p = ∑ k ∈ keys, as.countP fun a => p a && decide (key a = k) := by
  induction as with
  | nil => simp
  | cons a as ih =>
    have hrest := ih fun b hb => hall b (List.mem_cons_of_mem _ hb)
    have hkey : key a ∈ keys := hall a List.mem_cons_self
    -- Of all keys only that of `a` counts it.
    have hone : (∑ k ∈ keys, if p a && decide (key a = k) then 1 else 0) =
        if p a then 1 else 0 := by
      cases p a <;> simp [hkey]
    simp only [List.countP_cons, Finset.sum_add_distrib]
    rw [hone, ← hrest]

/-- If no counted member of one list meets one of the other, one count is zero. -/
theorem countP_eq_zero_or {α β : Type} {p : α → Bool} {q : β → Bool} {as : List α} {bs : List β}
    (h : ∀ a ∈ as, p a = true → ∀ b ∈ bs, q b ≠ true) : as.countP p = 0 ∨ bs.countP q = 0 := by
  rcases Nat.eq_zero_or_pos (as.countP p) with hz | hpos
  · exact Or.inl hz
  · obtain ⟨a, ha, hpa⟩ := List.countP_pos_iff.mp hpos
    exact Or.inr (List.countP_eq_zero.mpr (h a ha hpa))

theorem map_fst_zip_take {α β : Type} (as : List α) (bs : List β) :
    (as.zip bs).map Prod.fst = as.take bs.length := by
  induction as generalizing bs with
  | nil => simp
  | cons a as ih => cases bs <;> simp [ih]

theorem map_snd_zip_take {α β : Type} (as : List α) (bs : List β) :
    (as.zip bs).map Prod.snd = bs.take as.length := by
  induction as generalizing bs with
  | nil => simp
  | cons a as ih => cases bs <;> simp [ih]

/-- Two lists in three parts each, part by part. -/
theorem append_parts_perm {α : Type} (a b c a' b' c' : List α) :
    ((a ++ b ++ c) ++ (a' ++ b' ++ c')).Perm ((a ++ a') ++ (b ++ b') ++ (c ++ c')) := by
  have hswap (x y z : List α) : (x ++ (y ++ z)).Perm (y ++ (x ++ z)) := by
    rw [← List.append_assoc, ← List.append_assoc]
    exact List.perm_append_comm.append_right z
  simp only [List.append_assoc]
  refine List.Perm.append_left a ?_
  refine (List.Perm.append_left b (hswap c a' _)).trans ?_
  refine (hswap b a' _).trans (List.Perm.append_left a' (List.Perm.append_left b ?_))
  exact hswap c b' c'

namespace Report

/-- The pairs of a file on disk and a stored one that a report is made of: `kept` are those that it
leaves alone, and `moved` are those that it moves. -/
structure Pairs (r : Report) (disk store : List FileMeta)
    (kept moved : List (FileMeta × FileMeta)) : Prop where
  noop : r.noop = kept.map fun (d, s) => d.joined s
  update : r.update = moved.map fun (d, s) => d.joined s
  disk : disk.Perm (r.insert ++ moved.map Prod.fst ++ kept.map Prod.fst)
  store : store.Perm (r.delete ++ moved.map Prod.snd ++ kept.map Prod.snd)
  same : ∀ p ∈ kept, p.1.hash = p.2.hash ∧ p.1.diskPath = p.2.storePath
  other : ∀ p ∈ moved, p.1.hash = p.2.hash ∧ p.1.diskPath ≠ p.2.storePath

/-- No two files that are left could still be joined: neither under one path, nor, once the moved
ones are joined, under two. -/
structure Exhausted (r : Report) (moved : List (FileMeta × FileMeta)) : Prop where
  paths : ∀ d ∈ r.insert ++ moved.map Prod.fst, ∀ s ∈ r.delete ++ moved.map Prod.snd,
    d.hash = s.hash → d.diskPath ≠ s.storePath
  hashes : ∀ d ∈ r.insert, ∀ s ∈ r.delete, d.hash ≠ s.hash

variable {r : Report} {disk store : List FileMeta} {kept moved : List (FileMeta × FileMeta)}
  {h : Text}

section Group

theorem exists_kept (disk store : List FileMeta) : ∃ kept : List (FileMeta × FileMeta),
    (stayed disk store).1 = kept.map (fun (d, s) => d.joined s) ∧
      disk.Perm ((stayed disk store).2.1 ++ kept.map Prod.fst) ∧
      store.Perm ((stayed disk store).2.2 ++ kept.map Prod.snd) ∧
      ∀ p ∈ kept, p.1.diskPath = p.2.storePath := by
  induction disk generalizing store with
  | nil => exact ⟨[], rfl, List.Perm.nil, by simp [stayed], fun p hp => by cases hp⟩
  | cons d disk ih =>
    unfold stayed
    split
    · -- The stored file that is found is taken out, so that no other file on disk gets it.
      rename_i s hfind
      obtain ⟨kept, hnoop, hdisk, hstore, hsame⟩ := ih (store.eraseP (·.storePath = d.diskPath))
      have hpath : s.storePath = d.diskPath := by simpa using List.find?_some hfind
      refine ⟨(d, s) :: kept, ?_, ?_, ?_, ?_⟩
      · rw [List.map_cons, ← hnoop]
      · exact (hdisk.cons d).trans List.perm_middle.symm
      · have htaken := (perm_of_find? hfind).trans (hstore.cons s)
        exact htaken.trans List.perm_middle.symm
      · intro p hp
        rcases List.mem_cons.mp hp with rfl | hp
        · exact hpath.symm
        · exact hsame p hp
    · obtain ⟨kept, hnoop, hdisk, hstore, hsame⟩ := ih store
      exact ⟨kept, hnoop, hdisk.cons d, hstore, hsame⟩

theorem stayed_store_subset (disk store : List FileMeta) : (stayed disk store).2.2 ⊆ store := by
  obtain ⟨kept, -, -, hstore, -⟩ := exists_kept disk store
  intro s hs
  exact hstore.mem_iff.mpr (List.mem_append_left _ hs)

/-- Files that did not stay have no file under their path on the other side. -/
theorem stayed_apart (disk store : List FileMeta) : ∀ d ∈ (stayed disk store).2.1,
    ∀ s ∈ (stayed disk store).2.2, d.diskPath ≠ s.storePath := by
  induction disk generalizing store with
  | nil =>
    intro d hd
    cases hd
  | cons a disk ih =>
    unfold stayed
    split
    · exact ih _
    · rename_i hfind
      intro d hd s hs
      rcases List.mem_cons.mp hd with rfl | hd
      · -- No stored file had this path, and none has come since.
        have hnone := List.find?_eq_none.mp hfind s (stayed_store_subset disk store hs)
        intro he
        exact hnone (by simp [he])
      · exact ih store d hd s hs

/-- Files of one hash in pairs. -/
theorem exists_pairs_ofGroup (hd : ∀ d ∈ disk, d.hash = h) (hs : ∀ s ∈ store, s.hash = h) :
    ∃ kept moved, Pairs (ofGroup disk store) disk store kept moved ∧
      Exhausted (ofGroup disk store) moved := by
  obtain ⟨kept, hnoop, hdisk, hstore, hsame⟩ := exists_kept disk store
  have hapart := stayed_apart disk store
  unfold ofGroup
  generalize stayed disk store = parts at *
  obtain ⟨same, ds, ss⟩ := parts
  dsimp only at *
  have hdh (d : FileMeta) (hm : d ∈ ds ++ kept.map Prod.fst) : d.hash = h :=
    hd d (hdisk.mem_iff.mpr hm)
  have hsh (s : FileMeta) (hm : s ∈ ss ++ kept.map Prod.snd) : s.hash = h :=
    hs s (hstore.mem_iff.mpr hm)
  -- What did not stay is joined in order, as far as the shorter side goes.
  have hfst : (ds.zip ss).map Prod.fst = ds.take ss.length := map_fst_zip_take ds ss
  have hsnd : (ds.zip ss).map Prod.snd = ss.take ds.length := map_snd_zip_take ds ss
  have hcut (as : List FileMeta) (n : Nat) : as.Perm (as.drop n ++ as.take n) := by
    have hwhole := List.take_append_drop n as
    exact (List.Perm.of_eq hwhole.symm).trans List.perm_append_comm
  have hmoved (p : FileMeta × FileMeta) (hp : p ∈ ds.zip ss) : p.1 ∈ ds ∧ p.2 ∈ ss :=
    List.of_mem_zip hp
  refine ⟨kept, ds.zip ss, ⟨hnoop, ?_, ?_, ?_, ?_, ?_⟩, ?_, ?_⟩
  · rw [← List.map_uncurry_zip_eq_zipWith]
    rfl
  · rw [hfst]
    exact hdisk.trans ((hcut ds ss.length).append_right _)
  · rw [hsnd]
    exact hstore.trans ((hcut ss ds.length).append_right _)
  · intro p hp
    have hp₁ := hdh p.1 (List.mem_append_right _ (List.mem_map_of_mem hp))
    have hp₂ := hsh p.2 (List.mem_append_right _ (List.mem_map_of_mem hp))
    exact ⟨hp₁.trans hp₂.symm, hsame p hp⟩
  · intro p hp
    obtain ⟨hp₁, hp₂⟩ := hmoved p hp
    have hhash := (hdh p.1 (List.mem_append_left _ hp₁)).trans
      (hsh p.2 (List.mem_append_left _ hp₂)).symm
    exact ⟨hhash, hapart p.1 hp₁ p.2 hp₂⟩
  · intro d hd' s hs' _
    rw [hfst] at hd'
    rw [hsnd] at hs'
    apply hapart d ?_ s ?_
    · exact (List.mem_append.mp hd').elim List.mem_of_mem_drop List.mem_of_mem_take
    · exact (List.mem_append.mp hs').elim List.mem_of_mem_drop List.mem_of_mem_take
  · -- One of the two tails is empty.
    intro d hd' s hs'
    have hlong := List.length_pos_of_mem hd'
    have hlong' := List.length_pos_of_mem hs'
    rw [List.length_drop] at hlong hlong'
    omega

end Group

section Whole

variable {a b : Report} {disk' store' : List FileMeta} {kept' moved' : List (FileMeta × FileMeta)}

theorem Pairs.append (ha : a.Pairs disk store kept moved) (hb : b.Pairs disk' store' kept' moved') :
    (a.append b).Pairs (disk ++ disk') (store ++ store') (kept ++ kept') (moved ++ moved') where
  noop := by
    unfold Report.append
    rw [List.map_append, ha.noop, hb.noop]
  update := by
    unfold Report.append
    rw [List.map_append, ha.update, hb.update]
  disk := by
    rw [List.map_append, List.map_append]
    exact (ha.disk.append hb.disk).trans (append_parts_perm _ _ _ _ _ _)
  store := by
    rw [List.map_append, List.map_append]
    exact (ha.store.append hb.store).trans (append_parts_perm _ _ _ _ _ _)
  same p hp := (List.mem_append.mp hp).elim (ha.same p) (hb.same p)
  other p hp := (List.mem_append.mp hp).elim (ha.other p) (hb.other p)

theorem Pairs.mem_disk (hp : r.Pairs disk store kept moved) {d : FileMeta}
    (hd : d ∈ r.insert ++ moved.map Prod.fst) : d ∈ disk :=
  hp.disk.mem_iff.mpr (List.mem_append_left _ hd)

theorem Pairs.mem_store (hp : r.Pairs disk store kept moved) {s : FileMeta}
    (hs : s ∈ r.delete ++ moved.map Prod.snd) : s ∈ store :=
  hp.store.mem_iff.mpr (List.mem_append_left _ hs)

/-- Files of different hashes do not meet, so what is exhausted apart is exhausted together. -/
theorem Exhausted.append (ha : a.Exhausted moved) (hb : b.Exhausted moved')
    (hpa : a.Pairs disk store kept moved) (hpb : b.Pairs disk' store' kept' moved')
    (hne : ∀ x ∈ disk ++ store, ∀ y ∈ disk' ++ store', x.hash ≠ y.hash) :
    (a.append b).Exhausted (moved ++ moved') := by
  have hleft (d : FileMeta) (hd : d ∈ disk) (s : FileMeta) (hs : s ∈ store') : d.hash ≠ s.hash :=
    hne d (List.mem_append_left _ hd) s (List.mem_append_right _ hs)
  have hright (d : FileMeta) (hd : d ∈ disk') (s : FileMeta) (hs : s ∈ store) : d.hash ≠ s.hash :=
    (hne s (List.mem_append_right _ hs) d (List.mem_append_left _ hd)).symm
  constructor
  · intro d hd s hs heq
    have hd' : d ∈ a.insert ++ moved.map Prod.fst ∨ d ∈ b.insert ++ moved'.map Prod.fst := by
      simp only [Report.append, List.map_append, List.mem_append] at hd ⊢
      tauto
    have hs' : s ∈ a.delete ++ moved.map Prod.snd ∨ s ∈ b.delete ++ moved'.map Prod.snd := by
      simp only [Report.append, List.map_append, List.mem_append] at hs ⊢
      tauto
    rcases hd' with hd' | hd' <;> rcases hs' with hs' | hs'
    · exact ha.paths d hd' s hs' heq
    · exact absurd heq (hleft d (hpa.mem_disk hd') s (hpb.mem_store hs'))
    · exact absurd heq (hright d (hpb.mem_disk hd') s (hpa.mem_store hs'))
    · exact hb.paths d hd' s hs' heq
  · intro d hd s hs
    rcases List.mem_append.mp hd with hd | hd <;> rcases List.mem_append.mp hs with hs | hs
    · exact ha.hashes d hd s hs
    · exact hleft d (hpa.mem_disk (List.mem_append_left _ hd)) s
        (hpb.mem_store (List.mem_append_left _ hs))
    · exact hright d (hpb.mem_disk (List.mem_append_left _ hd)) s
        (hpa.mem_store (List.mem_append_left _ hs))
    · exact hb.hashes d hd s hs

theorem exists_pairs_groups (disk store : List FileMeta) {hs : List Text} (hn : hs.Nodup) :
    ∃ kept moved,
      Pairs ((hs.map fun h =>
          ofGroup (disk.filter (·.hash = h)) (store.filter (·.hash = h))).foldr append {})
        (hs.flatMap fun h => disk.filter (·.hash = h))
        (hs.flatMap fun h => store.filter (·.hash = h)) kept moved ∧
      Exhausted ((hs.map fun h =>
        ofGroup (disk.filter (·.hash = h)) (store.filter (·.hash = h))).foldr append {}) moved := by
  induction hs with
  | nil =>
    refine ⟨[], [], ⟨rfl, rfl, List.Perm.nil, List.Perm.nil, ?_, ?_⟩, ?_, ?_⟩
    · exact fun p hp => absurd hp List.not_mem_nil
    · exact fun p hp => absurd hp List.not_mem_nil
    · exact fun d hd => absurd hd List.not_mem_nil
    · exact fun d hd => absurd hd List.not_mem_nil
  | cons h hs ih =>
    rw [List.nodup_cons] at hn
    obtain ⟨kept', moved', hpairs', hexhausted'⟩ := ih hn.2
    have hof (as : List FileMeta) (k : Text) : ∀ f ∈ as.filter (·.hash = k), f.hash = k := by
      intro f hf
      simpa using (List.mem_filter.mp hf).2
    obtain ⟨kept, moved, hpairs, hexhausted⟩ :=
      exists_pairs_ofGroup (hof disk h) (hof store h)
    refine ⟨kept ++ kept', moved ++ moved', hpairs.append hpairs', ?_⟩
    refine hexhausted.append hexhausted' hpairs hpairs' ?_
    -- The other groups are those of other hashes.
    have hothers (as : List FileMeta) (f : FileMeta)
        (hf : f ∈ hs.flatMap fun k => as.filter (·.hash = k)) : f.hash ∈ hs := by
      obtain ⟨k, hk, hf⟩ := List.mem_flatMap.mp hf
      rw [hof as k f hf]
      exact hk
    intro x hx y hy heq
    have hxh : x.hash = h := (List.mem_append.mp hx).elim (hof disk h x) (hof store h x)
    have hyh : y.hash ∈ hs := (List.mem_append.mp hy).elim (hothers disk y) (hothers store y)
    rw [← heq, hxh] at hyh
    exact hn.1 hyh

/-- Files of both sides in pairs. -/
theorem exists_pairs (disk store : List FileMeta) : ∃ kept moved,
    Pairs (ofFiles disk store) disk store kept moved ∧ Exhausted (ofFiles disk store) moved := by
  have hfirsts := nodup_firsts ((disk ++ store).map (·.hash))
  obtain ⟨kept, moved, hpairs, hexhausted⟩ := exists_pairs_groups disk store hfirsts
  have hdisk := flatMap_filter_perm (·.hash) hfirsts fun d (hd : d ∈ disk) =>
    mem_firsts.mpr (List.mem_map_of_mem (List.mem_append_left _ hd))
  have hstore := flatMap_filter_perm (·.hash) hfirsts fun s (hs : s ∈ store) =>
    mem_firsts.mpr (List.mem_map_of_mem (List.mem_append_right _ hs))
  refine ⟨kept, moved, ⟨hpairs.noop, hpairs.update, ?_, ?_, hpairs.same, hpairs.other⟩, hexhausted⟩
  · exact hdisk.symm.trans hpairs.disk
  · exact hstore.symm.trans hpairs.store

end Whole

section Counts

variable (hp : r.Pairs disk store kept moved)

include hp

theorem Pairs.count_noop (h : Text) :
    r.noop.countP (·.hash = h) = kept.countP fun p => decide (p.1.hash = h) := by
  rw [hp.noop, List.countP_map]
  rfl

theorem Pairs.count_update (h : Text) :
    r.update.countP (·.hash = h) = moved.countP fun p => decide (p.1.hash = h) := by
  rw [hp.update, List.countP_map]
  rfl

/-- Every file on disk of a hash is inserted, moved or left alone. -/
theorem Pairs.count_disk (h : Text) : disk.countP (·.hash = h) =
    r.insert.countP (·.hash = h) + r.update.countP (·.hash = h) + r.noop.countP (·.hash = h) := by
  rw [hp.count_noop, hp.count_update, hp.disk.countP_eq, List.countP_append, List.countP_append,
    List.countP_map, List.countP_map]
  rfl

/-- Every stored file of a hash is deleted, moved or left alone. -/
theorem Pairs.count_store (h : Text) : store.countP (·.hash = h) =
    r.delete.countP (·.hash = h) + r.update.countP (·.hash = h) + r.noop.countP (·.hash = h) := by
  have hkept : (kept.map Prod.snd).countP (·.hash = h) = r.noop.countP (·.hash = h) := by
    rw [hp.count_noop, List.countP_map]
    apply List.countP_congr
    intro p hm
    simp [(hp.same p hm).1]
  have hmoved : (moved.map Prod.snd).countP (·.hash = h) = r.update.countP (·.hash = h) := by
    rw [hp.count_update, List.countP_map]
    apply List.countP_congr
    intro p hm
    simp [(hp.other p hm).1]
  rw [hp.store.countP_eq, List.countP_append, List.countP_append, hkept, hmoved]

/-- Of the files of a hash under one path, those that the shorter side has are left alone. -/
theorem Pairs.count_path (he : r.Exhausted moved) (h : Text) (path : Option Text) :
    (kept.countP fun p => decide (p.1.hash = h) && decide (p.1.diskPath = path)) =
      min (disk.countP fun d => d.hash = h ∧ d.diskPath = path)
        (store.countP fun s => s.hash = h ∧ s.storePath = path) := by
  have hdisk := hp.disk.countP_eq fun d => d.hash = h ∧ d.diskPath = path
  have hstore := hp.store.countP_eq fun s => s.hash = h ∧ s.storePath = path
  rw [List.countP_append] at hdisk hstore
  have hfst : ((kept.map Prod.fst).countP fun d => d.hash = h ∧ d.diskPath = path) =
      kept.countP fun p => decide (p.1.hash = h) && decide (p.1.diskPath = path) := by
    rw [List.countP_map]
    apply List.countP_congr
    intro p _
    simp
  have hsnd : ((kept.map Prod.snd).countP fun s => s.hash = h ∧ s.storePath = path) =
      kept.countP fun p => decide (p.1.hash = h) && decide (p.1.diskPath = path) := by
    rw [List.countP_map]
    apply List.countP_congr
    intro p hm
    obtain ⟨hhash, hpath⟩ := hp.same p hm
    simp [hhash, hpath]
  -- One of the two sides has no other file of this hash under this path.
  have hnone :
      ((r.insert ++ moved.map Prod.fst).countP fun d => d.hash = h ∧ d.diskPath = path) = 0 ∨
      ((r.delete ++ moved.map Prod.snd).countP fun s => s.hash = h ∧ s.storePath = path) = 0 := by
    apply countP_eq_zero_or
    intro d hd hdh s hs hsh
    simp only [decide_eq_true_eq] at hdh hsh
    exact he.paths d hd s hs (hdh.1.trans hsh.1.symm) (hdh.2.trans hsh.2.symm)
  omega

/-- All files of a hash that are left alone, counted path by path. -/
theorem Pairs.count_noop_eq (he : r.Exhausted moved) (h : Text) {paths : Finset (Option Text)}
    (hall : ∀ d ∈ disk, d.diskPath ∈ paths) :
    r.noop.countP (·.hash = h) = ∑ path ∈ paths,
      min (disk.countP fun d => d.hash = h ∧ d.diskPath = path)
        (store.countP fun s => s.hash = h ∧ s.storePath = path) := by
  have hpaths : ∀ p ∈ kept, p.1.diskPath ∈ paths := by
    intro p hm
    apply hall
    exact hp.disk.mem_iff.mpr (List.mem_append_right _ (List.mem_map_of_mem hm))
  rw [hp.count_noop, countP_eq_sum (fun p => p.1.diskPath) _ hpaths]
  apply Finset.sum_congr rfl
  intro path _
  exact hp.count_path he h path

end Counts

/-- The paths of all files on either side. -/
def paths (disk store : List FileMeta) : Finset (Option Text) :=
  (disk.map (·.diskPath) ++ store.map (·.storePath)).toFinset

theorem mem_paths {d : FileMeta} (hd : d ∈ disk) : d.diskPath ∈ paths disk store := by
  apply List.mem_toFinset.mpr
  exact List.mem_append_left _ (List.mem_map_of_mem hd)

end Report

end OutlineTables
