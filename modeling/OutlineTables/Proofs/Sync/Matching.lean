import OutlineTables.Proofs.Disk.Reading
import OutlineTables.Proofs.Sync.Between
import OutlineTables.Proofs.Sync.Steps

/-!
The parts of a report as files with contents. Where equal hashes mean equal contents, the report
on two sides tells which files are gone, which have moved and which are new.
-/
namespace OutlineTables

open Rows (schema)

/-- Equal keys in any order come from members that match in order. -/
theorem exists_matching {α β κ : Type} {f : α → κ} {g : β → κ} {as : List α} {bs : List β}
    (h : (as.map f).Perm (bs.map g)) :
    ∃ as', as'.Perm as ∧ List.Forall₂ (fun a b => f a = g b) as' bs := by
  have hsame : List.Forall₂ (fun k a => k = f a) (as.map f) as :=
    List.forall₂_map_left_iff.mpr (List.forall₂_same.mpr fun _ _ => rfl)
  obtain ⟨as', has, hperm⟩ := List.perm_comp_forall₂ h.symm hsame
  exact ⟨as', hperm, (List.forall₂_map_left_iff.mp has).flip.imp fun a b hab => hab.symm⟩

theorem forall₂_append_right {α β : Type} {R : α → β → Prop} {as : List α} {bs cs : List β}
    (h : List.Forall₂ R as (bs ++ cs)) :
    ∃ as₁ as₂, as = as₁ ++ as₂ ∧ List.Forall₂ R as₁ bs ∧ List.Forall₂ R as₂ cs := by
  induction bs generalizing as with
  | nil => exact ⟨[], as, rfl, List.Forall₂.nil, h⟩
  | cons b bs ih =>
    cases h with
    | cons hb h =>
      obtain ⟨as₁, as₂, rfl, h₁, h₂⟩ := ih h
      exact ⟨_ :: as₁, as₂, rfl, List.Forall₂.cons hb h₁, h₂⟩

theorem forall₂_zipIdx {α β : Type} {R : α → β → Prop} {as : List α} {bs : List β}
    (h : List.Forall₂ R as bs) (k : Nat) :
    List.Forall₂ (fun a b => R a.1 b.1 ∧ a.2 = b.2) (as.zipIdx k) (bs.zipIdx k) := by
  induction h generalizing k with
  | nil => exact List.Forall₂.nil
  | cons ha _ ih => exact List.Forall₂.cons ⟨ha, rfl⟩ (ih (k + 1))

namespace Mapping

/-- A report's name for a file on disk. -/
def OnDisk (f : Text × Encoding.Bytes) (x : FileMeta) : Prop :=
  (Md5.digest f.2, some f.1, some (f.2.length : Int)) = x.onDisk

/-- A report's name for a stored file. -/
def InStore (f : Text × Encoding.Bytes) (x : FileMeta) : Prop :=
  (Md5.digest f.2, some f.1) = x.inStore

/-- What a report asks for, file by file. -/
structure Asks (r : Report) (gone new : List (Text × Encoding.Bytes)) (moves : List Move) :
    Prop where
  delete : List.Forall₂ InStore gone r.delete
  update : List.Forall₂ (fun x f => f.storePath = some x.old ∧ f.diskPath = some x.new)
    moves r.update
  insert : List.Forall₂ OnDisk new r.insert

variable {stored scanned : List (Text × Encoding.Bytes)}

theorem exists_moves {old new : List (Text × Encoding.Bytes)} {xs : List FileMeta}
    (hold : List.Forall₂ InStore old xs) (hnew : List.Forall₂ OnDisk new xs)
    (hinj : ∀ f ∈ old, ∀ g ∈ new, Md5.digest f.2 = Md5.digest g.2 → f.2 = g.2) :
    ∃ moves : List Move, old = moves.map Move.source ∧ new = moves.map Move.target ∧
      List.Forall₂ (fun x f => f.storePath = some x.old ∧ f.diskPath = some x.new) moves xs := by
  induction hold generalizing new with
  | nil =>
    cases hnew
    exact ⟨[], rfl, rfl, List.Forall₂.nil⟩
  | @cons f x old xs hf _ ih =>
    obtain ⟨g, rest, hg, hrest, rfl⟩ := List.forall₂_cons_right_iff.mp hnew
    obtain ⟨moves, hold, hmoves, hall⟩ := ih hrest fun a ha b hb =>
      hinj a (List.mem_cons_of_mem _ ha) b (List.mem_cons_of_mem _ hb)
    obtain ⟨hfhash, hfpath⟩ := Prod.mk.inj hf
    obtain ⟨hghash, hgrest⟩ := Prod.mk.inj hg
    obtain ⟨hgpath, -⟩ := Prod.mk.inj hgrest
    have hbytes : f.2 = g.2 :=
      hinj f List.mem_cons_self g List.mem_cons_self (hfhash.trans hghash.symm)
    refine ⟨⟨f.1, g.1, f.2⟩ :: moves, ?_, ?_, List.Forall₂.cons ⟨hfpath.symm, hgpath.symm⟩ hall⟩
    · rw [List.map_cons, ← hold]
      rfl
    · rw [List.map_cons, ← hmoves, hbytes]
      rfl

theorem eq_of_stays {old new : List (Text × Encoding.Bytes)} {xs : List FileMeta}
    (hold : List.Forall₂ InStore old xs) (hnew : List.Forall₂ OnDisk new xs)
    (hinj : ∀ f ∈ old, ∀ g ∈ new, Md5.digest f.2 = Md5.digest g.2 → f.2 = g.2)
    (hstays : ∀ x ∈ xs, x.storePath = x.diskPath) : old = new := by
  obtain ⟨moves, rfl, rfl, hall⟩ := exists_moves hold hnew hinj
  refine List.map_congr_left fun x hx => ?_
  obtain ⟨f, hf, hold, hnew⟩ := exists_right_of_mem hall hx
  have hpath : x.old = x.new :=
    Option.some.inj (hold.symm.trans ((hstays f hf).trans hnew))
  unfold Move.source Move.target
  rw [hpath]

/-- A partition of both sides into files that are gone, have moved, stay and are new. -/
theorem exists_asks {r : Report} {disk store : List FileMeta} (h : r.Partitions disk store)
    (hdisk : List.Forall₂ OnDisk scanned disk)
    (hstore : (stored.map fun f => (Md5.digest f.2, some f.1)).Perm (store.map FileMeta.inStore))
    (hinj : ∀ f ∈ stored, ∀ g ∈ scanned, Md5.digest f.2 = Md5.digest g.2 → f.2 = g.2) :
    ∃ gone new kept moves, Asks r gone new moves ∧
      stored.Perm (gone ++ (moves.map Move.source ++ kept)) ∧
      scanned.Perm (new ++ (moves.map Move.target ++ kept)) := by
  have hkeys : (scanned.map fun f => (Md5.digest f.2, some f.1, some (f.2.length : Int))) =
      disk.map FileMeta.onDisk := map_eq_of_forall₂ hdisk fun _ _ hf => hf
  have hd := h.disk
  rw [← hkeys] at hd
  obtain ⟨scanned', hscanned, hall⟩ := exists_matching hd
  obtain ⟨stored', hstored, hall'⟩ := exists_matching (hstore.trans h.store)
  rw [List.append_assoc] at hall hall'
  obtain ⟨new, rest, rfl, hnew, hrest⟩ := forall₂_append_right hall
  obtain ⟨target, kept, rfl, htarget, hkept⟩ := forall₂_append_right hrest
  obtain ⟨gone, rest', rfl, hgone, hrest'⟩ := forall₂_append_right hall'
  obtain ⟨source, kept', rfl, hsource, hkept'⟩ := forall₂_append_right hrest'
  have hinj' : ∀ f ∈ source ++ kept', ∀ g ∈ target ++ kept,
      Md5.digest f.2 = Md5.digest g.2 → f.2 = g.2 := by
    intro f hf g hg
    exact hinj f (hstored.subset (List.mem_append_right _ hf)) g
      (hscanned.subset (List.mem_append_right _ hg))
  obtain ⟨moves, rfl, rfl, hmoves⟩ := exists_moves hsource htarget fun f hf g hg =>
    hinj' f (List.mem_append_left _ hf) g (List.mem_append_left _ hg)
  have hsame := eq_of_stays hkept' hkept (fun f hf g hg =>
    hinj' f (List.mem_append_right _ hf) g (List.mem_append_right _ hg)) h.stays
  subst hsame
  exact ⟨gone, new, kept', moves, ⟨hgone, hmoves, hnew⟩, hstored.symm, hscanned.symm⟩

/-- The first round of renames, to paths that no outline file has. -/
def there (moves : List Move) : List Move :=
  moves.zipIdx.map fun (x, n) => { x with new := x.old ++ Report.moveMark ++ Text.ofNat n }

/-- The second round of renames, to the new paths. -/
def back (moves : List Move) : List Move :=
  moves.zipIdx.map fun (x, n) => { x with old := x.old ++ Report.moveMark ++ Text.ofNat n }

variable {r : Report} {gone new : List (Text × Encoding.Bytes)} {moves : List Move}

theorem Asks.deletions_eq (h : Asks r gone new moves) : r.deletions =
    gone.map fun f => .delete "files" (Report.pathRecord (some f.1)) := by
  refine (map_eq_of_forall₂ h.delete fun f x hf => ?_).symm
  rw [(Prod.mk.inj hf).2]

theorem Asks.renames_eq (h : Asks r gone new moves) : r.renames =
    ((there moves).map fun x => Report.rename (some x.old) (some x.new)) ++
      (back moves).map fun x => Report.rename (some x.old) (some x.new) := by
  have hall := forall₂_zipIdx h.update 0
  unfold Report.renames there back
  rw [List.map_map, List.map_map]
  congr 1
  · refine (map_eq_of_forall₂ hall fun a b hab => ?_).symm
    obtain ⟨⟨hold, -⟩, hn⟩ := hab
    dsimp only [Function.comp_apply, Report.betweenPath]
    rw [hold, hn]
    rfl
  · refine (map_eq_of_forall₂ hall fun a b hab => ?_).symm
    obtain ⟨⟨hold, hnew⟩, hn⟩ := hab
    dsimp only [Function.comp_apply, Report.betweenPath]
    rw [hold, hnew, hn]
    rfl

theorem source_there (moves : List Move) :
    (there moves).map Move.source = moves.map Move.source := by
  unfold there
  rw [List.map_map]
  conv_rhs => rw [← List.zipIdx_map_fst 0 moves, List.map_map]
  rfl

theorem target_there (moves : List Move) :
    (there moves).map Move.target = (back moves).map Move.source := by
  unfold there back
  rw [List.map_map, List.map_map]
  rfl

theorem target_back (moves : List Move) :
    (back moves).map Move.target = moves.map Move.target := by
  unfold back
  rw [List.map_map]
  conv_rhs => rw [← List.zipIdx_map_fst 0 moves, List.map_map]
  rfl

theorem nodup_between (moves : List Move) : ((there moves).map Move.new).Nodup := by
  unfold there
  rw [List.map_map]
  exact Report.nodup_between Move.old moves

/-- Paths between two paths stand beside all paths of outline files. -/
theorem nodup_between_append (moves : List Move) {paths : List Text} (hn : paths.Nodup)
    (hout : ∀ p ∈ paths, IsOutlinePath p) : ((there moves).map Move.new ++ paths).Nodup := by
  rw [List.nodup_append]
  refine ⟨nodup_between moves, hn, ?_⟩
  intro p hp q hq hpq
  unfold there at hp
  rw [List.map_map] at hp
  obtain ⟨⟨x, n⟩, -, rfl⟩ := List.mem_map.mp hp
  have hpath : x.old ++ Report.moveMark ++ Text.ofNat n = q := hpq
  exact not_isOutlinePath_between x.old n (hpath.symm ▸ hout q hq)

/-- The first round of renames takes no path of a file that is there. -/
theorem nodup_there {kept : List Text} (hn : (moves.map Move.old ++ kept).Nodup)
    (hout : ∀ p ∈ moves.map Move.old ++ kept, IsOutlinePath p) :
    ((there moves).map Move.old ++ ((there moves).map Move.new ++ kept)).Nodup := by
  have hold : (there moves).map Move.old = moves.map Move.old := by
    have hsource := congrArg (List.map Prod.fst) (source_there moves)
    rwa [List.map_map, List.map_map] at hsource
  rw [hold]
  refine List.Perm.nodup ?_ (nodup_between_append moves hn hout)
  rw [← List.append_assoc, ← List.append_assoc]
  exact List.perm_append_comm.append_right kept

/-- Neither does the second round. -/
theorem nodup_back {kept : List Text} (hn : (moves.map Move.new ++ kept).Nodup)
    (hout : ∀ p ∈ moves.map Move.new ++ kept, IsOutlinePath p) :
    ((back moves).map Move.old ++ ((back moves).map Move.new ++ kept)).Nodup := by
  have hold : (back moves).map Move.old = (there moves).map Move.new := by
    have hsource := congrArg (List.map Prod.fst) (target_there moves)
    rw [List.map_map, List.map_map] at hsource
    exact hsource.symm
  have hnew : (back moves).map Move.new = moves.map Move.new := by
    have htarget := congrArg (List.map Prod.fst) (target_back moves)
    rwa [List.map_map, List.map_map] at htarget
  rw [hold, hnew]
  exact nodup_between_append moves hn hout

end Mapping

end OutlineTables
