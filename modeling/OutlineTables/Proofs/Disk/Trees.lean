import Mathlib.Data.List.TakeWhile
import OutlineTables.Proofs.Disk.Reading

/-!
Changes of a disk. Whatever is made, written or removed, a disk that is a tree stays one.
-/
namespace OutlineTables

namespace Path

theorem mem_parents {p q : Path} : q ∈ p.parents ↔ q ≠ [] ∧ ∃ after, after ≠ [] ∧ p = q ++ after := by
  unfold parents
  constructor
  · intro h
    obtain ⟨n, hn, rfl⟩ := List.mem_map.mp h
    rw [List.tail_range, List.mem_range'_1] at hn
    refine ⟨?_, p.drop n, ?_, (List.take_append_drop n p).symm⟩
    · rw [← List.length_pos_iff, List.length_take]
      omega
    · rw [← List.length_pos_iff, List.length_drop]
      omega
  · rintro ⟨hq, after, hafter, rfl⟩
    rw [← List.length_pos_iff] at hq hafter
    refine List.mem_map.mpr ⟨q.length, ?_, List.take_left' rfl⟩
    rw [List.tail_range, List.mem_range'_1, List.length_append]
    omega

theorem resolved_of_append {p q : Path} (h : Resolved (p ++ q)) : Resolved p := by
  unfold Resolved at h ⊢
  rw [List.dropWhile_append] at h
  split at h
  · rename_i he
    rw [List.isEmpty_iff.mp he]
    exact List.not_mem_nil
  · exact fun hm => h (List.mem_append_left q hm)

theorem resolved_append {p q : Path} (hp : p.Resolved) (hq : up ∉ q) : Resolved (p ++ q) := by
  unfold Resolved
  rw [List.dropWhile_append]
  split
  · exact fun hm => hq ((List.dropWhile_sublist _).mem hm)
  · intro hm
    rcases List.mem_append.mp hm with hm | hm
    · exact hp hm
    · exact hq hm

theorem resolved_step {p : Path} (h : p.Resolved) (name : Text) : (p.step name).Resolved := by
  unfold step
  split
  · obtain ⟨last, hlast⟩ := List.dropLast_prefix p
    exact resolved_of_append (hlast ▸ h)
  · rename_i hname
    by_cases hn : name = up
    · have habove : p.isAbove = true := by simpa [hn] using hname
      have hall : ∀ m ∈ p ++ [name], decide (m = up) = true := by
        intro m hm
        rcases List.mem_append.mp hm with hm | hm
        · exact List.all_eq_true.mp habove m hm
        · exact decide_eq_true (List.mem_singleton.mp hm ▸ hn)
      unfold Resolved
      rw [List.dropWhile_eq_nil_iff.mpr hall]
      exact List.not_mem_nil
    · exact resolved_append h (by simpa using Ne.symm hn)

theorem below?_append {p r : Path} (h : r.head? ≠ some up) : p.below? (p ++ r) = some r := by
  induction p with
  | nil => simp [below?, h]
  | cons n p ih => simpa [below?] using ih

/-- What is below a folder that is below another is below that one too. -/
theorem below?_isSome_append {p q after : Path} (h : (p.below? q).isSome = true)
    (hr : Resolved (q ++ after)) : q.isAbove = true ∨ (p.below? (q ++ after)).isSome = true := by
  obtain ⟨r, hr'⟩ := Option.isSome_iff_exists.mp h
  obtain ⟨rfl, hhead⟩ := below?_eq_some hr'
  by_cases hup : (r ++ after).head? = some up
  · left
    cases r with
    | cons n r => exact absurd hup hhead
    | nil =>
      obtain ⟨rest, rfl⟩ := List.head?_eq_some_iff.mp hup
      rw [List.append_nil] at hr ⊢
      exact isAbove_of_resolved hr
  · right
    rw [List.append_assoc, below?_append hup]
    rfl

end Path

namespace Disk

variable {d d' : Disk} {place : Path}

/-- A place of which everything on the way is a folder. -/
structure Sits (d : Disk) (place : Path) : Prop where
  proper : place.Proper
  resolved : place.Resolved
  folders : ∀ q ∈ place.parents, d.hasFolder q = true

theorem IsTree.sits (h : d.IsTree) {f : Path × Encoding.Bytes} (hf : f ∈ d.files) : d.Sits f.1 :=
  ⟨h.proper f hf, h.resolved f hf, h.folders f hf⟩

theorem isTree_iff : d.IsTree ↔ (d.files.map Prod.fst).Nodup ∧ ∀ f ∈ d.files, d.Sits f.1 := by
  constructor
  · exact fun h => ⟨h.nodup, fun f hf => h.sits hf⟩
  · rintro ⟨hn, hall⟩
    exact ⟨hn, fun f hf => (hall f hf).proper, fun f hf => (hall f hf).resolved,
      fun f hf => (hall f hf).folders⟩

theorem isTree_empty : IsTree {} :=
  isTree_iff.mpr ⟨List.nodup_nil, fun _ h => absurd h List.not_mem_nil⟩

theorem sits_nil (d : Disk) : d.Sits [] :=
  ⟨fun _ h => absurd h List.not_mem_nil, List.not_mem_nil, fun _ h => absurd h List.not_mem_nil⟩

theorem Sits.mono (h : d.Sits place) (hd : ∀ q, d.hasFolder q = true → d'.hasFolder q = true) :
    d'.Sits place :=
  ⟨h.proper, h.resolved, fun q hq => hd q (h.folders q hq)⟩

theorem Sits.step (h : d.Sits place) (hfolder : d.hasFolder place = true) {name : Text}
    (hname : Path.Proper [name]) : d.Sits (place.step name) := by
  refine ⟨?_, Path.resolved_step h.resolved name, ?_⟩
  · intro n hn
    unfold Path.step at hn
    split at hn
    · exact h.proper n (List.dropLast_subset _ hn)
    · rcases List.mem_append.mp hn with hn | hn
      · exact h.proper n hn
      · exact hname n hn
  · intro q hq
    obtain ⟨hne, after, hafter, hsplit⟩ := Path.mem_parents.mp hq
    unfold Path.step at hsplit
    split at hsplit
    · obtain ⟨last, hlast⟩ := List.dropLast_prefix place
      apply h.folders
      refine Path.mem_parents.mpr ⟨hne, after ++ last, by simp [hafter], ?_⟩
      rw [← List.append_assoc, ← hsplit, hlast]
    · obtain ⟨init, last, rfl⟩ := List.eq_nil_or_concat after |>.resolve_left hafter
      rw [List.concat_eq_append, ← List.append_assoc] at hsplit
      obtain ⟨hplace, -⟩ := List.append_inj' hsplit rfl
      by_cases hinit : init = []
      · rw [hinit, List.append_nil] at hplace
        rw [← hplace]
        exact hfolder
      · exact h.folders q (Path.mem_parents.mpr ⟨hne, init, hinit, hplace⟩)

theorem Sits.locateFrom {here p : Path} (h : d.Sits here) (hp : p.Proper)
    (hok : d.locateFrom here p = .ok place) : d.Sits place := by
  induction p generalizing here with
  | nil =>
    cases hok
    exact h
  | cons name p ih =>
    unfold Disk.locateFrom at hok
    split at hok
    · cases hok
    · rename_i hfolder
      split at hok
      · have hname : Path.Proper [name] := fun n hn =>
          hp n (List.mem_singleton.mp hn ▸ List.mem_cons_self)
        exact ih (h.step (by simpa using hfolder) hname)
          (fun n hn => hp n (List.mem_cons_of_mem _ hn)) hok
      · cases hok

/-- The place for something new is in a folder. -/
theorem sits_newPlace {p : Path} (hp : p.Proper) (h : d.newPlace p = .ok place) :
    d.Sits place := by
  unfold newPlace at h
  split at h
  · cases h
    exact sits_nil d
  · rename_i name hname
    obtain ⟨folder, hfolder, h⟩ := bind_eq_ok.mp h
    split at h
    · rename_i hisFolder
      cases h
      have hsits := (sits_nil d).locateFrom (fun n hn => hp n (List.dropLast_subset _ hn)) hfolder
      refine hsits.step hisFolder fun n hn => hp n ?_
      rw [List.mem_singleton.mp hn]
      exact List.mem_of_getLast? hname
    · cases h

/-! ### Folders -/

/-- The same files, and no folder less. -/
structure Grows (d d' : Disk) : Prop where
  files : d'.files = d.files
  folders : ∀ q, d.hasFolder q = true → d'.hasFolder q = true

theorem Grows.refl (d : Disk) : d.Grows d := ⟨rfl, fun _ h => h⟩

theorem Grows.trans {d'' : Disk} (h : d.Grows d') (h' : d'.Grows d'') : d.Grows d'' :=
  ⟨h'.files.trans h.files, fun q hq => h'.folders q (h.folders q hq)⟩

theorem Grows.isTree (h : d.Grows d') (hd : d.IsTree) : d'.IsTree := by
  refine isTree_iff.mpr ⟨?_, fun f hf => ?_⟩
  · rw [h.files]
    exact hd.nodup
  · rw [h.files] at hf
    exact (hd.sits hf).mono h.folders

theorem grows_addFolder (h : d.addFolder place = some d') : d.Grows d' := by
  unfold addFolder at h
  split at h
  · cases h
  · cases h
    refine ⟨rfl, fun q hq => ?_⟩
    unfold hasFolder at hq ⊢
    rw [List.any_append, ← Bool.or_assoc, hq, Bool.true_or]

theorem grows_makeOne {mayExist : Bool} {p : Path} {otherwise : Unit → Except FolderFault Disk}
    (h : d.makeOne mayExist p otherwise = .ok d') (ho : otherwise () = .ok d' → d.Grows d') :
    d.Grows d' := by
  unfold makeOne at h
  split at h
  · exact ho h
  · cases h
  · split at h
    · rename_i hmade
      cases h
      exact grows_addFolder hmade
    · split at h
      · cases h
        exact Grows.refl d
      · cases h

theorem grows_makeFolders {mayExist : Bool} {fuel : Nat} {p : Path}
    (h : d.makeFolders mayExist fuel p = .ok d') : d.Grows d' := by
  induction fuel generalizing mayExist p d' with
  | zero =>
    cases h
    exact Grows.refl d
  | succ fuel ih =>
    refine grows_makeOne h fun h => ?_
    obtain ⟨outer, houter, h⟩ := bind_eq_ok.mp h
    refine (ih houter).trans (grows_makeOne h fun h => ?_)
    cases h
    exact Grows.refl _

theorem withParent_eq_some {made : Disk} {p : Path} (h : d.withParent p = some (made, place)) :
    d.Grows made ∧ made.newPlace p = .ok place := by
  unfold withParent at h
  split at h
  · rename_i hmade
    obtain ⟨q, hq, he⟩ := Option.map_eq_some_iff.mp h
    cases he
    refine ⟨grows_makeFolders hmade, ?_⟩
    cases hplace : made.newPlace p with
    | error e => rw [hplace] at hq; cases hq
    | ok a =>
      rw [hplace] at hq
      cases hq
      rfl
  · cases h

/-! ### Files -/

theorem IsTree.put (hd : d.IsTree) (hp : d.Sits place) (bytes : Encoding.Bytes) :
    (d.put place bytes).IsTree := by
  refine isTree_iff.mpr ⟨?_, fun f hf => ?_⟩
  · unfold Disk.put
    rw [List.map_append, List.nodup_append]
    refine ⟨hd.nodup.sublist (List.filter_sublist.map _), List.nodup_singleton _, ?_⟩
    intro q hq r hr he
    obtain ⟨f, hf, rfl⟩ := List.mem_map.mp hq
    rw [List.map_singleton, List.mem_singleton] at hr
    exact of_decide_eq_true (List.mem_filter.mp hf).2 (he.trans hr)
  · rcases List.mem_append.mp hf with hf | hf
    · exact (hd.sits (List.mem_filter.mp hf).1).mono fun _ hq => hq
    · rw [List.mem_singleton.mp hf]
      exact hp.mono fun _ hq => hq

theorem IsTree.write (hd : d.IsTree) {p : Path} (hp : p.Proper) (bytes : Encoding.Bytes) :
    (d.write p bytes).IsTree := by
  unfold Disk.write
  split
  · rename_i made place hmade
    obtain ⟨hgrows, hplace⟩ := withParent_eq_some hmade
    have htree := hgrows.isTree hd
    split
    · exact htree
    · exact htree.put (sits_newPlace hp hplace) bytes
  · exact hd

/-- With a folder goes everything in it, so what is left is in folders that are left. -/
theorem IsTree.clear (hd : d.IsTree) (place : Path) : (d.clear place).IsTree := by
  refine isTree_iff.mpr ⟨hd.nodup.sublist (List.filter_sublist.map _), fun f hf => ?_⟩
  obtain ⟨hf, hleft⟩ := List.mem_filter.mp hf
  refine ⟨hd.proper f hf, hd.resolved f hf, fun q hq => ?_⟩
  obtain ⟨-, after, -, hsplit⟩ := Path.mem_parents.mp hq
  have hfolder := hd.folders f hf q hq
  unfold hasFolder at hfolder ⊢
  rw [Bool.or_eq_true] at hfolder ⊢
  rcases hfolder with habove | hq
  · exact Or.inl habove
  · by_cases hgone : (place.below? q).isSome = true
    · refine (Path.below?_isSome_append hgone (hsplit ▸ hd.resolved f hf)).imp_right fun h => ?_
      rw [← hsplit] at h
      simp [Option.isNone_iff_eq_none.mp hleft] at h
    · right
      obtain ⟨folder, hm, he⟩ := List.any_eq_true.mp hq
      cases of_decide_eq_true he
      refine List.any_eq_true.mpr ⟨q, List.mem_filter.mpr ⟨hm, ?_⟩, decide_eq_true rfl⟩
      simpa using hgone

theorem IsTree.remove (hd : d.IsTree) (p : Path) : (d.remove p).IsTree := by
  unfold Disk.remove
  cases d.place? p with
  | none => exact hd
  | some place => exact hd.clear place

/-! ### Renames -/

section Move

variable {source target : Path}

theorem mem_folders_clear {q : Path} (h : q ∈ d.folders) (hq : (place.below? q).isSome ≠ true) :
    q ∈ (d.clear place).folders :=
  List.mem_filter.mpr ⟨h, by simpa using hq⟩

/-- The folders on the way to the target stay, unless they are in what is moved. -/
theorem hasFolder_before_target (ht : d.Sits target) (hout : source.below? target = none)
    {q after : Path} (hq : q ≠ []) (hafter : after ≠ []) (hsplit : target = q ++ after) :
    (d.move source target).hasFolder q = true := by
  have hfolder := ht.folders q (Path.mem_parents.mpr ⟨hq, after, hafter, hsplit⟩)
  unfold hasFolder at hfolder ⊢
  rw [Bool.or_eq_true] at hfolder ⊢
  by_cases habove : q.isAbove = true
  · exact Or.inl habove
  · right
    obtain ⟨folder, hm, he⟩ := List.any_eq_true.mp (hfolder.resolve_left habove)
    cases of_decide_eq_true he
    have hsource : (source.below? q).isSome ≠ true := by
      intro h
      rcases Path.below?_isSome_append h (hsplit ▸ ht.resolved) with h | h
      · exact habove h
      · rw [← hsplit, hout] at h
        cases h
    have htarget : (target.below? q).isSome ≠ true := by
      intro h
      obtain ⟨r, hr⟩ := Option.isSome_iff_exists.mp h
      have hlength := congrArg List.length (Path.below?_eq_some hr).1
      have hpos := List.length_pos_iff.mpr hafter
      rw [hsplit, List.length_append, List.length_append] at hlength
      omega
    exact List.any_eq_true.mpr ⟨q, List.mem_append_left _
      (mem_folders_clear (mem_folders_clear hm hsource) htarget), decide_eq_true rfl⟩

/-- A file or folder below the source, moved below the target. -/
theorem below_moved {q r : Path} (h : source.below? q = some r) :
    target.below? (target ++ r) = some r :=
  Path.below?_append (Path.below?_eq_some h).2

theorem Sits.move (ht : d.Sits target) (hs : ¬source.isAbove = true)
    (hout : source.below? target = none) {q r : Path} (hq : d.Sits q)
    (hr : source.below? q = some r) : (d.move source target).Sits (target ++ r) := by
  obtain ⟨rfl, hhead⟩ := Path.below?_eq_some hr
  have hup : Path.up ∉ r := Path.not_mem_up hq.resolved hhead
  refine ⟨?_, Path.resolved_append ht.resolved hup, ?_⟩
  · intro n hn
    rcases List.mem_append.mp hn with hn | hn
    · exact ht.proper n hn
    · exact hq.proper n (List.mem_append_right _ hn)
  · intro p hp
    obtain ⟨hne, after, hafter, hsplit⟩ := Path.mem_parents.mp hp
    -- A folder inside the source is moved along with what it holds.
    have hinside {x : Path} (hx : r = x ++ after) :
        (d.move source target).hasFolder (target ++ x) = true := by
      have hne : source ++ x ≠ [] := by
        intro h
        rw [(List.append_eq_nil_iff.mp h).1] at hs
        exact hs rfl
      have hfolder := hq.folders (source ++ x)
        (Path.mem_parents.mpr ⟨hne, after, hafter, by rw [hx, List.append_assoc]⟩)
      have hhead : x.head? ≠ some Path.up := fun h =>
        hup (hx ▸ List.mem_append_left _ (List.mem_of_head? h))
      unfold hasFolder at hfolder ⊢
      rw [Bool.or_eq_true] at hfolder ⊢
      right
      rcases hfolder with habove | hm
      · unfold Path.isAbove at habove
        rw [List.all_append, Bool.and_eq_true] at habove
        exact absurd habove.1 hs
      · obtain ⟨folder, hm, he⟩ := List.any_eq_true.mp hm
        cases of_decide_eq_true he
        refine List.any_eq_true.mpr ⟨target ++ x, List.mem_append_right _ ?_, decide_eq_true rfl⟩
        exact List.mem_filterMap.mpr ⟨source ++ x, hm, by rw [Path.below?_append hhead]; rfl⟩
    rcases List.append_eq_append_iff.mp hsplit with ⟨x, rfl, hx⟩ | ⟨x, hx, rfl⟩
    · exact hinside hx
    · by_cases hnil : x = []
      · subst hnil
        have htarget := @hinside [] rfl
        rw [List.append_nil] at hx htarget
        subst hx
        exact htarget
      · exact hasFolder_before_target ht hout hne hnil hx

/-- A move puts a tree together again, if it is not into itself. -/
theorem IsTree.move (hd : d.IsTree) (ht : d.Sits target) (hs : ¬source.isAbove = true)
    (hout : source.below? target = none) : (d.move source target).IsTree := by
  have hrest := (hd.clear source).clear target
  have hmoved {g : Path × Encoding.Bytes} (hg : g ∈ d.files.filterMap fun f =>
      ((source.below? f.1).map (target ++ ·)).map (·, f.2)) :
      ∃ f ∈ d.files, ∃ r, source.below? f.1 = some r ∧ g = (target ++ r, f.2) := by
    obtain ⟨f, hf, hg⟩ := List.mem_filterMap.mp hg
    obtain ⟨q, hq, rfl⟩ := Option.map_eq_some_iff.mp hg
    obtain ⟨r, hr, rfl⟩ := Option.map_eq_some_iff.mp hq
    exact ⟨f, hf, r, hr, rfl⟩
  refine isTree_iff.mpr ⟨?_, fun f hf => ?_⟩
  · unfold Disk.move
    rw [List.map_append, List.nodup_append]
    refine ⟨hrest.nodup, ?_, ?_⟩
    · have hplaces : (d.files.filterMap fun f =>
          ((source.below? f.1).map (target ++ ·)).map (·, f.2)).map Prod.fst =
            (d.files.map Prod.fst).filterMap fun q => (source.below? q).map (target ++ ·) := by
        rw [List.map_filterMap, List.filterMap_map]
        simp [Function.comp_def]
      refine hplaces ▸ ?_
      refine hd.nodup.filterMap fun q q' p hp hp' => ?_
      obtain ⟨r, hr, rfl⟩ := Option.map_eq_some_iff.mp hp
      obtain ⟨r', hr', he⟩ := Option.map_eq_some_iff.mp hp'
      rw [(Path.below?_eq_some hr).1, (Path.below?_eq_some hr').1, List.append_cancel_left he]
    · intro q hq p hp
      obtain ⟨f, hf, rfl⟩ := List.mem_map.mp hq
      obtain ⟨g, hg, rfl⟩ := List.mem_map.mp hp
      obtain ⟨f', -, r, hr, rfl⟩ := hmoved hg
      intro he
      have hleft : (target.below? f.1).isNone = true := (List.mem_filter.mp hf).2
      dsimp only at he
      rw [he, below_moved hr] at hleft
      cases hleft
  · rcases List.mem_append.mp hf with hf | hf
    · refine (hrest.sits hf).mono fun q hq => ?_
      unfold hasFolder at hq ⊢
      rw [Bool.or_eq_true] at hq ⊢
      refine hq.imp_right fun hq => ?_
      unfold Disk.move
      rw [List.any_append, hq, Bool.true_or]
    · obtain ⟨g, hg, r, hr, rfl⟩ := hmoved hf
      exact ht.move hs hout (hd.sits hg) hr

/-- A rename of what does not hold the working folder, and not to a place inside itself. -/
theorem IsTree.rename (hd : d.IsTree) {p q : Path} (hq : q.Proper)
    (hout : ∀ made source target, d.renaming? p q = some (made, source, target) →
      ¬source.isAbove = true ∧ source.below? target = none) : (d.rename p q).IsTree := by
  unfold Disk.rename
  split
  · rename_i made source target h
    obtain ⟨hs, hbelow⟩ := hout made source target h
    obtain ⟨place, -, h⟩ := Option.bind_eq_some_iff.mp h
    obtain ⟨parent, hparent, h⟩ := Option.bind_eq_some_iff.mp h
    cases h
    obtain ⟨hgrows, hplace⟩ := withParent_eq_some hparent
    exact (hgrows.isTree hd).move (sits_newPlace hq hplace) hs hbelow
  · exact hd

end Move

end Disk

end OutlineTables
