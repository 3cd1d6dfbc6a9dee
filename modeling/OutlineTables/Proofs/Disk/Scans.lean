import OutlineTables.Proofs.Disk.Trees

/-!
What a scan lists. Paths are scanned one by one, so a file is listed once for each of them under
which it is found, and no file is listed twice exactly if the paths have no file in common.
-/
namespace OutlineTables

namespace Path

theorem toText_injective {p q : Path} (hp : p.Proper) (hq : q.Proper) (h : p.toText = q.toText) :
    p = q := by
  rw [← ofText_toText hp, h, ofText_toText hq]

end Path

namespace Disk

variable {d : Disk} {p x : Path}

/-- Whether `x` is a file that a scan of `p` lists: `p` itself whatever its name, or an outline file
below the folder `p`. -/
def finds (d : Disk) (x p : Path) : Bool :=
  if d.isFile p then x = p
  else d.isFile x && (p.below? x).any fun r => isOutlineName r && !r.contains Path.up

/-- The paths that a scan lists. -/
def listed (d : Disk) (p : Path) : List Path :=
  if d.isFile p then [p] else ((d.filesBelow p).filter fun f => isOutlineName f.1).map (p ++ ·.1)

theorem diskPath_scan (d : Disk) (p : Path) :
    (d.scan p).map (·.diskPath) = (d.listed p).map fun q => some q.toText := by
  unfold scan listed isFile
  cases d.content? p with
  | some bytes => rfl
  | none =>
    simp only [Option.isSome_none, Bool.false_eq_true, if_false, List.map_map]
    rfl

/-- Without double dots, a path leads to the place of the same names. -/
theorem eq_of_locateFrom {here place : Path} (hx : Path.up ∉ x)
    (h : d.locateFrom here x = .ok place) : place = here ++ x := by
  induction x generalizing here with
  | nil =>
    cases h
    exact (List.append_nil _).symm
  | cons n x ih =>
    rw [List.mem_cons, not_or] at hx
    have hstep : here.step n = here ++ [n] := if_neg fun hc => hx.1 hc.1.symm
    unfold locateFrom at h
    rw [hstep] at h
    split at h
    · cases h
    · split at h
      · rw [ih hx.2 h, List.append_assoc, List.singleton_append]
      · cases h

/-- What is found below a folder has no double dots. -/
theorem IsTree.not_mem_up_below (h : d.IsTree) {q : Path} {bytes : Encoding.Bytes}
    (hq : (q, bytes) ∈ d.filesBelow p) : Path.up ∉ q := by
  obtain ⟨place, -, f, hf, hbelow, -⟩ := mem_filesBelow.mp hq
  obtain ⟨hsplit, hhead⟩ := Path.below?_eq_some hbelow
  exact Path.not_mem_up (hsplit ▸ h.resolved f hf) hhead

/-- A file that a path leads to without double dots behind a folder is found below the folder. -/
theorem exists_below {r : Path} (hfile : d.isFile (p ++ r) = true) (hr : Path.up ∉ r) :
    ∃ bytes, (r, bytes) ∈ d.filesBelow p := by
  obtain ⟨bytes, hbytes⟩ := Option.isSome_iff_exists.mp hfile
  obtain ⟨place', hplace, hlookup⟩ := Option.bind_eq_some_iff.mp hbytes
  have hlocate := locate_of_place? hplace
  unfold locate at hlocate
  rw [locateFrom_append] at hlocate
  obtain ⟨place, hp, hrest⟩ := bind_eq_ok.mp hlocate
  have hhead : r.head? ≠ some Path.up := fun h => hr (List.mem_of_head? h)
  obtain ⟨before, after, hsplit, -⟩ := List.lookup_eq_some_iff.mp hlookup
  refine ⟨bytes, mem_filesBelow.mpr ⟨place, ?_, (place', bytes), ?_, ?_, rfl⟩⟩
  · unfold place? locate
    rw [hp]
    rfl
  · rw [hsplit]
    exact List.mem_append_right _ List.mem_cons_self
  · dsimp only
    rw [eq_of_locateFrom hr hrest, Path.below?_append hhead]

theorem IsTree.mem_listed_iff (h : d.IsTree) : x ∈ d.listed p ↔ d.finds x p = true := by
  unfold listed finds
  split
  · rw [List.mem_singleton, decide_eq_true_eq]
  · simp only [List.mem_map, List.mem_filter, Bool.and_eq_true, Option.any_eq_true,
      Bool.not_eq_true', Prod.exists]
    constructor
    · rintro ⟨q, bytes, ⟨hq, hname⟩, rfl⟩
      have hup := h.not_mem_up_below hq
      have hhead : q.head? ≠ some Path.up := fun he => hup (List.mem_of_head? he)
      have hfile : d.isFile (p ++ q) = true :=
        Option.isSome_iff_exists.mpr ⟨bytes, h.content?_below hq⟩
      exact ⟨hfile, q, Path.below?_append hhead, hname, by simpa using hup⟩
    · -- Names that go up could leave the folder again, and are not listed.
      rintro ⟨hfile, r, hbelow, hname, hup⟩
      obtain ⟨rfl, -⟩ := Path.below?_eq_some hbelow
      obtain ⟨bytes, hr⟩ := exists_below hfile (by simpa using hup)
      exact ⟨r, bytes, ⟨hr, hname⟩, rfl⟩

theorem IsTree.nodup_filesBelow (h : d.IsTree) (p : Path) :
    ((d.filesBelow p).map Prod.fst).Nodup := by
  unfold filesBelow
  cases d.place? p with
  | none => exact List.nodup_nil
  | some place =>
    have hfst : (d.files.filterMap fun f => (place.below? f.1).map ((·, f.2))).map Prod.fst =
        (d.files.map Prod.fst).filterMap place.below? := by
      rw [List.map_filterMap, List.filterMap_map]
      simp [Function.comp_def]
    rw [((List.mergeSort_perm _ _).map Prod.fst).nodup_iff, hfst]
    -- Two places with the same rest below a folder are one.
    refine h.nodup.filterMap fun q q' r hq hq' => ?_
    rw [(Path.below?_eq_some hq).1, (Path.below?_eq_some hq').1]

theorem IsTree.nodup_listed (h : d.IsTree) (p : Path) : (d.listed p).Nodup := by
  unfold listed
  split
  · exact List.nodup_singleton p
  · have hbelow := (h.nodup_filesBelow p).sublist
      ((List.filter_sublist (p := fun f => isOutlineName f.1)).map Prod.fst)
    have hpaths := hbelow.map (List.append_right_injective p)
    rw [List.map_map] at hpaths
    exact hpaths

theorem IsTree.proper_listed (h : d.IsTree) (hp : p.Proper) (hx : x ∈ d.listed p) : x.Proper := by
  unfold listed at hx
  split at hx
  · exact List.mem_singleton.mp hx ▸ hp
  · obtain ⟨⟨q, bytes⟩, hm, rfl⟩ := List.mem_map.mp hx
    exact h.proper_below hp (List.mem_filter.mp hm).1

/-- A scan of one path lists a file at most once. -/
theorem IsTree.count_scan (h : d.IsTree) (hp : p.Proper) (hx : x.Proper) :
    ((d.scan p).map (·.diskPath)).count (some x.toText) = if d.finds x p then 1 else 0 := by
  -- Different paths have different texts, as all of them are proper.
  have hinj : ∀ a ∈ d.listed p, ∀ b ∈ d.listed p, some a.toText = some b.toText → a = b :=
    fun a ha b hb hab =>
      Path.toText_injective (h.proper_listed hp ha) (h.proper_listed hp hb) (Option.some.inj hab)
  have hnodup := (h.nodup_listed p).map_on hinj
  have hmem : some x.toText ∈ (d.listed p).map (fun q => some q.toText) ↔ d.finds x p = true := by
    rw [← h.mem_listed_iff, List.mem_map]
    constructor
    · rintro ⟨q, hq, he⟩
      exact Path.toText_injective (h.proper_listed hp hq) hx (Option.some.inj he) ▸ hq
    · exact fun hm => ⟨x, hm, rfl⟩
  rw [diskPath_scan]
  split
  · rename_i hfinds
    exact List.count_eq_one_of_mem hnodup (hmem.mpr hfinds)
  · rename_i hfinds
    exact List.count_eq_zero_of_not_mem fun hm => hfinds (hmem.mp hm)

/-- A scan of several paths lists a file as often as there are paths under which it is found. -/
theorem IsTree.count_scanAll (h : d.IsTree) {ps : List Path} (hps : ∀ p ∈ ps, p.Proper)
    (hx : x.Proper) :
    ((d.scanAll ps).map (·.diskPath)).count (some x.toText) = ps.countP (d.finds x) := by
  induction ps with
  | nil => rfl
  | cons p ps ih =>
    obtain ⟨hp, hps⟩ := List.forall_mem_cons.mp hps
    unfold scanAll at ih ⊢
    rw [List.flatMap_cons, List.map_append, List.count_append, h.count_scan hp hx, ih hps,
      List.countP_cons, Nat.add_comm]

theorem IsTree.nodup_scanAll_iff (h : d.IsTree) {ps : List Path} (hps : ∀ p ∈ ps, p.Proper) :
    ((d.scanAll ps).map (·.diskPath)).Nodup ↔
      ∀ x : Path, x.Proper → ps.countP (d.finds x) ≤ 1 := by
  rw [List.nodup_iff_count_le_one]
  constructor
  · intro hcount x hx
    rw [← h.count_scanAll hps hx]
    exact hcount _
  · intro hcount path
    -- A path that is listed at all is the text of a proper one.
    by_cases hm : path ∈ (d.scanAll ps).map (·.diskPath)
    · obtain ⟨f, hf, rfl⟩ := List.mem_map.mp hm
      obtain ⟨p, hp, hf⟩ := List.mem_flatMap.mp hf
      have hpath : f.diskPath ∈ (d.listed p).map (fun q => some q.toText) := by
        rw [← diskPath_scan]
        exact List.mem_map_of_mem hf
      obtain ⟨x, hx, he⟩ := List.mem_map.mp hpath
      have hproper := h.proper_listed (hps p hp) hx
      rw [← he, h.count_scanAll hps hproper]
      exact hcount x hproper
    · rw [List.count_eq_zero_of_not_mem hm]
      exact Nat.zero_le 1

end Disk

end OutlineTables
