import OutlineTables.Disk.Basic
import OutlineTables.Proofs.Lookup
import OutlineTables.Proofs.Success
import OutlineTables.Proofs.Text.Pieces

/-!
Reading what a scan finds. On a disk that is a tree, the path that a scan gives to a file leads
back to the contents that the scan has seen.
-/
namespace OutlineTables

namespace Path

/-- Every name is one that a path can be cut into. -/
def Proper (p : Path) : Prop := ∀ n ∈ p, n ≠ [] ∧ n ≠ ['.'] ∧ '/' ∉ n

theorem proper_ofText (t : Text) : (ofText t).Proper := by
  intro n hn
  obtain ⟨hn, hkept⟩ := List.mem_filter.mp hn
  rw [decide_eq_true_eq] at hkept
  exact ⟨hkept.1, hkept.2, Text.not_mem_piece hn⟩

theorem ofText_toText {p : Path} (h : p.Proper) : ofText p.toText = p := by
  unfold ofText toText
  cases p with
  | nil => rfl
  | cons n p =>
    have hpieces := Text.pieces_join (List.cons_ne_nil n p) fun a ha => (h a ha).2.2
    rw [List.isEmpty_cons, if_neg Bool.false_ne_true, hpieces, List.filter_eq_self]
    intro a ha
    exact decide_eq_true ⟨(h a ha).1, (h a ha).2.1⟩

/-- A double dot stands behind double dots only. -/
def Resolved (p : Path) : Prop := up ∉ p.dropWhile (· = up)

theorem isAbove_of_resolved {before after : Path} (h : Resolved (before ++ up :: after)) :
    before.isAbove = true := by
  induction before with
  | nil => rfl
  | cons n before ih =>
    unfold Resolved at h
    rw [List.cons_append] at h
    by_cases hn : n = up
    · rw [List.dropWhile_cons_of_pos (by simpa using hn)] at h
      have := ih h
      simp only [isAbove, List.all_cons, hn, decide_true, Bool.true_and] at this ⊢
      exact this
    · rw [List.dropWhile_cons_of_neg (by simpa using hn)] at h
      simp at h

/-- A double dot is in front of what is below a place, or nowhere in it. -/
theorem not_mem_up {p r : Path} (h : Resolved (p ++ r)) (hr : r.head? ≠ some up) : up ∉ r := by
  intro hm
  obtain ⟨before, after, rfl⟩ := List.append_of_mem hm
  rw [← List.append_assoc] at h
  have habove := isAbove_of_resolved h
  unfold isAbove at habove
  rw [List.all_append, Bool.and_eq_true] at habove
  cases before with
  | nil => exact hr rfl
  | cons n before =>
    rw [List.all_cons, Bool.and_eq_true, decide_eq_true_eq] at habove
    exact hr (congrArg some habove.2.1)

/-- What is below a folder begins with a name. -/
theorem below?_eq_some {p q r : Path} (h : p.below? q = some r) :
    q = p ++ r ∧ r.head? ≠ some up := by
  induction p generalizing q with
  | nil =>
    unfold below? at h
    split at h
    · cases h
    · rename_i hup
      cases h
      exact ⟨rfl, hup⟩
  | cons n p ih =>
    cases q with
    | nil => cases h
    | cons m q =>
      unfold below? at h
      split at h
      · rename_i hnm
        obtain ⟨hq, hr⟩ := ih h
        exact ⟨by rw [hnm, hq, List.cons_append], hr⟩
      · cases h

end Path

namespace Disk

/-- A tree of files: places have names that paths can be cut into, no two files have one place,
and files are in folders. -/
structure IsTree (d : Disk) : Prop where
  nodup : (d.files.map Prod.fst).Nodup
  proper : ∀ f ∈ d.files, f.1.Proper
  resolved : ∀ f ∈ d.files, f.1.Resolved
  folders : ∀ f ∈ d.files, ∀ p ∈ f.1.parents, d.hasFolder p = true

theorem locateFrom_append (d : Disk) (here p q : Path) :
    d.locateFrom here (p ++ q) = d.locateFrom here p >>= fun place => d.locateFrom place q := by
  induction p generalizing here with
  | nil => rfl
  | cons n p ih =>
    rw [List.cons_append, locateFrom, locateFrom]
    split
    · rfl
    · split
      · exact ih _
      · rfl

section Tree

variable {d : Disk}

/-- Everything on the way to a file is a folder. -/
theorem IsTree.hasFolder_before (h : d.IsTree) {f : Path × Encoding.Bytes} (hf : f ∈ d.files)
    {before after : Path} (hsplit : f.1 = before ++ after) (hafter : after ≠ []) :
    d.hasFolder before = true := by
  cases before with
  | nil => rfl
  | cons n before =>
    apply h.folders f hf
    have hlength : 0 < after.length := List.length_pos_iff.mpr hafter
    refine List.mem_map.mpr ⟨(n :: before).length, ?_, ?_⟩
    · rw [List.tail_range, List.mem_range', hsplit]
      refine ⟨before.length, ?_, ?_⟩
      · simp only [List.length_append, List.length_cons]
        omega
      · simp only [List.length_cons]
        omega
    · rw [hsplit, List.take_left']
      rfl

/-- From a folder on the way to a file, the rest of the way leads to the file. -/
theorem IsTree.locateFrom_file (h : d.IsTree) {f : Path × Encoding.Bytes} (hf : f ∈ d.files)
    {here rest : Path} (hsplit : f.1 = here ++ rest) (hhead : rest.head? ≠ some Path.up) :
    d.locateFrom here rest = .ok f.1 := by
  induction rest generalizing here with
  | nil =>
    rw [hsplit, List.append_nil]
    rfl
  | cons n rest ih =>
    have hn : n ≠ Path.up := fun he => hhead (by rw [he]; rfl)
    have hstep : here.step n = here ++ [n] := by
      unfold Path.step
      rw [if_neg fun hc => hn hc.1]
    have hsplit' : f.1 = (here ++ [n]) ++ rest := by
      rw [hsplit, List.append_assoc, List.singleton_append]
    have hhas : d.has (here ++ [n]) = true := by
      unfold has
      cases hrest : rest with
      | nil =>
        have hplace : f.1 = here ++ [n] := by rw [hsplit', hrest, List.append_nil]
        have hfile : d.hasFile (here ++ [n]) = true := by
          unfold hasFile
          rw [← hplace, lookup_of_mem h.nodup (b := f.2) hf]
          rfl
        rw [hfile, Bool.or_true]
      | cons m rest =>
        rw [h.hasFolder_before hf hsplit' (by rw [hrest]; exact List.cons_ne_nil _ _), Bool.true_or]
    unfold locateFrom
    rw [h.hasFolder_before hf hsplit (List.cons_ne_nil _ _), hstep, hhas]
    refine ih hsplit' ?_
    -- A double dot further on would stand behind a name that is none.
    intro hup
    obtain ⟨rest', hrest⟩ := List.head?_eq_some_iff.mp hup
    have hresolved := h.resolved f hf
    rw [hsplit', hrest] at hresolved
    have habove := Path.isAbove_of_resolved hresolved
    unfold Path.isAbove at habove
    rw [List.all_append, Bool.and_eq_true] at habove
    exact hn (by simpa using habove.2)

theorem locate_of_place? {p place : Path} (h : d.place? p = some place) :
    d.locate p = .ok place := by
  unfold place? at h
  cases hl : d.locate p with
  | error e => simp [hl, Except.toOption] at h
  | ok a =>
    rw [hl] at h
    exact congrArg _ (Option.some.inj h)

theorem mem_filesBelow {p q : Path} {bytes : Encoding.Bytes} : (q, bytes) ∈ d.filesBelow p ↔
    ∃ place, d.place? p = some place ∧ ∃ f ∈ d.files, place.below? f.1 = some q ∧ f.2 = bytes := by
  unfold filesBelow
  cases d.place? p with
  | none => simp
  | some place =>
    rw [(List.mergeSort_perm _ _).mem_iff]
    simp

/-- The path of a file below a folder, from the folder on, leads to the file. -/
theorem IsTree.content?_below (h : d.IsTree) {p q : Path} {bytes : Encoding.Bytes}
    (hq : (q, bytes) ∈ d.filesBelow p) : d.content? (p ++ q) = some bytes := by
  obtain ⟨place, hplace, f, hf, hbelow, rfl⟩ := mem_filesBelow.mp hq
  obtain ⟨hsplit, hhead⟩ := Path.below?_eq_some hbelow
  have hlocate := locate_of_place? hplace
  have hall : d.locate (p ++ q) = .ok f.1 := by
    unfold locate at hlocate ⊢
    rw [locateFrom_append, hlocate]
    exact h.locateFrom_file hf hsplit hhead
  unfold content? place?
  rw [hall]
  rw [Except.toOption, Option.bind_some]
  exact lookup_of_mem h.nodup hf

theorem IsTree.proper_below (h : d.IsTree) {p q : Path} {bytes : Encoding.Bytes} (hp : p.Proper)
    (hq : (q, bytes) ∈ d.filesBelow p) : Path.Proper (p ++ q) := by
  obtain ⟨place, -, f, hf, hbelow, -⟩ := mem_filesBelow.mp hq
  intro n hn
  rcases List.mem_append.mp hn with hn | hn
  · exact hp n hn
  · exact h.proper f hf n (by rw [(Path.below?_eq_some hbelow).1]; exact List.mem_append_right _ hn)

/-- What a scan lists under a path is what can be read there. -/
theorem IsTree.content?_scan (h : d.IsTree) {p : Path} (hp : p.Proper) {f : FileMeta}
    (hf : f ∈ d.scan p) : ∃ path bytes, f = fileMeta path bytes ∧
      Path.ofText path.toText = path ∧ d.content? path = some bytes := by
  unfold scan at hf
  split at hf
  · rename_i bytes hbytes
    rw [List.mem_singleton] at hf
    exact ⟨p, bytes, hf, Path.ofText_toText hp, hbytes⟩
  · obtain ⟨⟨q, bytes⟩, hm, rfl⟩ := List.mem_map.mp hf
    have hm := (List.mem_filter.mp hm).1
    exact ⟨p ++ q, bytes, rfl, Path.ofText_toText (h.proper_below hp hm), h.content?_below hm⟩

end Tree

end Disk

end OutlineTables
