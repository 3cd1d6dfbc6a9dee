import OutlineTables.Proofs.Outline.Ancestors
import OutlineTables.Proofs.Outline.HeadingLines
import OutlineTables.Proofs.Rows.Lists

/-!
Closure rows. Main statement: an outline has one closure row for each heading line of its text and
each of its k-fold parents, where the parent is the nearest heading line before it of a smaller
level.
-/
namespace OutlineTables

/-- Ancestors are in the order of the headings, and none comes twice. -/
theorem Heading.sublist_of_mem_withAncestors {opened hs : List Heading}
    {p : Heading × List Heading} (hp : p ∈ Heading.withAncestors opened hs) :
    (p.1 :: p.2).reverse.Sublist (opened.reverse ++ hs) := by
  induction hs generalizing opened with
  | nil => cases hp
  | cons h hs ih =>
    have habove : (opened.dropWhile fun a => decide (h.level ≤ a.level)).reverse.Sublist
        opened.reverse := (List.dropWhile_sublist _).reverse
    rcases List.mem_cons.mp hp with rfl | hp
    · rw [List.reverse_cons]
      exact habove.append (List.singleton_sublist.mpr List.mem_cons_self)
    · have hrest := ih hp
      simp only [List.reverse_cons, List.append_assoc, List.singleton_append] at hrest ⊢
      exact hrest.trans (habove.append_right _)

namespace Rows

variable {o : Options} {x : Outline} {t file md5 : Text} {size : Option Int} {r : Rows}

theorem closures_ofOutline (hr : ofOutline o x file md5 size = .ok r) :
    r.closures = (Heading.withAncestors [] x.headings).flatMap fun p =>
      ofAncestors (Scope.ofOptions o file (firsts x.tags)) p.1 p.2 := by
  have hf : Lists fun r : Rows => r.closures := ⟨rfl, fun _ _ => rfl⟩
  have hp : SkipsProperties fun r : Rows => r.closures := fun _ _ _ => rfl
  apply hf.of_outline (fun _ _ => rfl) hp _ hr
  intro h above a ha
  obtain ⟨row, -, hown⟩ := hf.of_own hp (fun _ _ => rfl) (fun _ _ _ _ _ => rfl) ha
  exact hown

theorem mem_ofAncestors_iff {s : Scope} {h : Heading} {above : List Heading} {row : ClosureRow} :
    row ∈ ofAncestors s h above ↔ ∃ k a, (h :: above)[k]? = some a ∧
      row = ⟨s.file, h.offset, a.offset, k⟩ := by
  unfold ofAncestors
  rw [List.mem_map]
  constructor
  · rintro ⟨⟨a, k⟩, hm, rfl⟩
    exact ⟨k, a, List.mem_zipIdx_iff_getElem?.mp hm, rfl⟩
  · rintro ⟨k, a, hk, rfl⟩
    exact ⟨(a, k), List.mem_zipIdx_iff_getElem?.mpr hk, rfl⟩

/-- A closure row is a heading with itself or a heading somewhere above it. -/
theorem mem_closures_iff (hr : ofOutline o x file md5 size = .ok r) {row : ClosureRow} :
    row ∈ r.closures ↔ ∃ k i j a h, IsAncestor (Heading.levelAt x.headings) k i j ∧
      x.headings[i]? = some a ∧ x.headings[j]? = some h ∧
      row = ⟨file, h.offset, a.offset, k⟩ := by
  rw [closures_ofOutline hr, List.mem_flatMap]
  constructor
  · -- The `k`-th of a heading's open headings is its `k`-fold parent.
    rintro ⟨⟨h, above⟩, hp, hrow⟩
    obtain ⟨k, a, hk, rfl⟩ := mem_ofAncestors_iff.mp hrow
    obtain ⟨j, hj⟩ := Heading.exists_place hp
    obtain ⟨i, hanc, hi⟩ := (hj.parents k a).mp hk
    exact ⟨k, i, j, a, h, hanc, hi, hj.heading, rfl⟩
  · -- Every heading is visited, and its parents are all still open then.
    rintro ⟨k, i, j, a, h, hanc, hi, hj, rfl⟩
    obtain ⟨above, hp, hparents⟩ := Heading.exists_of_place hj
    have hk := (hparents.parents k a).mpr ⟨i, hanc, hi⟩
    exact ⟨(h, above), hp, mem_ofAncestors_iff.mpr ⟨k, a, hk, rfl⟩⟩

/-- A heading has one closure row for each depth. -/
theorem nodup_closures (hn : (x.headings.map (·.offset)).Nodup)
    (hr : ofOutline o x file md5 size = .ok r) :
    (r.closures.map fun row => (row.heading, row.depth)).Nodup := by
  rw [closures_ofOutline hr]
  apply nodup_headings hn
  · rintro p - row hrow
    obtain ⟨k, a, -, rfl⟩ := mem_ofAncestors_iff.mp hrow
    rfl
  · intro p _
    -- The depths of one heading count its ancestors.
    unfold ofAncestors
    rw [List.map_map]
    have hdepths : ((p.1 :: p.2).zipIdx).map Prod.snd = List.range' 0 (p.1 :: p.2).length :=
      List.zipIdx_map_snd ..
    exact hdepths ▸ List.nodup_range'

/-- A heading has one closure row for each ancestor. -/
theorem nodup_ancestors (hn : (x.headings.map (·.offset)).Nodup)
    (hr : ofOutline o x file md5 size = .ok r) :
    (r.closures.map fun row => (row.heading, row.ancestor)).Nodup := by
  rw [closures_ofOutline hr]
  apply nodup_headings hn
  · rintro p - row hrow
    obtain ⟨k, a, -, rfl⟩ := mem_ofAncestors_iff.mp hrow
    rfl
  · intro p hp
    have hancestors : ((ofAncestors (Scope.ofOptions o file (firsts x.tags)) p.1 p.2).map
        (·.ancestor)) = (p.1 :: p.2).map (·.offset) := by
      unfold ofAncestors
      rw [List.map_map]
      conv_rhs => rw [← List.zipIdx_map_fst 0 (p.1 :: p.2), List.map_map]
      rfl
    have hsub := (Heading.sublist_of_mem_withAncestors hp).map (·.offset)
    rw [hancestors, ← List.nodup_reverse, ← List.map_reverse]
    exact hn.sublist hsub

/-- The closure rows of a text are the pairs of a heading line and one of its k-fold parents, each
in one row. -/
theorem closures_ofText (hr : ofOutline o (Outline.read o t) file md5 size = .ok r) :
    let hs := Starred.ofText t
    (hs.map (·.offset)).Nodup ∧
    (r.closures.map fun row => (row.heading, row.depth)).Nodup ∧
    ∀ row, row ∈ r.closures ↔ ∃ k i j a h, IsAncestor (Starred.levelAt hs) k i j ∧
      hs[i]? = some a ∧ hs[j]? = some h ∧ row = ⟨file, h.offset, a.offset, k⟩ := by
  intro hs
  have hlines := Outline.headings_lines o t
  refine ⟨Starred.nodup_offsets t, nodup_closures (Outline.nodup_offsets o t) hr, ?_⟩
  intro row
  rw [mem_closures_iff hr, Heading.levelAt_eq hlines]
  -- Headings and their lines have the same indices, so both sides only trade one for the other.
  constructor
  · rintro ⟨k, i, j, a, h, hanc, hi, hj, rfl⟩
    obtain ⟨a', hi', ha⟩ := exists_getElem?_right hlines hi
    obtain ⟨h', hj', hh⟩ := exists_getElem?_right hlines hj
    exact ⟨k, i, j, a', h', hanc, hi', hj', by rw [ha.1, hh.1]⟩
  · rintro ⟨k, i, j, a, h, hanc, hi, hj, rfl⟩
    obtain ⟨a', hi', ha⟩ := exists_getElem?_right hlines.flip hi
    obtain ⟨h', hj', hh⟩ := exists_getElem?_right hlines.flip hj
    exact ⟨k, i, j, a', h', hanc, hi', hj', by rw [ha.1, hh.1]⟩

/-- A heading of level 2 that is under the one of level 1, past the one of level 3. -/
theorem closures_ofText_ascending :
    let t := "* a\n*** b\n** c".toList
    let hs := Starred.ofText t
    ∃ r, ofOutline .default (Outline.read .default t) "a.org".toList [] none = .ok r ∧
      r.closures.map (fun row => (row.heading, row.ancestor, row.depth)) =
        [(1, 1, 0), (5, 5, 0), (5, 1, 1), (11, 11, 0), (11, 1, 1)] ∧
      (hs.map (·.offset)).Nodup ∧
      (r.closures.map fun row => (row.heading, row.depth)).Nodup ∧
      ∀ row, row ∈ r.closures ↔ ∃ k i j a h, IsAncestor (Starred.levelAt hs) k i j ∧
        hs[i]? = some a ∧ hs[j]? = some h ∧ row = ⟨"a.org".toList, h.offset, a.offset, k⟩ := by
  intro t hs
  have h : ((ofOutline .default (Outline.read .default t) "a.org".toList [] none).map
      fun r => r.closures.map fun row => (row.heading, row.ancestor, row.depth)).toOption =
      some [(1, 1, 0), (5, 5, 0), (5, 1, 1), (11, 11, 0), (11, 1, 1)] := by
    decide +kernel
  cases hr : ofOutline .default (Outline.read .default t) "a.org".toList [] none with
  | error e =>
    rw [hr] at h
    cases h
  | ok r =>
    rw [hr] at h
    exact ⟨r, rfl, Option.some.inj h, closures_ofText hr⟩

end Rows

end OutlineTables
