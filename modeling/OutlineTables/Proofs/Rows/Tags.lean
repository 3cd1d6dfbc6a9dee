import OutlineTables.Proofs.Outline.HeadingLines
import OutlineTables.Proofs.Rows.Lists

/-!
Tag rows. Main statement: a heading line has a row for each of its own tags and for each tag that
comes down to it from the file or from one of its k-fold parents, and no tag has two rows.
-/
namespace OutlineTables

/-- The tags of a heading line. -/
def Starred.tags (s : Starred) : List Text := (cutTags s.rest).2

/-- The tags of heading line `i`. -/
def Starred.tagsAt (hs : List Starred) (i : Nat) : List Text := (hs[i]?.map (·.tags)).getD []

/-- The tags of heading `i`. -/
def Heading.tagsAt (hs : List Heading) (i : Nat) : List Text := (hs[i]?.map (·.tags)).getD []

/-- A tag that heading `j` does not have itself and that the options let come down to it, from the
file or from a heading somewhere above it. -/
structure Inherits (o : Options) (fileTags : List Text) (level : Nat → Int)
    (tags : Nat → List Text) (j : Nat) (tag : Text) : Prop where
  enabled : o.inheritTags = true
  shown : o.excludeInherited = false
  absent : tag ∉ tags j
  passed : tag ∉ o.uninherited
  source : tag ∈ fileTags ∨ ∃ k i, IsAncestor level (k + 1) i j ∧ tag ∈ tags i

namespace Heading

theorem tagsAt_of_getElem? {hs : List Heading} {i : Nat} {h : Heading} (hi : hs[i]? = some h) :
    tagsAt hs i = h.tags := by
  unfold tagsAt
  rw [hi]
  rfl

theorem mem_tagsAt_iff {hs : List Heading} {i : Nat} {tag : Text} :
    tag ∈ tagsAt hs i ↔ ∃ a, hs[i]? = some a ∧ tag ∈ a.tags := by
  unfold tagsAt
  cases hs[i]? <;> simp

/-- The tags above a heading are those of its parents, one after the other. -/
theorem HasParents.tag_above_iff {hs : List Heading} {j : Nat} {h : Heading} {above : List Heading}
    (hj : HasParents hs j (h, above)) {tag : Text} : (∃ a ∈ above, tag ∈ a.tags) ↔
      ∃ k i, IsAncestor (levelAt hs) (k + 1) i j ∧ tag ∈ tagsAt hs i := by
  simp only [mem_tagsAt_iff]
  constructor
  · rintro ⟨a, ha, htag⟩
    obtain ⟨k, hk⟩ := List.mem_iff_getElem?.mp ha
    obtain ⟨i, hanc, hi⟩ := (hj.parents (k + 1) a).mp hk
    exact ⟨k, i, hanc, a, hi, htag⟩
  · rintro ⟨k, i, hanc, a, hi, htag⟩
    have hk : above[k]? = some a := (hj.parents (k + 1) a).mpr ⟨i, hanc, hi⟩
    exact ⟨a, List.mem_of_getElem? hk, htag⟩

end Heading

theorem Outline.tags_lines (o : Options) (t : Text) :
    List.Forall₂ (fun h s => h.tags = s.tags) (Outline.read o t).headings (Starred.ofText t) := by
  refine (Outline.headings_sections o t).imp ?_
  -- A section adds no tags.
  rintro h s ⟨below, rfl⟩
  rfl

theorem Heading.tagsAt_eq {hs : List Heading} {ls : List Starred}
    (hall : List.Forall₂ (fun h s => h.tags = s.tags) hs ls) :
    Heading.tagsAt hs = Starred.tagsAt ls := by
  funext i
  unfold Heading.tagsAt Starred.tagsAt
  induction hall generalizing i with
  | nil => rfl
  | cons htags _ ih =>
    cases i with
    | zero =>
      rw [List.getElem?_cons_zero, List.getElem?_cons_zero, Option.map_some, Option.map_some, htags]
    | succ i => exact ih i

namespace Rows

variable {o : Options} {x : Outline} {t file md5 : Text} {size : Option Int} {r : Rows}

section Heading

variable {s : Scope} {h : Heading} {above : List Heading}

theorem mem_inheritedTags_iff {tag : Text} : tag ∈ inheritedTags s above ↔
    s.options.inheritTags = true ∧ tag ∉ s.options.uninherited ∧
      (tag ∈ s.fileTags ∨ ∃ a ∈ above, tag ∈ a.tags) := by
  unfold inheritedTags
  split
  · rename_i hinherit
    simp only [List.mem_filter, mem_firsts, List.mem_append, List.mem_flatMap, List.mem_reverse,
      Bool.not_eq_true', Text.isIn_eq_false_iff, hinherit, true_and]
    exact and_comm
  · rename_i hinherit
    simp [hinherit]

/-- The tags of a heading with their rows still to be made: its own, and behind them those that it
inherits and does not have. -/
def taggings (s : Scope) (h : Heading) (above : List Heading) : List (Text × Bool) :=
  (firsts h.tags).map (·, false) ++
    (if s.options.excludeInherited then []
      else (inheritedTags s above).filter (!Text.isIn · (firsts h.tags))).map (·, true)

theorem ofTags_eq (s : Scope) (h : Heading) (above : List Heading) : ofTags s h above =
    (taggings s h above).filterMap fun p =>
      if s.options.excludedTags.covers p.1 then none else some ⟨s.file, h.offset, p.1, p.2⟩ := rfl

theorem mem_taggings_iff {tag : Text} {inherited : Bool} : (tag, inherited) ∈ taggings s h above ↔
    inherited = false ∧ tag ∈ h.tags ∨
      inherited = true ∧ s.options.excludeInherited = false ∧ tag ∉ h.tags ∧
        tag ∈ inheritedTags s above := by
  unfold taggings
  rw [List.mem_append, List.mem_map, List.mem_map]
  cases hex : s.options.excludeInherited <;> cases inherited <;> simp [and_comm]

/-- No tag is given twice: own tags are told from inherited ones. -/
theorem nodup_taggings (s : Scope) (h : Heading) (above : List Heading) :
    ((taggings s h above).map Prod.fst).Nodup := by
  have hinherited : (inheritedTags s above).Nodup := by
    unfold inheritedTags
    split
    · exact (nodup_firsts _).filter _
    · exact List.nodup_nil
  unfold taggings
  rw [List.map_append, List.map_map, List.map_map]
  have hid (b : Bool) (tags : List Text) : tags.map (Prod.fst ∘ fun tag => (tag, b)) = tags :=
    List.map_id tags
  rw [hid, hid, List.nodup_append]
  refine ⟨nodup_firsts _, ?_, ?_⟩
  · split
    · exact List.nodup_nil
    · exact hinherited.filter _
  · rintro tag hown tag' hother rfl
    split at hother
    · cases hother
    · obtain ⟨-, hout⟩ := List.mem_filter.mp hother
      rw [Bool.not_eq_true', Text.isIn_eq_false_iff] at hout
      exact hout hown

/-- The rows of a heading's tags, once those that are left out are gone. -/
theorem mem_ofTags_iff {row : HeadingTagRow} : row ∈ ofTags s h above ↔
    row.file = s.file ∧ row.heading = h.offset ∧ s.options.excludedTags.covers row.tag = false ∧
      (row.tag, row.inherited) ∈ taggings s h above := by
  rw [ofTags_eq, List.mem_filterMap]
  constructor
  · rintro ⟨⟨tag, inherited⟩, hm, he⟩
    dsimp only at he
    split at he
    · cases he
    · rename_i hcovers
      cases he
      exact ⟨rfl, rfl, by simpa using hcovers, hm⟩
  · rintro ⟨hfile, hheading, hcovers, hm⟩
    refine ⟨(row.tag, row.inherited), hm, ?_⟩
    rw [hcovers, ← hfile, ← hheading]
    rfl

theorem nodup_ofTags (s : Scope) (h : Heading) (above : List Heading) :
    ((ofTags s h above).map (·.tag)).Nodup := by
  refine (nodup_taggings s h above).sublist ?_
  rw [ofTags_eq]
  generalize taggings s h above = ps
  induction ps with
  | nil => exact List.Sublist.refl []
  | cons p ps ih =>
    rw [List.filterMap_cons, List.map_cons]
    split
    · exact ih.cons _
    · rename_i row hrow
      have htag : row.tag = p.1 := by
        split at hrow
        · cases hrow
        · cases hrow
          rfl
      rw [List.map_cons, htag]
      exact ih.cons_cons _

end Heading

theorem headingTags_ofOutline (hr : ofOutline o x file md5 size = .ok r) :
    r.headingTags = (Heading.withAncestors [] x.headings).flatMap fun p =>
      ofTags (Scope.ofOptions o file (firsts x.tags)) p.1 p.2 := by
  have hf : Lists fun r : Rows => r.headingTags := ⟨rfl, fun _ _ => rfl⟩
  have hp : SkipsProperties fun r : Rows => r.headingTags := fun _ _ _ => rfl
  apply hf.of_outline (fun _ _ => rfl) hp _ hr
  intro h above a ha
  obtain ⟨row, -, hown⟩ := hf.of_own hp (fun _ _ => rfl) (fun _ _ _ _ _ => rfl) ha
  exact hown

theorem fileTags_ofOutline (hr : ofOutline o x file md5 size = .ok r) :
    r.fileTags = ((firsts x.tags).filter (!o.excludedTags.covers ·)).map (⟨file, ·⟩) := by
  have hf : Lists fun r : Rows => r.fileTags := ⟨rfl, fun _ _ => rfl⟩
  exact hf.of_outline_file (fun _ _ _ _ => rfl) (fun _ _ _ => rfl) (fun _ _ => rfl)
    (fun _ _ _ _ _ => rfl) hr

/-- A heading has one row for each tag. -/
theorem nodup_headingTags (hn : (x.headings.map (·.offset)).Nodup)
    (hr : ofOutline o x file md5 size = .ok r) :
    (r.headingTags.map fun row => (row.heading, row.tag)).Nodup := by
  rw [headingTags_ofOutline hr]
  apply nodup_headings hn
  · intro p _ row hrow
    exact (mem_ofTags_iff.mp hrow).2.1
  · intro p _
    exact nodup_ofTags _ _ _

theorem nodup_fileTags (hr : ofOutline o x file md5 size = .ok r) :
    (r.fileTags.map (·.tag)).Nodup := by
  rw [fileTags_ofOutline hr, List.map_map]
  exact (List.map_id _).symm ▸ (nodup_firsts x.tags).filter _

/-- A row is one of a heading's own tags, or one of those that come down to it. -/
theorem mem_headingTags_iff (hr : ofOutline o x file md5 size = .ok r) {row : HeadingTagRow} :
    row ∈ r.headingTags ↔ ∃ j h, x.headings[j]? = some h ∧ row.file = file ∧
      row.heading = h.offset ∧ o.excludedTags.covers row.tag = false ∧
      (row.inherited = false ∧ row.tag ∈ Heading.tagsAt x.headings j ∨
        row.inherited = true ∧ Inherits o x.tags (Heading.levelAt x.headings)
          (Heading.tagsAt x.headings) j row.tag) := by
  -- Of a heading at place `j`, the rows say what its tags and those of its parents are.
  have hplace {j : Nat} {h : Heading} {above : List Heading}
      (hj : Heading.HasParents x.headings j (h, above)) :
      (row.tag, row.inherited) ∈ taggings (Scope.ofOptions o file (firsts x.tags)) h above ↔
        row.inherited = false ∧ row.tag ∈ Heading.tagsAt x.headings j ∨
          row.inherited = true ∧ Inherits o x.tags (Heading.levelAt x.headings)
            (Heading.tagsAt x.headings) j row.tag := by
    rw [mem_taggings_iff, mem_inheritedTags_iff, hj.tag_above_iff,
      Heading.tagsAt_of_getElem? hj.heading]
    refine or_congr_right (and_congr_right fun _ => ?_)
    constructor
    · rintro ⟨hshown, habsent, henabled, hpassed, hsource⟩
      refine ⟨henabled, hshown, ?_, hpassed, hsource.imp_left mem_firsts.mp⟩
      rw [Heading.tagsAt_of_getElem? hj.heading]
      exact habsent
    · intro hin
      refine ⟨hin.shown, ?_, hin.enabled, hin.passed, hin.source.imp_left mem_firsts.mpr⟩
      have habsent := hin.absent
      rwa [Heading.tagsAt_of_getElem? hj.heading] at habsent
  rw [headingTags_ofOutline hr, List.mem_flatMap]
  constructor
  · rintro ⟨⟨h, above⟩, hp, hrow⟩
    obtain ⟨hfile, hheading, hcovers, htag⟩ := mem_ofTags_iff.mp hrow
    obtain ⟨j, hj⟩ := Heading.exists_place hp
    exact ⟨j, h, hj.heading, hfile, hheading, hcovers, (hplace hj).mp htag⟩
  · rintro ⟨j, h, hjh, hfile, hheading, hcovers, htag⟩
    obtain ⟨above, hp, hj⟩ := Heading.exists_of_place hjh
    exact ⟨(h, above), hp, mem_ofTags_iff.mpr ⟨hfile, hheading, hcovers, (hplace hj).mpr htag⟩⟩

theorem mem_fileTags_iff (hr : ofOutline o x file md5 size = .ok r) {row : FileTagRow} :
    row ∈ r.fileTags ↔
      row.file = file ∧ row.tag ∈ x.tags ∧ o.excludedTags.covers row.tag = false := by
  rw [fileTags_ofOutline hr]
  simp only [List.mem_map, List.mem_filter, mem_firsts, Bool.not_eq_true']
  constructor
  · rintro ⟨tag, ⟨htag, hcovers⟩, rfl⟩
    exact ⟨rfl, htag, hcovers⟩
  · rintro ⟨rfl, htag, hcovers⟩
    exact ⟨row.tag, ⟨htag, hcovers⟩, rfl⟩

/-- The tag rows of a text are the own tags of its heading lines and the tags that come down to
them, and its file tag rows the tags of the file, all of them once. -/
theorem tags_ofText (hr : ofOutline o (Outline.read o t) file md5 size = .ok r) :
    let hs := Starred.ofText t
    let fileTags := (Outline.read o t).tags
    (∀ row, row ∈ r.headingTags ↔ ∃ j h, hs[j]? = some h ∧ row.file = file ∧
      row.heading = h.offset ∧ o.excludedTags.covers row.tag = false ∧
      (row.inherited = false ∧ row.tag ∈ h.tags ∨
        row.inherited = true ∧
          Inherits o fileTags (Starred.levelAt hs) (Starred.tagsAt hs) j row.tag)) ∧
    (hs.map (·.offset)).Nodup ∧
    (r.headingTags.map fun row => (row.heading, row.tag)).Nodup ∧
    (∀ row, row ∈ r.fileTags ↔
      row.file = file ∧ row.tag ∈ fileTags ∧ o.excludedTags.covers row.tag = false) ∧
    (r.fileTags.map (·.tag)).Nodup := by
  intro hs fileTags
  have hlines := Outline.headings_lines o t
  have htags := Outline.tags_lines o t
  refine ⟨?_, Starred.nodup_offsets t, nodup_headingTags (Outline.nodup_offsets o t) hr,
    fun row => mem_fileTags_iff hr, nodup_fileTags hr⟩
  intro row
  rw [mem_headingTags_iff hr, Heading.levelAt_eq hlines, Heading.tagsAt_eq htags]
  -- Headings and their lines have the same indices, positions and tags.
  have hown {j : Nat} {h : Starred} (hj : hs[j]? = some h) : Starred.tagsAt hs j = h.tags := by
    unfold Starred.tagsAt
    rw [hj]
    rfl
  constructor
  · rintro ⟨j, h, hj, hfile, hheading, hcovers, htag⟩
    obtain ⟨h', hj', hat⟩ := exists_getElem?_right hlines hj
    exact ⟨j, h', hj', hfile, hheading.trans hat.1, hcovers, hown hj' ▸ htag⟩
  · rintro ⟨j, h, hj, hfile, hheading, hcovers, htag⟩
    obtain ⟨h', hj', hat⟩ := exists_getElem?_right hlines.flip hj
    exact ⟨j, h', hj', hfile, hheading.trans hat.1.symm, hcovers, hown hj ▸ htag⟩

/-- The tag of a heading comes down past a gap in the levels, and not to the next heading of the
same level. -/
theorem tags_ofText_siblings :
    let t := "#+FILETAGS: :f:\n* a :x:\n*** b :y:\n** c :x:\n* d".toList
    let hs := Starred.ofText t
    let fileTags := (Outline.read .default t).tags
    ∃ r, ofOutline .default (Outline.read .default t) "a.org".toList [] none = .ok r ∧
      r.headingTags.map (fun row => (row.heading, row.tag, row.inherited)) =
        [(17, ['x'], false), (17, ['f'], true), (25, ['y'], false), (25, ['f'], true),
          (25, ['x'], true), (35, ['x'], false), (35, ['f'], true), (44, ['f'], true)] ∧
      (∀ row, row ∈ r.headingTags ↔ ∃ j h, hs[j]? = some h ∧ row.file = "a.org".toList ∧
        row.heading = h.offset ∧ Options.default.excludedTags.covers row.tag = false ∧
        (row.inherited = false ∧ row.tag ∈ h.tags ∨
          row.inherited = true ∧
            Inherits .default fileTags (Starred.levelAt hs) (Starred.tagsAt hs) j row.tag)) ∧
      (hs.map (·.offset)).Nodup ∧
      (r.headingTags.map fun row => (row.heading, row.tag)).Nodup ∧
      (∀ row, row ∈ r.fileTags ↔ row.file = "a.org".toList ∧ row.tag ∈ fileTags ∧
        Options.default.excludedTags.covers row.tag = false) ∧
      (r.fileTags.map (·.tag)).Nodup := by
  intro t hs fileTags
  have h : ((ofOutline .default (Outline.read .default t) "a.org".toList [] none).map
      fun r => r.headingTags.map fun row => (row.heading, row.tag, row.inherited)).toOption =
      some [(17, ['x'], false), (17, ['f'], true), (25, ['y'], false), (25, ['f'], true),
        (25, ['x'], true), (35, ['x'], false), (35, ['f'], true), (44, ['f'], true)] := by
    decide +kernel
  obtain ⟨r, hr, h⟩ := exists_of_map h
  exact ⟨r, hr, h, tags_ofText hr⟩

end Rows

end OutlineTables
