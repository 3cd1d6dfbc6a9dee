import Mathlib.Data.List.Nodup
import OutlineTables.Proofs.Rows.References

/-!
Lists that are made of rows. What the rows of an outline give to a list is what the file, its
headings, their properties, timestamps and records give, one after the other.
-/
namespace OutlineTables

namespace Rows

/-- A list that some rows give, table by table. -/
structure Lists {α : Type} (f : Rows → List α) : Prop where
  empty : f {} = []
  append : ∀ a b, f (a.append b) = f a ++ f b

/-! What a list may leave out. -/

def SkipsFile {α : Type} (f : Rows → List α) : Prop := ∀ files fileTags, f { files, fileTags } = []

def SkipsHeading {α : Type} (f : Rows → List α) : Prop :=
  ∀ headings closures headingTags links, f { headings, closures, headingTags, links } = []

def SkipsProperties {α : Type} (f : Rows → List α) : Prop :=
  ∀ properties headingProperties fileProperties,
    f { properties, headingProperties, fileProperties } = []

def SkipsStamps {α : Type} (f : Rows → List α) : Prop :=
  ∀ stamps planning, f { stamps, planning } = []

def SkipsLog {α : Type} (f : Rows → List α) : Prop :=
  ∀ clocks notes states stamps planningChanges,
    f { clocks, notes, states, stamps, planningChanges } = []

section Lists

variable {α : Type} {f : Rows → List α} {s : Scope} {h : Heading} {above : List Heading} {r : Rows}

theorem Lists.concat (hf : Lists f) (rs : List Rows) : f (Rows.concat rs) = rs.flatMap f := by
  induction rs with
  | nil => exact hf.empty
  | cons r rs ih => rw [List.flatMap_cons, ← ih, ← hf.append]; rfl

theorem SkipsProperties.of_property (hf : SkipsProperties f) (s : Scope) (p : Property)
    (headingProperties : List HeadingPropertyRow) (fileProperties : List FilePropertyRow) :
    f (ofProperty s p { headingProperties, fileProperties }) = [] := by
  rcases ofProperty_cases s p { headingProperties, fileProperties } with ⟨-, he⟩ | ⟨-, he⟩ <;> rw [he]
  · exact hf [] [] []
  · exact hf [⟨s.file, p.offset, p.key, p.value⟩] headingProperties fileProperties

theorem SkipsStamps.of_planning (hf : SkipsStamps f) {p : Planning}
    (hr : ofPlanning s h p = .ok r) : f r = [] := by
  rcases ofPlanning_eq_ok.mp hr with ⟨-, rfl⟩ | ⟨-, -, rfl⟩ | ⟨st, -, -, rfl⟩ <;> exact hf _ _

theorem SkipsStamps.of_bodyStamp (hf : SkipsStamps f) {e : Excerpt}
    (hr : ofBodyStamp s h e = .ok r) : f r = [] := by
  rcases ofBodyStamp_eq_ok.mp hr with ⟨-, rfl⟩ | ⟨st, -, ⟨-, rfl⟩ | ⟨-, rfl⟩⟩ <;> exact hf _ []

theorem SkipsLog.of_record (hf : SkipsLog f) (s : Scope) (h : Heading) (x : LogRecord) :
    f (ofRecord s h x) = [] := by
  cases x with
  | clock c =>
    unfold ofRecord ofClock
    dsimp only
    split <;> exact hf _ [] [] [] []
  | note n =>
    show f (ofNote s h n) = []
    rcases ofNote_cases s h n with ⟨-, he⟩ | ⟨-, -, he⟩ | ⟨pos, st, -, -, -, he⟩ | ⟨-, -, -, he⟩ <;>
      rw [he]
    · exact hf [] [] [] [] []
    · exact hf [] _ _ [] []
    · exact hf [] _ [] _ _
    · exact hf [] _ [] [] []

theorem SkipsProperties.of_properties (hf : SkipsProperties f) (s : Scope) (h : Heading) :
    (h.properties.flatMap fun p =>
      f (ofProperty s p { headingProperties := [⟨s.file, p.offset, h.offset⟩] })) = [] :=
  List.flatMap_eq_nil_iff.mpr fun p _ => hf.of_property s p [⟨s.file, p.offset, h.offset⟩] []

theorem SkipsStamps.of_plannings (hf : SkipsStamps f) {planning : List Rows}
    (hp : h.planning.mapM (ofPlanning s h) = .ok planning) : planning.flatMap f = [] := by
  refine List.flatMap_eq_nil_iff.mpr fun a ha => ?_
  obtain ⟨p, -, hpa⟩ := exists_of_mem_mapM hp ha
  exact hf.of_planning hpa

theorem SkipsStamps.of_bodyStamps (hf : SkipsStamps f) {stamps : List Rows}
    (hs : h.timestamps.mapM (ofBodyStamp s h) = .ok stamps) : stamps.flatMap f = [] := by
  refine List.flatMap_eq_nil_iff.mpr fun a ha => ?_
  obtain ⟨e, -, hea⟩ := exists_of_mem_mapM hs ha
  exact hf.of_bodyStamp hea

theorem SkipsLog.of_records (hf : SkipsLog f) (s : Scope) (h : Heading) (log : List LogRecord) :
    (log.flatMap fun x => f (ofRecord s h x)) = [] :=
  List.flatMap_eq_nil_iff.mpr fun x _ => hf.of_record s h x

/-- What the parts of a heading add to a list. -/
theorem Lists.of_heading (hf : Lists f) (hr : ofHeading s h above = .ok r) :
    ∃ row planning stamps log, headingRow s h = .ok row ∧
      h.planning.mapM (ofPlanning s h) = .ok planning ∧
      h.timestamps.mapM (ofBodyStamp s h) = .ok stamps ∧
      LogRecord.classify s.types (logEntries s.options h) = .ok log ∧
      f r = f {
          headings := [row]
          closures := ofAncestors s h above
          headingTags := ofTags s h above
          links := h.links.flatMap (ofLink s h) } ++
        (h.properties.flatMap fun p =>
          f (ofProperty s p { headingProperties := [⟨s.file, p.offset, h.offset⟩] })) ++
        planning.flatMap f ++ stamps.flatMap f ++ log.flatMap fun x => f (ofRecord s h x) := by
  obtain ⟨row, planning, stamps, log, hrow, hp, hs, hl, rfl⟩ := ofHeading_eq_ok.mp hr
  refine ⟨row, planning, stamps, log, hrow, hp, hs, hl, ?_⟩
  rw [hf.concat]
  simp only [List.cons_append, List.flatMap_cons, List.flatMap_append, List.flatMap_map,
    List.append_assoc]

/-- A list of headings or of their links. -/
theorem Lists.of_own (hf : Lists f) (hp : SkipsProperties f) (ht : SkipsStamps f)
    (hg : SkipsLog f) (hr : ofHeading s h above = .ok r) :
    ∃ row, headingRow s h = .ok row ∧ f r = f {
      headings := [row]
      closures := ofAncestors s h above
      headingTags := ofTags s h above
      links := h.links.flatMap (ofLink s h) } := by
  obtain ⟨row, planning, stamps, log, hrow, hplanning, hstamps, -, hr⟩ := hf.of_heading hr
  rw [hp.of_properties, ht.of_plannings hplanning, ht.of_bodyStamps hstamps, hg.of_records] at hr
  simp only [List.append_nil] at hr
  exact ⟨row, hrow, hr⟩

/-- A list of files or of their tags. -/
theorem Lists.of_file (hf : Lists f) (hp : SkipsProperties f) (s : Scope)
    (properties : List Property) (md5 : Text) (size : Option Int) :
    f (ofFile s properties md5 size) = f {
      files := [⟨s.file, md5, size⟩]
      fileTags := (s.fileTags.filter (!s.options.excludedTags.covers ·)).map (⟨s.file, ·⟩) } := by
  unfold ofFile
  have hnone : ((properties.map fun p =>
      ofProperty s p { fileProperties := [⟨s.file, p.offset⟩] }).flatMap f) = [] := by
    rw [List.flatMap_map]
    exact List.flatMap_eq_nil_iff.mpr fun p _ => hp.of_property s p [] [⟨s.file, p.offset⟩]
  rw [hf.concat, List.flatMap_cons, hnone, List.append_nil]

section Outline

variable {o : Options} {x : Outline} {file md5 : Text} {size : Option Int}

/-- A list that headings give, each with its ancestors. -/
theorem Lists.of_outline {g : Heading × List Heading → List α} (hf : Lists f)
    (hfile : SkipsFile f) (hp : SkipsProperties f)
    (hg : ∀ h above a, ofHeading (Scope.ofOptions o file (firsts x.tags)) h above = .ok a →
      f a = g (h, above))
    (hr : ofOutline o x file md5 size = .ok r) :
    f r = (Heading.withAncestors [] x.headings).flatMap g := by
  obtain ⟨rows, hrows, rfl⟩ := ofOutline_eq_ok.mp hr
  rw [hf.concat, List.flatMap_cons, hf.of_file hp, hfile, List.nil_append]
  -- Heading by heading, together with the rows that each has.
  have hall := mapM_eq_ok.mp hrows
  clear hr hrows
  generalize Heading.withAncestors [] x.headings = ps at hall ⊢
  induction hall with
  | nil => rfl
  | @cons p a ps as ha _ ih =>
    rw [List.flatMap_cons, List.flatMap_cons, ih]
    have hone := hg p.1 p.2 a ha
    rw [hone]

/-- A list that no heading gives. -/
theorem Lists.of_outline_file (hf : Lists f) (hh : SkipsHeading f) (hp : SkipsProperties f)
    (ht : SkipsStamps f) (hg : SkipsLog f) (hr : ofOutline o x file md5 size = .ok r) : f r = f {
      files := [⟨file, md5, size⟩]
      fileTags := ((firsts x.tags).filter (!o.excludedTags.covers ·)).map (⟨file, ·⟩) } := by
  obtain ⟨rows, hrows, rfl⟩ := ofOutline_eq_ok.mp hr
  have hnone : rows.flatMap f = [] := by
    apply List.flatMap_eq_nil_iff.mpr
    intro a ha
    obtain ⟨p, -, hpa⟩ := exists_of_mem_mapM hrows ha
    obtain ⟨row, -, hrow⟩ := hf.of_own hp ht hg hpa
    rw [hrow, hh]
  rw [hf.concat, List.flatMap_cons, hf.of_file hp, hnone, List.append_nil]
  rfl

end Outline

/-- Rows that hold the position of their heading, and beside it something that no two rows of one
heading share. -/
theorem nodup_headings {β κ : Type} {hs : List Heading} {g : Heading × List Heading → List β}
    {heading : β → Int} {key : β → κ} (hn : (hs.map (·.offset)).Nodup)
    (hheading : ∀ p ∈ Heading.withAncestors [] hs, ∀ b ∈ g p, heading b = p.1.offset)
    (hkey : ∀ p ∈ Heading.withAncestors [] hs, ((g p).map key).Nodup) :
    (((Heading.withAncestors [] hs).flatMap g).map fun b => (heading b, key b)).Nodup := by
  rw [List.map_flatMap, List.nodup_flatMap]
  constructor
  · intro p hp
    apply List.Nodup.of_map Prod.snd
    rw [List.map_map]
    exact hkey p hp
  · -- Those of two headings have different first parts.
    have hapart : (Heading.withAncestors [] hs).Pairwise fun p q => p.1.offset ≠ q.1.offset := by
      rw [← Heading.map_fst_withAncestors [] hs, List.map_map] at hn
      exact List.pairwise_map.mp hn
    refine hapart.imp_of_mem ?_
    intro p q hp hq hpq pair hbp hbq
    obtain ⟨b, hb, rfl⟩ := List.mem_map.mp hbp
    obtain ⟨c, hc, he⟩ := List.mem_map.mp hbq
    apply hpq
    rw [← hheading p hp b hb, ← hheading q hq c hc]
    exact (congrArg Prod.fst he).symm

end Lists

end Rows

end OutlineTables
