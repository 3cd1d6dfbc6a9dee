import OutlineTables.Proofs.Outline.Ancestors
import OutlineTables.Proofs.Outline.Parts
import OutlineTables.Proofs.Success

/-!
Heading lines. The headings of an outline are those that its text has lines for, in their order,
and no two of them stand at one position.
-/
namespace OutlineTables

/-- The heading lines of a text, in their order. -/
def Starred.ofText (t : Text) : List Starred := (Line.ofText t).filterMap Starred.ofLine?

theorem Line.map_fst_sections (ls : List Line) :
    (sections ls).2.map Prod.fst = ls.filterMap Starred.ofLine? := by
  induction ls with
  | nil => rfl
  | cons l ls ih =>
    rw [sections]
    dsimp only
    cases hs : Starred.ofLine? l with
    | some s => rw [List.filterMap_cons_some hs, List.map_cons, ih]
    | none => rw [List.filterMap_cons_none hs, ih]

/-- Every heading line becomes a heading with a section. -/
theorem Outline.headings_sections (o : Options) (t : Text) :
    List.Forall₂ (fun h s => ∃ below : Section, h = below.attach (s.heading o.headingKeywords))
      (Outline.read o t).headings (Starred.ofText t) := by
  have hheadings : (Outline.read o t).headings =
      Outline.readHeadings o (Line.sections (Line.ofText t)).2 := Tree.headingsOf_forest _
  unfold Starred.ofText
  rw [hheadings, ← Line.map_fst_sections]
  unfold Outline.readHeadings
  rw [List.forall₂_map_left_iff, List.forall₂_map_right_iff, List.forall₂_same]
  intro part _
  exact ⟨_, rfl⟩

/-- A heading of an outline and the line that it is read from. -/
def Heading.IsAt (h : Heading) (s : Starred) : Prop := h.offset = s.offset ∧ h.level = s.level

theorem Outline.headings_lines (o : Options) (t : Text) :
    List.Forall₂ Heading.IsAt (Outline.read o t).headings (Starred.ofText t) := by
  refine (Outline.headings_sections o t).imp ?_
  -- A section adds what stands below its heading line.
  rintro h s ⟨below, rfl⟩
  exact ⟨rfl, rfl⟩

/-- The level of heading line `i`. -/
def Starred.levelAt (hs : List Starred) (i : Nat) : Int :=
  (hs[i]?.map fun s => (s.level : Int)).getD 0

theorem Heading.levelAt_eq {hs : List Heading} {ls : List Starred}
    (hall : List.Forall₂ Heading.IsAt hs ls) : Heading.levelAt hs = Starred.levelAt ls := by
  funext i
  unfold Heading.levelAt Starred.levelAt
  induction hall generalizing i with
  | nil => rfl
  | cons hat _ ih =>
    cases i with
    | zero =>
      rw [List.getElem?_cons_zero, List.getElem?_cons_zero, Option.map_some, Option.map_some, hat.2]
    | succ i => exact ih i

/-- Heading lines stand where they are in the text, and lines follow each other. -/
theorem Starred.increasing_offsets (t : Text) :
    ((Starred.ofText t).map (·.offset)).Pairwise (· < ·) := by
  have hlines : ((Line.ofText t).map (·.offset)).Pairwise (· < ·) :=
    List.pairwise_map.mpr ((Line.before_ofText t).imp fun hb => by
      unfold Line.Before at hb
      omega)
  refine hlines.sublist ?_
  unfold Starred.ofText
  induction Line.ofText t with
  | nil => exact List.Sublist.refl []
  | cons l ls ih =>
    cases hs : Starred.ofLine? l with
    | none =>
      rw [List.filterMap_cons_none hs, List.map_cons]
      exact ih.cons _
    | some s =>
      rw [List.filterMap_cons_some hs, List.map_cons, List.map_cons, (Starred.stars_of_line hs).1]
      exact ih.cons_cons _

theorem Starred.nodup_offsets (t : Text) : ((Starred.ofText t).map (·.offset)).Nodup :=
  (Starred.increasing_offsets t).imp Int.ne_of_lt

/-- The headings of an outline stand one behind the other. -/
theorem Outline.increasing_offsets (o : Options) (t : Text) :
    ((Outline.read o t).headings.map (·.offset)).Pairwise (· < ·) := by
  have hsame : (Outline.read o t).headings.map (·.offset) =
      (Starred.ofText t).map (·.offset) :=
    map_eq_of_forall₂ (Outline.headings_lines o t) fun _ _ hat => hat.1
  rw [hsame]
  exact Starred.increasing_offsets t

/-- The headings of an outline stand at different positions. -/
theorem Outline.nodup_offsets (o : Options) (t : Text) :
    ((Outline.read o t).headings.map (·.offset)).Nodup :=
  (Outline.increasing_offsets o t).imp Int.ne_of_lt

end OutlineTables
