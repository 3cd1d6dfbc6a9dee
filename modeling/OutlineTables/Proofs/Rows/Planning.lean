import OutlineTables.Proofs.Outline.HeadingLines
import OutlineTables.Proofs.Rows.Lists

/-!
Planning rows. A heading has one for each of its planning words that is not excluded and whose
timestamp has a date, so two rows have one key exactly if a heading has such a word twice.
-/
namespace OutlineTables

/-- The text is that of a timestamp with a date. -/
def Stamp.dated (raw : Text) : Bool :=
  match decode? raw with
  | .ok (some _) => true
  | _ => false

/-- The planning words of the heading that have rows. -/
def Heading.planned (o : Options) (h : Heading) : List Planning :=
  h.planning.filter fun p => !o.excludedPlanning.covers p.kind && Stamp.dated p.stamp.text

/-- No heading has a planning word in two rows. -/
def Outline.PlansOnce (o : Options) (x : Outline) : Prop :=
  ∀ h ∈ x.headings, ((h.planned o).map (·.kind)).Nodup

theorem nodup_map_iff {α β γ : Type} {f : α → β} {g : α → γ} {as : List α}
    (h : ∀ a ∈ as, ∀ b ∈ as, f a = f b ↔ g a = g b) : (as.map f).Nodup ↔ (as.map g).Nodup := by
  unfold List.Nodup
  rw [List.pairwise_map, List.pairwise_map]
  exact List.Pairwise.iff_of_mem fun ha hb => not_congr (h _ ha _ hb)

namespace Rows

/-- The row of a planning word. -/
def planningRow (file : Text) (h : Heading) (p : Planning) : PlanningRow :=
  ⟨file, h.offset, p.kind, p.stamp.offset⟩

section

variable {s : Scope} {h : Heading} {above : List Heading} {r : Rows}

theorem planning_ofBodyStamp {e : Excerpt} (hr : ofBodyStamp s h e = .ok r) : r.planning = [] := by
  rcases ofBodyStamp_eq_ok.mp hr with ⟨-, rfl⟩ | ⟨st, -, ⟨-, rfl⟩ | ⟨-, rfl⟩⟩ <;> rfl

theorem planning_ofPlanning {p : Planning} (hr : ofPlanning s h p = .ok r) :
    r.planning = if !s.options.excludedPlanning.covers p.kind && Stamp.dated p.stamp.text
      then [planningRow s.file h p] else [] := by
  rcases ofPlanning_eq_ok.mp hr with ⟨hx, rfl⟩ | ⟨-, hstamp, rfl⟩ | ⟨st, hx, hstamp, rfl⟩
  · simp [hx]
  · simp [Stamp.dated, hstamp]
  · simp [Stamp.dated, hstamp, hx, planningRow, plannedRows]

theorem planning_ofHeading (hr : ofHeading s h above = .ok r) :
    r.planning = (h.planned s.options).map (planningRow s.file h) := by
  have hf : Lists fun r : Rows => r.planning := ⟨rfl, fun _ _ => rfl⟩
  have hp : SkipsProperties fun r : Rows => r.planning := fun _ _ _ => rfl
  have hg : SkipsLog fun r : Rows => r.planning := fun _ _ _ _ _ => rfl
  obtain ⟨row, planning, stamps, log, -, hplanning, hstamps, -, hr⟩ := hf.of_heading hr
  have hnone : stamps.flatMap (·.planning) = [] := by
    refine List.flatMap_eq_nil_iff.mpr fun a ha => ?_
    obtain ⟨e, -, hea⟩ := exists_of_mem_mapM hstamps ha
    exact planning_ofBodyStamp hea
  rw [hp.of_properties, hnone, hg.of_records] at hr
  simp only [List.append_nil, List.nil_append] at hr
  rw [hr]
  unfold Heading.planned
  -- Word by word, together with the rows that each has.
  have hall := mapM_eq_ok.mp hplanning
  clear hr hplanning
  generalize h.planning = ps at hall ⊢
  induction hall with
  | nil => rfl
  | @cons p a ps as ha _ ih =>
    rw [List.flatMap_cons, ih, planning_ofPlanning ha, List.filter_cons]
    split <;> rfl

end

variable {o : Options} {x : Outline} {file md5 : Text} {size : Option Int} {r : Rows}

theorem planning_ofOutline (hr : ofOutline o x file md5 size = .ok r) :
    r.planning = (Heading.withAncestors [] x.headings).flatMap fun p =>
      (p.1.planned o).map (planningRow file p.1) := by
  have hf : Lists fun r : Rows => r.planning := ⟨rfl, fun _ _ => rfl⟩
  have hp : SkipsProperties fun r : Rows => r.planning := fun _ _ _ => rfl
  exact hf.of_outline (fun _ _ => rfl) hp (fun _ _ _ ha => planning_ofHeading ha) hr

/-- Two planning rows of one heading and one word come from that heading. -/
theorem nodup_planning_iff (hn : (x.headings.map (·.offset)).Nodup)
    (hr : ofOutline o x file md5 size = .ok r) :
    (r.planning.map fun row => (row.heading, row.kind)).Nodup ↔ x.PlansOnce o := by
  rw [planning_ofOutline hr]
  have hkinds (h : Heading) : ((h.planned o).map (planningRow file h)).map (·.kind) =
      (h.planned o).map (·.kind) := by
    rw [List.map_map]
    rfl
  constructor
  · intro hnodup h hh
    rw [← Heading.map_fst_withAncestors [] x.headings] at hh
    obtain ⟨p, hp, rfl⟩ := List.mem_map.mp hh
    rw [List.map_flatMap, List.nodup_flatMap] at hnodup
    have hone := hnodup.1 p hp
    rw [List.map_map] at hone
    refine List.Nodup.of_map (fun kind => (p.1.offset, kind)) ?_
    rw [List.map_map]
    exact hone
  · intro hplans
    apply nodup_headings hn
    · intro p _ row hrow
      obtain ⟨q, -, rfl⟩ := List.mem_map.mp hrow
      rfl
    · intro p hp
      rw [hkinds]
      apply hplans
      rw [← Heading.map_fst_withAncestors [] x.headings]
      exact List.mem_map_of_mem hp

end Rows

end OutlineTables
