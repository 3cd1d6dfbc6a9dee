import OutlineTables.Proofs.Logbook.Positions
import OutlineTables.Proofs.Rows.Lists

/-!
Positions in rows. The rows of one table stand at different positions of the text, since each of
them comes from a part of the outline that has lines of its own.
-/
namespace OutlineTables

namespace Rows

section Lists

variable {f : Rows → List Int} {s : Scope} {h : Heading} {above : List Heading} {r : Rows}
  {l : Line} {ls : List Line}

theorem sublist_flatMap {α : Type} {as : List α} {g : α → List Int} {position : α → Int}
    (h : ∀ a ∈ as, (g a).Sublist [position a]) : (as.flatMap g).Sublist (as.map position) := by
  induction as with
  | nil => exact List.Sublist.refl []
  | cons a as ih =>
    rw [List.flatMap_cons, List.map_cons]
    exact (h a List.mem_cons_self).append (ih fun b hb => h b (List.mem_cons_of_mem _ hb))

/-- A list of properties. -/
theorem Lists.owned_properties (hf : Lists f) (hh : SkipsHeading f) (ht : SkipsStamps f)
    (hg : SkipsLog f) (hin : h.StandsIn s.options l ls)
    (hp : ∀ p, (f (ofProperty s p { headingProperties := [⟨s.file, p.offset, h.offset⟩] })).Sublist
      [p.offset]) (hr : ofHeading s h above = .ok r) : Owned ls (f r) := by
  obtain ⟨row, planning, stamps, log, hrow, hplanning, hstamps, -, hr⟩ := hf.of_heading hr
  rw [hh, ht.of_plannings hplanning, ht.of_bodyStamps hstamps, hg.of_records] at hr
  simp only [List.append_nil, List.nil_append] at hr
  rw [hr]
  exact hin.properties.sublist (sublist_flatMap fun p _ => hp p)

/-- A list of records of the logbook. -/
theorem Lists.owned_log (hf : Lists f) (hh : SkipsHeading f) (hp : SkipsProperties f)
    (ht : SkipsStamps f) (hg : LogRecord.Positions fun x => f (ofRecord s h x))
    (hin : h.StandsIn s.options l ls) (ha : ls.Pairwise Line.Apart)
    (hr : ofHeading s h above = .ok r) : Owned ls (f r) := by
  obtain ⟨row, planning, stamps, log, hrow, hplanning, hstamps, hlog, hr⟩ := hf.of_heading hr
  rw [hh, hp.of_properties, ht.of_plannings hplanning, ht.of_bodyStamps hstamps] at hr
  simp only [List.append_nil, List.nil_append] at hr
  rw [hr]
  obtain ⟨first, body, heads, -, -, hheads, hsub⟩ := hin.parts
  have hapart := Line.apart_subperm hsub ha
  have hown := LogRecord.owned_classify hg hheads
    (List.pairwise_append.mp (List.pairwise_append.mp hapart).2.1).2.1 hlog
  refine hown.mono fun x hx => hsub.subset ?_
  exact List.mem_append_right _ (List.mem_append_right _ hx)

/-- A list of timestamps, which stand in planning lines, body lines and notes. -/
theorem Lists.owned_stamps (hf : Lists f) (hh : SkipsHeading f) (hp : SkipsProperties f)
    (hplanning : ∀ p r, ofPlanning s h p = .ok r → (f r).Sublist [p.stamp.offset])
    (hbody : ∀ e r, ofBodyStamp s h e = .ok r → (f r).Sublist [e.offset])
    (hg : LogRecord.Positions fun x => f (ofRecord s h x))
    (hin : h.StandsIn s.options l ls) (ha : ls.Pairwise Line.Apart)
    (hr : ofHeading s h above = .ok r) : Owned ls (f r) := by
  obtain ⟨row, planning, stamps, log, hrow, hplannings, hstamps, hlog, hr⟩ := hf.of_heading hr
  rw [hh, hp.of_properties] at hr
  simp only [List.nil_append, List.append_assoc] at hr
  rw [hr]
  have hsublist {α : Type} {g : α → Except NumeralFault Rows} {position : α → Int}
      (hg : ∀ a r, g a = .ok r → (f r).Sublist [position a]) {as : List α} {rs : List Rows}
      (h : as.mapM g = .ok rs) : (rs.flatMap f).Sublist (as.map position) := by
    have hall := mapM_eq_ok.mp h
    clear h
    induction hall with
    | nil => exact List.Sublist.refl []
    | cons ha _ ih => exact (hg _ _ ha).append ih
  -- Planning line, body lines and the first lines of items are apart from each other.
  obtain ⟨first, body, heads, hfirst, hbodies, hheads, hsub⟩ := hin.parts
  have hapart := Line.apart_subperm hsub ha
  have hrest := (List.pairwise_append.mp hapart).2.1
  have hlogs := LogRecord.owned_classify hg hheads (List.pairwise_append.mp hrest).2.1 hlog
  have hlater := (hbodies.sublist (hsublist hbody hstamps)).append hlogs hrest
  exact ((hfirst.sublist (hsublist hplanning hplannings)).append hlater hapart).mono hsub.subset

end Lists

end Rows

end OutlineTables
