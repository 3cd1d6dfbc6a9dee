import OutlineTables.Proofs.Logbook.Legible
import OutlineTables.Proofs.Rows.References

/-!
Outlines that have rows. Main statement: an outline has rows unless one of its headings has an
effort that looks like a number and is none, or a dated timestamp with a count that is too long.
Everything else that cannot be read is left out of the rows.
-/
namespace OutlineTables

/-- A heading whose effort, timestamps and logbook entries are no fault. Timestamps of planning
words that are left out do not count. -/
structure Heading.Legible (o : Options) (types : List NoteType) (h : Heading) : Prop where
  effort : ∀ t, h.property? Rows.effortKey = some t → Duration.Legible t
  planning : ∀ p ∈ h.planning, ¬o.excludedPlanning.covers p.kind = true →
    Stamp.Legible p.stamp.text
  body : ∀ e ∈ h.timestamps, Stamp.Legible e.text
  log : ∀ e ∈ Rows.logEntries o h, e.Legible types

namespace Rows

variable {s : Scope} {h : Heading} {above : List Heading}

theorem exists_headingRow_iff : (∃ row, headingRow s h = .ok row) ↔
    ∀ t, h.property? effortKey = some t → Duration.Legible t := by
  unfold headingRow
  refine exists_option_iff (fun hnone => ?_) fun t ht => ?_
  · rw [hnone]
    exact ⟨_, rfl⟩
  · rw [ht]
    exact (exists_bind_of_forall fun effort => ⟨_, rfl⟩).trans Duration.exists_minutes_iff

theorem exists_ofPlanning_iff {p : Planning} : (∃ r, ofPlanning s h p = .ok r) ↔
    (¬s.options.excludedPlanning.covers p.kind = true → Stamp.Legible p.stamp.text) := by
  unfold ofPlanning
  rw [← ite_not]
  refine (exists_ite_iff ⟨_, rfl⟩).trans (imp_congr_right fun _ => ?_)
  refine (exists_bind_of_forall fun stamp => ?_).trans Stamp.exists_decode?_iff
  cases stamp <;> exact ⟨_, rfl⟩

theorem exists_ofBodyStamp_iff {e : Excerpt} :
    (∃ r, ofBodyStamp s h e = .ok r) ↔ Stamp.Legible e.text := by
  unfold ofBodyStamp
  refine (exists_bind_of_forall fun stamp => ?_).trans Stamp.exists_decode?_iff
  cases stamp with
  | none => exact ⟨_, rfl⟩
  | some st =>
    dsimp only
    split <;> exact ⟨_, rfl⟩

/-- The parts of a heading have rows each by itself. -/
theorem exists_ofHeading_iff :
    (∃ r, ofHeading s h above = .ok r) ↔ h.Legible s.options s.types := by
  have hparts : (∃ r, ofHeading s h above = .ok r) ↔ (∃ row, headingRow s h = .ok row) ∧
      (∃ planning, h.planning.mapM (ofPlanning s h) = .ok planning) ∧
      (∃ stamps, h.timestamps.mapM (ofBodyStamp s h) = .ok stamps) ∧
      ∃ log, LogRecord.classify s.types (logEntries s.options h) = .ok log := by
    unfold ofHeading
    refine exists_bind_and_iff fun row => exists_bind_and_iff fun planning =>
      exists_bind_and_iff fun stamps => exists_bind_of_forall fun log => ⟨_, rfl⟩
  rw [hparts, exists_headingRow_iff, exists_mapM_iff, exists_mapM_iff]
  unfold LogRecord.classify
  rw [LogRecord.exists_classifyAfter_iff]
  simp only [exists_ofPlanning_iff, exists_ofBodyStamp_iff]
  constructor
  · rintro ⟨heffort, hplanning, hbody, hlog⟩
    exact ⟨heffort, hplanning, hbody, hlog⟩
  · intro hlegible
    exact ⟨hlegible.effort, hlegible.planning, hlegible.body, hlegible.log⟩

/-- An outline has rows exactly if all its headings do. -/
theorem exists_ofOutline_iff (o : Options) (x : Outline) (file md5 : Text) (size : Option Int) :
    (∃ r, ofOutline o x file md5 size = .ok r) ↔
      ∀ h ∈ x.headings, h.Legible o (NoteType.all o.templates) := by
  unfold ofOutline
  dsimp only
  rw [exists_bind_of_forall fun rows => ⟨_, rfl⟩, exists_mapM_iff]
  have hheading (p : Heading × List Heading) :
      (∃ r, ofHeading (Scope.ofOptions o file (firsts x.tags)) p.1 p.2 = .ok r) ↔
        p.1.Legible o (NoteType.all o.templates) := exists_ofHeading_iff
  simp only [hheading]
  -- The ancestors of a heading make no difference.
  conv_rhs => rw [← Heading.map_fst_withAncestors [] x.headings, List.forall_mem_map]

/-- A superscript digit for an effort, which is taken for a digit and then for no number. -/
theorem ofOutline_effort_superscript :
    let t := "* a\n:PROPERTIES:\n:Effort: ²\n:END:\n".toList
    ofOutline .default (Outline.read .default t) "a.org".toList "md5".toList (some 35) =
      .error (.notDecimal ['²']) := by
  decide +kernel

end Rows

end OutlineTables
