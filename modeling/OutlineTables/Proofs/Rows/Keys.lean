import OutlineTables.Proofs.Rows.Positions
import OutlineTables.Proofs.Rows.Targets

/-!
Keys with positions. Where the primary key of a table holds a position, no two rows that are read
from one text have the same key.
-/
namespace OutlineTables

theorem forall₂_of_common {α β γ : Type} {R : α → β → Prop} {S : α → γ → Prop} {as : List α}
    {bs : List β} {cs : List γ} (hb : List.Forall₂ R as bs) (hc : List.Forall₂ S as cs) :
    List.Forall₂ (fun b c => ∃ a ∈ as, R a b ∧ S a c) bs cs := by
  induction hb generalizing cs with
  | nil =>
    cases hc
    exact List.Forall₂.nil
  | @cons a b as bs ha _ ih =>
    obtain ⟨c, cs, hac, hcs, rfl⟩ := List.forall₂_cons_left_iff.mp hc
    refine List.Forall₂.cons ⟨a, List.mem_cons_self, ha, hac⟩ ((ih hcs).imp ?_)
    rintro b' c' ⟨a', hm, hab⟩
    exact ⟨a', List.mem_cons_of_mem a hm, hab⟩

namespace Rows

variable {f : Rows → List Int} {o : Options} {t file md5 : Text} {size : Option Int} {r : Rows}

/-- What a text has to offer to a list of positions, heading by heading. -/
theorem Lists.owned_ofText (hf : Lists f) (hfile : SkipsFile f)
    (hp : ∀ s p, (f (ofProperty s p { fileProperties := [⟨s.file, p.offset⟩] })).Sublist [p.offset])
    (hh : ∀ s h above r l ls, h.StandsIn s.options l ls → (l :: ls).Pairwise Line.Apart →
      ofHeading s h above = .ok r → Owned (l :: ls) (f r))
    (hr : ofOutline o (Outline.read o t) file md5 size = .ok r) : Owned (Line.ofText t) (f r) := by
  obtain ⟨rows, hrows, rfl⟩ := ofOutline_eq_ok.mp hr
  obtain ⟨front, groups, hlines, hfront, hgroups⟩ := Outline.exists_groups o t
  have ha := Line.apart_ofText t
  rw [← hlines] at ha ⊢
  rw [hf.concat, List.flatMap_cons]
  refine Owned.append ?_ ?_ ha
  · unfold ofFile
    rw [hf.concat, List.flatMap_cons, hfile, List.nil_append, List.flatMap_map]
    exact hfront.sublist (sublist_flatMap fun p _ => hp _ p)
  · have hapart := (List.pairwise_append.mp ha).2.1
    rw [← Heading.map_fst_withAncestors [] (Outline.read o t).headings,
      List.forall₂_map_left_iff] at hgroups
    refine owned_flatMap ?_ hapart
    -- Headings have lines on one side and rows on the other; what they share pairs the two.
    have hboth := forall₂_of_common hgroups (mapM_eq_ok.mp hrows)
    have hall := (List.forall₂_and_left _ _).mpr ⟨fun g (hg : g ∈ groups) => hg, hboth⟩
    refine hall.imp ?_
    rintro ⟨l, ls⟩ a ⟨hg, ⟨h, above⟩, -, hin, ha⟩
    have hsub := List.sublist_flatten_of_mem (List.mem_map_of_mem (f := fun g => g.1 :: g.2) hg)
    rw [← List.flatMap_def] at hsub
    exact hh _ h above a l ls hin (hapart.sublist hsub) ha

theorem SkipsProperties.sublist (hf : SkipsProperties f) (s : Scope) (p : Property) :
    (f (ofProperty s p { fileProperties := [⟨s.file, p.offset⟩] })).Sublist [p.offset] := by
  rw [hf.of_property s p [] [⟨s.file, p.offset⟩]]
  exact List.nil_sublist _

/-- A list of records of logbooks. -/
theorem Lists.owned_log_ofText (hf : Lists f) (hfile : SkipsFile f) (hh : SkipsHeading f)
    (hp : SkipsProperties f) (ht : SkipsStamps f)
    (hg : ∀ s h, LogRecord.Positions fun x => f (ofRecord s h x))
    (hr : ofOutline o (Outline.read o t) file md5 size = .ok r) : Owned (Line.ofText t) (f r) := by
  refine hf.owned_ofText hfile hp.sublist ?_ hr
  intro s h above r l ls hin ha hr
  exact (hf.owned_log hh hp ht (hg s h) hin (List.pairwise_cons.mp ha).2 hr).mono
    (List.subset_cons_self l ls)

/-- Records that are made of notes only have positions where the notes have them. -/
theorem positions_ofNotes {s : Scope} {h : Heading} (hnil : f {} = [])
    (hclocks : ∀ cs, f { clocks := cs } = [])
    (hnotes : ∀ n l, Line.Covers l n.offset →
      (∀ p st, n.oldStamp = some (p, st) → Line.Covers l p) → Owned [l] (f (ofNote s h n))) :
    LogRecord.Positions fun x => f (ofRecord s h x) where
  clock c l _ := by
    unfold ofRecord ofClock
    dsimp only
    split
    · rw [hnil]
      exact owned_nil [l]
    · rw [hclocks]
      exact owned_nil [l]
  note := hnotes

/-! One table after the other. -/

section Tables

variable (hr : ofOutline o (Outline.read o t) file md5 size = .ok r)

include hr

theorem owned_headings : Owned (Line.ofText t) (r.headings.map (·.offset)) := by
  have hf : Lists fun r => r.headings.map (·.offset) := ⟨rfl, fun _ _ => List.map_append⟩
  have hp : SkipsProperties fun r => r.headings.map (·.offset) := fun _ _ _ => rfl
  refine hf.owned_ofText (fun _ _ => rfl) hp.sublist ?_ hr
  intro s h above r l ls hin _ hr
  obtain ⟨row, hrow, hown⟩ := hf.of_own hp (fun _ _ => rfl) (fun _ _ _ _ _ => rfl) hr
  have hl : l.Covers row.offset := (headingRow_position hrow).2 ▸ hin.offset
  rw [hown]
  exact (owned_one hl).mono (List.cons_subset_cons l (List.nil_subset ls))

theorem owned_links : Owned (Line.ofText t) (r.links.map (·.offset)) := by
  have hf : Lists fun r => r.links.map (·.offset) := ⟨rfl, fun _ _ => List.map_append⟩
  have hp : SkipsProperties fun r => r.links.map (·.offset) := fun _ _ _ => rfl
  refine hf.owned_ofText (fun _ _ => rfl) hp.sublist ?_ hr
  intro s h above r l ls hin _ hr
  obtain ⟨row, -, hown⟩ := hf.of_own hp (fun _ _ => rfl) (fun _ _ _ _ _ => rfl) hr
  rw [hown]
  dsimp only
  rw [List.map_flatMap]
  refine (hin.links.sublist (sublist_flatMap fun e _ => ?_)).mono (List.subset_cons_self l ls)
  unfold ofLink
  split
  · split
    · exact List.nil_sublist _
    · exact List.Sublist.refl _
  · exact List.nil_sublist _

theorem owned_properties : Owned (Line.ofText t) (r.properties.map (·.offset)) := by
  have hf : Lists fun r => r.properties.map (·.offset) := ⟨rfl, fun _ _ => List.map_append⟩
  have hp (s : Scope) (p : Property) (link : Rows) (hl : link.properties = []) :
      ((ofProperty s p link).properties.map (·.offset)).Sublist [p.offset] := by
    unfold ofProperty append
    split
    · exact List.nil_sublist _
    · rw [hl]
      exact List.Sublist.refl _
  refine hf.owned_ofText (fun _ _ => rfl) (fun s p => hp s p _ rfl) ?_ hr
  intro s h above r l ls hin _ hr
  exact (hf.owned_properties (fun _ _ _ _ => rfl) (fun _ _ => rfl) (fun _ _ _ _ _ => rfl) hin
    (fun p => hp s p _ rfl) hr).mono (List.subset_cons_self l ls)

theorem owned_fileProperties : Owned (Line.ofText t) (r.fileProperties.map (·.property)) := by
  have hf : Lists fun r => r.fileProperties.map (·.property) := ⟨rfl, fun _ _ => List.map_append⟩
  refine hf.owned_ofText (fun _ _ => rfl) ?_ ?_ hr
  · intro s p
    unfold ofProperty
    split
    · exact List.nil_sublist _
    · exact List.Sublist.refl _
  · intro s h above r l ls hin _ hr
    refine (hf.owned_properties (fun _ _ _ _ => rfl) (fun _ _ => rfl) (fun _ _ _ _ _ => rfl) hin
      ?_ hr).mono (List.subset_cons_self l ls)
    intro p
    unfold ofProperty
    split <;> exact List.nil_sublist _

theorem owned_headingProperties : Owned (Line.ofText t) (r.headingProperties.map (·.property)) := by
  have hf : Lists fun r => r.headingProperties.map (·.property) :=
    ⟨rfl, fun _ _ => List.map_append⟩
  refine hf.owned_ofText (fun _ _ => rfl) ?_ ?_ hr
  · intro s p
    unfold ofProperty
    split <;> exact List.nil_sublist _
  · intro s h above r l ls hin _ hr
    refine (hf.owned_properties (fun _ _ _ _ => rfl) (fun _ _ => rfl) (fun _ _ _ _ _ => rfl) hin
      ?_ hr).mono (List.subset_cons_self l ls)
    intro p
    unfold ofProperty
    split
    · exact List.nil_sublist _
    · exact List.Sublist.refl _

theorem owned_clocks : Owned (Line.ofText t) (r.clocks.map (·.offset)) := by
  have hf : Lists fun r => r.clocks.map (·.offset) := ⟨rfl, fun _ _ => List.map_append⟩
  refine hf.owned_log_ofText (fun _ _ => rfl) (fun _ _ _ _ => rfl) (fun _ _ _ => rfl)
    (fun _ _ => rfl) (fun s h => ⟨?_, ?_⟩) hr
  · intro c l hc
    unfold ofRecord ofClock
    dsimp only
    split
    · exact owned_nil [l]
    · exact owned_one hc
  · intro n l _ _
    unfold ofRecord ofNote
    dsimp only
    repeat' split
    all_goals exact owned_nil [l]

theorem owned_notes : Owned (Line.ofText t) (r.notes.map (·.offset)) := by
  have hf : Lists fun r => r.notes.map (·.offset) := ⟨rfl, fun _ _ => List.map_append⟩
  refine hf.owned_log_ofText (fun _ _ => rfl) (fun _ _ _ _ => rfl) (fun _ _ _ => rfl)
    (fun _ _ => rfl) (fun s h => positions_ofNotes (f := fun r => r.notes.map (·.offset))
      rfl (fun _ => rfl) ?_) hr
  intro n l hn _
  rcases ofNote_cases s h n with ⟨-, he⟩ | ⟨-, -, he⟩ | ⟨pos, st, -, -, -, he⟩ | ⟨-, -, -, he⟩ <;>
    rw [he]
  · exact owned_nil [l]
  · exact owned_one hn
  · exact owned_one hn
  · exact owned_one hn

theorem owned_states : Owned (Line.ofText t) (r.states.map (·.note)) := by
  have hf : Lists fun r => r.states.map (·.note) := ⟨rfl, fun _ _ => List.map_append⟩
  refine hf.owned_log_ofText (fun _ _ => rfl) (fun _ _ _ _ => rfl) (fun _ _ _ => rfl)
    (fun _ _ => rfl) (fun s h => positions_ofNotes (f := fun r => r.states.map (·.note))
      rfl (fun _ => rfl) ?_) hr
  intro n l hn _
  rcases ofNote_cases s h n with ⟨-, he⟩ | ⟨-, -, he⟩ | ⟨pos, st, -, -, -, he⟩ | ⟨-, -, -, he⟩ <;>
    rw [he]
  · exact owned_nil [l]
  · exact owned_one hn
  · exact owned_nil [l]
  · exact owned_nil [l]

theorem owned_planningChanges : Owned (Line.ofText t) (r.planningChanges.map (·.note)) := by
  have hf : Lists fun r => r.planningChanges.map (·.note) := ⟨rfl, fun _ _ => List.map_append⟩
  refine hf.owned_log_ofText (fun _ _ => rfl) (fun _ _ _ _ => rfl) (fun _ _ _ => rfl)
    (fun _ _ => rfl) (fun s h => positions_ofNotes (f := fun r => r.planningChanges.map (·.note))
      rfl (fun _ => rfl) ?_) hr
  intro n l hn _
  rcases ofNote_cases s h n with ⟨-, he⟩ | ⟨-, -, he⟩ | ⟨pos, st, -, -, -, he⟩ | ⟨-, -, -, he⟩ <;>
    rw [he]
  · exact owned_nil [l]
  · exact owned_nil [l]
  · exact owned_one hn
  · exact owned_nil [l]

/-- Timestamps of planning lines, of bodies and of notes never stand at one position. -/
theorem owned_stamps : Owned (Line.ofText t) (r.stamps.map (·.offset)) := by
  have hf : Lists fun r => r.stamps.map (·.offset) := ⟨rfl, fun _ _ => List.map_append⟩
  have hp : SkipsProperties fun r => r.stamps.map (·.offset) := fun _ _ _ => rfl
  refine hf.owned_ofText (fun _ _ => rfl) hp.sublist ?_ hr
  intro s h above r l ls hin ha hr
  refine (hf.owned_stamps (fun _ _ _ _ => rfl) hp ?_ ?_
    (positions_ofNotes (f := fun r => r.stamps.map (·.offset)) rfl (fun _ => rfl) ?_) hin
      (List.pairwise_cons.mp ha).2 hr).mono (List.subset_cons_self l ls)
  · intro p r hr
    rcases ofPlanning_eq_ok.mp hr with ⟨-, rfl⟩ | ⟨-, -, rfl⟩ | ⟨st, -, -, rfl⟩
    · exact List.nil_sublist _
    · exact List.nil_sublist _
    · exact List.Sublist.refl _
  · intro e r hr
    rcases ofBodyStamp_eq_ok.mp hr with ⟨-, rfl⟩ | ⟨st, -, ⟨-, rfl⟩ | ⟨-, rfl⟩⟩
    · exact List.nil_sublist _
    · exact List.nil_sublist _
    · exact List.Sublist.refl _
  · intro n l _ hold
    rcases ofNote_cases s h n with ⟨-, he⟩ | ⟨-, -, he⟩ | ⟨pos, st, -, -, hst, he⟩ | ⟨-, -, -, he⟩ <;>
      rw [he]
    · exact owned_nil [l]
    · exact owned_nil [l]
    · exact owned_one (hold pos st hst)
    · exact owned_nil [l]

end Tables

/-- Rows that are different in some way have different keys if those say it. -/
theorem nodup_keys_of {α κ : Type} {as : List α} {record : α → Record} {key : α → κ}
    {columns : List String}
    (hkey : ∀ a b, (record a).key columns = (record b).key columns → key a = key b)
    (hn : (as.map key).Nodup) : ((as.map record).map (Record.key columns)).Nodup := by
  unfold List.Nodup at hn ⊢
  rw [List.pairwise_map] at hn
  rw [List.map_map, List.pairwise_map]
  exact hn.imp fun hne he => hne (hkey _ _ he)

/-- Keys that hold different positions, behind the path, are different. -/
theorem nodup_keys {α : Type} {as : List α} {record : α → Record} {position : α → Int}
    {columns : List String}
    (hkey : ∀ a, ((record a).key columns)[1]? = some (some (.int (position a))))
    (hn : (as.map position).Nodup) : ((as.map record).map (Record.key columns)).Nodup := by
  refine nodup_keys_of (fun a b h => ?_) hn
  have hposition : some (some (Value.int (position a))) = some (some (.int (position b))) := by
    rw [← hkey a, ← hkey b, h]
  simpa using hposition

/-- No two rows that are read from one text have the same key, in all tables whose keys hold
positions; and no two timestamps have the same position. -/
theorem nodup_ofText (hr : ofOutline o (Outline.read o t) file md5 size = .ok r) :
    (∀ table ∈ [headlinesTable, timestampsTable, propertiesTable, filePropertiesTable,
        headlinePropertiesTable, linksTable, clockingTable, logbookTable, statesTable,
        planningChangesTable],
      ((r.recordsOf table.name).map (Record.key table.primaryKey)).Nodup) ∧
    (r.stamps.map (·.offset)).Nodup := by
  refine ⟨?_, (owned_stamps hr).nodup⟩
  simp only [List.forall_mem_cons]
  refine ⟨?_, ?_, ?_, ?_, ?_, ?_, ?_, ?_, ?_, ?_, fun _ h => absurd h List.not_mem_nil⟩
  · exact nodup_keys (fun _ => rfl) (owned_headings hr).nodup
  · exact nodup_keys (fun _ => rfl) (owned_stamps hr).nodup
  · exact nodup_keys (fun _ => rfl) (owned_properties hr).nodup
  · exact nodup_keys (fun _ => rfl) (owned_fileProperties hr).nodup
  · exact nodup_keys (fun _ => rfl) (owned_headingProperties hr).nodup
  · exact nodup_keys (fun _ => rfl) (owned_links hr).nodup
  · exact nodup_keys (fun _ => rfl) (owned_clocks hr).nodup
  · exact nodup_keys (fun _ => rfl) (owned_notes hr).nodup
  · exact nodup_keys (fun _ => rfl) (owned_states hr).nodup
  · exact nodup_keys (fun _ => rfl) (owned_planningChanges hr).nodup

/-- Three timestamps, one of them in a note. -/
theorem nodup_ofText_rescheduled :
    let t := ("* a\nSCHEDULED: <2024-01-01>\n:LOGBOOK:\n" ++
      "- Rescheduled from \"[2024-01-02]\" on [2024-01-03]\n:END:\n<2024-01-04>").toList
    ∃ r, ofOutline .default (Outline.read .default t) "a.org".toList [] none = .ok r ∧
      r.stamps.length = 3 ∧
      (∀ table ∈ [headlinesTable, timestampsTable, propertiesTable, filePropertiesTable,
          headlinePropertiesTable, linksTable, clockingTable, logbookTable, statesTable,
          planningChangesTable],
        ((r.recordsOf table.name).map (Record.key table.primaryKey)).Nodup) ∧
      (r.stamps.map (·.offset)).Nodup := by
  intro t
  have h : ((ofOutline .default (Outline.read .default t) "a.org".toList [] none).map
      fun r => r.stamps.length).toOption = some 3 := by
    decide +kernel
  cases hr : ofOutline .default (Outline.read .default t) "a.org".toList [] none with
  | error e =>
    rw [hr] at h
    cases h
  | ok r =>
    rw [hr] at h
    exact ⟨r, rfl, Option.some.inj h, nodup_ofText hr⟩

end Rows

end OutlineTables
