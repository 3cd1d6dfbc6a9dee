import Mathlib.Data.List.Nodup
import OutlineTables.Options.Basic
import OutlineTables.Rows.Basic

/-!
Options that leave rows out, each as a projection of the rows that there are without it. A
projection follows the references between rows, so that it distributes over groups of rows that
refer to each other within a group only.
-/
namespace OutlineTables

/-- An option that leaves rows out, at one of its values. -/
inductive Restriction where
  | tags (x : Exclusion Text)
  | properties (x : Exclusion Text)
  | links (x : Exclusion Text)
  | planning (x : Exclusion PlanningKind)
  | bodyStamps (x : Exclusion StampKind)
  | notes (x : Exclusion Text)
  | clocks (out : Bool)
  | clockNotes (out : Bool)

namespace Rows

/-- Positions of the timestamps that planning lines and notes refer to. -/
def boundStamps (r : Rows) : List Int :=
  r.planning.map (·.stamp) ++ r.planningChanges.map (·.stamp)

/-- Positions of the properties of the keys that are left out. -/
def propertiesUnder (x : Exclusion Text) (r : Rows) : List Int :=
  (r.properties.filter fun a => x.covers a.key).map (·.offset)

/-- Positions of the timestamps that planning words of the left out kinds refer to. -/
def plannedUnder (x : Exclusion PlanningKind) (r : Rows) : List Int :=
  (r.planning.filter fun a => x.covers a.kind).map (·.stamp)

/-- Positions of the notes of the types that are left out. -/
def notesUnder (x : Exclusion Text) (r : Rows) : List Int :=
  (r.notes.filter fun a => x.covers a.type).map (·.offset)

/-- Positions of the timestamps that those notes refer to. -/
def replacedUnder (x : Exclusion Text) (r : Rows) : List Int :=
  (r.planningChanges.filter fun a => a.note ∈ r.notesUnder x).map (·.stamp)

end Rows

namespace Restriction

/-- The options with the restriction lifted. -/
def lift : Restriction → Options → Options
  | tags _, o => { o with excludedTags := .nothing }
  | properties _, o => { o with excludedProperties := .nothing }
  | links _, o => { o with excludedLinks := .nothing }
  | planning _, o => { o with excludedPlanning := .nothing }
  | bodyStamps _, o => { o with excludedStamps := .nothing }
  | notes _, o => { o with excludedNotes := .nothing }
  | clocks _, o => { o with excludeClocks := false }
  | clockNotes _, o => { o with excludeClockNotes := false }

/-- The options with the restriction imposed. -/
def impose : Restriction → Options → Options
  | tags x, o => { o with excludedTags := x }
  | properties x, o => { o with excludedProperties := x }
  | links x, o => { o with excludedLinks := x }
  | planning x, o => { o with excludedPlanning := x }
  | bodyStamps x, o => { o with excludedStamps := x }
  | notes x, o => { o with excludedNotes := x }
  | clocks out, o => { o with excludeClocks := out }
  | clockNotes out, o => { o with excludeClockNotes := out }

/-- What is kept of the rows that there are without the restriction. -/
def keep : Restriction → Rows → Rows
  | tags x, r => { r with
      fileTags := r.fileTags.filter fun a => !x.covers a.tag
      headingTags := r.headingTags.filter fun a => !x.covers a.tag }
  | properties x, r => { r with
      properties := r.properties.filter fun a => !x.covers a.key
      fileProperties := r.fileProperties.filter fun a => a.property ∉ r.propertiesUnder x
      headingProperties := r.headingProperties.filter fun a => a.property ∉ r.propertiesUnder x }
  | links x, r => { r with links := r.links.filter fun a => !x.covers a.link.type }
  | planning x, r => { r with
      planning := r.planning.filter fun a => !x.covers a.kind
      stamps := r.stamps.filter fun a => a.offset ∉ r.plannedUnder x }
  | bodyStamps x, r => { r with
      stamps := r.stamps.filter fun a =>
        a.offset ∈ r.boundStamps || !x.covers (StampKind.ofActive a.stamp.active) }
  | notes x, r => { r with
      notes := r.notes.filter fun a => !x.covers a.type
      states := r.states.filter fun a => a.note ∉ r.notesUnder x
      planningChanges := r.planningChanges.filter fun a => a.note ∉ r.notesUnder x
      stamps := r.stamps.filter fun a => a.offset ∉ r.replacedUnder x }
  | clocks out, r => { r with clocks := if out then [] else r.clocks }
  | clockNotes out, r => { r with
      clocks := if out then r.clocks.map fun a => { a with note := none } else r.clocks }

end Restriction

/-- Two lists are filtered separately if a key that is marked for one of them is not among the
keys of the other. What `q` says of a member may depend on its mark. -/
theorem filter_marked_append {α : Type} (q : Bool → α → Bool) (key : α → Int) {as bs : List α}
    {ka kb ga gb g : List Int} (has : as.map key ⊆ ka) (hbs : bs.map key ⊆ kb) (hga : ga ⊆ ka)
    (hgb : gb ⊆ kb) (hd : ka.Disjoint kb) (hg : ∀ k, k ∈ g ↔ k ∈ ga ∨ k ∈ gb) :
    (as ++ bs).filter (fun x => q (decide (key x ∈ g)) x) =
      as.filter (fun x => q (decide (key x ∈ ga)) x) ++
        bs.filter (fun x => q (decide (key x ∈ gb)) x) := by
  have hleft (x : α) (hx : x ∈ as) : key x ∈ g ↔ key x ∈ ga := by
    have hnot : key x ∉ gb := fun h => hd (has (List.mem_map_of_mem hx)) (hgb h)
    rw [hg, or_iff_left hnot]
  have hright (x : α) (hx : x ∈ bs) : key x ∈ g ↔ key x ∈ gb := by
    have hnot : key x ∉ ga := fun h => hd (hga h) (hbs (List.mem_map_of_mem hx))
    rw [hg, or_iff_right hnot]
  rw [List.filter_append]
  congr 1
  · apply List.filter_congr
    intro x hx
    simp only [hleft x hx]
  · apply List.filter_congr
    intro x hx
    simp only [hright x hx]

/-- Only what is not marked is kept. -/
theorem filter_unmarked_append {α : Type} (key : α → Int) {as bs : List α}
    {ka kb ga gb g : List Int} (has : as.map key ⊆ ka) (hbs : bs.map key ⊆ kb) (hga : ga ⊆ ka)
    (hgb : gb ⊆ kb) (hd : ka.Disjoint kb) (hg : ∀ k, k ∈ g ↔ k ∈ ga ∨ k ∈ gb) :
    (as ++ bs).filter (fun x => key x ∉ g) =
      as.filter (fun x => key x ∉ ga) ++ bs.filter (fun x => key x ∉ gb) := by
  simp only [decide_not]
  exact filter_marked_append (fun m _ => !m) key has hbs hga hgb hd hg

namespace Rows

/-- Every reference to a timestamp, a property or a note has its target in the same rows. -/
structure Closed (r : Rows) : Prop where
  planning : r.planning.map (·.stamp) ⊆ r.stamps.map (·.offset)
  fileProperties : r.fileProperties.map (·.property) ⊆ r.properties.map (·.offset)
  headingProperties : r.headingProperties.map (·.property) ⊆ r.properties.map (·.offset)
  states : r.states.map (·.note) ⊆ r.notes.map (·.offset)
  changes : r.planningChanges.map (·.note) ⊆ r.notes.map (·.offset)
  replaced : r.planningChanges.map (·.stamp) ⊆ r.stamps.map (·.offset)

/-- No two timestamps, properties or notes have the same position. -/
structure Keyed (r : Rows) : Prop where
  stamps : (r.stamps.map (·.offset)).Nodup
  properties : (r.properties.map (·.offset)).Nodup
  notes : (r.notes.map (·.offset)).Nodup

/-- No target of references in `a` has the position of one in `b`. -/
structure Apart (a b : Rows) : Prop where
  stamps : (a.stamps.map (·.offset)).Disjoint (b.stamps.map (·.offset))
  properties : (a.properties.map (·.offset)).Disjoint (b.properties.map (·.offset))
  notes : (a.notes.map (·.offset)).Disjoint (b.notes.map (·.offset))

variable {a b r : Rows}

theorem Closed.bound (h : r.Closed) : r.boundStamps ⊆ r.stamps.map (·.offset) :=
  List.append_subset_of_subset_of_subset h.planning h.replaced

theorem propertiesUnder_subset (x : Exclusion Text) (r : Rows) :
    r.propertiesUnder x ⊆ r.properties.map (·.offset) :=
  List.map_subset _ (List.filter_subset_self _)

theorem notesUnder_subset (x : Exclusion Text) (r : Rows) :
    r.notesUnder x ⊆ r.notes.map (·.offset) :=
  List.map_subset _ (List.filter_subset_self _)

theorem Closed.planned (h : r.Closed) (x : Exclusion PlanningKind) :
    r.plannedUnder x ⊆ r.stamps.map (·.offset) :=
  List.Subset.trans (List.map_subset _ (List.filter_subset_self _)) h.planning

theorem Closed.replacedUnder (h : r.Closed) (x : Exclusion Text) :
    r.replacedUnder x ⊆ r.stamps.map (·.offset) :=
  List.Subset.trans (List.map_subset _ (List.filter_subset_self _)) h.replaced

theorem Closed.append (ha : a.Closed) (hb : b.Closed) : (a.append b).Closed := by
  have hboth {α β : Type} {f : α → Int} {g : β → Int} {as bs : List α} {cs ds : List β}
      (hac : as.map f ⊆ cs.map g) (hbd : bs.map f ⊆ ds.map g) :
      (as ++ bs).map f ⊆ (cs ++ ds).map g := by
    rw [List.map_append, List.map_append]
    exact List.append_subset_of_subset_of_subset (List.subset_append_of_subset_left _ hac)
      (List.subset_append_of_subset_right _ hbd)
  exact ⟨hboth ha.planning hb.planning, hboth ha.fileProperties hb.fileProperties,
    hboth ha.headingProperties hb.headingProperties, hboth ha.states hb.states,
    hboth ha.changes hb.changes, hboth ha.replaced hb.replaced⟩

theorem closed_concat {rs : List Rows} (h : ∀ r ∈ rs, r.Closed) : (concat rs).Closed := by
  induction rs with
  | nil => constructor <;> exact List.nil_subset _
  | cons r rs ih =>
    obtain ⟨hr, hrs⟩ := List.forall_mem_cons.mp h
    exact hr.append (ih hrs)

/-- Rows without references are closed. -/
theorem closed_of_nil (hplanning : r.planning = []) (hfile : r.fileProperties = [])
    (hheading : r.headingProperties = []) (hstates : r.states = [])
    (hchanges : r.planningChanges = []) : r.Closed := by
  constructor <;> simp [hplanning, hfile, hheading, hstates, hchanges]

theorem Keyed.of_append (h : (a.append b).Keyed) : a.Keyed ∧ b.Keyed ∧ Apart a b := by
  have hparts {α : Type} {f : α → Int} {as bs : List α} (hn : ((as ++ bs).map f).Nodup) :
      (as.map f).Nodup ∧ (bs.map f).Nodup ∧ (as.map f).Disjoint (bs.map f) := by
    rw [List.map_append] at hn
    exact List.nodup_append'.mp hn
  have hs := hparts h.stamps
  have hp := hparts h.properties
  have hn := hparts h.notes
  exact ⟨⟨hs.1, hp.1, hn.1⟩, ⟨hs.2.1, hp.2.1, hn.2.1⟩, ⟨hs.2.2, hp.2.2, hn.2.2⟩⟩

theorem Keyed.of_concat {rs : List Rows} (h : (concat rs).Keyed) : ∀ r ∈ rs, r.Keyed := by
  induction rs with
  | nil => exact List.forall_mem_nil _
  | cons r rs ih =>
    obtain ⟨hr, hrs, -⟩ := h.of_append
    exact List.forall_mem_cons.mpr ⟨hr, ih hrs⟩

/-! The marked positions of two groups of rows. -/

theorem mem_boundStamps_append (k : Int) :
    k ∈ (a.append b).boundStamps ↔ k ∈ a.boundStamps ∨ k ∈ b.boundStamps := by
  simp only [boundStamps, append, List.map_append, List.mem_append]
  exact or_or_or_comm

theorem mem_propertiesUnder_append (x : Exclusion Text) (k : Int) :
    k ∈ (a.append b).propertiesUnder x ↔ k ∈ a.propertiesUnder x ∨ k ∈ b.propertiesUnder x := by
  simp only [propertiesUnder, append, List.filter_append, List.map_append, List.mem_append]

theorem mem_plannedUnder_append (x : Exclusion PlanningKind) (k : Int) :
    k ∈ (a.append b).plannedUnder x ↔ k ∈ a.plannedUnder x ∨ k ∈ b.plannedUnder x := by
  simp only [plannedUnder, append, List.filter_append, List.map_append, List.mem_append]

theorem mem_notesUnder_append (x : Exclusion Text) (k : Int) :
    k ∈ (a.append b).notesUnder x ↔ k ∈ a.notesUnder x ∨ k ∈ b.notesUnder x := by
  simp only [notesUnder, append, List.filter_append, List.map_append, List.mem_append]

theorem mem_replacedUnder_append (ha : a.Closed) (hb : b.Closed) (hd : Apart a b)
    (x : Exclusion Text) (k : Int) :
    k ∈ (a.append b).replacedUnder x ↔ k ∈ a.replacedUnder x ∨ k ∈ b.replacedUnder x := by
  have hchanges := filter_marked_append (fun m _ => m) PlanningChangeRow.note ha.changes hb.changes
    (notesUnder_subset x a) (notesUnder_subset x b) hd.notes (mem_notesUnder_append x)
  simp only [replacedUnder, ← List.mem_append, ← List.map_append, ← hchanges]
  rfl

end Rows

namespace Restriction

open Rows

variable {a b : Rows}

/-- Two groups of rows are restricted each by itself, if neither refers to the other. -/
theorem keep_append (c : Restriction) (ha : a.Closed) (hb : b.Closed) (hd : Apart a b) :
    c.keep (a.append b) = (c.keep a).append (c.keep b) := by
  have hstamps := List.Subset.refl (a.stamps.map (·.offset))
  have hstamps' := List.Subset.refl (b.stamps.map (·.offset))
  cases c with
  | tags x => simp only [keep, Rows.append, List.filter_append]
  | properties x =>
    have hga := propertiesUnder_subset x a
    have hgb := propertiesUnder_subset x b
    have hg := mem_propertiesUnder_append (a := a) (b := b) x
    simp only [keep]
    conv_rhs => unfold Rows.append
    congr 1
    · exact List.filter_append _ _
    · exact filter_unmarked_append FilePropertyRow.property ha.fileProperties hb.fileProperties
        hga hgb hd.properties hg
    · exact filter_unmarked_append HeadingPropertyRow.property ha.headingProperties
        hb.headingProperties hga hgb hd.properties hg
  | links x => simp only [keep, Rows.append, List.filter_append]
  | planning x =>
    simp only [keep]
    conv_rhs => unfold Rows.append
    congr 1
    · exact filter_unmarked_append StampRow.offset hstamps hstamps' (ha.planned x) (hb.planned x)
        hd.stamps (mem_plannedUnder_append x)
    · exact List.filter_append _ _
  | bodyStamps x =>
    simp only [keep]
    conv_rhs => unfold Rows.append
    congr 1
    exact filter_marked_append
      (fun m (s : StampRow) => m || !x.covers (StampKind.ofActive s.stamp.active)) StampRow.offset
      hstamps hstamps' ha.bound hb.bound hd.stamps mem_boundStamps_append
  | notes x =>
    have hga := notesUnder_subset x a
    have hgb := notesUnder_subset x b
    have hg := mem_notesUnder_append (a := a) (b := b) x
    simp only [keep]
    conv_rhs => unfold Rows.append
    congr 1
    · exact filter_unmarked_append StampRow.offset hstamps hstamps' (ha.replacedUnder x)
        (hb.replacedUnder x) hd.stamps (mem_replacedUnder_append ha hb hd x)
    · exact List.filter_append _ _
    · exact filter_unmarked_append StateRow.note ha.states hb.states hga hgb hd.notes hg
    · exact filter_unmarked_append PlanningChangeRow.note ha.changes hb.changes hga hgb hd.notes hg
  | clocks out => cases out <;> rfl
  | clockNotes out =>
    cases out
    · rfl
    · simp only [keep, Rows.append, if_true, List.map_append]

theorem keep_empty (c : Restriction) : c.keep {} = {} := by
  cases c with
  | clocks out => cases out <;> rfl
  | clockNotes out => cases out <;> rfl
  | _ => rfl

theorem keep_concat (c : Restriction) {rs : List Rows} (hc : ∀ r ∈ rs, r.Closed)
    (hk : (concat rs).Keyed) : c.keep (concat rs) = concat (rs.map c.keep) := by
  induction rs with
  | nil => exact c.keep_empty
  | cons r rs ih =>
    obtain ⟨hr, hrs⟩ := List.forall_mem_cons.mp hc
    obtain ⟨-, hkeyed, hapart⟩ := hk.of_append
    calc
      c.keep (r.append (concat rs)) = (c.keep r).append (c.keep (concat rs)) :=
        c.keep_append hr (closed_concat hrs) hapart
      _ = (c.keep r).append (concat (rs.map c.keep)) := by rw [ih hrs hkeyed]

end Restriction

end OutlineTables
