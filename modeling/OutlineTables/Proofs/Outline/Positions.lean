import Mathlib.Data.List.Forall2
import Mathlib.Data.List.Nodup
import Mathlib.Data.List.Perm.Subperm
import OutlineTables.Proofs.Text.Readers

/-!
Positions in lines. The lines of a text follow each other, so they are apart, and what is found
from left to right in one line has increasing positions in it.
-/
namespace OutlineTables

namespace Line

/-- The position of a character of the line. -/
def Covers (l : Line) (p : Int) : Prop := l.offset ≤ p ∧ p < l.offset + l.text.length

/-- No position is in both lines. -/
def Apart (a b : Line) : Prop := ∀ p, a.Covers p → ¬b.Covers p

theorem Apart.symm {a b : Line} (h : a.Apart b) : b.Apart a := fun p hb ha => h p ha hb

theorem covers_offset {l : Line} (h : l.text ≠ []) : l.Covers l.offset := by
  have := List.length_pos_iff.mpr h
  unfold Covers
  omega

theorem le_offset_of_mem_numbered {pos : Int} {ts : List Text} {l : Line}
    (h : l ∈ numbered pos ts) : pos ≤ l.offset := by
  induction ts generalizing pos with
  | nil => cases h
  | cons t ts ih =>
    rcases List.mem_cons.mp h with rfl | h
    · exact Int.le_refl pos
    · have := ih h
      omega

/-- The line feed of a line stands before the other line. -/
def Before (a b : Line) : Prop := a.offset + a.text.length < b.offset

theorem Before.lt {a b : Line} (h : a.Before b) {p q : Int} (hp : a.Covers p) (hq : b.Covers q) :
    p < q := by
  unfold Before at h
  unfold Covers at hp hq
  omega

theorem Before.apart {a b : Line} (h : a.Before b) : a.Apart b :=
  fun p ha hb => absurd (h.lt ha hb) (Int.lt_irrefl p)

theorem before_numbered (pos : Int) (ts : List Text) : (numbered pos ts).Pairwise Before := by
  induction ts generalizing pos with
  | nil => exact List.Pairwise.nil
  | cons t ts ih =>
    refine List.pairwise_cons.mpr ⟨?_, ih _⟩
    intro l hl
    have hlater := le_offset_of_mem_numbered hl
    unfold Before
    dsimp only
    omega

theorem before_ofText (t : Text) : (ofText t).Pairwise Before := before_numbered 1 _

theorem apart_ofText (t : Text) : (ofText t).Pairwise Apart :=
  (before_ofText t).imp Before.apart

theorem apart_subperm {as bs : List Line} (h : as.Subperm bs) (hb : bs.Pairwise Apart) :
    as.Pairwise Apart := by
  obtain ⟨cs, hperm, hsub⟩ := h
  exact (hperm.pairwise_iff fun h => Apart.symm h).mp (hb.sublist hsub)

end Line

/-- Positions that are all different, each in one of some lines. -/
structure Owned (ls : List Line) (ps : List Int) : Prop where
  nodup : ps.Nodup
  covered : ∀ p ∈ ps, ∃ l ∈ ls, l.Covers p

section Owned

variable {ls ls' : List Line} {ps ps' : List Int}

theorem owned_nil (ls : List Line) : Owned ls [] := ⟨List.nodup_nil, fun _ h => by cases h⟩

theorem Owned.mono (h : Owned ls ps) (hl : ls ⊆ ls') : Owned ls' ps :=
  ⟨h.nodup, fun p hp =>
    have ⟨l, hm, hc⟩ := h.covered p hp
    ⟨l, hl hm, hc⟩⟩

theorem Owned.sublist (h : Owned ls ps) (hp : ps'.Sublist ps) : Owned ls ps' :=
  ⟨h.nodup.sublist hp, fun p hm => h.covered p (hp.subset hm)⟩

theorem owned_one {l : Line} {p : Int} (h : l.Covers p) : Owned [l] [p] :=
  ⟨List.nodup_singleton p, fun q hq => by
    rw [List.mem_singleton.mp hq]
    exact ⟨l, List.mem_singleton_self l, h⟩⟩

/-- Positions in lines that are apart are different. -/
theorem Owned.append (h : Owned ls ps) (h' : Owned ls' ps')
    (ha : (ls ++ ls').Pairwise Line.Apart) : Owned (ls ++ ls') (ps ++ ps') := by
  have hcross := (List.pairwise_append.mp ha).2.2
  refine ⟨List.nodup_append.mpr ⟨h.nodup, h'.nodup, ?_⟩, ?_⟩
  · rintro p hp q hq rfl
    obtain ⟨l, hl, hc⟩ := h.covered p hp
    obtain ⟨l', hl', hc'⟩ := h'.covered p hq
    exact hcross l hl l' hl' p hc hc'
  · intro p hp
    rcases List.mem_append.mp hp with hp | hp
    · exact (h.mono (List.subset_append_left _ _)).covered p hp
    · exact (h'.mono (List.subset_append_right _ _)).covered p hp

theorem owned_of_forall₂ {α : Type} {position : α → Int} {as : List α}
    (h : List.Forall₂ (fun a l => l.Covers (position a)) as ls) (ha : ls.Pairwise Line.Apart) :
    Owned ls (as.map position) := by
  induction h with
  | nil => exact owned_nil []
  | cons hc _ ih => exact (owned_one hc).append (ih (List.pairwise_cons.mp ha).2) ha

/-- Positions in groups of lines, group by group. -/
theorem owned_flatMap {α β : Type} {lines : α → List Line} {positions : β → List Int}
    {as : List α} {bs : List β}
    (h : List.Forall₂ (fun a b => Owned (lines a) (positions b)) as bs)
    (ha : (as.flatMap lines).Pairwise Line.Apart) :
    Owned (as.flatMap lines) (bs.flatMap positions) := by
  induction h with
  | nil => exact owned_nil []
  | cons hab _ ih =>
    rw [List.flatMap_cons] at ha
    rw [List.flatMap_cons, List.flatMap_cons]
    exact hab.append (ih (List.pairwise_append.mp ha).2.1) ha

end Owned

namespace Text

variable {α : Type} {read? : Text → Option α} {size : α → Nat}

/-- Every occurrence is read from the text at its position. -/
theorem read_of_mem_scan {pos : Int} {skip : Nat} {t : Text} {x : Int × α}
    (h : x ∈ scan read? size pos skip t) : ∃ lead rest, t = lead ++ rest ∧ skip ≤ lead.length ∧
      x.1 = pos + lead.length ∧ rest ≠ [] ∧ read? rest = some x.2 := by
  induction t generalizing pos skip with
  | nil => cases skip <;> cases h
  | cons c t ih =>
    have hlater {skip' : Nat} (h : x ∈ scan read? size (pos + 1) skip' t) :
        ∃ lead rest, c :: t = lead ++ rest ∧ skip' + 1 ≤ lead.length ∧
          x.1 = pos + lead.length ∧ rest ≠ [] ∧ read? rest = some x.2 := by
      obtain ⟨lead, rest, rfl, hskip, hpos, hrest⟩ := ih h
      refine ⟨c :: lead, rest, rfl, Nat.succ_le_succ hskip, ?_, hrest⟩
      rw [hpos, List.length_cons]
      omega
    cases skip with
    | succ skip => exact hlater h
    | zero =>
      unfold scan at h
      split at h
      · rename_i a ha
        rcases List.mem_cons.mp h with rfl | h
        · exact ⟨[], c :: t, rfl, Nat.le_refl 0, by simp, List.cons_ne_nil c t, ha⟩
        · obtain ⟨lead, rest, hsplit, -, hrest⟩ := hlater h
          exact ⟨lead, rest, hsplit, Nat.zero_le _, hrest⟩
      · obtain ⟨lead, rest, hsplit, -, hrest⟩ := hlater h
        exact ⟨lead, rest, hsplit, Nat.zero_le _, hrest⟩

/-- Occurrences follow each other without overlap. -/
theorem scan_pairwise (pos : Int) (skip : Nat) (t : Text) :
    (scan read? size pos skip t).Pairwise fun x y =>
      x.1 < y.1 ∧ x.1 + (size x.2 : Int) ≤ y.1 := by
  induction t generalizing pos skip with
  | nil => cases skip <;> exact List.Pairwise.nil
  | cons c t ih =>
    cases skip with
    | succ skip => exact ih _ _
    | zero =>
      unfold scan
      split
      · refine List.pairwise_cons.mpr ⟨?_, ih _ _⟩
        intro y hy
        obtain ⟨lead, rest, -, hskip, hpos, -⟩ := read_of_mem_scan hy
        dsimp only
        omega
      · exact ih _ _

end Text

namespace Line

/-- A text in the line and the position at which it stands there. -/
def Holds (l : Line) (p : Int) (w : Text) : Prop :=
  ∃ before after, before ++ w ++ after = l.text ∧ p = l.offset + before.length

theorem Holds.covers_add {l : Line} {p : Int} {w : Text} (h : l.Holds p w) {k : Nat}
    (hk : k < w.length) : l.Covers (p + k) := by
  obtain ⟨before, after, hsplit, rfl⟩ := h
  have hlength := congrArg List.length hsplit
  rw [List.length_append, List.length_append] at hlength
  unfold Covers
  omega

theorem Holds.covers {l : Line} {p : Int} {w : Text} (h : l.Holds p w) (hw : w ≠ []) :
    l.Covers p := by
  simpa using h.covers_add (List.length_pos_iff.mpr hw)

theorem holds_behind_gap {l : Line} {w : Text} (h : w <+: l.text.dropWhile Text.isGap) :
    l.Holds (l.offset + Text.indent l.text) w := by
  obtain ⟨rest, hrest⟩ := h
  refine ⟨l.text.takeWhile Text.isGap, rest, ?_, rfl⟩
  rw [List.append_assoc, hrest, List.takeWhile_append_dropWhile]

/-- What is found in a line, from left to right. -/
theorem owned_of_increasing {α : Type} {l : Line} {position : α → Int} {as : List α}
    (hlt : (as.map position).Pairwise (· < ·)) (hin : ∀ a ∈ as, l.Covers (position a)) :
    Owned [l] (as.map position) := by
  refine ⟨hlt.imp Int.ne_of_lt, fun p hp => ?_⟩
  obtain ⟨a, ha, rfl⟩ := List.mem_map.mp hp
  exact ⟨l, List.mem_singleton_self l, hin a ha⟩

theorem increasing_excerpts (read? : Text → Option Text) (l : Line) :
    ((l.excerpts read?).map (·.offset)).Pairwise (· < ·) := by
  unfold excerpts
  rw [List.map_map]
  have hsteps := @Text.scan_pairwise _ read? List.length l.offset 0 l.text
  exact List.pairwise_map.mpr (hsteps.imp And.left)

theorem holds_excerpt {read? : Text → Option Text}
    (hread : ∀ {t w}, read? t = some w → w <+: t ∧ w ≠ []) {l : Line} {e : Excerpt}
    (h : e ∈ l.excerpts read?) : l.Holds e.offset e.text ∧ e.text ≠ [] := by
  obtain ⟨⟨pos, w⟩, hx, rfl⟩ := List.mem_map.mp h
  obtain ⟨lead, behind, hsplit, -, hpos, -, hw⟩ := Text.read_of_mem_scan hx
  obtain ⟨⟨rest, hrest⟩, hne⟩ := hread hw
  refine ⟨⟨lead, rest, ?_, hpos⟩, hne⟩
  rw [hsplit, ← hrest, List.append_assoc]

theorem holds_timestamp {l : Line} {e : Excerpt} (h : e ∈ l.timestamps) :
    l.Holds e.offset e.text ∧ e.text ≠ [] :=
  holds_excerpt Text.prefix_of_stampToken? h

theorem holds_link {l : Line} {e : Excerpt} (h : e ∈ l.links) :
    l.Holds e.offset e.text ∧ e.text ≠ [] :=
  holds_excerpt Text.prefix_of_linkToken? h

theorem covers_timestamp {l : Line} {e : Excerpt} (h : e ∈ l.timestamps) : l.Covers e.offset :=
  (holds_timestamp h).1.covers (holds_timestamp h).2

theorem covers_link {l : Line} {e : Excerpt} (h : e ∈ l.links) : l.Covers e.offset :=
  (holds_link h).1.covers (holds_link h).2

theorem owned_timestamps (l : Line) : Owned [l] (l.timestamps.map (·.offset)) :=
  owned_of_increasing (increasing_excerpts _ l) fun _ => covers_timestamp

theorem owned_links (l : Line) : Owned [l] (l.links.map (·.offset)) :=
  owned_of_increasing (increasing_excerpts _ l) fun _ => covers_link

theorem holds_planning {l : Line} {p : Planning} (h : p ∈ l.planning) :
    l.Holds p.stamp.offset p.stamp.text ∧ p.stamp.text ≠ [] := by
  obtain ⟨⟨pos, kind, n, w⟩, hx, rfl⟩ := List.mem_map.mp h
  obtain ⟨front, behind, hsplit, -, hpos, -, hw⟩ := Text.read_of_mem_scan hx
  obtain ⟨hne, lead, rest, hrest, rfl⟩ := Text.infix_of_planningToken? hw
  refine ⟨⟨front ++ lead, rest, ?_, ?_⟩, hne⟩
  · rw [hsplit, ← hrest]
    simp
  · dsimp only at hpos ⊢
    rw [hpos, List.length_append]
    omega

theorem covers_planning {l : Line} {p : Planning} (h : p ∈ l.planning) :
    l.Covers p.stamp.offset :=
  (holds_planning h).1.covers (holds_planning h).2

theorem increasing_planning (l : Line) :
    (l.planning.map (·.stamp.offset)).Pairwise (· < ·) := by
  unfold planning
  rw [List.map_map]
  have hsteps := @Text.scan_pairwise _ Text.planningToken? (fun p => p.2.1 + p.2.2.length)
    l.offset 0 l.text
  refine List.pairwise_map.mpr (hsteps.imp_of_mem ?_)
  rintro ⟨pos, kind, n, w⟩ ⟨pos', kind', n', w'⟩ hx - ⟨-, hlater⟩
  -- A timestamp has characters, so the next planning word is behind its first one.
  obtain ⟨_, _, -, -, -, -, hread⟩ := Text.read_of_mem_scan hx
  have hw := List.length_pos_iff.mpr (Text.infix_of_planningToken? hread).1
  dsimp only [Function.comp_apply] at hlater ⊢
  omega

theorem owned_planning (l : Line) : Owned [l] (l.planning.map (·.stamp.offset)) :=
  owned_of_increasing (increasing_planning l) fun _ => covers_planning

end Line

end OutlineTables
