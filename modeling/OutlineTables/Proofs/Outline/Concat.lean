import OutlineTables.Proofs.Outline.HeadingLines
import OutlineTables.Proofs.Outline.Shift
import OutlineTables.Proofs.Text.Pieces

/-!
Texts one below the other. Main statement: below a text, the headings of a text that begins with a
heading of the first level are read as they are read alone, only further down; and they change
nothing in what is read above them.
-/
namespace OutlineTables

/-- The first line of the text is a heading of the first level. -/
def Text.OpensTop (t : Text) : Prop :=
  ((Line.ofText t).head?.bind Starred.ofLine?).map (·.level) = some 1

instance (t : Text) : Decidable t.OpensTop := inferInstanceAs (Decidable (_ = _))

namespace Line

theorem numbered_shift (k pos : Int) (ps : List Text) :
    numbered (pos + k) ps = (numbered pos ps).map (·.shift k) := by
  induction ps generalizing pos with
  | nil => rfl
  | cons p ps ih =>
    have hnext : pos + k + p.length + 1 = pos + p.length + 1 + k := by omega
    rw [numbered, numbered, hnext, ih]
    rfl

/-- Behind some lines, numbers go on behind the text that they make up. -/
theorem numbered_append (pos : Int) {ps : List Text} (hne : ps ≠ []) (qs : List Text) :
    numbered pos (ps ++ qs) =
      numbered pos ps ++ numbered (pos + (Text.join ['\n'] ps).length + 1) qs := by
  induction ps generalizing pos with
  | nil => exact absurd rfl hne
  | cons p ps ih =>
    cases ps with
    | nil => rfl
    | cons q ps =>
      have hrest := ih (pos + p.length + 1) (List.cons_ne_nil q ps)
      have hlength : (Text.join ['\n'] (p :: q :: ps)).length =
          p.length + 1 + (Text.join ['\n'] (q :: ps)).length := by
        rw [Text.join, List.length_append, List.length_append, List.length_singleton]
      have hpos : pos + (Text.join ['\n'] (p :: q :: ps)).length + 1 =
          pos + p.length + 1 + (Text.join ['\n'] (q :: ps)).length + 1 := by
        omega
      rw [hpos, List.cons_append, numbered, hrest]
      rfl

/-- The lines of a text below another one are its lines, further down. -/
theorem ofText_append (t u : Text) :
    ofText (t ++ '\n' :: u) = ofText t ++ (ofText u).map (·.shift (t.length + 1)) := by
  have hpos : (1 : Int) + t.length + 1 = 1 + (t.length + 1) := by omega
  unfold ofText
  rw [Text.pieces_append_cut, numbered_append 1 (Text.pieces_ne_nil '\n' t), Text.join_pieces, hpos,
    numbered_shift]

theorem sections_cons (l : Line) (ls : List Line) : sections (l :: ls) =
    match Starred.ofLine? l with
    | some s => ([], (s, (sections ls).1) :: (sections ls).2)
    | none => (l :: (sections ls).1, (sections ls).2) := rfl

theorem sections_of_starred {l : Line} {s : Starred} (hs : Starred.ofLine? l = some s)
    (ls : List Line) : sections (l :: ls) = ([], (s, (sections ls).1) :: (sections ls).2) := by
  rw [sections_cons, hs]

/-- The sections above a heading line do not reach below it. -/
theorem sections_append {l : Line} {s : Starred} (hs : Starred.ofLine? l = some s)
    (above below : List Line) :
    sections (above ++ l :: below) =
      ((sections above).1, (sections above).2 ++ (sections (l :: below)).2) := by
  induction above with
  | nil =>
    rw [List.nil_append, sections_of_starred hs]
    rfl
  | cons a above ih =>
    rw [List.cons_append, sections_cons a, sections_cons a, ih]
    cases Starred.ofLine? a <;> rfl

end Line

namespace Tree

/-- A heading takes nothing from behind a tree that is not deeper. -/
theorem nest_append {h : Heading} {t : Tree} (ht : t.heading.level ≤ h.level) (ts us : List Tree) :
    nest h (ts ++ t :: us) = nest h ts ++ t :: us := by
  have hstop : decide (h.level < t.heading.level) = false := by simpa using ht
  have htake (ts : List Tree) : (ts ++ t :: us).takeWhile (h.level < ·.heading.level) =
      ts.takeWhile (h.level < ·.heading.level) := by
    induction ts with
    | nil => simp [hstop]
    | cons a ts ih => rw [List.cons_append, List.takeWhile_cons, List.takeWhile_cons, ih]
  have hdrop (ts : List Tree) : (ts ++ t :: us).dropWhile (h.level < ·.heading.level) =
      ts.dropWhile (h.level < ·.heading.level) ++ t :: us := by
    induction ts with
    | nil => simp [hstop]
    | cons a ts ih =>
      rw [List.cons_append, List.dropWhile_cons, List.dropWhile_cons, ih]
      split <;> rfl
  unfold nest
  rw [htake, hdrop, List.cons_append]

/-- The trees of headings behind one that none of the headings above it is above. -/
theorem forest_append {g : Heading} {hs gs : List Heading} (hg : ∀ h ∈ hs, g.level ≤ h.level) :
    forest (hs ++ g :: gs) = forest hs ++ forest (g :: gs) := by
  have hcons (h : Heading) (hs : List Heading) : forest (h :: hs) = nest h (forest hs) := rfl
  obtain ⟨t, us, hfirst, ht⟩ : ∃ t us, forest (g :: gs) = t :: us ∧ t.heading = g :=
    ⟨_, _, rfl, rfl⟩
  induction hs with
  | nil => rfl
  | cons h hs ih =>
    obtain ⟨hh, hhs⟩ := List.forall_mem_cons.mp hg
    have hlevel : t.heading.level ≤ h.level := ht ▸ hh
    rw [List.cons_append, hcons h, hcons h, ih hhs, hfirst]
    exact nest_append hlevel (forest hs) us

end Tree

namespace Outline

/-- Headings have a level above zero. -/
theorem level_readHeadings (o : Options) (ls : List Line) :
    ∀ h ∈ readHeadings o (Line.sections ls).2, 1 ≤ h.level := by
  intro h hh
  obtain ⟨⟨s, below⟩, hpart, rfl⟩ := List.mem_map.mp hh
  have hs : s ∈ ls.filterMap Starred.ofLine? := by
    rw [← Line.map_fst_sections]
    exact List.mem_map_of_mem hpart
  obtain ⟨l, -, hl⟩ := List.mem_filterMap.mp hs
  have hlevel := (Starred.stars_of_line hl).2.1
  show 1 ≤ (s.level : Int)
  omega

/-- What is read from a text is read from it above another text as well, if that begins with a
heading of the first level; and then come the trees of the other text, further down. -/
theorem read_append (o : Options) {t u : Text} (hu : u.OpensTop) :
    read o (t ++ '\n' :: u) =
      { read o t with
        trees := (read o t).trees ++ (read o u).trees.map (Tree.shift (t.length + 1)) } := by
  let k : Int := t.length + 1
  obtain ⟨s, hs, hlevel⟩ := Option.map_eq_some_iff.mp hu
  obtain ⟨l, hl, hs⟩ := Option.bind_eq_some_iff.mp hs
  obtain ⟨below, hlines⟩ : ∃ below, Line.ofText u = l :: below := by
    cases hlines : Line.ofText u with
    | nil =>
      rw [hlines] at hl
      cases hl
    | cons l' below =>
      rw [hlines] at hl
      cases hl
      exact ⟨below, rfl⟩
  have hshifted : Starred.ofLine? (l.shift k) = some (s.shift k) := by
    rw [Starred.ofLine?_shift, hs]
    rfl
  -- The lines of both texts fall into those of the first and those of the second.
  have hsections : Line.sections (Line.ofText (t ++ '\n' :: u)) =
      ((Line.sections (Line.ofText t)).1, (Line.sections (Line.ofText t)).2 ++
        (Line.sections (Line.ofText u)).2.map (Starred.shiftBelow k)) := by
    rw [Line.ofText_append, hlines, List.map_cons, Line.sections_append hshifted,
      ← List.map_cons, Line.sections_shift]
  have hlower : readHeadings o (Line.sections (Line.ofText u)).2 =
      (Section.ofLines o.logDrawer.isNone (Line.sections below).1).attach
          (s.heading o.headingKeywords) :: readHeadings o (Line.sections below).2 := by
    rw [hlines, Line.sections_of_starred hs]
    rfl
  have hforest : Tree.forest (readHeadings o (Line.sections (Line.ofText t)).2 ++
      (readHeadings o (Line.sections (Line.ofText u)).2).map (·.shift k)) =
        Tree.forest (readHeadings o (Line.sections (Line.ofText t)).2) ++
          (Tree.forest (readHeadings o (Line.sections (Line.ofText u)).2)).map (Tree.shift k) := by
    rw [← Tree.forest_shift, hlower, List.map_cons]
    apply Tree.forest_append
    intro h hh
    have habove := level_readHeadings o (Line.ofText t) h hh
    show (s.level : Int) ≤ h.level
    omega
  have hreadings : readHeadings o (Line.sections (Line.ofText (t ++ '\n' :: u))).2 =
      readHeadings o (Line.sections (Line.ofText t)).2 ++
        (readHeadings o (Line.sections (Line.ofText u)).2).map (·.shift k) := by
    rw [hsections, ← readHeadings_shift]
    exact List.map_append
  have hread (t : Text) : read o t = ⟨(Preamble.ofLines (Line.sections (Line.ofText t)).1).tags,
      (Preamble.ofLines (Line.sections (Line.ofText t)).1).properties,
      Tree.forest (readHeadings o (Line.sections (Line.ofText t)).2)⟩ := rfl
  rw [hread, hread t, hread u, hreadings, hforest, hsections]

/-- A drawer that is never closed ends at the heading below it. -/
theorem read_append_unclosed :
    let t : Text := "#+FILETAGS: :a:\n** one\n:LOGBOOK:\n- open".toList
    let u : Text := "* two\n:LOGBOOK:\n- closed\n:END:".toList
    u.OpensTop ∧
      (read .default (t ++ '\n' :: u)).headings.map (fun h => (h.offset, h.drawers.map (·.offset))) =
        [(17, []), (41, [47])] ∧
      read .default (t ++ '\n' :: u) = { read .default t with
        trees := (read .default t).trees ++
          (read .default u).trees.map (Tree.shift (t.length + 1)) } := by
  intro t u
  have hu : u.OpensTop := by decide +kernel
  exact ⟨hu, by decide +kernel, read_append .default hu⟩

end Outline

end OutlineTables
