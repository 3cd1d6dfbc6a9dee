import Mathlib.Data.List.Basic
import OutlineTables.Proofs.Outline.Parts

/-!
Lines further down. Readers look at the texts of lines; positions go into what they read, and into
nothing else. Whatever is read from lines that stand `k` characters further down stands `k`
characters further down, and is otherwise the same.
-/
namespace OutlineTables

/-! Everything that has a position. -/

def Line.shift (k : Int) (l : Line) : Line := { l with offset := l.offset + k }

def Excerpt.shift (k : Int) (e : Excerpt) : Excerpt := { e with offset := e.offset + k }

def Property.shift (k : Int) (p : Property) : Property := { p with offset := p.offset + k }

def Planning.shift (k : Int) (p : Planning) : Planning := { p with stamp := p.stamp.shift k }

def Entry.shift (k : Int) (e : Entry) : Entry :=
  { e with offset := e.offset + k, textOffset := e.textOffset + k }

def Drawer.shift (k : Int) (d : Drawer) : Drawer :=
  { d with offset := d.offset + k, entries := d.entries.map (·.shift k) }

def Heading.shift (k : Int) (h : Heading) : Heading :=
  { h with
    offset := h.offset + k
    properties := h.properties.map (·.shift k)
    planning := h.planning.map (·.shift k)
    drawers := h.drawers.map (·.shift k)
    looseEntries := h.looseEntries.map (·.shift k)
    timestamps := h.timestamps.map (·.shift k)
    links := h.links.map (·.shift k) }

def Starred.shift (k : Int) (s : Starred) : Starred := { s with offset := s.offset + k }

def Block.shift (k : Int) : Block → Block
  | drawer d => drawer (d.shift k)
  | entries es => entries (es.map (·.shift k))
  | body l => body (l.shift k)

def Section.shift (k : Int) (s : Section) : Section where
  planning := s.planning.map (·.shift k)
  properties := s.properties.map (·.shift k)
  blocks := s.blocks.map (·.shift k)

namespace Tree

mutual

/-- The tree with all its headings further down. -/
def shift (k : Int) : Tree → Tree
  | node h ts => node (h.shift k) (shiftAll k ts)

def shiftAll (k : Int) : List Tree → List Tree
  | [] => []
  | t :: ts => shift k t :: shiftAll k ts

end

theorem shiftAll_eq_map (k : Int) (ts : List Tree) : shiftAll k ts = ts.map (shift k) := by
  induction ts with
  | nil => rfl
  | cons t ts ih => rw [shiftAll, ih, List.map_cons]

theorem heading_shift (k : Int) (t : Tree) : (t.shift k).heading = t.heading.shift k := by
  cases t
  rfl

end Tree

/-! Readers of one line. -/

theorem Text.scan_shift {α : Type} (read? : Text → Option α) (size : α → Nat) (k pos : Int)
    (skip : Nat) (t : Text) :
    scan read? size (pos + k) skip t = (scan read? size pos skip t).map fun (p, a) => (p + k, a) := by
  have hnext (p : Int) : p + k + 1 = p + 1 + k := by omega
  induction t generalizing pos skip with
  | nil =>
    cases skip <;> rfl
  | cons c cs ih =>
    cases skip with
    | succ n => rw [scan, scan, hnext, ih]
    | zero =>
      rw [scan, scan, hnext]
      cases read? (c :: cs) with
      | none => exact ih (pos + 1) 0
      | some a =>
        dsimp only
        rw [ih, List.map_cons]

namespace Line

variable (k : Int) (l : Line)

@[simp]
theorem text_shift : (l.shift k).text = l.text := rfl

@[simp]
theorem isPlanning_shift : (l.shift k).isPlanning = l.isPlanning := rfl

@[simp]
theorem isPropertyStart_shift : (l.shift k).isPropertyStart = l.isPropertyStart := rfl

theorem excerpts_shift (read? : Text → Option Text) :
    (l.shift k).excerpts read? = (l.excerpts read?).map (·.shift k) := by
  simp only [excerpts, Line.shift, Text.scan_shift, List.map_map]
  rfl

theorem planning_shift : (l.shift k).planning = l.planning.map (·.shift k) := by
  simp only [Line.planning, Line.shift, Text.scan_shift, List.map_map]
  apply List.map_congr_left
  rintro ⟨pos, kind, lead, t⟩ -
  have hpos : pos + k + (lead : Int) = pos + lead + k := by omega
  simp [Planning.shift, Excerpt.shift, hpos]

theorem property?_shift : (l.shift k).property? = l.property?.map (·.shift k) := by
  have hpos (n : Nat) : l.offset + k + n = l.offset + n + k := by omega
  unfold property?
  simp only [Line.shift, hpos]
  repeat' split
  all_goals rfl

end Line

namespace Entry

variable (k : Int)

theorem clock?_shift (l : Line) : clock? (l.shift k) = (clock? l).map (·.shift k) := by
  have hpos (n : Nat) : l.offset + k + n = l.offset + n + k := by omega
  unfold clock?
  simp only [Line.shift, hpos]
  split <;> rfl

/-- The item that is being read, further down. -/
def shiftOpen (current : Open) : Open := current.map fun (n, e) => (n, e.shift k)

theorem item?_shift (l : Line) : item? (l.shift k) = shiftOpen k (item? l) := by
  have hpos (n : Nat) : l.offset + k + n = l.offset + n + k := by omega
  have hone (n : Int) : n + k + 1 = n + 1 + k := by omega
  have htext (n : Int) (m : Nat) : n + k + m = n + m + k := by omega
  unfold item?
  simp only [Line.shift, hpos, hone, htext]
  repeat' split
  all_goals rfl

theorem sibling?_shift (current : Open) (l : Line) :
    sibling? (shiftOpen k current) (l.shift k) = shiftOpen k (sibling? current l) := by
  unfold sibling?
  rw [item?_shift]
  rcases item? l with _ | ⟨n, e⟩
  · rfl
  · rcases current with _ | ⟨m, f⟩
    · rfl
    · by_cases hle : n ≤ m <;> simp [shiftOpen, hle]

theorem closeItem_shift (current : Open) :
    closeItem (shiftOpen k current) = (closeItem current).map (·.shift k) := by
  rcases current with _ | ⟨n, e⟩ <;> rfl

theorem readAll_shift (stop : Text → Bool) (strict : Bool) (current : Open) (ls : List Line) :
    readAll stop strict (shiftOpen k current) (ls.map (·.shift k)) =
      ((readAll stop strict current ls).1.map (·.shift k),
        (readAll stop strict current ls).2.map (·.shift k)) := by
  -- Induction on the lines, for every item that may be open.
  induction ls generalizing current with
  | nil => simp only [List.map_nil, readAll, closeItem_shift]
  | cons l ls ih =>
    have hnone := ih none
    rw [shiftOpen, Option.map_none] at hnone
    simp only [List.map_cons, readAll, Line.text_shift, clock?_shift, sibling?_shift,
      closeItem_shift]
    by_cases hstop : stop l.text = true
    · simp only [if_pos hstop, List.map_cons]
    simp only [if_neg hstop]
    cases clock? l with
    | some e => simp only [Option.map_some, hnone, List.map_append, List.map_cons]
    | none =>
      rcases sibling? current l with _ | item
      · rcases current with _ | ⟨n, e⟩
        · cases strict <;> simp [shiftOpen, hnone]
        · have hlonger : readAll stop strict (some (n, (e.shift k).extend l.text))
              (ls.map (·.shift k)) = _ := ih (some (n, e.extend l.text))
          have hsame : readAll stop strict (some (n, e.shift k)) (ls.map (·.shift k)) = _ :=
            ih (some (n, e))
          simp only [shiftOpen, Option.map_some, Option.map_none, hlonger, hsame]
          by_cases hdeeper : n < Text.indent l.text
          · cases Text.isBlankLine l.text <;> cases strict <;> simp [hdeeper]
          · cases strict <;> simp [hdeeper]
      · have hitem := ih (some item)
        rw [shiftOpen, Option.map_some] at hitem
        simp only [shiftOpen, Option.map_none, Option.map_some, hitem, List.map_append]

end Entry

/-! Readers of several lines. -/

theorem Line.upToEnd?_shift (k : Int) (ls : List Line) :
    upToEnd? (ls.map (·.shift k)) =
      (upToEnd? ls).map fun (inside, rest) => (inside.map (·.shift k), rest.map (·.shift k)) := by
  induction ls with
  | nil => rfl
  | cons l ls ih =>
    simp only [List.map_cons, upToEnd?, text_shift, ih]
    split
    · rfl
    · cases upToEnd? ls <;> rfl

namespace Block

variable (k : Int)

theorem loose?_shift (allowed : Bool) (l : Line) (ls : List Line) :
    loose? allowed (l.shift k) (ls.map (·.shift k)) =
      (loose? allowed l ls).map fun (es, rest) => (es.map (·.shift k), rest.map (·.shift k)) := by
  have hnone := Entry.readAll_shift k endsLoose true none ls
  unfold loose?
  rw [Entry.clock?_shift, Entry.item?_shift]
  cases allowed with
  | false => rfl
  | true =>
    cases Entry.clock? l with
    | some e =>
      rw [Entry.shiftOpen, Option.map_none] at hnone
      simp only [if_true, Option.map_some, hnone, List.map_cons]
    | none =>
      rcases Entry.item? l with _ | item
      · rfl
      · have hitem := Entry.readAll_shift k endsLoose true (some item) ls
        rw [Entry.shiftOpen, Option.map_some] at hitem
        simp only [if_true, Entry.shiftOpen, Option.map_none, Option.map_some, hitem]

theorem drawer?_shift (l : Line) (ls : List Line) :
    drawer? (l.shift k) (ls.map (·.shift k)) =
      (drawer? l ls).map fun (d, rest) => (d.shift k, rest.map (·.shift k)) := by
  unfold drawer?
  rw [Line.text_shift, Line.upToEnd?_shift]
  rcases Text.drawerStart? l.text with _ | ⟨name, n⟩
  · rfl
  · by_cases hend : Text.isDrawerEnd l.text = true
    · simp only [if_pos hend, Option.map_none]
    · simp only [if_neg hend]
      rcases Line.upToEnd? ls with _ | ⟨inside, rest⟩
      · rfl
      · have hentries := Entry.readAll_shift k (fun _ => false) false none inside
        have hpos : l.offset + k + n = l.offset + n + k := by omega
        rw [Entry.shiftOpen, Option.map_none] at hentries
        simp only [Option.map_some, hentries, Drawer.shift]
        rw [← hpos]
        rfl

theorem read_shift (free leading : Bool) (ls : List Line) :
    read free leading (ls.map (·.shift k)) = (read free leading ls).map (·.shift k) := by
  -- Each line is read alike in both places, so the same case applies in both.
  fun_induction read free leading ls with
  | case1 leading => rw [List.map_nil, read, List.map_nil]
  | case2 leading l ls d rest hd _ ih =>
    have hd' := drawer?_shift k l ls
    rw [hd, Option.map_some] at hd'
    rw [List.map_cons, read_drawer hd', ih]
    rfl
  | case3 leading l ls hd es rest hl _ ih =>
    have hd' := drawer?_shift k l ls
    have hl' := loose?_shift k (leading && free) l ls
    rw [hd, Option.map_none] at hd'
    rw [hl, Option.map_some] at hl'
    rw [List.map_cons, read_entries hd' hl', ih]
    rfl
  | case4 leading l ls hd hl ih =>
    have hd' := drawer?_shift k l ls
    have hl' := loose?_shift k (leading && free) l ls
    rw [hd, Option.map_none] at hd'
    rw [hl, Option.map_none] at hl'
    rw [List.map_cons, read_body hd' hl', Line.text_shift, ih]
    rfl

/-! What a heading takes from the parts of its section. -/

theorem drawers_shift (bs : List Block) :
    drawers (bs.map (·.shift k)) = (drawers bs).map (·.shift k) := by
  unfold drawers
  rw [List.filterMap_map, List.map_filterMap]
  apply List.filterMap_congr
  intro b _
  cases b <;> rfl

theorem looseEntries_shift (bs : List Block) :
    looseEntries (bs.map (·.shift k)) = (looseEntries bs).map (·.shift k) := by
  unfold looseEntries
  rw [List.flatMap_map, List.map_flatMap]
  apply List.flatMap_congr
  intro b _
  cases b <;> rfl

theorem bodyLines_shift (bs : List Block) :
    bodyLines (bs.map (·.shift k)) = (bodyLines bs).map (·.shift k) := by
  unfold bodyLines
  rw [List.filterMap_map, List.map_filterMap]
  apply List.filterMap_congr
  intro b _
  cases b <;> rfl

end Block

namespace Section

variable (k : Int)

theorem cutPlanning_shift (ls : List Line) :
    cutPlanning (ls.map (·.shift k)) =
      ((cutPlanning ls).1.map (·.shift k), (cutPlanning ls).2.map (·.shift k)) := by
  cases ls with
  | nil => rfl
  | cons l ls =>
    rw [List.map_cons, cutPlanning, cutPlanning, Line.planning_shift, Line.isPlanning_shift]
    cases l.isPlanning <;> rfl

theorem cutProperties_shift (ls : List Line) :
    cutProperties (ls.map (·.shift k)) =
      ((cutProperties ls).1.map (·.shift k), (cutProperties ls).2.map (·.shift k)) := by
  cases ls with
  | nil => rfl
  | cons l ls =>
    simp only [List.map_cons, cutProperties, Line.isPropertyStart_shift, Line.upToEnd?_shift]
    cases l.isPropertyStart with
    | false => rfl
    | true =>
      rcases Line.upToEnd? ls with _ | ⟨inside, rest⟩
      · rfl
      · have hinside : (inside.map (·.shift k)).filterMap Line.property? =
            (inside.filterMap Line.property?).map (·.shift k) := by
          rw [List.filterMap_map, List.map_filterMap]
          exact List.filterMap_congr fun l _ => l.property?_shift k
        simp only [if_true, Option.map_some, hinside]

theorem ofLines_shift (free : Bool) (ls : List Line) :
    ofLines free (ls.map (·.shift k)) = (ofLines free ls).shift k := by
  unfold ofLines
  simp only [cutPlanning_shift, cutProperties_shift, Block.read_shift]
  rfl

theorem content_shift (s : Section) : (s.shift k).content = s.content := by
  unfold content
  rw [Section.shift, Block.bodyLines_shift, List.map_map]
  rfl

theorem attach_shift (h : Heading) (s : Section) :
    (s.shift k).attach (h.shift k) = (s.attach h).shift k := by
  have hexcerpts (read? : Text → Option Text) (ls : List Line) :
      (ls.map (·.shift k)).flatMap (Line.excerpts read?) =
        (ls.flatMap (Line.excerpts read?)).map (·.shift k) := by
    rw [List.flatMap_map, List.map_flatMap]
    exact List.flatMap_congr fun l _ => l.excerpts_shift k read?
  have htimestamps := hexcerpts Text.stampToken? (Block.bodyLines s.blocks)
  have hlinks := hexcerpts Text.linkToken? (Block.bodyLines s.blocks)
  have hcontent := content_shift k s
  unfold attach
  rw [hcontent]
  simp only [Section.shift, Block.drawers_shift, Block.looseEntries_shift, Block.bodyLines_shift,
    Heading.shift]
  congr 1

end Section

/-! Heading lines and trees. -/

namespace Starred

variable (k : Int)

theorem ofLine?_shift (l : Line) : ofLine? (l.shift k) = (ofLine? l).map (·.shift k) := by
  unfold ofLine?
  rw [Line.text_shift]
  dsimp only
  cases (l.text.takeWhile (· = '*')).isEmpty with
  | true => rfl
  | false =>
    rcases l.text.dropWhile (· = '*') with _ | ⟨c, cs⟩
    · rfl
    · cases hgap : Text.isGap c <;> simp [hgap, Starred.shift, Line.shift]

theorem heading_shift (keywords : List Text) (s : Starred) :
    (s.shift k).heading keywords = (s.heading keywords).shift k := rfl

end Starred

/-- A line with stars and the lines below it. -/
def Starred.shiftBelow (k : Int) (p : Starred × List Line) : Starred × List Line :=
  (p.1.shift k, p.2.map (·.shift k))

theorem Line.sections_shift (k : Int) (ls : List Line) :
    sections (ls.map (·.shift k)) =
      ((sections ls).1.map (·.shift k), (sections ls).2.map (Starred.shiftBelow k)) := by
  induction ls with
  | nil => rfl
  | cons l ls ih =>
    simp only [List.map_cons, sections, ih, Starred.ofLine?_shift]
    cases Starred.ofLine? l <;> rfl

theorem Outline.readHeadings_shift (k : Int) (o : Options) (parts : List (Starred × List Line)) :
    readHeadings o (parts.map (Starred.shiftBelow k)) =
      (readHeadings o parts).map (·.shift k) := by
  unfold readHeadings
  rw [List.map_map, List.map_map]
  apply List.map_congr_left
  rintro ⟨s, below⟩ -
  show (Section.ofLines _ (below.map (·.shift k))).attach ((s.shift k).heading _) = _
  rw [Section.ofLines_shift, Starred.heading_shift, Section.attach_shift]
  rfl

namespace Tree

variable (k : Int)

theorem nest_shift (h : Heading) (ts : List Tree) :
    nest (h.shift k) (ts.map (shift k)) = (nest h ts).map (shift k) := by
  have hdeeper : (fun t : Tree => decide (h.level < t.heading.level)) ∘ shift k =
      fun t => decide (h.level < t.heading.level) := by
    funext t
    simp only [Function.comp_apply, heading_shift]
    rfl
  have hlevel : (h.shift k).level = h.level := rfl
  unfold nest
  rw [hlevel, List.takeWhile_map, List.dropWhile_map, hdeeper, List.map_cons, shift,
    shiftAll_eq_map]

theorem forest_shift (hs : List Heading) :
    forest (hs.map (·.shift k)) = (forest hs).map (shift k) := by
  unfold forest
  induction hs with
  | nil => rfl
  | cons h hs ih => rw [List.map_cons, List.foldr_cons, List.foldr_cons, ih, nest_shift]

end Tree

end OutlineTables
