import OutlineTables.Outline.Entry
import OutlineTables.Outline.Token

/-!
Sections: a planning line, a property drawer, and then drawers, loose entries and body lines in
any order. Every line goes into exactly one of these parts.
-/
namespace OutlineTables

namespace Line

open Text

/-- The lines before the first end of a drawer, and those behind it. -/
def upToEnd? : List Line → Option (List Line × List Line)
  | [] => none
  | l :: ls =>
    if isDrawerEnd l.text then some ([], ls)
    else (upToEnd? ls).map fun (inside, rest) => (l :: inside, rest)

theorem upToEnd?_length_lt {ls inside rest : List Line} (h : upToEnd? ls = some (inside, rest)) :
    rest.length < ls.length := by
  induction ls generalizing inside with
  | nil => simp [upToEnd?] at h
  | cons l ls ih =>
    unfold upToEnd? at h
    split at h
    · simp only [Option.some.injEq, Prod.mk.injEq] at h
      simp [h.2]
    · obtain ⟨⟨a, b⟩, hab, he⟩ := Option.map_eq_some_iff.1 h
      simp only [Prod.mk.injEq] at he
      obtain ⟨rfl, rfl⟩ := he
      exact Nat.lt_succ_of_lt (ih hab)

/-- Whether the line opens a property drawer. -/
def isPropertyStart (l : Line) : Bool := sameName (strip l.text) ":PROPERTIES:".toList

/-- The property that a line such as `:key: value` writes. -/
def property? (l : Line) : Option Property :=
  match l.text.dropWhile isGap with
  | ':' :: t =>
    let isKeyChar := fun c => c ≠ ':' && !isBlank c
    let key := t.takeWhile isKeyChar
    if key.isEmpty then none
    else
      match t.dropWhile isKeyChar with
      | [':'] => some ⟨l.offset + indent l.text, key, []⟩
      | ':' :: c :: rest =>
        if isGap c then some ⟨l.offset + indent l.text, key, trim isGap (c :: rest)⟩ else none
      | _ => none
  | _ => none

end Line

/-- A part of a section behind its planning line and property drawer. -/
inductive Block where
  | drawer (d : Drawer)
  | entries (es : List Entry)
  | body (l : Line)
deriving Repr

namespace Block

open Text

/-- Loose entries end at a blank line and at a drawer. -/
def endsLoose (t : Text) : Bool := isBlankLine t || (drawerStart? t).isSome

/-- The loose entries that begin at a line where they are allowed, and the lines behind them. -/
def loose? (allowed : Bool) (l : Line) (ls : List Line) : Option (List Entry × List Line) :=
  if allowed then
    match Entry.clock? l with
    | some e =>
      let r := Entry.readAll endsLoose true none ls
      some (e :: r.1, r.2)
    | none => (Entry.item? l).map fun item => Entry.readAll endsLoose true (some item) ls
  else none

theorem loose?_length_le {allowed : Bool} {l : Line} {ls : List Line}
    {r : List Entry × List Line} (h : loose? allowed l ls = some r) :
    r.2.length ≤ ls.length := by
  unfold loose? at h
  split at h
  · split at h
    · simp only [Option.some.injEq] at h
      subst h
      exact Entry.readAll_length_le ..
    · obtain ⟨item, _, rfl⟩ := Option.map_eq_some_iff.1 h
      exact Entry.readAll_length_le ..
  · cases h

/-- The closed drawer that begins at a line, and the lines behind it. -/
def drawer? (l : Line) (ls : List Line) : Option (Drawer × List Line) :=
  match drawerStart? l.text with
  | none => none
  | some (name, n) =>
    if isDrawerEnd l.text then none
    else
      (Line.upToEnd? ls).map fun (inside, rest) =>
        (⟨name, l.offset + n, (Entry.readAll (fun _ => false) false none inside).1⟩, rest)

theorem drawer?_length_lt {l : Line} {ls : List Line} {r : Drawer × List Line}
    (h : drawer? l ls = some r) : r.2.length < ls.length := by
  unfold drawer? at h
  split at h
  · cases h
  · split at h
    · cases h
    · obtain ⟨⟨inside, rest⟩, he, rfl⟩ := Option.map_eq_some_iff.1 h
      exact Line.upToEnd?_length_lt he

/-- The parts of a section. If `free` holds, entries may stand outside drawers, but only as long
as every body line before them is blank, which `leading` says. -/
def read (free leading : Bool) : List Line → List Block
  | [] => []
  | l :: ls =>
    match hd : drawer? l ls with
    | some (d, rest) =>
      have : rest.length < ls.length := drawer?_length_lt hd
      .drawer d :: read free leading rest
    | none =>
      match hl : loose? (leading && free) l ls with
      | some (es, rest) =>
        have : rest.length ≤ ls.length := loose?_length_le hl
        .entries es :: read free leading rest
      | none => .body l :: read free (leading && isBlankLine l.text) ls
termination_by ls => ls.length

def drawers (bs : List Block) : List Drawer :=
  bs.filterMap fun
    | drawer d => some d
    | _ => none

def looseEntries (bs : List Block) : List Entry :=
  bs.flatMap fun
    | entries es => es
    | _ => []

def bodyLines (bs : List Block) : List Line :=
  bs.filterMap fun
    | body l => some l
    | _ => none

end Block

/-- The section of a heading by its parts. -/
structure Section where
  planning : List Planning
  properties : List Property
  blocks : List Block
deriving Repr

namespace Section

/-- The planning words of the first line, if it opens with one, and the other lines. -/
def cutPlanning : List Line → List Planning × List Line
  | [] => ([], [])
  | l :: ls => if l.isPlanning then (l.planning, ls) else ([], l :: ls)

/-- The properties of a closed drawer at the start, and the other lines. -/
def cutProperties : List Line → List Property × List Line
  | [] => ([], [])
  | l :: ls =>
    match if l.isPropertyStart then Line.upToEnd? ls else none with
    | some (inside, rest) => (inside.filterMap Line.property?, rest)
    | none => ([], l :: ls)

def ofLines (free : Bool) (ls : List Line) : Section :=
  let (planning, ls) := cutPlanning ls
  let (properties, ls) := cutProperties ls
  ⟨planning, properties, Block.read free true ls⟩

/-- The body lines as one text, without white space at its ends. -/
def content (s : Section) : Option Text :=
  match Text.strip (Text.join ['\n'] ((Block.bodyLines s.blocks).map (·.text))) with
  | [] => none
  | t => some t

/-- A heading with this section. -/
def attach (h : Heading) (s : Section) : Heading :=
  { h with
    properties := s.properties
    planning := s.planning
    drawers := Block.drawers s.blocks
    looseEntries := Block.looseEntries s.blocks
    content := s.content
    timestamps := (Block.bodyLines s.blocks).flatMap Line.timestamps
    links := (Block.bodyLines s.blocks).flatMap Line.links }

end Section

end OutlineTables
