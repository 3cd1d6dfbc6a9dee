import OutlineTables.Firsts
import OutlineTables.Options.Basic
import OutlineTables.Outline.Heading
import OutlineTables.Outline.Section

/-!
Outlines read from text: the lines before the first heading hold tags and properties of the file,
and every heading owns the lines up to the next one.
-/
namespace OutlineTables

namespace Line

open Text

/-- A file keyword such as `#+NAME: value`. -/
def keyword? (l : Line) : Option (Text × Text) := do
  let t ← after? ['#', '+'] l.text
  let name := t.takeWhile isWordChar
  if name.isEmpty then none
  else
    let rest ← after? [':'] (t.dropWhile isWordChar)
    some (name, trim isGap rest)

/-- The lines before the first heading line, and every heading line with the lines behind it. -/
def sections : List Line → List Line × List (Starred × List Line)
  | [] => ([], [])
  | l :: ls =>
    let (front, rest) := sections ls
    match Starred.ofLine? l with
    | some s => ([], (s, front) :: rest)
    | none => (l :: front, rest)

end Line

/-- Tags and properties of a file. -/
structure Preamble where
  tags : List Text
  properties : List Property
deriving DecidableEq, Repr

namespace Preamble

open Text

/-- The property that the value of a keyword writes: a key, and a value behind the first space. -/
def property? (pos : Int) (value : Text) : Option Property :=
  let (key, rest) := cutAt ' ' value
  if key.isEmpty then none else some ⟨pos, key, strip rest⟩

/-- All tags with their repetitions, and all properties. -/
def collect : List Line → Preamble
  | [] => ⟨[], []⟩
  | l :: ls =>
    match l.keyword? with
    | some (name, value) =>
      let p := collect ls
      if sameName name "FILETAGS".toList then
        { p with tags := words (fun c => c = ':' || isBlank c) value ++ p.tags }
      else if sameName name "PROPERTY".toList then
        { p with properties := (property? l.offset value).toList ++ p.properties }
      else p
    | none =>
      match hl : if l.isPropertyStart then Line.upToEnd? ls else none with
      | some (inside, rest) =>
        have : rest.length < ls.length := by
          split at hl
          · exact Line.upToEnd?_length_lt hl
          · cases hl
        let p := collect rest
        { p with properties := inside.filterMap Line.property? ++ p.properties }
      | none => collect ls
termination_by ls => ls.length

def ofLines (ls : List Line) : Preamble :=
  let p := collect ls
  { p with tags := firsts p.tags }

end Preamble

namespace Outline

/-- The headings with their sections, in the order of their lines. -/
def readHeadings (o : Options) (parts : List (Starred × List Line)) : List Heading :=
  parts.map fun (s, ls) =>
    (Section.ofLines o.logDrawer.isNone ls).attach (s.heading o.headingKeywords)

/-- The outline that a text writes. -/
def read (o : Options) (t : Text) : Outline :=
  let (front, parts) := Line.sections (Line.ofText t)
  let p := Preamble.ofLines front
  ⟨p.tags, p.properties, Tree.forest (readHeadings o parts)⟩

end Outline

end OutlineTables
