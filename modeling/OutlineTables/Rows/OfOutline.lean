import OutlineTables.Duration
import OutlineTables.Logbook.Record
import OutlineTables.Options.Basic
import OutlineTables.Outline.Reader
import OutlineTables.Rows.Basic

/-!
The rows of an outline. Headings are taken in document order, each with its ancestors, which
depend on the levels alone.
-/
namespace OutlineTables

/-- Headings with their ancestors, the nearest first, behind headings that are still open. -/
def Heading.withAncestors : List Heading → List Heading → List (Heading × List Heading)
  | _, [] => []
  | opened, h :: hs =>
    -- Headings of the same or a deeper level end here.
    let above := opened.dropWhile (h.level ≤ ·.level)
    (h, above) :: withAncestors (h :: above) hs

namespace Rows

/-- What the rows of a heading depend on, apart from the heading. -/
structure Scope where
  options : Options
  types : List NoteType
  file : Text
  /-- Tags of the file. -/
  fileTags : List Text

namespace Scope

def ofOptions (o : Options) (file : Text) (fileTags : List Text) : Scope :=
  ⟨o, NoteType.all o.templates, file, fileTags⟩

end Scope

def archiveTag : Text := "ARCHIVE".toList

def effortKey : Text := "Effort".toList

/-- A property, unless its key is left out. -/
def ofProperty (s : Scope) (p : Property) (link : Rows) : Rows :=
  if s.options.excludedProperties.covers p.key then {}
  else Rows.append { properties := [⟨s.file, p.offset, p.key, p.value⟩] } link

def headingRow (s : Scope) (h : Heading) : Except NumeralFault HeadingRow := do
  let effort ←
    match h.property? effortKey with
    | some t => Duration.minutes t
    | none => .ok none
  .ok {
    file := s.file
    offset := h.offset
    title := h.title
    keyword := h.keyword
    effort
    priority := h.priority
    archived := Text.isIn archiveTag h.tags
    commented := h.commented
    content := h.content }

/-- The heading itself and its ancestors, with their distances. -/
def ofAncestors (s : Scope) (h : Heading) (above : List Heading) : List ClosureRow :=
  (h :: above).zipIdx.map fun (a, depth) => ⟨s.file, h.offset, a.offset, depth⟩

/-- Tags of the file and of the ancestors, the outermost first. -/
def inheritedTags (s : Scope) (above : List Heading) : List Text :=
  if s.options.inheritTags then
    (firsts (s.fileTags ++ above.reverse.flatMap (·.tags))).filter
      (!Text.isIn · s.options.uninherited)
  else []

/-- The tags of the heading, and those that it inherits and does not have. -/
def ofTags (s : Scope) (h : Heading) (above : List Heading) : List HeadingTagRow :=
  let direct := firsts h.tags
  let inherited :=
    if s.options.excludeInherited then []
    else (inheritedTags s above).filter (!Text.isIn · direct)
  ((direct.map (·, false)) ++ inherited.map (·, true)).filterMap fun (tag, isInherited) =>
    if s.options.excludedTags.covers tag then none
    else some ⟨s.file, h.offset, tag, isInherited⟩

def ofPlanning (s : Scope) (h : Heading) (p : Planning) : Except NumeralFault Rows := do
  if s.options.excludedPlanning.covers p.kind then .ok {}
  else
    match ← Stamp.decode? p.stamp.text with
    | some st =>
      .ok {
        stamps := [⟨s.file, p.stamp.offset, h.offset, st⟩]
        planning := [⟨s.file, h.offset, p.kind, p.stamp.offset⟩] }
    | none => .ok {}

def ofBodyStamp (s : Scope) (h : Heading) (e : Excerpt) : Except NumeralFault Rows := do
  match ← Stamp.decode? e.text with
  | some st =>
    if s.options.excludedStamps.covers (StampKind.ofActive st.active) then .ok {}
    else .ok { stamps := [⟨s.file, e.offset, h.offset, st⟩] }
  | none => .ok {}

def ofLink (s : Scope) (h : Heading) (e : Excerpt) : List LinkRow :=
  match Link.ofText? e.text with
  | some l =>
    if s.options.excludedLinks.covers l.type then [] else [⟨s.file, e.offset, h.offset, l⟩]
  | none => []

/-- The entries of the logbook: those of its drawer, or the loose ones. -/
def logEntries (o : Options) (h : Heading) : List Entry :=
  match o.logDrawer with
  | none => h.looseEntries
  | some name => ((h.drawer? name).map (·.entries)).getD []

def ofClock (s : Scope) (h : Heading) (c : Clock) : Rows :=
  if s.options.excludeClocks then {}
  else
    { clocks := [{
        file := s.file
        offset := c.offset
        heading := h.offset
        start := c.start
        finish := c.finish
        note := if s.options.excludeClockNotes then none else c.note }] }

def ofNote (s : Scope) (h : Heading) (n : Note) : Rows :=
  if s.options.excludedNotes.covers n.type then {}
  else
    let note : NoteRow := ⟨s.file, n.offset, h.offset, n.type, n.timeLogged, n.header, n.body⟩
    -- Notes of states and of planning changes have rows of their own beside the note.
    if n.type = NoteType.state then
      { notes := [note], states := [⟨s.file, n.offset, n.oldState, n.newState⟩] }
    else
      match n.oldStamp with
      | some (pos, st) =>
        { notes := [note]
          stamps := [⟨s.file, pos, h.offset, st⟩]
          planningChanges := [⟨s.file, n.offset, pos⟩] }
      | none => { notes := [note] }

def ofRecord (s : Scope) (h : Heading) : LogRecord → Rows
  | .clock c => ofClock s h c
  | .note n => ofNote s h n

/-- The rows of one heading. -/
def ofHeading (s : Scope) (h : Heading) (above : List Heading) : Except NumeralFault Rows := do
  let row ← headingRow s h
  let planning ← h.planning.mapM (ofPlanning s h)
  let stamps ← h.timestamps.mapM (ofBodyStamp s h)
  let log ← LogRecord.classify s.types (logEntries s.options h)
  let own : Rows := {
    headings := [row]
    closures := ofAncestors s h above
    headingTags := ofTags s h above
    links := h.links.flatMap (ofLink s h) }
  let properties := h.properties.map fun p =>
    ofProperty s p { headingProperties := [⟨s.file, p.offset, h.offset⟩] }
  .ok (concat (own :: properties ++ planning ++ stamps ++ log.map (ofRecord s h)))

/-- The rows of a file as a whole. -/
def ofFile (s : Scope) (properties : List Property) (md5 : Text) (size : Option Int) : Rows :=
  let own : Rows := {
    files := [⟨s.file, md5, size⟩]
    fileTags := (s.fileTags.filter (!s.options.excludedTags.covers ·)).map (⟨s.file, ·⟩) }
  let properties := properties.map fun p =>
    ofProperty s p { fileProperties := [⟨s.file, p.offset⟩] }
  concat (own :: properties)

/-- The rows of an outline that stands in a file. -/
def ofOutline (o : Options) (x : Outline) (file md5 : Text) (size : Option Int) :
    Except NumeralFault Rows := do
  let s := Scope.ofOptions o file (firsts x.tags)
  let rows ← (Heading.withAncestors [] x.headings).mapM fun (h, above) => ofHeading s h above
  .ok (concat (ofFile s x.properties md5 size :: rows))

end Rows

end OutlineTables
