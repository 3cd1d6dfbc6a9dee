import OutlineTables.Rows.Basic
import OutlineTables.Value.Basic

/-!
Rows as records: the columns of a table with their values.
-/
namespace OutlineTables

/-- Columns with their values. -/
abbrev Record := List (String × Value)

def fileColumn (file : Text) : String × Value := ("file_path", .text file)

def headingColumn (heading : Int) : String × Value := ("headline_offset", .int heading)

def FileRow.record (r : FileRow) : Record :=
  [fileColumn r.path, ("md5", .text r.md5), ("size", .ofInt? r.size)]

def HeadingRow.record (r : HeadingRow) : Record :=
  [fileColumn r.file, headingColumn r.offset, ("headline_text", .text r.title),
    ("keyword", .ofText? r.keyword), ("effort", .ofInt? (r.effort.map (·))),
    ("priority", .ofText? r.priority), ("is_archived", .bool r.archived),
    ("is_commented", .bool r.commented), ("content", .ofText? r.content)]

def ClosureRow.record (r : ClosureRow) : Record :=
  [fileColumn r.file, headingColumn r.heading, ("parent_offset", .int r.ancestor),
    ("depth", .int r.depth)]

def StampRow.record (r : StampRow) : Record :=
  let s := r.stamp
  [fileColumn r.file, ("timestamp_offset", .int r.offset), headingColumn r.heading,
    ("raw_value", .text s.raw), ("is_active", .bool s.active),
    ("warning_type", .ofOption (fun w : Warning => .str w.kind.name) s.warning),
    ("warning_value", .ofOption (fun w : Warning => .int w.count) s.warning),
    ("warning_unit", .ofOption (fun w : Warning => .str w.unit.name) s.warning),
    ("repeat_type", .ofOption (fun r : Repeater => .str r.kind.name) s.repeater),
    ("repeat_value", .ofOption (fun r : Repeater => .int r.count) s.repeater),
    ("repeat_unit", .ofOption (fun r : Repeater => .str r.unit.name) s.repeater),
    ("time_start", .int s.start.seconds), ("start_is_long", .bool s.start.isLong),
    ("time_end", .ofInt? (s.finish.map (·.seconds))),
    ("end_is_long", .ofBool? (s.finish.map (·.isLong)))]

def PlanningRow.record (r : PlanningRow) : Record :=
  [fileColumn r.file, headingColumn r.heading, ("planning_type", .str r.kind.name),
    ("timestamp_offset", .int r.stamp)]

def FileTagRow.record (r : FileTagRow) : Record := [fileColumn r.file, ("tag", .text r.tag)]

def HeadingTagRow.record (r : HeadingTagRow) : Record :=
  [fileColumn r.file, headingColumn r.heading, ("tag", .text r.tag),
    ("is_inherited", .bool r.inherited)]

def PropertyRow.record (r : PropertyRow) : Record :=
  [fileColumn r.file, ("property_offset", .int r.offset), ("key_text", .text r.key),
    ("val_text", .text r.value)]

def FilePropertyRow.record (r : FilePropertyRow) : Record :=
  [fileColumn r.file, ("property_offset", .int r.property)]

def HeadingPropertyRow.record (r : HeadingPropertyRow) : Record :=
  [fileColumn r.file, ("property_offset", .int r.property), headingColumn r.heading]

def LinkRow.record (r : LinkRow) : Record :=
  [fileColumn r.file, ("link_offset", .int r.offset), headingColumn r.heading,
    ("link_path", .text r.link.path), ("link_text", .text r.link.description),
    ("link_type", .text r.link.type)]

def ClockRow.record (r : ClockRow) : Record :=
  [fileColumn r.file, ("clock_offset", .int r.offset), headingColumn r.heading,
    ("time_start", .int r.start), ("time_end", .ofInt? r.finish), ("clock_note", .ofText? r.note)]

def NoteRow.record (r : NoteRow) : Record :=
  [fileColumn r.file, ("entry_offset", .int r.offset), headingColumn r.heading,
    ("entry_type", .text r.type), ("time_logged", .ofInt? r.time), ("header", .text r.header),
    ("note", .ofText? r.body)]

def StateRow.record (r : StateRow) : Record :=
  [fileColumn r.file, ("entry_offset", .int r.note), ("state_old", .ofText? r.old),
    ("state_new", .ofText? r.new)]

def PlanningChangeRow.record (r : PlanningChangeRow) : Record :=
  [fileColumn r.file, ("entry_offset", .int r.note), ("timestamp_offset", .int r.stamp)]

/-- The records of every table, parent tables first. -/
def Rows.records (r : Rows) : List (String × List Record) :=
  [("files", r.files.map (·.record)),
    ("headlines", r.headings.map (·.record)),
    ("headline_closures", r.closures.map (·.record)),
    ("timestamps", r.stamps.map (·.record)),
    ("planning_entries", r.planning.map (·.record)),
    ("file_tags", r.fileTags.map (·.record)),
    ("headline_tags", r.headingTags.map (·.record)),
    ("properties", r.properties.map (·.record)),
    ("file_properties", r.fileProperties.map (·.record)),
    ("headline_properties", r.headingProperties.map (·.record)),
    ("links", r.links.map (·.record)),
    ("clocking", r.clocks.map (·.record)),
    ("logbook_entries", r.notes.map (·.record)),
    ("state_changes", r.states.map (·.record)),
    ("planning_changes", r.planningChanges.map (·.record))]

end OutlineTables
