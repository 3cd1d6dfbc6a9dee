import OutlineTables.Schema.Basic

/-!
The schema of the rows. Everything made from a file hangs on the path in `files`, so that a file
is renamed or deleted together with all its rows.
-/
namespace OutlineTables.Rows

def timeUnits : List Text := ["hour", "day", "week", "month", "year"].map String.toList

def planningTypes : List Text := ["closed", "deadline", "scheduled"].map String.toList

def repeatTypes : List Text := ["catch-up", "restart", "cumulate"].map String.toList

def warningTypes : List Text := ["all", "first"].map String.toList

def required (name : String) (type : ColumnType) (description : String) : Column :=
  { name, type, description, notNull := true }

def nullable (name : String) (type : ColumnType) (description : String) : Column :=
  { name, type, description }

def enumeration (name description : String) (allowed : List Text) : Column :=
  { name, type := .enum, description, allowed }

def filePath : Column := required "file_path" .text "path to the org file"

def headlineOffset : Column :=
  required "headline_offset" .integer "offset of the headline this row belongs to"

def toFile : ForeignKey := ⟨["file_path"], "files", ["file_path"], "CASCADE", "CASCADE"⟩

/-- A reference of `column` to the position in a table of the same file. -/
def toPosition (column parent position : String) : ForeignKey :=
  ⟨["file_path", column], parent, ["file_path", position], "CASCADE", "CASCADE"⟩

def toHeadline : ForeignKey := toPosition "headline_offset" "headlines" "headline_offset"

def toProperty : ForeignKey := toPosition "property_offset" "properties" "property_offset"

def toTimestamp : ForeignKey := toPosition "timestamp_offset" "timestamps" "timestamp_offset"

def toEntry : ForeignKey := toPosition "entry_offset" "logbook_entries" "entry_offset"

def filesTable : Table where
  name := "files"
  description := "each row describes one org file"
  columns := [filePath, required "md5" .text "hash of the file contents",
    required "size" .integer "size of the file in bytes"]
  primaryKey := ["file_path"]

def headlinesTable : Table where
  name := "headlines"
  description := "each row describes one headline in an org file"
  columns := [filePath, headlineOffset,
    required "headline_text" .text "raw text of the headline",
    nullable "keyword" .text "the TODO state keyword",
    nullable "effort" .integer "the value of the Effort property in minutes",
    nullable "priority" .text "character value of the priority",
    required "is_archived" .boolean "true if the headline has an archive tag",
    required "is_commented" .boolean "true if the headline has a comment keyword",
    nullable "content" .text "the headline contents"]
  primaryKey := ["file_path", "headline_offset"]
  foreignKeys := [toFile]

def closuresTable : Table where
  name := "headline_closures"
  description := "each row describes one ancestor of a headline"
  columns := [filePath, headlineOffset,
    required "parent_offset" .integer "offset of the ancestor headline",
    nullable "depth" .integer "levels between the headline and the ancestor"]
  primaryKey := ["file_path", "headline_offset", "parent_offset"]
  foreignKeys := [toHeadline, toPosition "parent_offset" "headlines" "headline_offset"]

def timestampsTable : Table where
  name := "timestamps"
  description := "each row describes one timestamp"
  columns := [filePath, required "timestamp_offset" .integer "offset of the timestamp",
    headlineOffset, required "raw_value" .text "text representation of the timestamp",
    required "is_active" .boolean "true if the timestamp is active",
    enumeration "warning_type" "type of the warning" warningTypes,
    nullable "warning_value" .integer "shift of the warning",
    enumeration "warning_unit" "unit of the warning" timeUnits,
    enumeration "repeat_type" "type of the repeater" repeatTypes,
    nullable "repeat_value" .integer "shift of the repeater",
    enumeration "repeat_unit" "unit of the repeater" timeUnits,
    required "time_start" .integer "start time in epoch seconds",
    required "start_is_long" .boolean "true if the start has a time of day",
    nullable "time_end" .integer "end time in epoch seconds",
    nullable "end_is_long" .boolean "true if the end has a time of day"]
  primaryKey := ["file_path", "timestamp_offset"]
  foreignKeys := [toHeadline]

def planningTable : Table where
  name := "planning_entries"
  description := "each row links a headline to a planning timestamp"
  columns := [filePath, headlineOffset,
    { enumeration "planning_type" "the planning keyword" planningTypes with notNull := true },
    required "timestamp_offset" .integer "offset of the planning timestamp"]
  primaryKey := ["file_path", "headline_offset", "planning_type"]
  foreignKeys := [toHeadline, toTimestamp]

def fileTagsTable : Table where
  name := "file_tags"
  description := "each row is one tag set for a whole file"
  columns := [filePath, required "tag" .text "the text value of the tag"]
  primaryKey := ["file_path", "tag"]
  foreignKeys := [toFile]

def headlineTagsTable : Table where
  name := "headline_tags"
  description := "each row is one tag of a headline"
  columns := [filePath, headlineOffset, required "tag" .text "the text value of the tag",
    required "is_inherited" .boolean "true if the tag is inherited"]
  primaryKey := ["file_path", "headline_offset", "tag"]
  foreignKeys := [toHeadline]

def propertiesTable : Table where
  name := "properties"
  description := "each row is one property"
  columns := [filePath, required "property_offset" .integer "offset of the property",
    required "key_text" .text "the property key", required "val_text" .text "the property value"]
  primaryKey := ["file_path", "property_offset"]
  foreignKeys := [toFile]

def filePropertiesTable : Table where
  name := "file_properties"
  description := "each row links a property to its file"
  columns := [filePath, required "property_offset" .integer "offset of the property"]
  primaryKey := ["file_path", "property_offset"]
  foreignKeys := [toFile, toProperty]

def headlinePropertiesTable : Table where
  name := "headline_properties"
  description := "each row links a property to its headline"
  columns := [filePath, required "property_offset" .integer "offset of the property",
    headlineOffset]
  primaryKey := ["file_path", "property_offset"]
  foreignKeys := [toProperty, toHeadline]

def linksTable : Table where
  name := "links"
  description := "each row describes one link"
  columns := [filePath, required "link_offset" .integer "offset of the link", headlineOffset,
    required "link_path" .text "target of the link",
    nullable "link_text" .text "description of the link",
    required "link_type" .text "type of the link"]
  primaryKey := ["file_path", "link_offset"]
  foreignKeys := [toHeadline]

def clockingTable : Table where
  name := "clocking"
  description := "each row describes one clock entry"
  columns := [filePath, required "clock_offset" .integer "offset of the clock line",
    headlineOffset, nullable "time_start" .integer "clock start in epoch seconds",
    nullable "time_end" .integer "clock end in epoch seconds, null if running",
    nullable "clock_note" .text "note attached to the clock"]
  primaryKey := ["file_path", "clock_offset"]
  foreignKeys := [toHeadline]

def logbookTable : Table where
  name := "logbook_entries"
  description := "each row describes one logbook item"
  columns := [filePath, required "entry_offset" .integer "offset of the logbook item",
    headlineOffset, required "entry_type" .text "type of the entry",
    nullable "time_logged" .integer "when the entry was logged in epoch seconds",
    nullable "header" .text "first line of the entry",
    nullable "note" .text "text below the header"]
  primaryKey := ["file_path", "entry_offset"]
  foreignKeys := [toHeadline]

def statesTable : Table where
  name := "state_changes"
  description := "each row describes a TODO keyword change"
  columns := [filePath, required "entry_offset" .integer "offset of the logbook entry",
    nullable "state_old" .text "former keyword", nullable "state_new" .text "updated keyword"]
  primaryKey := ["file_path", "entry_offset"]
  foreignKeys := [toEntry]

def planningChangesTable : Table where
  name := "planning_changes"
  description := "each row describes a change to a planning timestamp"
  columns := [filePath, required "entry_offset" .integer "offset of the logbook entry",
    required "timestamp_offset" .integer "offset of the former timestamp"]
  primaryKey := ["file_path", "entry_offset", "timestamp_offset"]
  foreignKeys := [toEntry, toTimestamp]

/-- All tables, parents first. -/
def schema : Schema where
  tables := [filesTable, headlinesTable, closuresTable, timestampsTable, planningTable,
    fileTagsTable, headlineTagsTable, propertiesTable, filePropertiesTable,
    headlinePropertiesTable, linksTable, clockingTable, logbookTable, statesTable,
    planningChangesTable]

end OutlineTables.Rows
