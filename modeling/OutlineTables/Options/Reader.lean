import OutlineTables.Options.Basic
import OutlineTables.Value.Coerce

/-!
Options given as untyped values, and options as values. Unknown options are ignored.
-/
namespace OutlineTables

namespace Exclusion

/-- `"all"` or a list whose items `read?` accepts. -/
def ofValue? (read? : Value → Option α) : Value → Option (Exclusion α)
  | .list vs => (vs.mapM read?).map only
  | .text t => if t = "all".toList then some all else none
  | _ => none

def toValue (item : α → Value) : Exclusion α → Value
  | all => .str "all"
  | only values => .list (values.map item)

/-- Why a raw exclusion cannot be asked for a value. -/
inductive CoverFault where
  /-- Only a text can be a part of a text. -/
  | notText (value : Value)
  | noCollection (exclusion : Value)
  /-- Only what is no collection itself can be the name of a field. -/
  | noKey (value : Value)

def CoverFault.message : CoverFault → Text
  | notText v => ("'in <string>' requires string as left operand, not " ++ v.kindName).toList
  | noCollection v => ("argument of type '" ++ v.kindName ++ "' is not iterable").toList
  | noKey v => ("unhashable type: '" ++ v.kindName ++ "'").toList

/-- Whether a raw exclusion covers a value: a text other than `all` covers its own parts, a list
covers its items, and an object the names of its fields. -/
def rawCovers (exclusion value : Value) : Except CoverFault Bool :=
  match exclusion with
  | .text t =>
    if t = "all".toList then .ok true
    else
      match value with
      | .text part => .ok (Text.hasPart part t)
      | v => .error (.notText v)
  | .list vs => .ok (vs.any value.same)
  | .object fields =>
    match value with
    | .text t => .ok (fields.any fun (k, _) => k.toList = t)
    | .list vs => .error (.noKey (.list vs))
    | .object fs => .error (.noKey (.object fs))
    | _ => .ok false
  | v => .error (.noCollection v)

end Exclusion

namespace Options

def stampKind? (v : Value) : Option StampKind := do
  let name ← v.asName?
  [StampKind.active, .inactive].find? (·.name = name)

def planningKind? (v : Value) : Option PlanningKind := do
  let name ← v.asName?
  PlanningKind.all.find? (·.name = name)

/-- The logbook drawer: switches and the words for off are accepted beside a name. -/
def drawer? : Value → Option (Option Text)
  | .bool true => some (some defaultDrawer)
  | .bool false => some none
  | .null => some none
  | .text t =>
    if t.isEmpty || t = "off".toList || t = "nil".toList then some none else some (some t)
  | _ => none

def templates? : Value → Option (List (Text × Text))
  | .object fields => fields.mapM fun (k, v) => v.asText?.map fun t => (k.toList, t)
  | _ => none

/-- The options of an object; absent ones take their defaults. -/
def ofValue? (v : Value) : Option Options :=
  if v.isObject then do
    some {
      excludedTags :=
        ← v.fieldD "excluded_tags" default.excludedTags (Exclusion.ofValue? Value.asText?)
      inheritTags := ← v.fieldD "use_tag_inheritance" default.inheritTags Value.asBool?
      excludeInherited :=
        ← v.fieldD "exclude_inherited_tags" default.excludeInherited Value.asBool?
      uninherited :=
        ← v.fieldD "tags_excluded_from_inheritance" default.uninherited Value.asTexts?
      excludedProperties := ← v.fieldD "excluded_properties" default.excludedProperties
        (Exclusion.ofValue? Value.asText?)
      excludedLinks :=
        ← v.fieldD "excluded_link_types" default.excludedLinks (Exclusion.ofValue? Value.asText?)
      excludedStamps := ← v.fieldD "excluded_contents_timestamp_types" default.excludedStamps
        (Exclusion.ofValue? stampKind?)
      excludedPlanning := ← v.fieldD "excluded_headline_planning_types" default.excludedPlanning
        (Exclusion.ofValue? planningKind?)
      excludedNotes := ← v.fieldD "excluded_logbook_types" default.excludedNotes
        (Exclusion.ofValue? Value.asText?)
      excludeClocks := ← v.fieldD "exclude_clocks" default.excludeClocks Value.asBool?
      excludeClockNotes :=
        ← v.fieldD "exclude_clock_notes" default.excludeClockNotes Value.asBool?
      templates := ← v.fieldD "logbook_templates" default.templates templates?
      logDrawer := ← v.fieldD "log_into_drawer" default.logDrawer drawer?
      keywords := ← v.fieldD "todo_keywords" default.keywords Value.asTexts? }
  else none

/-! The number of mistakes in the description of an option, and in that of all options. -/

def listMistakes (item : Value → Bool) : Value → Nat
  | .list vs => (vs.filter (!item ·)).length
  | _ => 1

/-- What is neither `"all"` nor a list fails as both, and so does a list with wrong items. -/
def exclusionMistakes (item : Value → Bool) (v : Value) : Nat :=
  if v.asText? = some "all".toList then 0
  else
    match v with
    | .list vs => if vs.all item then 0 else 1 + listMistakes item v
    | _ => 2

def templateMistakes : Value → Nat
  | .object fields => (fields.filter fun (_, v) => v.asText?.isNone).length
  | _ => 1

def mistakeUnless (read? : Value → Option α) (v : Value) : Nat := if (read? v).isSome then 0 else 1

def isText (v : Value) : Bool := v.asText?.isSome

def mistakesIn (key : String) (v : Value) : Nat :=
  match key with
  | "use_tag_inheritance" | "exclude_inherited_tags" | "exclude_clocks" | "exclude_clock_notes" =>
    mistakeUnless Value.asBool? v
  | "tags_excluded_from_inheritance" | "todo_keywords" => listMistakes isText v
  | "excluded_tags" | "excluded_properties" | "excluded_link_types" | "excluded_logbook_types" =>
    exclusionMistakes isText v
  | "excluded_contents_timestamp_types" => exclusionMistakes (fun w => (stampKind? w).isSome) v
  | "excluded_headline_planning_types" => exclusionMistakes (fun w => (planningKind? w).isSome) v
  | "logbook_templates" => templateMistakes v
  | "log_into_drawer" => mistakeUnless drawer? v
  | _ => 0

/-- How many mistakes the description of options has. -/
def mistakes : Value → Nat
  | .object fields => fields.foldr (fun (key, v) n => mistakesIn key v + n) 0
  | _ => 1

def textsValue (ts : List Text) : Value := .list (ts.map .text)

def toValue (o : Options) : Value := .object [
  ("excluded_tags", o.excludedTags.toValue .text),
  ("use_tag_inheritance", .bool o.inheritTags),
  ("exclude_inherited_tags", .bool o.excludeInherited),
  ("tags_excluded_from_inheritance", textsValue o.uninherited),
  ("excluded_properties", o.excludedProperties.toValue .text),
  ("excluded_link_types", o.excludedLinks.toValue .text),
  ("excluded_contents_timestamp_types", o.excludedStamps.toValue (.str ·.name)),
  ("excluded_headline_planning_types", o.excludedPlanning.toValue (.str ·.name)),
  ("excluded_logbook_types", o.excludedNotes.toValue .text),
  ("exclude_clocks", .bool o.excludeClocks),
  ("exclude_clock_notes", .bool o.excludeClockNotes),
  ("logbook_templates", .object (o.templates.map fun (k, t) => (String.ofList k, .text t))),
  ("log_into_drawer", .ofText? o.logDrawer),
  ("todo_keywords", textsValue o.keywords)]

end Options

end OutlineTables
