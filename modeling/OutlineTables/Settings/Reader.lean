import OutlineTables.Options.Reader
import OutlineTables.Settings.Assignments
import OutlineTables.Settings.Basic
import OutlineTables.Text.LowerCase
import OutlineTables.Value.Json

/-!
Settings read from variables. Lists and the options of the mapping are written as JSON, single
options also as variables of their own; the environment goes before a file of assignments.
-/
namespace OutlineTables

/-- Variables by their names in lower case, each name once. -/
structure SettingsSource where
  origin : SettingsOrigin
  bindings : List (Text × Option Text)

namespace SettingsSource

/-- The bindings with one for `name`: in its place if it is there, else at the end. -/
def bind (name : Text) (value : Option Text) :
    List (Text × Option Text) → List (Text × Option Text)
  | [] => [(name, value)]
  | (n, v) :: rest => if n = name then (n, value) :: rest else (n, v) :: bind name value rest

/-- Every name once, at its first place and with its last value. -/
def settled (bindings : List (Text × Option Text)) : List (Text × Option Text) :=
  bindings.foldl (fun seen (n, v) => bind n v seen) []

/-- Names that differ in case only count as repeated after those that are the same. -/
def ofVariables (origin : SettingsOrigin) (bindings : List (Text × Option Text)) :
    SettingsSource :=
  ⟨origin, settled ((settled bindings).map fun (n, v) => (Text.lower n, v))⟩

/-- The start of the names of all variables. -/
def lead : Text := "org_sql_".toList

def value? (s : SettingsSource) (field : String) : Option Text :=
  (s.bindings.lookup (lead ++ field.toList)).join

/-- A field as it is written. -/
def textField (s : SettingsSource) (field : String) : List (String × Value) :=
  match s.value? field with
  | some t => [(field, .text t)]
  | none => []

/-- The pieces between the pairs of underscores. -/
def steps : Text → List Text
  | [] => [[]]
  | [c] => [[c]]
  | c :: d :: t =>
    if c = '_' ∧ d = '_' then [] :: steps t
    else
      match steps (d :: t) with
      | [] => [[c]]
      | p :: ps => (c :: p) :: ps

/-- Sets a field that may lie inside other fields; what is no object stays as it is. -/
def setInside (v : Value) : List String → List (String × Value) → List (String × Value)
  | [], fields => fields
  | [k], fields => Value.setField k v fields
  | k :: ks, fields =>
    match (fields.lookup k).getD (.object []) with
    | .object inner => Value.setField k (.object (setInside v ks inner)) fields
    | _ => fields

/-- Options that must be JSON. -/
def jsonOptions : List String :=
  ["tags_excluded_from_inheritance", "todo_keywords", "logbook_templates"]

/-- Options that are JSON or else their own text. -/
def exclusionOptions : List String :=
  ["excluded_tags", "excluded_properties", "excluded_link_types",
    "excluded_contents_timestamp_types", "excluded_headline_planning_types",
    "excluded_logbook_types"]

/-- The value of a single option; an empty one is never JSON. The name of an option may have the
start of the names of all variables once more. -/
def optionValue (s : SettingsSource) (name : Text) (t : Text) : Except SettingsFault Value :=
  let option := String.ofList ((Text.after? lead name).getD name)
  if t.isEmpty then .ok (.text t)
  else if option ∈ jsonOptions then
    match Json.parse? t with
    | some v => .ok v
    | none => .error (.notJson "mapper" s.origin)
  else if option ∈ exclusionOptions then .ok ((Json.parse? t).getD (.text t))
  else .ok (.text t)

/-- The parts of a field that have variables of their own, as an object; `read` gives the value of
a part of the field itself. -/
def parts (s : SettingsSource) (field : String)
    (read : Text → Text → Except SettingsFault Value) :
    Except SettingsFault (List (String × Value)) :=
  s.bindings.foldlM (fun fields (name, value) =>
    match Text.after? (lead ++ field.toList ++ "__".toList) name with
    | none => .ok fields
    | some rest => do
      let keys := steps rest
      let v ←
        match keys, value with
        | _, none => .ok .null
        | [key], some t => read key t
        | _, some t => .ok (.text t)
      .ok (setInside v (keys.map String.ofList) fields)) []

/-- A field written as JSON, joined with its parts if it is an object. Without a value the parts
alone make one; null is as good as no field. -/
def jsonField (s : SettingsSource) (field : String)
    (read : Text → Text → Except SettingsFault Value) : Except SettingsFault (Option Value) := do
  match s.value? field with
  | none =>
    let fields ← s.parts field read
    .ok (if fields.isEmpty then none else some (.object fields))
  | some t =>
    match Json.parse? t with
    | none => .error (.notJson field s.origin)
    | some .null => .ok none
    | some (.object fields) =>
      .ok (some (.object (Value.mergeFields fields (← s.parts field read))))
    | some v => .ok (some v)

/-- Options are found by their names in any case. -/
def withOptionNames : Value → Value
  | .object fields =>
    .object (fields.foldl (fun fs (k, v) =>
      let low := String.ofList (Text.lower k.toList)
      let known := (Options.default.toValue.field? low).isSome
      Value.setField (if known then low else k) v fs) [])
  | v => v

/-- The fields that the source sets. -/
def fields (s : SettingsSource) : Except SettingsFault (List (String × Value)) := do
  let outlines ← s.jsonField "org_dirs" fun _ t => .ok (.text t)
  let mapper ← s.jsonField "mapper" s.optionValue
  .ok (s.textField "home" ++ (outlines.map ("org_dirs", ·)).toList ++
    s.textField "database_backend" ++ s.textField "database_url" ++ s.textField "log_level" ++
    (mapper.map fun v => ("mapper", withOptionNames v)).toList)

end SettingsSource

namespace Settings

def dialect? (v : Value) : Option Dialect := do
  let t ← v.asText?
  Dialect.all.find? (·.name.toList = t)

def paths? (v : Value) : Option (List Path) := v.asTexts?.map fun ts => ts.map Path.ofText

/-- How many mistakes the fields have. -/
def mistakes (v : Value) : Nat :=
  let count (key : String) (f : Value → Nat) : Nat := ((v.field? key).map f).getD 0
  count "org_dirs" (Options.listMistakes Options.isText) +
    count "database_backend" (Options.mistakeUnless dialect?) + count "mapper" Options.mistakes

def defaultHome : Path := [".org-sql".toList]

/-- The home among the fields. -/
def homeOf (fields : List (String × Value)) : Path :=
  (((fields.lookup "home").bind Value.asText?).map Path.ofText).getD defaultHome

def ofFields (fields : List (String × Value)) : Except SettingsFault Settings :=
  let v := Value.object fields
  let read : Option Settings := do
    some {
      home := homeOf fields
      outlines := ← v.fieldD "org_dirs" [] paths?
      dialect := ← v.fieldD "database_backend" Dialect.sqlite dialect?
      databaseUrl := ← v.fieldD "database_url" none fun w => w.asText?.map some
      logLevel := ← v.fieldD "log_level" "WARNING".toList Value.asText?
      options := ← v.fieldD "mapper" Options.default Options.ofValue? }
  match read with
  | some s => .ok s
  | none => .error (.mistakes (mistakes v))

/-- The fields that the environment and the text of a file of assignments set. -/
def fields (environment : List (Text × Text)) (file : Option Text) :
    Except SettingsFault (List (String × Value)) := do
  let outer := SettingsSource.ofVariables .environment (environment.map fun (n, v) => (n, some v))
  let inner := SettingsSource.ofVariables .file
    ((file.map (Assignments.read environment)).getD [])
  let first ← outer.fields
  let second ← inner.fields
  .ok (Value.mergeFields second first)

/-- Settings from the environment and from the text of a file of assignments, if there is one. -/
def read (environment : List (Text × Text)) (file : Option Text) :
    Except SettingsFault Settings := fields environment file >>= ofFields

end Settings

end OutlineTables
