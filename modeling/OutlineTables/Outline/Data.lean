import OutlineTables.Outline.Basic
import OutlineTables.Value.Coerce

/-!
Outlines as untyped values: headings nested in their parents on the way in, and listed with the
places of their parents on the way out.
-/
namespace OutlineTables

namespace Excerpt

def ofValue? (v : Value) : Option Excerpt := do
  if v.isObject then
    some { offset := ← v.fieldOf? "offset" Value.asInt?, text := ← v.fieldOf? "text" Value.asText? }
  else none

def toValue (e : Excerpt) : Value := .object [("offset", .int e.offset), ("text", .text e.text)]

end Excerpt

namespace Property

def ofValue? (v : Value) : Option Property := do
  if v.isObject then
    some {
      offset := ← v.fieldOf? "offset" Value.asInt?
      key := ← v.fieldOf? "key" Value.asText?
      value := ← v.fieldOf? "value" Value.asText? }
  else none

def toValue (p : Property) : Value :=
  .object [("offset", .int p.offset), ("key", .text p.key), ("value", .text p.value)]

end Property

namespace PlanningKind

def ofValue? (v : Value) : Option PlanningKind := do
  let name ← v.asName?
  all.find? (·.name = name)

end PlanningKind

namespace Planning

def ofValue? (v : Value) : Option Planning := do
  if v.isObject then
    some {
      kind := ← v.fieldOf? "type" PlanningKind.ofValue?
      stamp := ← v.fieldOf? "timestamp" Excerpt.ofValue? }
  else none

def toValue (p : Planning) : Value :=
  .object [("type", .str p.kind.name), ("timestamp", p.stamp.toValue)]

end Planning

namespace Entry

def kind? (v : Value) : Option EntryKind := do
  let name ← v.asName?
  [EntryKind.clock, .item].find? (·.name = name)

def ofValue? (v : Value) : Option Entry := do
  if v.isObject then
    some {
      kind := ← v.fieldOf? "kind" kind?
      offset := ← v.fieldOf? "offset" Value.asInt?
      textOffset := ← v.fieldOf? "header_offset" Value.asInt?
      text := ← v.fieldOf? "text" Value.asText? }
  else none

def toValue (e : Entry) : Value :=
  .object [("kind", .str e.kind.name), ("offset", .int e.offset),
    ("header_offset", .int e.textOffset), ("text", .text e.text)]

end Entry

/-- A list whose items `read?` accepts. -/
def Value.listOf? (read? : Value → Option α) (v : Value) : Option (List α) :=
  v.asList?.bind fun vs => vs.mapM read?

def Value.ofList (f : α → Value) (as : List α) : Value := .list (as.map f)

namespace Drawer

def ofValue? (v : Value) : Option Drawer := do
  if v.isObject then
    some {
      name := ← v.fieldOf? "name" Value.asText?
      offset := ← v.fieldOf? "offset" Value.asInt?
      entries := ← v.fieldD "entries" [] (Value.listOf? Entry.ofValue?) }
  else none

def toValue (d : Drawer) : Value :=
  .object [("name", .text d.name), ("offset", .int d.offset),
    ("entries", .ofList Entry.toValue d.entries)]

end Drawer

namespace Heading

/-- The heading of an object, the headings below it aside. -/
def ofValue? (v : Value) : Option Heading := do
  some {
    offset := ← v.fieldOf? "offset" Value.asInt?
    level := ← v.fieldOf? "level" Value.asInt?
    title := ← v.fieldOf? "title" Value.asText?
    keyword := ← v.fieldOrNull? "keyword" Value.asText?
    priority := ← v.fieldOrNull? "priority" Value.asText?
    commented := ← v.fieldD "commented" false Value.asBool?
    tags := ← v.fieldD "tags" [] Value.asTexts?
    properties := ← v.fieldD "properties" [] (Value.listOf? Property.ofValue?)
    planning := ← v.fieldD "planning" [] (Value.listOf? Planning.ofValue?)
    drawers := ← v.fieldD "drawers" [] (Value.listOf? Drawer.ofValue?)
    looseEntries := ← v.fieldD "section_items" [] (Value.listOf? Entry.ofValue?)
    content := ← v.fieldOrNull? "content" Value.asText?
    timestamps := ← v.fieldD "timestamps" [] (Value.listOf? Excerpt.ofValue?)
    links := ← v.fieldD "links" [] (Value.listOf? Excerpt.ofValue?) }

def toValue (parent : Option Nat) (h : Heading) : Value :=
  .object [("parent", .ofInt? (parent.map (·))), ("offset", .int h.offset),
    ("level", .int h.level), ("title", .text h.title), ("keyword", .ofText? h.keyword),
    ("priority", .ofText? h.priority), ("commented", .bool h.commented),
    ("tags", .ofList .text h.tags), ("properties", .ofList Property.toValue h.properties),
    ("planning", .ofList Planning.toValue h.planning),
    ("drawers", .ofList Drawer.toValue h.drawers),
    ("section_items", .ofList Entry.toValue h.looseEntries), ("content", .ofText? h.content),
    ("timestamps", .ofList Excerpt.toValue h.timestamps),
    ("links", .ofList Excerpt.toValue h.links)]

end Heading

namespace Tree

/-- The deepest that headings are nested in untyped values. -/
def maxDepth : Nat := 254

mutual

/-- A tree of at most `room` levels. -/
def ofValue? (room : Nat) : Value → Option Tree
  | .object fields =>
    if room = 0 then none
    else do
      let h ← Heading.ofValue? (.object fields)
      let ts ← childrenOf? (room - 1) fields
      some (node h ts)
  | _ => none

/-- The trees of the field that holds them. -/
def childrenOf? (room : Nat) : List (String × Value) → Option (List Tree)
  | [] => some []
  | (key, v) :: fs =>
    if key = "children" then
      match v with
      | .list vs => ofValues? room vs
      | _ => none
    else childrenOf? room fs

def ofValues? (room : Nat) : List Value → Option (List Tree)
  | [] => some []
  | v :: vs => do
    let t ← ofValue? room v
    let ts ← ofValues? room vs
    some (t :: ts)

end

end Tree

namespace Outline

def ofValue? (v : Value) : Option Outline := do
  if v.isObject then
    some {
      tags := ← v.fieldD "tags" [] Value.asTexts?
      properties := ← v.fieldD "properties" [] (Value.listOf? Property.ofValue?)
      trees := ← v.fieldD "headlines" [] fun w =>
        w.asList?.bind (Tree.ofValues? Tree.maxDepth) }
  else none

def toValue (o : Outline) : Value :=
  .object [("tags", .ofList .text o.tags),
    ("properties", .ofList Property.toValue o.properties),
    ("headlines", .ofList (fun (parent, h) => Heading.toValue parent h) o.placed)]

end Outline

end OutlineTables
