import OutlineTables.Proofs.Outline.Verbatim
import OutlineTables.Proofs.Rows.Closures
import OutlineTables.Proofs.Rows.Keys

/-!
What the columns of the tables hold. Records have the columns of their table in its order, each
with a value of its type; positions are those of characters of the text, and depths are smaller
than the number of headings.
-/
namespace OutlineTables

/-- Values that a column of a type can hold. -/
def ColumnType.admits : ColumnType → Value → Prop
  | _, .null => True
  | .boolean, .bool _ => True
  | .integer, .int _ => True
  | .enum, .text _ => True
  | .text, .text _ => True
  | _, _ => False

namespace Rows

/-- Every file has a size. -/
def Sized (r : Rows) : Prop := ∀ x ∈ r.files, x.size ≠ none

/-- An entry of a record for a column: its value is of the type of the column, and not null where
that is forbidden. -/
structure Takes (r : Rows) (c : Column) (entry : String × Value) : Prop where
  name : entry.1 = c.name
  typed : c.type.admits entry.2
  filled : r.Sized → c.notNull = true → entry.2 ≠ .null

variable {o : Options} {t file md5 : Text} {size : Option Int} {r : Rows}

/-- Records match the columns of their table one by one. -/
theorem takes_record {table : Table} (ht : table ∈ schema.tables) {values : Record}
    (hv : values ∈ r.recordsOf table.name) : List.Forall₂ r.Takes table.columns values := by
  have htext {c : Column} {s : Text} (ht : c.type.admits (.text s)) :
      r.Takes c (c.name, .text s) := ⟨rfl, ht, fun _ _ => nofun⟩
  have hint {c : Column} {n : Int} (ht : c.type.admits (.int n)) :
      r.Takes c (c.name, .int n) := ⟨rfl, ht, fun _ _ => nofun⟩
  have hbool {c : Column} {b : Bool} (ht : c.type.admits (.bool b)) :
      r.Takes c (c.name, .bool b) := ⟨rfl, ht, fun _ _ => nofun⟩
  have hadmits {c : Column} {α : Type} {f : α → Value} {a : Option α}
      (ht : ∀ a, c.type.admits (f a)) : c.type.admits (.ofOption f a) := by
    cases a with
    | none => cases c.type <;> trivial
    | some a => exact ht a
  have hoption {c : Column} {α : Type} {f : α → Value} {a : Option α} (hc : c.notNull = false)
      (ht : ∀ a, c.type.admits (f a)) : r.Takes c (c.name, .ofOption f a) :=
    ⟨rfl, hadmits ht, fun _ hn => by rw [hc] at hn; cases hn⟩
  induction table, ht using tables_cases <;> obtain ⟨x, hx, rfl⟩ := List.mem_map.mp hv
  case files =>
    have hsize : r.Takes (required "size" .integer "size of the file in bytes")
        ("size", .ofInt? x.size) := by
      refine ⟨rfl, hadmits fun _ => trivial, fun hsized _ => ?_⟩
      obtain ⟨n, hn⟩ := Option.ne_none_iff_exists'.mp (hsized x hx)
      rw [hn]
      exact nofun
    exact .cons (htext trivial) (.cons (htext trivial) (.cons hsize .nil))
  all_goals
    repeat'
      first
      | exact List.Forall₂.nil
      | apply List.Forall₂.cons
      | exact htext trivial
      | exact hint trivial
      | exact hbool trivial
      | exact hoption rfl fun _ => trivial

/-- The columns that hold positions in the text. -/
def positionColumns : List String :=
  ["headline_offset", "parent_offset", "timestamp_offset", "property_offset", "link_offset",
    "clock_offset", "entry_offset"]

end Rows

namespace Record

/-- The values of a record in some columns. -/
def valuesIn (columns : List String) (values : Record) : List Value :=
  (values.filter fun entry => entry.1 ∈ columns).map Prod.snd

theorem mem_valuesIn_iff {columns : List String} {values : Record} {v : Value} :
    v ∈ values.valuesIn columns ↔ ∃ c ∈ columns, (c, v) ∈ values := by
  unfold valuesIn
  simp only [List.mem_map, List.mem_filter, decide_eq_true_eq, Prod.exists, exists_eq_right]
  exact exists_congr fun c => And.comm

end Record

namespace Rows

theorem length_of_covers {l : Line} (hl : l ∈ Line.ofText t) {p : Int} (hcovers : l.Covers p) :
    1 ≤ p ∧ p ≤ t.length := by
  obtain ⟨before, after, ht, hoffset, -⟩ := Line.exists_of_mem_ofText hl
  have hlength := congrArg List.length ht
  rw [List.length_append, List.length_append] at hlength
  unfold Line.Covers at hcovers
  omega

theorem length_of_owned {ps : List Int} (h : Owned (Line.ofText t) ps) {p : Int} (hp : p ∈ ps) :
    1 ≤ p ∧ p ≤ t.length := by
  obtain ⟨l, hl, hcovers⟩ := h.covered p hp
  exact length_of_covers hl hcovers

/-- Positions are positions of characters of the text. -/
theorem positions_ofText (hr : ofOutline o (Outline.read o t) file md5 size = .ok r)
    {table : Table} (ht : table ∈ schema.tables) {values : Record}
    (hv : values ∈ r.recordsOf table.name) :
    ∀ v ∈ values.valuesIn positionColumns, ∃ n : Int, v = .int n ∧ 1 ≤ n ∧ n ≤ t.length := by
  have hrefers := refers_ofOutline hr
  have hheading {f : Text} {p : Int} (h : r.HasHeading f p) : 1 ≤ p ∧ p ≤ t.length := by
    obtain ⟨x, hx, -, rfl⟩ := h
    exact length_of_owned (owned_headings hr) (List.mem_map_of_mem hx)
  have hstamp {f : Text} {p : Int} (h : r.HasStamp f p) : 1 ≤ p ∧ p ≤ t.length := by
    obtain ⟨x, hx, -, rfl⟩ := h
    exact length_of_owned (owned_stamps hr) (List.mem_map_of_mem hx)
  have hproperty {f : Text} {p : Int} (h : r.HasProperty f p) : 1 ≤ p ∧ p ≤ t.length := by
    obtain ⟨x, hx, -, rfl⟩ := h
    exact length_of_owned (owned_properties hr) (List.mem_map_of_mem hx)
  have hnote {f : Text} {p : Int} (h : r.HasNote f p) : 1 ≤ p ∧ p ≤ t.length := by
    obtain ⟨x, hx, -, rfl⟩ := h
    exact length_of_owned (owned_notes hr) (List.mem_map_of_mem hx)
  have hone {p : Int} (h : 1 ≤ p ∧ p ≤ t.length) :
      ∀ v ∈ [Value.int p], ∃ n : Int, v = .int n ∧ 1 ≤ n ∧ n ≤ t.length := by
    intro v hv
    exact ⟨p, List.mem_singleton.mp hv, h⟩
  have hpair {p q : Int} (h : 1 ≤ p ∧ p ≤ t.length) (h' : 1 ≤ q ∧ q ≤ t.length) :
      ∀ v ∈ [Value.int p, .int q], ∃ n : Int, v = .int n ∧ 1 ≤ n ∧ n ≤ t.length :=
    List.forall_mem_cons.mpr ⟨⟨p, rfl, h⟩, hone h'⟩
  induction table, ht using tables_cases <;> obtain ⟨x, hx, rfl⟩ := List.mem_map.mp hv
  case files =>
    intro v hv
    cases hv
  case headings =>
    exact hone (hheading ⟨x, hx, rfl, rfl⟩)
  case closures =>
    exact hpair (hheading (hrefers.closures x hx).1) (hheading (hrefers.closures x hx).2)
  case stamps =>
    exact hpair (hstamp ⟨x, hx, rfl, rfl⟩) (hheading (hrefers.stamps x hx))
  case planning =>
    exact hpair (hheading (hrefers.planning x hx).1) (hstamp (hrefers.planning x hx).2)
  case fileTags =>
    intro v hv
    cases hv
  case headingTags =>
    exact hone (hheading (hrefers.headingTags x hx))
  case properties =>
    exact hone (hproperty ⟨x, hx, rfl, rfl⟩)
  case fileProperties =>
    exact hone (hproperty (hrefers.fileProperties x hx).2)
  case headingProperties =>
    exact hpair (hproperty (hrefers.headingProperties x hx).1)
      (hheading (hrefers.headingProperties x hx).2)
  case links =>
    exact hpair (length_of_owned (owned_links hr) (List.mem_map_of_mem hx))
      (hheading (hrefers.links x hx))
  case clocks =>
    exact hpair (length_of_owned (owned_clocks hr) (List.mem_map_of_mem hx))
      (hheading (hrefers.clocks x hx))
  case notes =>
    exact hpair (hnote ⟨x, hx, rfl, rfl⟩) (hheading (hrefers.notes x hx))
  case states =>
    exact hone (hnote (hrefers.states x hx))
  case planningChanges =>
    exact hpair (hnote (hrefers.planningChanges x hx).1) (hstamp (hrefers.planningChanges x hx).2)

theorem length_le_of_increasing {ps : List Int} (hlt : ps.Pairwise (· < ·)) {a b : Int}
    (h : ∀ p ∈ ps, a ≤ p ∧ p ≤ b) (hab : a ≤ b + 1) : ps.length ≤ b + 1 - a := by
  induction ps generalizing a with
  | nil =>
    rw [List.length_nil]
    omega
  | cons p ps ih =>
    obtain ⟨hfirst, hlt⟩ := List.pairwise_cons.mp hlt
    have hp := h p List.mem_cons_self
    have hrest : ∀ q ∈ ps, p + 1 ≤ q ∧ q ≤ b := fun q hq =>
      ⟨hfirst q hq, (h q (List.mem_cons_of_mem p hq)).2⟩
    have := ih hlt hrest (by omega)
    rw [List.length_cons]
    omega

/-- A text has at least as many characters as headings. -/
theorem length_headings_le (o : Options) (t : Text) :
    (Outline.read o t).headings.length ≤ t.length := by
  obtain ⟨front, groups, hlines, -, hall⟩ := Outline.exists_sections o t
  have hbounds : ∀ p ∈ (Outline.read o t).headings.map (·.offset),
      (1 : Int) ≤ p ∧ p ≤ t.length := by
    intro p hp
    obtain ⟨h, hh, rfl⟩ := List.mem_map.mp hp
    obtain ⟨g, hg, s, hs, rfl⟩ := exists_right_of_mem hall hh
    have hl := (sublist_of_mem_groups hlines hg).subset List.mem_cons_self
    exact length_of_covers hl (Starred.covers_of_line hs)
  have := length_le_of_increasing (Outline.increasing_offsets o t) hbounds (by omega)
  rw [List.length_map] at this
  omega

/-- Depths count headings. -/
theorem depth_lt_ofText (hr : ofOutline o (Outline.read o t) file md5 size = .ok r)
    {row : ClosureRow} (hrow : row ∈ r.closures) : row.depth < t.length := by
  obtain ⟨k, i, j, a, h, hanc, -, hj, rfl⟩ := (mem_closures_iff hr).mp hrow
  have hplace := (List.getElem?_eq_some_iff.mp hj).1
  have hdepth := hanc.add_le
  have hlength := length_headings_le o t
  dsimp only
  omega

end Rows

end OutlineTables
