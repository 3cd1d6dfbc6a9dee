import OutlineTables.Store.Exec

/-!
Limits on the text of statements. A store looks at each statement before it executes it: a null
character ends the text too early, and an expression must not be nested too deep. Every line feed
in a text adds a call and two concatenations to its literal.
-/
namespace OutlineTables

namespace Value

/-- The depth of the expression that writes a value. -/
def literalDepth : Value → Nat
  | .text t =>
    match t.count '\n' with
    | 0 => 1
    | lineFeeds => 2 * lineFeeds + 2
  | _ => 1

/-- The depth of the test for a value. -/
def testDepth : Value → Nat
  | .null => 2
  | v => v.literalDepth + 1

end Value

namespace Record

/-- The depth of the deepest value. -/
def depth (values : Record) : Nat := (values.map fun (_, v) => v.literalDepth).foldr max 0

/-- The depth of a condition, a chain of tests that grows at its end. -/
def conditionDepth (tests : Record) : Nat :=
  tests.foldl (fun n (_, v) => if n = 0 then v.testDepth else max n v.testDepth + 1) 0

end Record

namespace Statement

/-- The depth of the deepest expression. -/
def depth : Statement → Nat
  | insert _ values => values.depth
  | update _ values condition => max values.depth condition.conditionDepth
  | delete _ condition => condition.conditionDepth
  | select _ _ condition => condition.conditionDepth

/-- What forbids the text of a statement, if anything does. -/
def fault? (d : Dialect) (s : Schema) (x : Statement) : Option StoreFault :=
  match x.toSql d s with
  | .ok t =>
    if t.any (· = Char.ofNat 0) then some .nullCharacter
    else if StoreFault.maxDepth < x.depth then some .tooDeep
    else none
  | .error _ => none

end Statement

namespace Store

/-- A statement executed once its text has been looked at. -/
def perform (d : Dialect) (schema : Schema) (s : Store) (x : Statement) :
    Except StoreFault Store :=
  match x.fault? d schema with
  | some f => .error f
  | none => s.exec x

/-- All statements in order, or the fault of the first that fails. -/
def performAll (d : Dialect) (schema : Schema) (s : Store) (statements : List Statement) :
    Except StoreFault Store :=
  statements.foldlM (perform d schema) s

end Store

end OutlineTables
