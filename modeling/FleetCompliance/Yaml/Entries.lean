import FleetCompliance.Yaml.Node

/-!
# The entries of a flat mapping

The last stage of reading: every alias gives way to the node it stands for. Nodes that have a name
are numbered by the count of different names before them, and an alias stands for the last node with
the number that its name has at that point. So as long as no name is given twice, an alias stands
for the node of its name.
-/

namespace FleetCompliance.Yaml

/-- The named nodes of a document up to some point. -/
structure Anchors where
  /-- The number of each name. -/
  numbers : List (String × Nat)
  /-- The nodes by number, the last one first. The mapping itself has no scalar. -/
  nodes : List (Nat × Option Scalar)
deriving DecidableEq, Repr

namespace Anchors

/-- No named nodes. -/
def none : Anchors := ⟨[], []⟩

/-- The named nodes with one more. -/
def define (a : Anchors) (name : String) (node : Option Scalar) : Anchors :=
  let number := a.numbers.length
  ⟨(name, number) :: a.numbers.filter (·.1 ≠ name), (number, node) :: a.nodes⟩

/-- The named nodes with one more if it has a name. -/
def defineIf (a : Anchors) (name : Option String) (node : Option Scalar) : Anchors :=
  match name with
  | some name => a.define name node
  | .none => a

end Anchors

/-- What a node says: its own scalar, or the number of another node. -/
inductive Reference where
  | own (value : Scalar)
  | other (number : Nat)
deriving DecidableEq, Repr

/-- What a node says, and the named nodes up to and with it. The name of an alias must be known. -/
def Node.refer? (a : Anchors) : Node → Option (Reference × Anchors)
  | .alias name => (a.numbers.lookup name).map fun number => (.other number, a)
  | .scalar name value => some (.own value, a.defineIf name value)

/-- What the keys and values of entries say, in order, with all named nodes. -/
def references? (a : Anchors) :
    List Entry → Option (List (Reference × Reference) × Anchors)
  | [] => some ([], a)
  | e :: rest => do
    let (key, a) ← e.key.refer? a
    let (value, a) ← e.value.refer? a
    let (others, a) ← references? a rest
    return ((key, value) :: others, a)

/-- The scalar that a reference leads to, which must not be the mapping. -/
def Reference.scalar? (a : Anchors) : Reference → Option Scalar
  | own value => some value
  | other number => (a.nodes.lookup number).join

/-- The entries of a document, the keys by their text. -/
def Document.scalars? (d : Document) : Option (List (String × Scalar)) := do
  let (references, a) ← references? (Anchors.none.defineIf d.name none) d.entries
  references.mapM fun (key, value) => do return ((← key.scalar? a).text, ← value.scalar? a)

/-- **The entries of a flat mapping**, in order. A text without content has none. -/
def entries? (s : String) : Option (List (String × Scalar)) := do
  (← Document.ofTokens? (← tokens? s)).scalars?

end FleetCompliance.Yaml
