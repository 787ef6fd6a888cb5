/-!
# JSON values

The value that a JSON document denotes. Members of an object keep their order and their repetitions,
because two readings of a repeated key are in use: records refuse it, and free-form values let the
last one win (`lastWins`).

Integers and doubles are kept apart. Where a document holds a grammatical literal that denotes
nothing, such as `1e400` or half a surrogate pair, the value is `unreadable`: harmless in a member
that nobody looks at, a fault anywhere else.
-/

namespace FleetCompliance

/-- A number: an integer between `-2 ^ 63` and `2 ^ 64 - 1`, or a double. -/
inductive Number where
  | int (value : Int)
  | real (value : Float)

/-- The double of a number, whichever way it is written. -/
def Number.toFloat : Number → Float
  | .int n => Float.ofInt n
  | .real x => x

/-- A JSON value. -/
inductive Json where
  | null
  | bool (value : Bool)
  | num (value : Number)
  | str (value : String)
  | arr (items : List Json)
  | obj (members : List (String × Json))
  /-- A literal without meaning, or an object one of whose keys is such a literal. -/
  | unreadable

namespace Json

mutual

/-- How deep arrays and objects nest: 0 for a scalar, 1 for an array of scalars. -/
def depth : Json → Nat
  | arr items => 1 + depthItems items
  | obj members => 1 + depthMembers members
  | _ => 0

/-- The greatest depth in a list. -/
def depthItems : List Json → Nat
  | [] => 0
  | j :: rest => max j.depth (depthItems rest)

/-- The greatest depth among members. -/
def depthMembers : List (String × Json) → Nat
  | [] => 0
  | (_, j) :: rest => max j.depth (depthMembers rest)

end

mutual

/-- Whether no literal inside is without meaning. -/
def readable : Json → Bool
  | arr items => readableItems items
  | obj members => readableMembers members
  | unreadable => false
  | _ => true

/-- Whether every item is readable. -/
def readableItems : List Json → Bool
  | [] => true
  | j :: rest => j.readable && readableItems rest

/-- Whether every member is readable. -/
def readableMembers : List (String × Json) → Bool
  | [] => true
  | (_, j) :: rest => j.readable && readableMembers rest

end

/-- The members of which no later one has the same key. -/
def keepLast {α : Type} : List (String × α) → List (String × α)
  | [] => []
  | (key, v) :: rest =>
    if rest.any (·.1 == key) then keepLast rest else (key, v) :: keepLast rest

mutual

/-- **The last of several members with one key wins**, at every level. -/
def lastWins : Json → Json
  | arr items => arr (lastWinsItems items)
  | obj members => obj (keepLast (lastWinsMembers members))
  | j => j

/-- `lastWins` of each item. -/
def lastWinsItems : List Json → List Json
  | [] => []
  | j :: rest => j.lastWins :: lastWinsItems rest

/-- `lastWins` of each member's value. -/
def lastWinsMembers : List (String × Json) → List (String × Json)
  | [] => []
  | (key, j) :: rest => (key, j.lastWins) :: lastWinsMembers rest

end

/-- The nesting that a reader which keeps a whole value in memory goes along with. -/
def maxDepth : Nat := 127

/-- A value that is kept as a whole: it has to be readable, and below `outer` levels of nesting
around it its own must still fit. `none` stands for a value already in memory, which fits. -/
def kept (outer : Option Nat) (j : Json) : Option Json :=
  match outer with
  | none => some j
  | some n => if j.readable && n + j.depth ≤ maxDepth then some j else none

/-- The value of the last member with a key. -/
def get? (j : Json) (key : String) : Option Json :=
  match j with
  | obj members => (members.reverse.find? (·.1 == key)).map (·.2)
  | _ => none

/-- The text of a string. -/
def text? : Json → Option String
  | str s => some s
  | _ => none

/-- The items of an array. -/
def items? : Json → Option (List Json)
  | arr items => some items
  | _ => none

/-- The integer of a number written as one. -/
def int? : Json → Option Int
  | num (.int n) => some n
  | _ => none

/-- A number as a finite double. -/
def float? : Json → Option Float
  | num n => if n.toFloat.isFinite then some n.toFloat else none
  | _ => none

/-- A natural number of 64 bits. -/
def word? (j : Json) : Option UInt64 := do
  let n ← j.int?
  if 0 ≤ n ∧ n < UInt64.size then some (UInt64.ofNat n.toNat) else none

/-- Each item of an array by the same reading. -/
def listOf {α : Type} (item : Json → Option α) (j : Json) : Option (List α) := do
  (← j.items?).mapM item

/-- A double as a number. What is not finite has no number and becomes null. -/
def ofFloat (x : Float) : Json := if x.isFinite then num (.real x) else null

/-- A 64-bit word as a number. -/
def ofWord (w : UInt64) : Json := num (.int w.toNat)

/-- A member that is left out when absent. -/
def member? {α : Type} (key : String) (write : α → Json) : Option α → List (String × Json)
  | none => []
  | some x => [(key, write x)]

/-- A value that is null when absent. -/
def orNull {α : Type} (write : α → Json) : Option α → Json
  | none => null
  | some x => write x

end Json

end FleetCompliance
