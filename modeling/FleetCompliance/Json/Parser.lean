import FleetCompliance.Json.Token

/-!
# Reading a JSON text

The second stage of reading: a list of tokens becomes one value. The parser keeps the arrays and
objects that are still open on a stack, innermost first, and knows which tokens may come next, so
each token is one step and a whole text is again read by a fold.
-/

namespace FleetCompliance.Json

/-- An array or object that is still open. Its parts are kept newest first. -/
inductive Open where
  | array (items : List Json)
  /-- `sound` says whether every key so far denotes a text, `key` is the one whose value comes
  next, if it denotes a text. -/
  | object (members : List (String × Json)) (sound : Bool) (key : Option String)

/-- What may come next. -/
inductive Expecting where
  /-- A value. -/
  | value
  /-- The first item of an array, or its end. -/
  | firstItem
  /-- The first key of an object, or its end. -/
  | firstKey
  /-- A key. -/
  | key
  /-- The colon after a key. -/
  | colon
  /-- A comma, or the end of the innermost array or object. -/
  | next
  /-- Nothing: the value is complete. -/
  | nothing (result : Json)

/-- The parser between two tokens. -/
structure Parse where
  stack : List Open
  expecting : Expecting

/-- The value of a closed array or object. An object with a key that denotes no text has no value
of its own. -/
def Open.close : Open → Json
  | .array items => .arr items.reverse
  | .object members true _ => .obj members.reverse
  | .object _ false _ => .unreadable

/-- Puts a finished value in its place in the innermost open array or object. -/
def Parse.place (stack : List Open) (j : Json) : Parse :=
  match stack with
  | [] => ⟨[], .nothing j⟩
  | .array items :: rest => ⟨.array (j :: items) :: rest, .next⟩
  | .object members sound (some k) :: rest =>
    ⟨.object ((k, j) :: members) sound none :: rest, .next⟩
  | .object members _ none :: rest => ⟨.object members false none :: rest, .next⟩

/-- A token where a value may stand. -/
def Parse.value (stack : List Open) : Token → Option Parse
  | .scalar j => some (place stack j)
  | .text (some s) => some (place stack (.str s))
  | .text none => some (place stack .unreadable)
  | .openArray => some ⟨.array [] :: stack, .firstItem⟩
  | .openObject => some ⟨.object [] true none :: stack, .firstKey⟩
  | _ => none

/-- **One step of the parser.** -/
def Parse.step (p : Parse) (t : Token) : Option Parse :=
  match p.expecting, t, p.stack with
  | .firstItem, .closeArray, o :: rest => some (place rest o.close)
  | .firstItem, t, stack => value stack t
  | .value, t, stack => value stack t
  | .firstKey, .closeObject, o :: rest => some (place rest o.close)
  | .firstKey, .text k, .object ms sound _ :: rest => some ⟨.object ms sound k :: rest, .colon⟩
  | .key, .text k, .object ms sound _ :: rest => some ⟨.object ms sound k :: rest, .colon⟩
  | .colon, .colon, stack => some ⟨stack, .value⟩
  | .next, .comma, .array items :: rest => some ⟨.array items :: rest, .value⟩
  | .next, .comma, .object ms sound k :: rest => some ⟨.object ms sound k :: rest, .key⟩
  | .next, .closeArray, .array items :: rest => some (place rest (Open.array items).close)
  | .next, .closeObject, .object ms sound k :: rest =>
    some (place rest (Open.object ms sound k).close)
  | _, _, _ => none

/-- **The value of a JSON text**, absent if the text is not JSON. -/
def parse? (s : String) : Option Json := do
  match (← (← tokens? s).foldlM Parse.step ⟨[], .value⟩).expecting with
  | .nothing j => some j
  | _ => none

/-- A text that is read as a whole: every literal has a meaning and the nesting is bounded. -/
def parseWhole? (s : String) : Option Json := do kept (some 0) (← parse? s)

end FleetCompliance.Json
