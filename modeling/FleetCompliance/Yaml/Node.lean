import FleetCompliance.Yaml.Token

/-!
# Nodes and documents

The second stage of reading: tokens become a document, a list of entries whose keys and values are
nodes. Without nesting a node takes at most three tokens, and an entry ends where the next one
begins, so the grammar is a matter of cutting the list of tokens at the right places.
-/

namespace FleetCompliance.Yaml

/-- A key or value. -/
inductive Node where
  /-- The node that has this name. -/
  | alias (name : String)
  /-- A scalar, which may have a name. -/
  | scalar (name : Option String) (value : Scalar)
deriving DecidableEq, Repr

/-- An entry of a mapping. -/
structure Entry where
  key : Node
  value : Node
deriving DecidableEq, Repr

/-- A document without nesting: a mapping, which may have a name. An empty one has no entries. -/
structure Document where
  name : Option String
  entries : List Entry
deriving DecidableEq, Repr

/-! ## Nodes -/

/-- What may stand in front of a node. -/
structure Properties where
  name : Option String
  /-- The tag with its handle written out. -/
  tag : Option String
deriving DecidableEq, Repr

/-- Whether nothing stands in front of the node. -/
def Properties.isEmpty (p : Properties) : Bool := p.name.isNone && p.tag.isNone

/-- The properties that begin here, a name and a tag in either order, and what follows them. -/
def properties? (handles : List (String × String)) (tokens : List Token) :
    Option (Properties × List Token) :=
  let tagged (name : Option String) (t : Tag) (rest : List Token) :=
    (t.resolve? handles).map fun tag => (Properties.mk name (some tag), rest)
  match tokens with
  | .anchor a :: .tag t :: rest => tagged (some a) t rest
  | .tag t :: .anchor a :: rest => tagged (some a) t rest
  | .tag t :: rest => tagged none t rest
  | .anchor a :: rest => some (⟨some a, none⟩, rest)
  | _ => some (⟨none, none⟩, tokens)

/-- The tag that says nothing: a scalar with it counts as one without a tag. -/
def idleTag : String := "!"

/-- **The node that is exactly these tokens.** Properties alone are a node without text. -/
def Node.ofTokens? (handles : List (String × String)) (tokens : List Token) : Option Node :=
  match tokens with
  | [.alias name] => some (.alias name)
  | _ => do
    let (p, rest) ← properties? handles tokens
    match rest with
    | [.scalar style text] => some (.scalar p.name ⟨style, p.tag.filter (· != idleTag), text⟩)
    | [] => if p.isEmpty then none else some (.scalar p.name { Scalar.empty with tag := p.tag })
    | _ => none

/-- A node that may be left out. -/
def Node.ofTokensOrEmpty? (handles : List (String × String)) : List Token → Option Node
  | [] => some (.scalar none .empty)
  | tokens => ofTokens? handles tokens

/-! ## Entries -/

/-- The entry after the mark of its key. Its key and its value may both be left out. -/
def Entry.ofTokens? (handles : List (String × String)) (tokens : List Token) : Option Entry := do
  let key ← Node.ofTokensOrEmpty? handles (tokens.takeWhile (· != .value))
  let value ← Node.ofTokensOrEmpty? handles ((tokens.dropWhile (· != .value)).drop 1)
  return ⟨key, value⟩

/-- Cuts a list before and after each separator. There is always one part more than separators. -/
def cutAt (separator : Token) : List Token → List (List Token)
  | [] => [[]]
  | t :: rest =>
    if t = separator then [] :: cutAt separator rest
    else
      match cutAt separator rest with
      | [] => [[t]]
      | part :: parts => (t :: part) :: parts

/-- The entries of a mapping by indentation, each behind the mark of its key. -/
def entriesInBlock? (handles : List (String × String)) (tokens : List Token) :
    Option (List Entry) :=
  match cutAt .key tokens with
  | [] :: entries => entries.mapM (Entry.ofTokens? handles)
  | _ => none

/-- An entry between braces. Without the mark of a key, it is a key without a value. -/
def entryInBraces? (handles : List (String × String)) (tokens : List Token) : Option Entry :=
  match tokens with
  | .key :: rest => Entry.ofTokens? handles rest
  | _ => (Node.ofTokens? handles tokens).map fun key => ⟨key, .scalar none .empty⟩

/-- The entries between braces. A comma may follow the last one. -/
def entriesInBraces? (handles : List (String × String)) (tokens : List Token) :
    Option (List Entry) :=
  let parts := cutAt .comma tokens
  let entries := if parts.getLast? == some [] then parts.dropLast else parts
  entries.mapM (entryInBraces? handles)

/-! ## Documents -/

/-- The handles that the directives before a document define, and what follows its marker. Each
directive stands there once. -/
def handles? (hasVersion : Bool) (handles : List (String × String)) :
    List Token → Option (List (String × String) × List Token)
  | .directive .version :: rest => if hasVersion then none else handles? true handles rest
  | .directive (.handle name meaning) :: rest =>
    if (handles.lookup name).isSome then none
    else handles? hasVersion ((name, meaning) :: handles) rest
  | .documentStart :: rest => some (handles, rest)
  | _ => none

/-- Whether a document may end here: there are only markers that say so. -/
def isEnd (tokens : List Token) : Bool := tokens.all (· == .documentEnd)

/-- A mapping up to its last token, after which the document ends. -/
def mapping? (p : Properties) (close : Token) (entries? : List Token → Option (List Entry))
    (tokens : List Token) : Option Document := do
  let entries ← entries? (tokens.takeWhile (· != close))
  match tokens.dropWhile (· != close) with
  | _ :: rest => if isEnd rest then some ⟨p.name, entries⟩ else none
  | [] => none

/-- The document that a node makes. A node without text makes an empty one; a marker alone does so
only if `mayBeEmpty`. -/
def content? (handles : List (String × String)) (mayBeEmpty : Bool) (tokens : List Token) :
    Option Document := do
  let (p, rest) ← properties? handles tokens
  match rest with
  | .blockStart :: rest => mapping? p .blockEnd (entriesInBlock? handles) rest
  | .openBrace :: rest => mapping? p .closeBrace (entriesInBraces? handles) rest
  | _ => if isEnd rest && (mayBeEmpty || !p.isEmpty) then some ⟨p.name, []⟩ else none

/-- **The document that tokens make.** Directives need a marker behind them. -/
def Document.ofTokens? (tokens : List Token) : Option Document :=
  match tokens with
  | [] => some ⟨none, []⟩
  | .directive _ :: _ | .documentStart :: _ => do
    let (handles, rest) ← handles? false [] tokens
    content? handles true rest
  | _ => content? [] false tokens

end FleetCompliance.Yaml
