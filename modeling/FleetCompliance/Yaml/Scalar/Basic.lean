/-!
# Scalars

A scalar of a YAML document is a text together with the way it is written, on which it depends
whether the text can be a number or null.

A text that goes on over several lines is folded: a single line end between two words becomes a
space, and of several the first one is left out. What stands between two words is a `Gap`.
-/

namespace FleetCompliance.Yaml

/-- How a scalar is written. -/
inductive Style where
  /-- Without any mark. -/
  | plain
  /-- Between quotes, single or double. -/
  | quoted
  /-- Indented line by line after a bar; line ends count. -/
  | literal
  /-- Indented line by line after a greater-than sign, and folded. -/
  | folded
deriving DecidableEq, Repr

/-- A scalar. -/
structure Scalar where
  style : Style
  /-- What the scalar is said to be, with abbreviations written out. -/
  tag : Option String
  text : String
deriving DecidableEq, Repr

/-- The scalar that stands where nothing is written. -/
def Scalar.empty : Scalar := ⟨.plain, none, ""⟩

/-! ## Gaps between words -/

/-- Spaces, tabs and line ends between two words, as far as they count, newest first. -/
inductive Gap where
  /-- Spaces and tabs on one line. -/
  | spaces (seen : List Char)
  /-- Line ends: the first one, absent if it is escaped, and the further ones. Spaces beside a line
  end do not count. -/
  | lines (first : Option Char) (more : List Char)
deriving DecidableEq, Repr

namespace Gap

/-- No gap. -/
def none : Gap := spaces []

/-- Whether nothing lies between two characters. -/
def isNone (g : Gap) : Bool := g == none

/-- Whether a line ends in the gap. -/
def isBroken : Gap → Bool
  | spaces _ => false
  | lines _ _ => true

/-- A gap with one more space or tab. -/
def addSpace (g : Gap) (c : Char) : Gap :=
  match g with
  | spaces seen => spaces (c :: seen)
  | lines first more => lines first more

/-- A gap with one more line end. -/
def addLineEnd (g : Gap) (c : Char) : Gap :=
  match g with
  | spaces _ => lines (some c) []
  | lines first more => lines first (c :: more)

/-- **Folding**: a text, newest character first, with what a gap after it comes to. -/
def fold (text : List Char) : Gap → List Char
  | spaces seen => seen ++ text
  | lines (some '\n') [] => ' ' :: text
  | lines (some '\n') more => more ++ text
  | lines (some c) more => more ++ c :: text
  | lines Option.none more => more ++ text

end Gap

end FleetCompliance.Yaml
