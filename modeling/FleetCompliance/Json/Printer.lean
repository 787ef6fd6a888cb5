import FleetCompliance.Json.Basic
import FleetCompliance.Decimal.Shortest

/-!
# Writing JSON

A value as text, either on one line without blanks or indented by two spaces a level. Strings
escape the quote, the backslash and the control characters, and nothing else.
-/

namespace FleetCompliance

/-- Doubles have up to sixteen digits before the point and up to four zeros behind it. -/
def Number.layout : Layout := ⟨16, 4⟩

/-- The text of a number. -/
def Number.text : Number → String
  | int n => toString n
  | real x => layout.float x

namespace Json

/-- How one character stands inside a string. -/
def escape (c : Char) : List Char :=
  match c with
  | '"' => ['\\', '"']
  | '\\' => ['\\', '\\']
  | '\n' => ['\\', 'n']
  | '\r' => ['\\', 'r']
  | '\t' => ['\\', 't']
  | _ =>
    if c.toNat = 8 then ['\\', 'b']
    else if c.toNat = 12 then ['\\', 'f']
    else if c.toNat < 0x20 then ['\\', 'u'] ++ Text.hexDigits 4 c.toNat
    else [c]

/-- A string in quotes. -/
def stringText (s : String) : String :=
  String.ofList ('"' :: s.toList.flatMap escape ++ ['"'])

/-- A scalar; an array or object has no text of this kind. -/
def scalarText : Json → String
  | bool true => "true"
  | bool false => "false"
  | num n => n.text
  | str s => stringText s
  | _ => "null"

/-- Where line breaks go: nowhere, or before each part, which is indented by its level. -/
inductive Style where
  | compact
  | indented

/-- The break before a part at some level. -/
def Style.break (style : Style) (level : Nat) : String :=
  match style with
  | .compact => ""
  | .indented => String.ofList ('\n' :: List.replicate (2 * level) ' ')

/-- What stands between a key and its value. -/
def Style.colon : Style → String
  | .compact => ":"
  | .indented => ": "

mutual

/-- A value, with `level` open arrays and objects around it. -/
def render (style : Style) (level : Nat) : Json → String
  | arr [] => "[]"
  | arr items => "[" ++ renderItems style (level + 1) items ++ style.break level ++ "]"
  | obj [] => "\x7b\x7d"
  | obj members => "\x7b" ++ renderMembers style (level + 1) members ++ style.break level ++ "\x7d"
  | j => scalarText j

/-- Items between commas. -/
def renderItems (style : Style) (level : Nat) : List Json → String
  | [] => ""
  | [j] => style.break level ++ render style level j
  | j :: rest => style.break level ++ render style level j ++ "," ++ renderItems style level rest

/-- Members between commas. -/
def renderMembers (style : Style) (level : Nat) : List (String × Json) → String
  | [] => ""
  | [(key, j)] => style.break level ++ stringText key ++ style.colon ++ render style level j
  | (key, j) :: rest =>
    style.break level ++ stringText key ++ style.colon ++ render style level j ++ ","
      ++ renderMembers style level rest

end

/-- A value on one line. -/
def compact (j : Json) : String := render .compact 0 j

/-- A value over several lines. -/
def indented (j : Json) : String := render .indented 0 j

end Json

end FleetCompliance
