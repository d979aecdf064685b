import Overlay.Decimal.Shortest

/-!
# JSON values

A `Json` is what a JSON text says. Whole numbers that fit 64 bits are kept exactly, all others as
doubles. The members of an object keep their order and may repeat a name, as they may in a text.

A text can be wrong in the middle, and what was read up to there still counts: which of two faults
is reported depends on which comes first. So a value may hold a `blot`, the place where a text
could not be read, with the rest of the text left out. Values that do not come from a text have
none.
-/

namespace Overlay

/-- Why nothing could be read at a place of a text. -/
inductive Json.Blot where
  /-- The text is no JSON from here on. -/
  | broken
  /-- A value that cannot be represented (a number too large, half a surrogate pair, too deep a
  nesting). It can be passed over. -/
  | unreadable
  /-- A member whose name cannot be represented. -/
  | unreadableName
  /-- The text is no JSON from here on, where a member or its name should stand. -/
  | brokenName
  deriving DecidableEq, Repr

/-- A JSON value. -/
inductive Json where
  | null
  | bool (b : Bool)
  | int (n : Int)
  | real (x : Float)
  | string (s : String)
  | array (items : List Json)
  | object (members : List (String × Json))
  | blot (why : Json.Blot)
  deriving Inhabited

namespace Json

/-! ## Writing -/

/-- A character inside a quoted text. -/
def escaped (c : Char) : List Char :=
  if c = '"' then ['\\', '"']
  else if c = '\\' then ['\\', '\\']
  else if c = '\n' then ['\\', 'n']
  else if c = '\r' then ['\\', 'r']
  else if c = '\t' then ['\\', 't']
  else if c.toNat < 0x20 then
    ['\\', 'u', '0', '0'] ++ (Numeral.words 16 2 c.toNat).map Nat.digitChar
  else [c]

/-- A text in quotes. -/
def quoted (s : String) : String :=
  String.ofList ('"' :: s.toList.flatMap escaped ++ ['"'])

/-- A double as a number; what is not finite has no number and is written as nothing. -/
def realText (x : Float) : String :=
  if x.isFinite then doubleText x else "null"

mutual

/-- The text of a value, without blanks. -/
def write : Json → String
  | null => "null"
  | bool b => if b then "true" else "false"
  | int n => toString n
  | real x => realText x
  | string s => quoted s
  | array items => "[" ++ writeItems items ++ "]"
  | object members => "\x7b" ++ writeMembers members ++ "\x7d"
  | blot _ => "null"

/-- The texts of the items of an array. -/
def writeItems : List Json → String
  | [] => ""
  | [v] => write v
  | v :: vs => write v ++ "," ++ writeItems vs

/-- The texts of the members of an object. -/
def writeMembers : List (String × Json) → String
  | [] => ""
  | [(name, v)] => quoted name ++ ":" ++ write v
  | (name, v) :: ms => quoted name ++ ":" ++ write v ++ "," ++ writeMembers ms

end

/-! ## Building -/

/-- A text, or nothing said. -/
def ofOptionText : Option String → Json
  | some s => string s
  | none => null

/-- A natural number. -/
def nat (n : Nat) : Json :=
  int n

/-- A member that is left out when there is nothing to say. -/
def member? (name : String) (v : Option Json) : List (String × Json) :=
  match v with
  | some v => [(name, v)]
  | none => []

end Json

end Overlay
