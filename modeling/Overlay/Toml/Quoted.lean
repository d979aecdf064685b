import Overlay.Toml.Basic

/-!
# Writing TOML values

A text is written in the first of these ways that needs no escapes: in quotation marks, in
apostrophes, over several lines in quotation marks, over several lines in apostrophes. If all of
them need escapes it is written in quotation marks, over several lines if it has line ends.
-/

namespace Overlay.Toml

/-- The length of the longest run of a character. -/
def longestRun (c : Char) (cs : List Char) : Nat :=
  (cs.foldl (fun (here, top) d => if d = c then (here + 1, max top (here + 1)) else (0, top))
    (0, 0)).2

/-- Whether a character can be written as an escape only. -/
def isHidden (c : Char) : Bool :=
  c.toNat ≤ 0x1F && c ≠ '\t' && c ≠ '\n' || c.toNat == 0x7F

/-- A character in quotation marks. Over several lines line ends stay as they are, and so do two
quotation marks in a row. -/
def escape (long : Bool) (marks : Nat) (c : Char) : List Char :=
  if c = '"' then (if long && marks < 2 then ['"'] else ['\\', '"'])
  else if c = '\\' then ['\\', '\\']
  else if c = '\x08' then ['\\', 'b']
  else if c = '\t' then ['\\', 't']
  else if c = '\n' then (if long then ['\n'] else ['\\', 'n'])
  else if c = '\x0c' then ['\\', 'f']
  else if c = '\r' then ['\\', 'r']
  else if isHidden c then
    ['\\', 'u', '0', '0'] ++ (Numeral.words 16 2 c.toNat).map fun d => (Nat.digitChar d).toUpper
  else [c]

/-- Characters in quotation marks, after a number of quotation marks in a row. -/
def escapeAll (long : Bool) : Nat → List Char → List Char
  | _, [] => []
  | marks, c :: cs =>
    let next := if c = '"' then (if long && marks < 2 then marks + 1 else 0) else 0
    escape long marks c ++ escapeAll long next cs

/-- A text as a value. -/
def quoted (s : String) : String :=
  let cs := s.toList
  let hidden := cs.any isHidden
  let lines := cs.contains '\n'
  let marks := longestRun '"' cs
  let apostrophes := longestRun '\'' cs
  let escapes := hidden || cs.contains '\\'
  let first : List Char := if lines then ['\n'] else []
  let basic := ['"'] ++ escapeAll false 0 cs ++ ['"']
  let longBasic := "\"\"\"".toList ++ first ++ escapeAll true 0 cs ++ "\"\"\"".toList
  let literal := ['\''] ++ cs ++ ['\'']
  let longLiteral := "'''".toList ++ first ++ cs ++ "'''".toList
  String.ofList <|
    if !escapes && marks = 0 && !lines then basic
    else if !hidden && apostrophes = 0 && !lines then literal
    else if !escapes && marks ≤ 2 then longBasic
    else if !hidden && apostrophes ≤ 2 then longLiteral
    else if lines then longBasic
    else basic

/-- A double as a value. -/
def floatText (x : Float) : String :=
  if x.isNaN then "nan"
  else if x.isInf then (if x < 0.0 then "-inf" else "inf")
  else doubleText x

end Overlay.Toml
