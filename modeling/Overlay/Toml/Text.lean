import Overlay.Decimal.Nearest
import Overlay.Toml.Basic

/-!
# Reading TOML

The text of a document, line by line: headers, pairs of a key and a value, comments. A reader takes
something from the front of the text and gives the rest, or fails; a document is read as a whole or
not at all. Values are nested up to a depth of 79 and keys have fewer than 80 parts.
-/

namespace Overlay.Toml

/-- Drops the blanks of TOML. -/
def skipBlanks (cs : List Char) : List Char :=
  cs.dropWhile fun c => c = ' ' || c = '\t'

/-- A line end. -/
def lineEnd? : List Char → Option (List Char)
  | '\n' :: rest => some rest
  | '\r' :: '\n' :: rest => some rest
  | _ => none

/-- Whether a character may stand in a comment or a text: no control character but the tab. -/
def isPlain (c : Char) : Bool :=
  c = '\t' || (0x20 ≤ c.toNat && c.toNat ≠ 0x7F)

/-- Drops a comment, if there is one. -/
def skipComment : List Char → List Char
  | '#' :: rest => rest.dropWhile isPlain
  | cs => cs

/-- What may follow on a line: blanks, a comment, the end of the line or of the text. -/
def finishLine? (cs : List Char) : Option (List Char) :=
  match skipComment (skipBlanks cs) with
  | [] => some []
  | rest => lineEnd? rest

/-- Drops blanks, comments and line ends, with at most `fuel` lines. -/
def skipLines : Nat → List Char → List Char
  | 0, cs => cs
  | fuel + 1, cs =>
    let rest := skipComment (skipBlanks cs)
    match lineEnd? rest with
    | some rest => skipLines fuel rest
    | none => rest

/-! ## Texts -/

/-- A number of hexadecimal digits as a character. -/
def readCodePoint? (width : Nat) (cs : List Char) : Option (Char × List Char) :=
  let digits := cs.take width
  if digits.length = width then
    match Numeral.read? 16 digits with
    | some n => if n.isValidChar then some (Char.ofNat n, cs.drop width) else none
    | none => none
  else none

/-- An escape after its backslash. -/
def readEscape? : List Char → Option (Char × List Char)
  | 'b' :: rest => some ('\x08', rest)
  | 't' :: rest => some ('\t', rest)
  | 'n' :: rest => some ('\n', rest)
  | 'f' :: rest => some ('\x0c', rest)
  | 'r' :: rest => some ('\r', rest)
  | '"' :: rest => some ('"', rest)
  | '\\' :: rest => some ('\\', rest)
  | 'u' :: rest => readCodePoint? 4 rest
  | 'U' :: rest => readCodePoint? 8 rest
  | _ => none

/-- A text on one line, after its quotation mark. -/
def readBasic : Nat → List Char → Option (List Char × List Char)
  | 0, _ => none
  | _, [] => none
  | fuel + 1, c :: rest =>
    if c = '"' then some ([], rest)
    else if c = '\\' then do
      let (e, rest) ← readEscape? rest
      let (cs, rest) ← readBasic fuel rest
      return (e :: cs, rest)
    else if isPlain c then do
      let (cs, rest) ← readBasic fuel rest
      return (c :: cs, rest)
    else none

/-- A text without escapes on one line, after its apostrophe. -/
def readLiteral (cs : List Char) : Option (List Char × List Char) :=
  let body := cs.takeWhile fun c => c != '\'' && isPlain c
  match cs.dropWhile fun c => c != '\'' && isPlain c with
  | '\'' :: rest => some (body, rest)
  | _ => none

/-- The end of a text over several lines: three quotation marks, and up to two more that belong to
the text. -/
def closing? (quote : Char) (cs : List Char) : Option (List Char × List Char) :=
  let marks := (cs.takeWhile (· == quote)).length
  if marks < 3 then none
  else
    let inside := min (marks - 3) 2
    some (List.replicate inside quote, cs.drop (inside + 3))

/-- Drops blanks and line ends, as after a backslash at the end of a line. -/
def skipFolded : List Char → List Char
  | ' ' :: rest | '\t' :: rest | '\n' :: rest | '\r' :: '\n' :: rest => skipFolded rest
  | cs => cs

/-- A text over several lines, after its quotation marks. -/
def readLongBasic : Nat → List Char → Option (List Char × List Char)
  | 0, _ => none
  | _, [] => none
  | fuel + 1, c :: rest =>
    if c = '"' then
      match closing? '"' (c :: rest) with
      | some found => some found
      | none => do
        let (cs, rest) ← readLongBasic fuel rest
        return ('"' :: cs, rest)
    else if c = '\\' then
      match lineEnd? (skipBlanks rest) with
      | some rest => readLongBasic fuel (skipFolded rest)
      | none => do
        let (e, rest) ← readEscape? rest
        let (cs, rest) ← readLongBasic fuel rest
        return (e :: cs, rest)
    else if isPlain c then do
      let (cs, rest) ← readLongBasic fuel rest
      return (c :: cs, rest)
    else
      match lineEnd? (c :: rest) with
      | some rest => do
        let (cs, rest) ← readLongBasic fuel rest
        return ('\n' :: cs, rest)
      | none => none

/-- A text without escapes over several lines, after its apostrophes. -/
def readLongLiteral : Nat → List Char → Option (List Char × List Char)
  | 0, _ => none
  | _, [] => none
  | fuel + 1, c :: rest =>
    if c = '\'' then
      match closing? '\'' (c :: rest) with
      | some found => some found
      | none => do
        let (cs, rest) ← readLongLiteral fuel rest
        return ('\'' :: cs, rest)
    else if isPlain c then do
      let (cs, rest) ← readLongLiteral fuel rest
      return (c :: cs, rest)
    else
      match lineEnd? (c :: rest) with
      | some rest => do
        let (cs, rest) ← readLongLiteral fuel rest
        return ('\n' :: cs, rest)
      | none => none

/-- Drops the line end right after the opening of a text over several lines. -/
def skipFirstLineEnd (cs : List Char) : List Char :=
  (lineEnd? cs).getD cs

/-- A text of any kind. -/
def readText? (cs : List Char) : Option (String × List Char) :=
  let found : Option (List Char × List Char) := match cs with
    | '"' :: '"' :: '"' :: rest => readLongBasic (rest.length + 1) (skipFirstLineEnd rest)
    | '\'' :: '\'' :: '\'' :: rest => readLongLiteral (rest.length + 1) (skipFirstLineEnd rest)
    | '"' :: rest => readBasic (rest.length + 1) rest
    | '\'' :: rest => readLiteral rest
    | _ => none
  found.map fun (text, rest) => (String.ofList text, rest)

/-! ## Keys -/

/-- Whether a character may stand in a key without quotes. -/
def isBare (c : Char) : Bool :=
  c.isAlphanum || c = '-' || c = '_'

/-- One part of a key. -/
def readKeyPart? (cs : List Char) : Option (String × List Char) :=
  match cs with
  | '"' :: rest => (readBasic (rest.length + 1) rest).map fun (k, rest) => (String.ofList k, rest)
  | '\'' :: rest => (readLiteral rest).map fun (k, rest) => (String.ofList k, rest)
  | cs =>
    match cs.takeWhile isBare with
    | [] => none
    | k => some (String.ofList k, cs.dropWhile isBare)

/-- The parts of a key, with dots and blanks between them. -/
def readKeyParts : Nat → List Char → Option (List String × List Char)
  | 0, _ => none
  | fuel + 1, cs => do
    let (k, rest) ← readKeyPart? (skipBlanks cs)
    match skipBlanks rest with
    | '.' :: rest =>
      let (ks, rest) ← readKeyParts fuel rest
      return (k :: ks, rest)
    | rest => return ([k], rest)

/-- A key: what stands before its last part, and its last part. -/
def readKey? (cs : List Char) : Option ((List String × String) × List Char) := do
  let (ks, rest) ← readKeyParts 79 cs
  return ((ks.dropLast, ks.getLastD ""), rest)

/-! ## Numbers -/

/-- Digits of a base with single underscores between them. -/
def readDigits : Nat → Nat → List Char → List Nat × List Char
  | 0, _, cs => ([], cs)
  | fuel + 1, base, cs =>
    let digit? (c : Char) : Option Nat := Numeral.read? base [c]
    match cs with
    | c :: '_' :: d :: rest =>
      match digit? c, digit? d with
      | some n, some _ =>
        let (ns, rest) := readDigits fuel base (d :: rest)
        (n :: ns, rest)
      | some n, none => ([n], '_' :: d :: rest)
      | none, _ => ([], cs)
    | c :: rest =>
      match digit? c with
      | some n =>
        let (ns, rest) := readDigits fuel base rest
        (n :: ns, rest)
      | none => ([], cs)
    | [] => ([], [])

/-- Digits as one number. -/
def digitsValue (base : Nat) (ns : List Nat) : Nat :=
  ns.foldl (fun acc n => acc * base + n) 0

/-- A sign, if there is one: whether it is a minus. -/
def readSign : List Char → Bool × List Char
  | '+' :: rest => (false, rest)
  | '-' :: rest => (true, rest)
  | cs => (false, cs)

/-- A whole number in 64 bits with sign. -/
def integer? (n : Int) (rest : List Char) : Option (Toml × List Char) :=
  if -0x8000000000000000 ≤ n ∧ n < 0x8000000000000000 then some (.integer n, rest) else none

/-- Digits of a whole number in decimal notation, without leading zeros. -/
def readWhole? (cs : List Char) : Option (List Nat × List Char) :=
  match readDigits (cs.length + 1) 10 cs with
  | ([], _) => none
  | (0 :: _, _) => some ([0], cs.drop 1)
  | found => some found

/-- A whole number. -/
def readInteger? (cs : List Char) : Option (Toml × List Char) :=
  let based (base : Nat) (rest : List Char) : Option (Toml × List Char) :=
    match readDigits (rest.length + 1) base rest with
    | ([], _) => none
    | (ns, rest) => integer? (digitsValue base ns) rest
  match cs with
  | '0' :: 'x' :: rest => based 16 rest
  | '0' :: 'o' :: rest => based 8 rest
  | '0' :: 'b' :: rest => based 2 rest
  | cs => do
    let (negative, rest) := readSign cs
    let (ns, rest) ← readWhole? rest
    let n := digitsValue 10 ns
    integer? (if negative then -n else n) rest

/-- The double nearest to a decimal number; none if it is too large and positive. -/
def decimal? (negative : Bool) (digits : List Nat) (places : Nat) (exponent : Int) :
    Option Float :=
  let x := (Decimal.mk (digitsValue 10 digits) (exponent - places)).toDouble
  if negative then some (-x) else if x.isInf then none else some x

/-- The exponent of a number, if there is one. -/
def readExponent? : List Char → Option (Option Int × List Char)
  | 'e' :: rest | 'E' :: rest =>
    let (negative, rest) := readSign rest
    match readDigits (rest.length + 1) 10 rest with
    | ([], _) => none
    | (ns, rest) =>
      let n := digitsValue 10 ns
      some (some (if negative then -n else n), rest)
  | cs => some (none, cs)

/-- A number with a fraction or an exponent, or one of the two that have no digits. -/
def readFloat? (cs : List Char) : Option (Toml × List Char) := do
  let (negative, rest) := readSign cs
  match rest with
  | 'i' :: 'n' :: 'f' :: rest =>
    return (.float (if negative then -(1.0 / 0.0) else 1.0 / 0.0), rest)
  | 'n' :: 'a' :: 'n' :: rest => return (.float (0.0 / 0.0), rest)
  | _ =>
    let (whole, rest) ← readWhole? rest
    match rest with
    | '.' :: rest =>
      match readDigits (rest.length + 1) 10 rest with
      | ([], _) => none
      | (places, rest) =>
        let (exponent, rest) ← readExponent? rest
        let x ← decimal? negative (whole ++ places) places.length (exponent.getD 0)
        return (.float x, rest)
    | rest =>
      match ← readExponent? rest with
      | (some exponent, rest) => return (.float (← decimal? negative whole 0 exponent), rest)
      | (none, _) => none

/-! ## Dates and times -/

/-- A number of decimal digits whose value lies between two bounds. -/
def readNatIn? (width low high : Nat) (cs : List Char) : Option (Nat × List Char) :=
  let digits := cs.take width
  match Numeral.read? 10 digits with
  | some n =>
    if digits.length = width ∧ low ≤ n ∧ n ≤ high then some (n, cs.drop width) else none
  | none => none

/-- The last day of a month. -/
def lastDay (year month : Nat) : Nat :=
  if month = 2 then
    if year % 4 = 0 ∧ (year % 100 ≠ 0 ∨ year % 400 = 0) then 29 else 28
  else if month = 4 ∨ month = 6 ∨ month = 9 ∨ month = 11 then 30
  else 31

/-- Drops a character that has to be there. -/
def expect? (c : Char) : List Char → Option (List Char)
  | d :: rest => if d = c then some rest else none
  | [] => none

/-- Drops a date. -/
def skipDate? (cs : List Char) : Option (List Char) := do
  let (year, cs) ← readNatIn? 4 0 9999 cs
  let (month, cs) ← readNatIn? 2 1 12 (← expect? '-' cs)
  let (_, cs) ← readNatIn? 2 1 (lastDay year month) (← expect? '-' cs)
  return cs

/-- Drops a time of day; a fraction of a second has at least one digit. -/
def skipTime? (cs : List Char) : Option (List Char) := do
  let (_, cs) ← readNatIn? 2 0 23 cs
  let (_, cs) ← readNatIn? 2 0 59 (← expect? ':' cs)
  let (_, cs) ← readNatIn? 2 0 60 (← expect? ':' cs)
  match cs with
  | '.' :: c :: rest => if c.isDigit then return rest.dropWhile Char.isDigit else return cs
  | _ => return cs

/-- Drops the distance from universal time, if there is one. -/
def skipOffset? (cs : List Char) : Option (List Char) :=
  let distance (cs : List Char) : Option (List Char) := do
    let (_, cs) ← readNatIn? 2 0 23 cs
    let (_, cs) ← readNatIn? 2 0 59 (← expect? ':' cs)
    return cs
  match cs with
  | 'Z' :: rest | 'z' :: rest => some rest
  | '+' :: rest | '-' :: rest => distance rest
  | cs => some cs

/-- A date, a time, or both. After a blank a time has to look like one. -/
def readDatetime? (cs : List Char) : Option (Toml × List Char) :=
  match skipDate? cs with
  | none => (skipTime? cs).map fun rest => (.datetime, rest)
  | some rest =>
    let both (rest : List Char) : Option (Toml × List Char) := do
      return (.datetime, ← skipOffset? (← skipTime? rest))
    match rest with
    | 'T' :: rest | 't' :: rest => both rest
    | ' ' :: c :: more => if c.isDigit then both (c :: more) else some (.datetime, rest)
    | _ => some (.datetime, rest)

/-- Whether a text starts like a date or a time. -/
def looksLikeDatetime (cs : List Char) : Bool :=
  let starts (width : Nat) (c : Char) : Bool :=
    (cs.take width).all Char.isDigit && (cs.drop width).head? == some c
  starts 4 '-' || starts 2 ':'

/-! ## Values -/

/-- A word with a meaning. -/
def readWord? (word : String) (v : Toml) (cs : List Char) : Option (Toml × List Char) :=
  (word.toList.isPrefixOf? cs).map fun rest => (v, rest)

/-- A value that holds no other values. -/
def readPlain? (cs : List Char) : Option (Toml × List Char) :=
  match cs with
  | [] => none
  | c :: _ =>
    if c = '"' ∨ c = '\'' then (readText? cs).map fun (s, rest) => (.string s, rest)
    else if c = 't' then readWord? "true" (.boolean true) cs
    else if c = 'f' then readWord? "false" (.boolean false) cs
    else if looksLikeDatetime cs then readDatetime? cs
    else (readFloat? cs).or (readInteger? cs)

/-- The items of an array, up to its end, with at most `fuel` of them. -/
def readItems (value : List Char → Option (Toml × List Char)) :
    Nat → List Char → Option (List Toml × List Char)
  | 0, _ => none
  | fuel + 1, cs =>
    match skipLines (cs.length + 1) cs with
    | ']' :: rest => some ([], rest)
    | cs => do
      let (v, rest) ← value cs
      match skipLines (rest.length + 1) rest with
      | ',' :: rest =>
        let (vs, rest) ← readItems value fuel rest
        return (v :: vs, rest)
      | ']' :: rest => return ([v], rest)
      | _ => none

/-- The pairs of an inline table, at least one, up to its end. -/
def readPairs (value : List Char → Option (Toml × List Char)) :
    Nat → List Char → Members → Option (Members × List Char)
  | 0, _, _ => none
  | fuel + 1, cs, ms => do
    let ((path, key), rest) ← readKey? cs
    let rest ← expect? '=' rest
    let (v, rest) ← value (skipBlanks rest)
    let ms ← addValue path key v .header ms
    match skipBlanks rest with
    | ',' :: rest => readPairs value fuel rest ms
    | '\x7d' :: rest => return (ms, rest)
    | _ => none

/-- A value, nested at most `depth` deep. -/
def readValue : Nat → List Char → Option (Toml × List Char)
  | depth, '[' :: rest =>
    match depth with
    | 0 => none
    | depth + 1 =>
      (readItems (readValue depth) (rest.length + 1) rest).map fun (vs, rest) => (.array vs, rest)
  | depth, '\x7b' :: rest =>
    match depth with
    | 0 => none
    | depth + 1 =>
      match skipBlanks rest with
      | '\x7d' :: rest => some (.table .braces [], rest)
      | rest =>
        (readPairs (readValue depth) (rest.length + 1) rest []).map fun (ms, rest) =>
          (.table .braces ms, rest)
  | _, cs => readPlain? cs

/-! ## Documents -/

/-- What has been read of a document: its members, and the path of the last header. -/
structure Draft where
  members : Members
  header : List String

/-- A header after its opening brackets, with the brackets that close it. -/
def readHeader? (close : List Char) (cs : List Char) :
    Option ((List String × String) × List Char) := do
  let (key, rest) ← readKey? cs
  let rest ← close.isPrefixOf? (skipBlanks rest)
  return (key, ← finishLine? rest)

/-- One line, or one pair over several lines. -/
def readLine? (draft : Draft) (cs : List Char) : Option (Draft × List Char) :=
  match cs with
  | '[' :: '[' :: rest => do
    let ((path, key), rest) ← readHeader? [']', ']'] rest
    return (⟨← addArrayTable path key draft.members, path ++ [key]⟩, rest)
  | '[' :: rest => do
    let ((path, key), rest) ← readHeader? [']'] rest
    return (⟨← addTable path key draft.members, path ++ [key]⟩, rest)
  | cs => do
    let ((path, key), rest) ← readKey? cs
    let rest ← expect? '=' rest
    let (v, rest) ← readValue 79 (skipBlanks rest)
    let rest ← finishLine? rest
    let members ← editAt false draft.header (addValue path key v) .header draft.members
    return (⟨members, draft.header⟩, rest)

/-- All lines, with at most `fuel` of them. -/
def readLines : Nat → Draft → List Char → Option Members
  | 0, _, _ => none
  | fuel + 1, draft, cs =>
    match skipBlanks cs with
    | [] => some draft.members
    | '#' :: rest =>
      match finishLine? ('#' :: rest) with
      | some rest => readLines fuel draft rest
      | none => none
    | cs =>
      match lineEnd? cs with
      | some rest => readLines fuel draft rest
      | none => do
        let (draft, rest) ← readLine? draft cs
        readLines fuel draft rest

/-- The members of a document. A byte order mark at its start does not count. -/
def read? (text : String) : Option Members :=
  let cs := match text.toList with
    | '\ufeff' :: rest => rest
    | cs => cs
  readLines (cs.length + 1) ⟨[], []⟩ cs

end Overlay.Toml
