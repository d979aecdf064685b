import Overlay.Json.Basic

/-!
# Reading JSON texts

`Json.read` gives the value of a text together with whether anything but blanks follows it. It
never fails: where the text is wrong the value holds a blot. Blanks are the space, the tab, the
line feed and the carriage return; numbers have no leading zeros and no sign but a minus; texts
hold no control characters; nothing follows the last item of an array or member of an object.

A number with a fraction or an exponent is read from as many of its first digits as fit 64 bits,
taken as a double and scaled by a power of ten. This is the nearest double for up to fifteen digits
and close to it for more.
-/

namespace Overlay

/-- A text that was read: its value, and whether nothing but blanks follows the value. -/
structure Json.Document where
  value : Json
  complete : Bool

namespace Json

/-- Drops the blanks of JSON. -/
def skipBlanks : List Char → List Char
  | c :: cs => if c = ' ' ∨ c = '\n' ∨ c = '\t' ∨ c = '\r' then skipBlanks cs else c :: cs
  | [] => []

/-- The deepest nesting of arrays and objects that is read. -/
def depthLimit : Nat := 127

/-! ## Numbers -/

/-- A number while its digits are read: the digits that fit 64 bits, as one number; how many whole
digits came after those, less the digits of the fraction among them; and whether a digit has been
left out. -/
structure Scan where
  significand : Nat
  exponent : Int
  full : Bool

/-- Takes one more digit of the whole part. -/
def Scan.whole (s : Scan) (d : Nat) : Scan :=
  if s.full ∨ UInt64.size ≤ s.significand * 10 + d then ⟨s.significand, s.exponent + 1, true⟩
  else ⟨s.significand * 10 + d, s.exponent, false⟩

/-- Takes one more digit of the fraction. A fraction may start where the whole part left out
digits, so each part has its own limit. -/
def Scan.fraction (s : Scan) (d : Nat) : Scan :=
  if s.full ∨ UInt64.size ≤ s.significand * 10 + d then ⟨s.significand, s.exponent, true⟩
  else ⟨s.significand * 10 + d, s.exponent - 1, false⟩

/-- A significand scaled by a power of ten, with at most `fuel` steps of 308 places down; none if
it is too large for a double. -/
def scaled : Nat → Float → Int → Option Float
  | 0, x, _ => some x
  | fuel + 1, x, e =>
    if e.natAbs ≤ 308 then
      if 0 ≤ e then
        let y := x * Float.ofScientific 1 false e.toNat
        if y.isInf then none else some y
      else some (x / Float.ofScientific 1 false e.natAbs)
    else if x == 0.0 then some x
    else if 0 ≤ e then none
    else scaled fuel (x / 1e308) (e + 308)

/-- The value of a significand and a power of ten. -/
def ofScan (negative : Bool) (s : Scan) (exponent : Int) : Json :=
  match scaled 20 s.significand.toUInt64.toFloat (s.exponent + exponent) with
  | some x => real (if negative then -x else x)
  | none => blot .unreadable

/-- A whole number, exactly if it fits 64 bits. -/
def ofWhole (negative : Bool) (s : Scan) : Json :=
  if s.full then ofScan negative s 0
  else if negative then
    if s.significand ≠ 0 ∧ s.significand ≤ 0x8000000000000000 then int (-(s.significand : Int))
    else real (-s.significand.toUInt64.toFloat)
  else int s.significand

/-- The value of a decimal digit. -/
def digit? (c : Char) : Option Nat :=
  if c.isDigit then some (c.toNat - '0'.toNat) else none

/-- Reads digits. -/
def takeDigits : List Char → List Nat × List Char
  | c :: cs =>
    match digit? c with
    | some d => let (ds, rest) := takeDigits cs; (d :: ds, rest)
    | none => ([], c :: cs)
  | [] => ([], [])

/-- The number of an exponent's digits, as far as it matters: past this bound the number is too
large or zero, whatever its digits. -/
def exponentLimit : Nat := 0x7FFFFFFF

/-- What is left to read, unless the text broke off. -/
abbrev Rest := Option (List Char)

/-- An exponent after its letter. -/
def readExponent (negative : Bool) (s : Scan) (cs : List Char) : Json × Rest :=
  let (down, cs) := match cs with
    | '+' :: rest => (false, rest)
    | '-' :: rest => (true, rest)
    | _ => (false, cs)
  match takeDigits cs with
  | ([], _) => (blot .broken, none)
  | (ds, rest) =>
    let e := ds.foldl (fun acc d => acc * 10 + d) 0
    if exponentLimit < e then
      if s.significand ≠ 0 ∧ ¬down then (blot .unreadable, some rest)
      else (real (if negative then -0.0 else 0.0), some rest)
    else (ofScan negative s (if down then -(e : Int) else e), some rest)

/-- What may follow the whole part of a number. -/
def readFraction (negative : Bool) (s : Scan) (cs : List Char) : Json × Rest :=
  match cs with
  | '.' :: rest =>
    match takeDigits rest with
    | ([], _) => (blot .broken, none)
    | (ds, rest) =>
      let s := ds.foldl Scan.fraction { s with full := false }
      match rest with
      | 'e' :: rest | 'E' :: rest => readExponent negative s rest
      | _ => (ofScan negative s 0, some rest)
  | 'e' :: rest | 'E' :: rest => readExponent negative s rest
  | _ => (ofWhole negative s, some cs)

/-- A number after its sign. -/
def readNumber (negative : Bool) (cs : List Char) : Json × Rest :=
  match takeDigits cs with
  | ([], _) => (blot .broken, none)
  | (0 :: _ :: _, _) => (blot .broken, none)
  | (ds, rest) => readFraction negative (ds.foldl Scan.whole ⟨0, 0, false⟩) rest

/-! ## Texts -/

/-- Four hexadecimal digits. -/
def readHex? : List Char → Option (Nat × List Char)
  | a :: b :: c :: d :: rest => (Numeral.read? 16 [a, b, c, d]).map fun n => (n, rest)
  | _ => none

/-- The character of a one-letter escape. -/
def simpleEscape? (c : Char) : Option Char :=
  match c with
  | '"' => some '"'
  | '\\' => some '\\'
  | '/' => some '/'
  | 'b' => some '\x08'
  | 'f' => some '\x0c'
  | 'n' => some '\n'
  | 'r' => some '\r'
  | 't' => some '\t'
  | _ => none

/-- A text after its opening quote, with at most `fuel` characters: the characters, or none if it
holds half a surrogate pair; and what follows the closing quote. None if it is no text. -/
def readQuoted : Nat → List Char → Option (Option (List Char) × List Char)
  | 0, _ => none
  | _, [] => none
  | _, '"' :: rest => some (some [], rest)
  | fuel + 1, '\\' :: 'u' :: rest =>
    match readHex? rest with
    | none => none
    | some (n, rest) =>
      if 0xD800 ≤ n ∧ n < 0xDC00 then
        match rest with
        | '\\' :: 'u' :: rest' =>
          match readHex? rest' with
          | none => none
          | some (low, after) =>
            if 0xDC00 ≤ low ∧ low < 0xE000 then
              (readQuoted fuel after).map fun (cs, r) =>
                (cs.map (Char.ofNat (0x10000 + (n - 0xD800) * 0x400 + (low - 0xDC00)) :: ·), r)
            else (readQuoted fuel rest).map fun (_, r) => (none, r)
        | _ => (readQuoted fuel rest).map fun (_, r) => (none, r)
      else if 0xDC00 ≤ n ∧ n < 0xE000 then (readQuoted fuel rest).map fun (_, r) => (none, r)
      else (readQuoted fuel rest).map fun (cs, r) => (cs.map (Char.ofNat n :: ·), r)
  | fuel + 1, '\\' :: c :: rest =>
    match simpleEscape? c with
    | none => none
    | some e => (readQuoted fuel rest).map fun (cs, r) => (cs.map (e :: ·), r)
  | fuel + 1, c :: rest =>
    if c.toNat < 0x20 ∨ c = '\\' then none
    else (readQuoted fuel rest).map fun (cs, r) => (cs.map (c :: ·), r)

/-! ## Values -/

mutual

/-- Whether the value can be passed over: the text goes on after it. -/
def passable : Json → Bool
  | blot .broken | blot .brokenName => false
  | array items => passableItems items
  | object members => passableMembers members
  | _ => true

/-- Whether all items can be passed over. -/
def passableItems : List Json → Bool
  | [] => true
  | v :: vs => passable v && passableItems vs

/-- Whether all members can be passed over. -/
def passableMembers : List (String × Json) → Bool
  | [] => true
  | (_, v) :: ms => passable v && passableMembers ms

end

/-- A fixed word. -/
def readWord (word : String) (v : Json) (cs : List Char) : Json × Rest :=
  match word.toList.isPrefixOf? cs with
  | some rest => (v, some rest)
  | none => (blot .broken, none)

/-- A container that is nested too deeply can be passed over but not read. -/
def limitDepth (depth : Nat) (v : Json) : Json :=
  if depth < depthLimit then v
  else if passable v then blot .unreadable
  else blot .broken

mutual

/-- A value at a depth of nesting, with at most `fuel` steps. -/
def readValue : Nat → Nat → List Char → Json × Rest
  | 0, _, _ => (blot .broken, none)
  | fuel + 1, depth, cs =>
    match skipBlanks cs with
    | [] => (blot .broken, none)
    | '"' :: rest =>
      match readQuoted (rest.length + 1) rest with
      | some (some text, rest) => (string (String.ofList text), some rest)
      | some (none, rest) => (blot .unreadable, some rest)
      | none => (blot .broken, none)
    | '[' :: rest =>
      match skipBlanks rest with
      | ']' :: rest => (limitDepth depth (array []), some rest)
      | rest =>
        let (items, rest) := readItems fuel (depth + 1) rest
        (limitDepth depth (array items), rest)
    | '\x7b' :: rest =>
      match skipBlanks rest with
      | '\x7d' :: rest => (limitDepth depth (object []), some rest)
      | rest =>
        let (members, rest) := readMembers fuel (depth + 1) rest
        (limitDepth depth (object members), rest)
    | '-' :: rest => readNumber true rest
    | 'n' :: rest => readWord "ull" null rest
    | 't' :: rest => readWord "rue" (bool true) rest
    | 'f' :: rest => readWord "alse" (bool false) rest
    | c :: rest => if c.isDigit then readNumber false (c :: rest) else (blot .broken, none)

/-- The items of an array, at least one, up to its end. -/
def readItems : Nat → Nat → List Char → List Json × Rest
  | 0, _, _ => ([blot .broken], none)
  | fuel + 1, depth, cs =>
    match readValue fuel depth cs with
    | (v, none) => ([v], none)
    | (v, some rest) =>
      match skipBlanks rest with
      | ']' :: rest => ([v], some rest)
      | ',' :: rest =>
        let (vs, rest) := readItems fuel depth rest
        (v :: vs, rest)
      | _ => ([v, blot .broken], none)

/-- The members of an object, at least one, up to its end. -/
def readMembers : Nat → Nat → List Char → List (String × Json) × Rest
  | 0, _, _ => ([("", blot .brokenName)], none)
  | fuel + 1, depth, cs =>
    match skipBlanks cs with
    | '"' :: rest =>
      match readQuoted (rest.length + 1) rest with
      | none => ([("", blot .brokenName)], none)
      | some (name, rest) =>
        match skipBlanks rest with
        | ':' :: rest =>
          match readValue fuel depth rest with
          | (v, none) => ([namedMember name v], none)
          | (v, some rest) =>
            match skipBlanks rest with
            | '\x7d' :: rest => ([namedMember name v], some rest)
            | ',' :: rest =>
              let (ms, rest) := readMembers fuel depth rest
              (namedMember name v :: ms, rest)
            | _ => ([namedMember name v, ("", blot .brokenName)], none)
        | _ => ([namedMember name (blot .broken)], none)
    | _ => ([("", blot .brokenName)], none)
where
  /-- A member whose name may not be representable. -/
  namedMember (name : Option (List Char)) (v : Json) : String × Json :=
    match name with
    | some name => (String.ofList name, v)
    | none => ("", blot (if passable v then .unreadableName else .brokenName))

end

/-- The value of a text, and whether the text ends with it. -/
def read (text : String) : Document :=
  let cs := text.toList
  match readValue (2 * cs.length + 2) 0 cs with
  | (v, some rest) => ⟨v, (skipBlanks rest).isEmpty⟩
  | (v, none) => ⟨v, false⟩

end Json

end Overlay
