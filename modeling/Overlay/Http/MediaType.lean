/-!
# Media types

Whether a header value names JSON: `application/json` or `application/` with the suffix `+json`, in
either case of letters, with well-formed parameters after semicolons. A parameter has a name, an
equals sign and a value, which may stand in quotes; blanks stand before names and after quoted
values only.
-/

namespace Overlay.Http

/-- Whether a character may stand in a name. -/
def isToken (c : Char) : Bool :=
  c.isAlphanum || "!#$%&'*+-.^_\x60|~".toList.contains c

/-- Whether a character may stand between quotes. -/
def isQuotable (c : Char) : Bool :=
  0x1F < c.toNat && c.toNat ≠ 0x7F

/-- What follows a parameter in quotes: nothing, or the next parameter after a semicolon. -/
def afterQuoted (cs : List Char) : Option (List Char) :=
  match cs.dropWhile (· == ' ') with
  | [] => some []
  | ';' :: rest => some rest
  | _ => none

/-- What follows the value of a parameter. A value in quotes is not empty, so a quotation mark right
after the opening one belongs to the value. -/
def afterValue (cs : List Char) : Option (List Char) :=
  match cs with
  | '"' :: first :: rest =>
    match rest.dropWhile fun c => isQuotable c && c != '"' with
    | '"' :: rest => if isQuotable first then afterQuoted rest else none
    | _ => none
  | cs =>
    match cs.takeWhile isToken, cs.dropWhile isToken with
    | _, [] => some []
    | _ :: _, ';' :: rest => some rest
    | _, _ => none

/-- Whether the text after a semicolon consists of well-formed parameters, at most `fuel`. -/
def isParameters : Nat → List Char → Bool
  | _, [] => true
  | 0, _ => false
  | fuel + 1, cs =>
    let cs := cs.dropWhile (· == ' ')
    match cs.takeWhile isToken, cs.dropWhile isToken with
    | [], [] => true
    | _ :: _, '=' :: rest =>
      match afterValue rest with
      | some rest => isParameters fuel rest
      | none => false
    | _, _ => false

/-- What stands before and after the last plus sign, unless nothing stands before it. -/
def splitSuffix? (subtype : List Char) : Option (List Char × List Char) :=
  let back := subtype.reverse
  match (back.dropWhile (· != '+')).drop 1 with
  | [] => none
  | before => some (before.reverse, (back.takeWhile (· != '+')).reverse)

/-- Whether a subtype is JSON, before its suffix or by its suffix. -/
def isJsonSubtype (subtype : List Char) : Bool :=
  let lower := subtype.map Char.toLower
  let json := "json".toList
  match splitSuffix? lower with
  | some (before, suffix) => before == json || suffix == json
  | none => lower == json

/-- Whether a header value names JSON. -/
def isJsonMediaType (value : String) : Bool :=
  let cs := value.toList
  let type := cs.takeWhile isToken
  match cs.dropWhile isToken with
  | '/' :: rest =>
    let subtype := rest.takeWhile isToken
    type.map Char.toLower == "application".toList && isJsonSubtype subtype &&
      match rest.dropWhile isToken with
      | [] => true
      | ';' :: parameters => isParameters (parameters.length + 1) parameters
      | _ => false
  | _ => false

end Overlay.Http
