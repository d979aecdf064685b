import Overlay.Decimal.Shortest

/-!
# TOML documents

A document is a tree of tables. How a table came about decides what may be added to it: a table with
a header of its own cannot have a second one, a table built by dotted keys takes dotted keys only,
and an inline table is complete as it stands. A repeated header in double brackets adds a table to
an array, and later headers go into the last one.
-/

namespace Overlay

/-- How a table came about. -/
inductive Toml.Origin where
  /-- By a header of its own. -/
  | header
  /-- By the header of a table inside it. -/
  | implied
  /-- By dotted keys. -/
  | dotted
  /-- In braces, as a value. -/
  | braces
  deriving DecidableEq, Repr

/-- A value. Of a date or time only that it is one is kept. -/
inductive Toml where
  | string (s : String)
  | integer (n : Int)
  | float (x : Float)
  | boolean (b : Bool)
  | datetime
  | array (items : List Toml)
  | table (origin : Toml.Origin) (members : List (String × Toml))
  /-- Tables under headers in double brackets. -/
  | tables (items : List (List (String × Toml)))
  deriving Inhabited

namespace Toml

/-- The members of a table in their order. -/
abbrev Members := List (String × Toml)

/-- The value of a key. -/
def find? (ms : Members) (key : String) : Option Toml :=
  (ms.find? fun m => m.1 = key).map (·.2)

/-- Puts a value in the place of the one of its key, or after all others. -/
def put (key : String) (v : Toml) : Members → Members
  | [] => [(key, v)]
  | m :: ms => if m.1 = key then (key, v) :: ms else m :: put key v ms

/-- Edits the table at the end of a path, and builds the tables on the way that are missing. Dotted
keys do not lead into a table with a header. -/
def editAt (dotted : Bool) :
    List String → (Origin → Members → Option Members) → Origin → Members → Option Members
  | [], edit, origin, ms => edit origin ms
  | key :: path, edit, _, ms =>
    match find? ms key with
    | none => do
      let origin := if dotted then Origin.dotted else .implied
      let inner ← editAt dotted path edit origin []
      return put key (.table origin inner) ms
    | some (.table origin inner) =>
      if origin = .braces ∨ (dotted ∧ origin = .header) then none
      else do return put key (.table origin (← editAt dotted path edit origin inner)) ms
    | some (.tables items) =>
      match items.getLast? with
      | none => none
      | some last => do
        let last ← editAt dotted path edit .header last
        return put key (.tables (items.dropLast ++ [last])) ms
    | some _ => none

/-- Adds a value under a dotted key, which is not there yet. -/
def addValue (path : List String) (key : String) (v : Toml) :
    Origin → Members → Option Members :=
  editAt true path fun origin ms =>
    if (origin = .dotted) = (path = []) then none
    else if (find? ms key).isSome then none
    else some (ms ++ [(key, v)])

/-- Adds the table of a header, which may have been implied but not more. -/
def addTable (path : List String) (key : String) : Members → Option Members :=
  editAt false path (fun _ ms =>
    match find? ms key with
    | none => some (put key (.table .header []) ms)
    | some (.table .implied inner) => some (put key (.table .header inner) ms)
    | some _ => none) .header

/-- Adds a table to an array of tables. -/
def addArrayTable (path : List String) (key : String) : Members → Option Members :=
  editAt false path (fun _ ms =>
    match find? ms key with
    | none => some (put key (.tables [[]]) ms)
    | some (.tables items) => some (put key (.tables (items ++ [[]])) ms)
    | some _ => none) .header

end Toml

end Overlay
