import Overlay.Text.Blank

/-!
# Selectors

A look-up asks for a job by its name or by one of its addresses. Where both are given the address
counts; a text of blanks counts as not given.
-/

namespace Overlay

/-- What a look-up asks for. -/
inductive Selector where
  | name (text : String)
  | address (text : String)
  deriving DecidableEq, Repr

namespace Selector

/-- The selector of an optional name and an optional address. -/
def ofParts? (name address : Option String) : Option Selector :=
  match address.bind nonblank?, name.bind nonblank? with
  | some a, _ => some (.address a)
  | none, some n => some (.name n)
  | none, none => none

/-- The name or the address itself. -/
def key : Selector → String
  | name text => text
  | address text => text

/-- The selector with its kind. -/
def display : Selector → String
  | name text => "name:" ++ text
  | address text => "address:" ++ text

end Selector

end Overlay
