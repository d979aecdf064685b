import Overlay.Json.Text
import Overlay.NameSet

/-!
# JSON forms

A `Form α` says how values of `α` are written as JSON and read back. Forms are built from one
description for both directions: a record lists its members once, each with its name, the form of
its value and what stands for it when it is missing.

Records are read from objects. Unknown members are passed over, a known member may stand once, and
`null` is accepted for optional values only. A plain record is also read from an array that lists
its members in order. A record that includes another one (`Record.including`) reads the inner
record's members after all others, from the values it held back until then.

There are two ways to fail. A text is `malformed` if it is no JSON, and `mismatched` if it is JSON
of another shape. The first fault in the order of the text counts.
-/

namespace Overlay.Json

/-- Why a value could not be read. -/
inductive Fault where
  /-- The text is no JSON, or no value of that kind can start there. -/
  | malformed
  /-- The value has another shape. -/
  | mismatched
  deriving DecidableEq, Repr

/-- Where a value is read from. -/
inductive Source where
  /-- From the text, as it comes. -/
  | direct
  /-- After it was held back as a whole. -/
  | held
  deriving DecidableEq, Repr

/-- How values of a type are written and read. -/
structure Form (α : Type) where
  write : α → Json
  read : Source → Json → Except Fault α

mutual

/-- Whether the value holds no blot. -/
def readable : Json → Bool
  | blot _ => false
  | array items => readableItems items
  | object members => readableMembers members
  | _ => true

/-- Whether no item holds a blot. -/
def readableItems : List Json → Bool
  | [] => true
  | v :: vs => readable v && readableItems vs

/-- Whether no member holds a blot. -/
def readableMembers : List (String × Json) → Bool
  | [] => true
  | (_, v) :: ms => readable v && readableMembers ms

end

/-- The fault of a value that is not of the wanted kind. -/
def refuse {α : Type} : Json → Except Fault α
  | blot _ => .error .malformed
  | _ => .error .mismatched

/-- The name of something known, as a text. -/
def readName {α : Type} (known? : String → Option α) : Json → Except Fault α
  | string s =>
    match known? s with
    | some a => .ok a
    | none => .error .mismatched
  | v => refuse v

/-- The name of something known. It may also be the only member of an object, with nothing said
about it. -/
def readChoice {α : Type} (known? : String → Option α) : Source → Json → Except Fault α
  | _, string s => readName known? (string s)
  | .direct, object ((_, blot .unreadableName) :: _)
  | .direct, object ((_, blot .brokenName) :: _) => .error .malformed
  | .direct, object ((s, v) :: rest) => do
    let a ← readName known? (string s)
    match v with
    | null => if rest.isEmpty then .ok a else .error .malformed
    | v => refuse v
  | .held, object [(s, v)] => do
    let a ← readName known? (string s)
    match v with
    | null | object [] => .ok a
    | v => refuse v
  | .direct, _ => .error .malformed
  | .held, _ => .error .mismatched

/-- Leaves out the value of an unknown member. -/
def passOver (v : Json) : Except Fault Unit :=
  match v with
  | blot .unreadableName => .error .malformed
  | v => if passable v then .ok () else .error .malformed

/-- Holds a value back as a whole. -/
def holdBack (v : Json) : Except Fault Unit :=
  if readable v then .ok () else .error .malformed

namespace Form

variable {α β ρ : Type}

/-! ## Plain values -/

/-- Texts. -/
def text : Form String where
  write := string
  read
    | _, string s => .ok s
    | _, v => refuse v

/-- Natural numbers below a bound, through a type that holds them. -/
def natural (bound : Nat) (ofNat : Nat → α) (toNat : α → Nat) : Form α where
  write a := nat (toNat a)
  read
    | _, int n => if 0 ≤ n ∧ n < bound then .ok (ofNat n.toNat) else .error .mismatched
    | _, v => refuse v

/-- Numbers of 16 bits. -/
def uint16 : Form UInt16 :=
  natural UInt16.size UInt16.ofNat UInt16.toNat

/-- Numbers of 32 bits. -/
def uint32 : Form UInt32 :=
  natural UInt32.size UInt32.ofNat UInt32.toNat

/-- Numbers of 64 bits. -/
def uint64 : Form UInt64 :=
  natural UInt64.size UInt64.ofNat UInt64.toNat

/-- Doubles; whole numbers are accepted too. -/
def double : Form Float where
  write := real
  read
    | _, real x => .ok x
    | _, int n => .ok (Float.ofInt n)
    | _, v => refuse v

/-- Truth values. -/
def flag : Form Bool where
  write := bool
  read
    | _, bool b => .ok b
    | _, v => refuse v

/-- A value or `null`. -/
def option (form : Form α) : Form (Option α) where
  write
    | some a => form.write a
    | none => null
  read
    | _, null => .ok none
    | source, v => (form.read source v).map some

/-- Lists, read item by item. -/
def list (form : Form α) : Form (List α) where
  write as := array (as.map form.write)
  read
    | source, array items => items.mapM (form.read source)
    | _, v => refuse v

/-- Sets of names: lists whose order and repetitions do not matter. -/
def names : Form NameSet where
  write s := array (s.toList.map string)
  read source v := ((list text).read source v).map NameSet.ofList

/-- One of finitely many names. -/
def choice (name : α → String) (all : List α) : Form α where
  write a := string (name a)
  read := readChoice fun s => all.find? fun a => name a == s

end Form

/-! ## Records -/

/-- What may stand for a member: in an object without it, and at the end of an array that is too
short; and which values are left out in writing. -/
structure Member (β : Type) where
  name : String
  form : Form β
  absent : Option β
  short : Option β
  shown : β → Bool

namespace Member

variable {β : Type}

/-- A member that has to be there. -/
def required (name : String) (form : Form β) : Member β :=
  ⟨name, form, none, none, fun _ => true⟩

/-- A member with a default. -/
def defaulted (name : String) (form : Form β) (value : β) : Member β :=
  ⟨name, form, some value, some value, fun _ => true⟩

/-- An optional member that is left out when there is nothing to say. -/
def optional (name : String) (form : Form β) : Member (Option β) :=
  ⟨name, form.option, some none, some none, Option.isSome⟩

/-- An optional member that is always written. -/
def nullable (name : String) (form : Form β) : Member (Option β) :=
  ⟨name, form.option, some none, some none, fun _ => true⟩

/-- An optional member that is always written and has to be there in an array. -/
def placed (name : String) (form : Form β) : Member (Option β) :=
  ⟨name, form.option, some none, none, fun _ => true⟩

end Member

/-- A record while it is described: a value of `ρ` is written, a value of `α` is read. The slots
hold what has been read so far. -/
structure Record (ρ α : Type) where
  Slots : Type
  blank : Slots
  /-- Puts the value of a known member into its slot. -/
  fill : Source → String → Json → Slots → Option (Except Fault Slots)
  /-- The value of the slots, once there are no more members. -/
  finish : Slots → Except Fault α
  /-- Reads the members in order, and gives the items after them. -/
  items : Source → List Json → Except Fault (α × List Json)
  members : ρ → List (String × Json)

namespace Record

variable {ρ α β : Type}

/-- The record without members. -/
def start (a : α) : Record ρ α where
  Slots := Unit
  blank := ()
  fill _ _ _ _ := none
  finish _ := .ok a
  items _ vs := .ok (a, vs)
  members _ := []

/-- One more member, which `get` finds in the record. -/
def field (r : Record ρ (β → α)) (m : Member β) (get : ρ → β) : Record ρ α where
  Slots := r.Slots × Option β
  blank := (r.blank, none)
  fill source name v
    | (slots, slot) =>
      if name = m.name then
        some (if slot.isSome then .error .mismatched
          else (m.form.read source v).map fun b => (slots, some b))
      else (r.fill source name v slots).map fun filled => filled.map fun slots => (slots, slot)
  finish
    | (slots, slot) => do
      let f ← r.finish slots
      match slot.or m.absent with
      | some b => .ok (f b)
      | none => .error .mismatched
  items source vs := do
    let (f, vs) ← r.items source vs
    match vs, m.short with
    | v :: vs, _ => (m.form.read source v).map fun b => (f b, vs)
    | [], some b => .ok (f b, [])
    | [], none => .error .mismatched
  members a :=
    r.members a ++ (if m.shown (get a) then [(m.name, m.form.write (get a))] else [])

/-- Fills the slots from the members of an object; `other` says what becomes of unknown ones. -/
def fillAll (r : Record ρ α) (source : Source) (other : Json → Except Fault Unit) :
    List (String × Json) → r.Slots → Except Fault r.Slots
  | [], slots => .ok slots
  | (name, v) :: rest, slots =>
    match r.fill source name v slots with
    | some filled => do r.fillAll source other rest (← filled)
    | none => do
      other v
      r.fillAll source other rest slots

/-- Includes the members of another record as the last ones. They are held back until the outer
members are read, so such a record is not read from an array. -/
def including (r : Record ρ (β → α)) (inner : Record β β) (get : ρ → β) : Record ρ α where
  Slots := r.Slots × List (String × Json)
  blank := (r.blank, [])
  fill source name v
    | (slots, held) =>
      match r.fill source name v slots with
      | some filled => some (filled.map fun slots => (slots, held))
      | none => some ((holdBack v).map fun _ => (slots, held ++ [(name, v)]))
  finish
    | (slots, held) => do
      let f ← r.finish slots
      let filled ← inner.fillAll .held (fun _ => .ok ()) held inner.blank
      return f (← inner.finish filled)
  items _ _ := .error .mismatched
  members a := r.members a ++ inner.members (get a)

/-- The form of a record. -/
def form (r : Record α α) : Form α where
  write a := object (r.members a)
  read
    | source, object ms => do
      let other := match source with
        | .direct => passOver
        | .held => fun _ => .ok ()
      r.finish (← r.fillAll source other ms r.blank)
    | source, array vs => do
      match source, ← r.items source vs with
      | _, (a, []) => .ok a
      | .direct, _ => .error .malformed
      | .held, _ => .error .mismatched
    | _, v => refuse v

end Record

/-! ## Values with a kind -/

/-- What has been read of a value that names its kind beside its payload. -/
inductive TagState (α : Type) where
  | start
  /-- The kind, which says how the payload is read. -/
  | kind (reader : Source → Json → Except Fault α)
  /-- A payload that came before its kind. -/
  | payload (v : Json)
  | done (a : α)

namespace TagState

variable {α : Type}

/-- Reads one more member. -/
def step (source : Source) (body : String → Option (Source → Json → Except Fault α)) :
    TagState α → String × Json → Except Fault (TagState α)
  | .start, ("kind", v) => (readChoice body source v).map .kind
  | .start, ("payload", v) => (holdBack v).map fun _ => .payload v
  | .kind reader, ("payload", v) => (reader source v).map .done
  | .payload v, ("kind", k) => do
    let reader ← readChoice body source k
    (reader .held v).map .done
  | state, (name, v) =>
    if name = "kind" ∨ name = "payload" then .error .mismatched
    else (passOver v).map fun _ => state

end TagState

/-- A value that names its kind beside its payload. The kind says how the payload is read; a payload
that comes first is held back. Both may also stand in an array of two, where the kind is a text. -/
def Form.tagged {α : Type} (kind : α → String) (payload : α → Json)
    (body : String → Option (Source → Json → Except Fault α)) : Form α where
  write a := object [("kind", string (kind a)), ("payload", payload a)]
  read
    | source, object ms => do
      match ← ms.foldlM (TagState.step source body) .start with
      | .done a => .ok a
      | _ => .error .mismatched
    | source, array (k :: vs) => do
      let reader ← readName body k
      match vs with
      | [] => .error .mismatched
      | v :: rest =>
        let a ← reader source v
        match source, rest with
        | _, [] => .ok a
        | .direct, _ => .error .malformed
        | .held, _ => .error .mismatched
    | _, v => refuse v

/-- Reads the value of a text in a form; nothing but blanks may follow it. -/
def Document.decode {α : Type} (d : Document) (form : Form α) : Except Fault α := do
  let a ← form.read .direct d.value
  if d.complete then .ok a else .error .malformed

end Overlay.Json
