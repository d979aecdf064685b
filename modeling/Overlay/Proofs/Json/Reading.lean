import Overlay.Proofs.Json.RoundTrip

/-!
# Which values are read

A form reads what it has written (`Form.Faithful`), and more: the members of a record may come in any
order or be listed without their names, optional ones may be missing, and others are passed over. This
module says which values are read as a record, without its reader:

* `Json.entries` is what a value says about one member, as an object or as an array;
* a record is read off a value exactly if that is what the members ask for (`Record.Accepts.read_iff`),
  which is shown for one more member at a time (`Record.Accepts.field`);
* a text or a number has one spelling (`Form.Exact`), a choice has two (`Form.choice_read_iff`).
-/

namespace Overlay.Json

variable {α β ρ : Type}

/-! ## What a value says -/

/-- What a value says about the member of a name, which has a place of its own where members are
listed without names. -/
def entries (v : Json) (place : Nat) (name : String) : List Json :=
  match v with
  | object ms => (ms.filter (·.1 = name)).map (·.2)
  | array vs => vs[place]?.toList
  | _ => []

/-- The value says this about a member, and says it once. -/
def Says (v : Json) (place : Nat) (name : String) (said : Json) : Prop :=
  v.entries place name = [said]

/-- The value says this about a member, once; or it says nothing about it, or `null`. -/
def MaySay (v : Json) (place : Nat) (name : String) : Option Json → Prop
  | some said => v.Says place name said
  | none => v.entries place name = [] ∨ v.Says place name null

/-- The value is an object, in which all other members can be passed over, or an array, in which
nothing comes after these members. -/
def Holds (v : Json) (names : List String) : Prop :=
  match v with
  | object ms => ∀ m ∈ ms, m.1 ∉ names → passOver m.2 = .ok ()
  | array vs => vs.length ≤ names.length
  | _ => False

/-! ## Members -/

/-- What is said about a member is read as a value; nothing said is read as what stands for a missing
one. -/
def Member.Fits (m : Member β) (said : List Json) (b : β) : Prop :=
  match said with
  | [] => m.absent = some b
  | [v] => m.form.read .direct v = .ok b
  | _ => False

/-- What is said about a member fills its slot, one thing at most and if nothing is there yet. -/
def Member.Fills (m : Member β) : List Json → Option β → Option β → Prop
  | [], slot, slot' => slot' = slot
  | v :: vs, slot, slot' =>
    slot = none ∧ ∃ b, m.form.read .direct v = .ok b ∧ m.Fills vs (some b) slot'

theorem Member.fits_iff {m : Member β} {said : List Json} {b : β} :
    m.Fits said b ↔ ∃ slot, m.Fills said none slot ∧ slot.or m.absent = some b := by
  rcases said with _ | ⟨v, _ | ⟨w, vs⟩⟩ <;> simp [Fits, Fills]

/-- A form whose values have one spelling each. -/
def Form.Exact (form : Form α) : Prop :=
  ∀ v a, form.read .direct v = .ok a ↔ v = form.write a

namespace Form

theorem text_exact : text.Exact := by
  intro v s
  cases v <;> simp [text, refuse]

/-- Numbers below the bound have one spelling. -/
theorem natural_exact {bound : Nat} {ofNat : Nat → α} {toNat : α → Nat}
    (hlt : ∀ a, toNat a < bound) (hback : ∀ a, ofNat (toNat a) = a)
    (hforth : ∀ n < bound, toNat (ofNat n) = n) : (natural bound ofNat toNat).Exact := by
  intro v a
  cases v with
  | int n =>
    simp only [natural, nat, int.injEq]
    constructor
    · intro hread
      split at hread
      · next hrange =>
        obtain rfl := Except.ok.inj hread
        rw [hforth _ (by omega)]
        omega
      · cases hread
    · rintro rfl
      rw [if_pos ⟨Int.natCast_nonneg _, Int.ofNat_lt.2 (hlt a)⟩, Int.toNat_natCast, hback]
  | _ => simp [natural, nat, refuse]

theorem uint16_exact : uint16.Exact :=
  natural_exact UInt16.toNat_lt_size (fun _ => UInt16.ofNat_toNat) fun _ => UInt16.toNat_ofNat_of_lt

theorem uint32_exact : uint32.Exact :=
  natural_exact UInt32.toNat_lt_size (fun _ => UInt32.ofNat_toNat) fun _ => UInt32.toNat_ofNat_of_lt

/-- A name that stands in an object is its only member, and nothing is said about it. -/
theorem readChoice_object {known? : String → Option α} {s : String} {v : Json}
    {rest : List (String × Json)} {a : α} :
    readChoice known? .direct (object ((s, v) :: rest)) = .ok a ↔
      readName known? (string s) = .ok a ∧ v = null ∧ rest = [] := by
  cases v with
  | null =>
    cases hread : readName known? (string s) with
    | error e => simp [readChoice, hread, bind, Except.bind]
    | ok b => by_cases hrest : rest = [] <;> simp [readChoice, hread, hrest, bind, Except.bind]
  | blot why =>
    cases why <;> cases hread : readName known? (string s) <;>
      simp [readChoice, refuse, hread, bind, Except.bind]
  | _ =>
    cases hread : readName known? (string s) <;>
      simp [readChoice, refuse, hread, bind, Except.bind]

/-- A choice is spelled as its name, or as an object in which nothing is said about its name. -/
theorem choice_read_iff {name : α → String} {all : List α} (hall : ∀ a, a ∈ all)
    (hnames : (all.map name).Nodup) {v : Json} {a : α} :
    (choice name all).read .direct v = .ok a ↔
      v = string (name a) ∨ v = object [(name a, null)] := by
  have hname : ∀ s, readName (fun s => all.find? fun b => name b == s) (string s) = .ok a ↔
      s = name a := by
    intro s
    constructor
    · intro hread
      rw [readName] at hread
      split at hread
      · next hfound =>
        obtain rfl := Except.ok.inj hread
        exact (by simpa using List.find?_some hfound : name _ = s).symm
      · cases hread
    · rintro rfl
      exact (choice_faithful hall hnames).read_write .direct a
  cases v with
  | string s => simp [choice, readChoice, hname]
  | object ms =>
    rcases ms with _ | ⟨⟨s, v⟩, rest⟩
    · simp [choice, readChoice]
    · simp [choice, readChoice_object, hname, and_assoc]
  | _ => simp [choice, readChoice]

end Form

namespace Member

variable {name : String} {form : Form β} {v : Json} {place : Nat}

@[simp] theorem name_required : (required name form).name = name := rfl

@[simp] theorem name_nullable : (nullable name form).name = name := rfl

/-- A member that has to be there is spelled as its value. -/
theorem required_fits (h : form.Exact) {b : β} :
    (required name form).Fits (v.entries place name) b ↔ v.Says place name (form.write b) := by
  rw [Says]
  rcases v.entries place name with _ | ⟨said, _ | ⟨_, _⟩⟩
  · simp [Fits, required]
  · simp [Fits, required, h said b]
  · simp [Fits]

/-- An optional member is spelled as its value, or there is nothing said about it. -/
theorem nullable_fits (h : form.Exact) (hnull : form.NeverNull) {o : Option β} :
    (nullable name form).Fits (v.entries place name) o ↔
      v.MaySay place name (o.map form.write) := by
  have hread : ∀ said, (nullable name form).form.read .direct said = .ok o ↔
      said = form.option.write o := by
    intro said
    by_cases hsaid : said = null
    · subst hsaid
      cases o with
      | none => simp [nullable, Form.option]
      | some b => simpa [nullable, Form.option] using (hnull b).symm
    · have hform : (nullable name form).form.read .direct said =
          (form.read .direct said).map some := by
        simp only [nullable, Form.option]
      rw [hform]
      cases o with
      | none => cases form.read .direct said <;> simp [Except.map, Form.option, hsaid]
      | some b =>
        rw [Form.option, ← h said b]
        cases form.read .direct said <;> simp [Except.map]
  rcases hentries : v.entries place name with _ | ⟨said, _ | ⟨_, _⟩⟩
  · cases o <;> simp [Fits, nullable, MaySay, Says, hentries]
  · cases o <;> simp [Fits, hread, MaySay, Says, hentries, Form.option]
  · cases o <;> simp [Fits, MaySay, Says, hentries]

@[simp] theorem required_text_fits {s : String} :
    (required name .text).Fits (v.entries place name) s ↔ v.Says place name (string s) :=
  required_fits Form.text_exact

@[simp] theorem required_uint32_fits {n : UInt32} :
    (required name .uint32).Fits (v.entries place name) n ↔ v.Says place name (nat n.toNat) :=
  required_fits Form.uint32_exact

@[simp] theorem nullable_text_fits {s : Option String} :
    (nullable name .text).Fits (v.entries place name) s ↔ v.MaySay place name (s.map string) :=
  nullable_fits Form.text_exact Form.text_neverNull

@[simp] theorem nullable_uint16_fits {n : Option UInt16} :
    (nullable name .uint16).Fits (v.entries place name) n ↔
      v.MaySay place name (n.map fun m => nat m.toNat) :=
  nullable_fits Form.uint16_exact Form.uint16_neverNull

/-- A choice that has to be there is spelled as its name, alone or in an object. -/
theorem required_choice_fits {label : β → String} {all : List β} (hall : ∀ b, b ∈ all)
    (hlabels : (all.map label).Nodup) {b : β} :
    (required name (.choice label all)).Fits (v.entries place name) b ↔
      v.Says place name (string (label b)) ∨ v.Says place name (object [(label b, null)]) := by
  rw [Says, Says]
  rcases v.entries place name with _ | ⟨said, _ | ⟨_, _⟩⟩
  · simp [Fits, required]
  · simp [Fits, required, Form.choice_read_iff hall hlabels]
  · simp [Fits]

end Member

/-! ## Records -/

namespace Record

/-- A record that knows the members of some names, and is read off what a value says about them
exactly if `P` holds of it. -/
structure Accepts (r : Record ρ α) (names : List String)
    (P : (Nat → String → List Json) → α → Prop) : Prop where
  congr : ∀ {said said' a}, (∀ place, ∀ name ∈ names, said place name = said' place name) →
    (P said a ↔ P said' a)
  members : ∀ other ms a, (∃ slots, r.fillAll .direct other ms r.blank = .ok slots ∧
    r.finish slots = .ok a) ↔
      (∀ m ∈ ms, m.1 ∉ names → other m.2 = .ok ()) ∧ P (object ms).entries a
  items : ∀ vs a rest, r.items .direct vs = .ok (a, rest) ↔
    rest = vs.drop names.length ∧ P (array vs).entries a

/-- The record without members is read off everything that can be passed over. -/
theorem start_accepts (a : α) : (start a : Record ρ α).Accepts [] fun _ b => b = a where
  congr _ := .rfl
  members other ms b := by
    induction ms with
    | nil => simp [fillAll, start, eq_comm]
    | cons m ms ih =>
      have hfill : (start a : Record ρ α).fillAll .direct other (m :: ms) () =
          other m.2 >>= fun _ => (start a : Record ρ α).fillAll .direct other ms () := rfl
      rw [List.forall_mem_cons, and_assoc, ← ih]
      change (∃ slots, (start a : Record ρ α).fillAll .direct other (m :: ms) () = _ ∧ _) ↔ _
      rw [hfill]
      cases other m.2 with
      | error e => simp [bind, Except.bind]
      | ok u => simp [bind, Except.bind]; rfl
  items vs b rest := by
    simp [start, eq_comm, and_comm]

/-- The members of one name fill a slot of their own, and the others fill the slots that were there
before. -/
theorem fillAll_field_iff (r : Record ρ (β → α)) (m : Member β) (get : ρ → β)
    (other : Json → Except Fault Unit) (ms : List (String × Json)) (slots slots' : r.Slots)
    (slot slot' : Option β) :
    (r.field m get).fillAll .direct other ms (slots, slot) = .ok (slots', slot') ↔
      r.fillAll .direct other (ms.filter (·.1 ≠ m.name)) slots = .ok slots' ∧
        m.Fills ((ms.filter (·.1 = m.name)).map (·.2)) slot slot' := by
  induction ms generalizing slots slot with
  | nil =>
    constructor
    · intro h
      obtain ⟨rfl, rfl⟩ := Prod.mk.inj (Except.ok.inj h)
      exact ⟨rfl, rfl⟩
    · rintro ⟨h, rfl⟩
      obtain rfl := Except.ok.inj h
      rfl
  | cons e ms ih =>
    by_cases hname : e.1 = m.name
    · have hcut : (e :: ms).filter (·.1 ≠ m.name) = ms.filter (·.1 ≠ m.name) := by simp [hname]
      have hsaid : ((e :: ms).filter (·.1 = m.name)).map (·.2) =
          e.2 :: (ms.filter (·.1 = m.name)).map (·.2) := by simp [hname]
      have hfill : (r.field m get).fillAll .direct other (e :: ms) (slots, slot) =
          (if slot.isSome then .error .mismatched
            else (m.form.read .direct e.2).map fun b => (slots, some b)) >>=
          (r.field m get).fillAll .direct other ms :=
        fillAll_cons_of_some (fill_field_self r m get .direct hname e.2 slots slot) ms
      rw [hcut, hsaid, Member.Fills, hfill]
      cases slot with
      | some b => simp [bind, Except.bind]
      | none =>
        cases m.form.read .direct e.2 with
        | error fault => simp [bind, Except.bind, Except.map]
        | ok b => simpa [bind, Except.bind, Except.map] using ih slots (some b)
    · have hcut : (e :: ms).filter (·.1 ≠ m.name) = e :: ms.filter (·.1 ≠ m.name) := by
        simp [hname]
      have hsaid : ((e :: ms).filter (·.1 = m.name)).map (·.2) =
          (ms.filter (·.1 = m.name)).map (·.2) := by simp [hname]
      have hfill := fill_field_of_ne r m get .direct hname e.2 slots slot
      rw [hcut, hsaid]
      cases hbefore : r.fill .direct e.1 e.2 slots with
      | some filled =>
        rw [hbefore] at hfill
        rw [fillAll_cons_of_some hfill, fillAll_cons_of_some hbefore]
        cases filled with
        | error fault => simp [bind, Except.bind, Except.map]
        | ok slots => exact ih slots slot
      | none =>
        rw [hbefore] at hfill
        rw [fillAll_cons_of_none hfill, fillAll_cons_of_none hbefore]
        cases other e.2 with
        | error fault => simp [bind, Except.bind]
        | ok u => exact ih slots slot

/-- What a record with one more member gives in the end. -/
theorem finish_field_iff (r : Record ρ (β → α)) (m : Member β) (get : ρ → β) (slots : r.Slots)
    (slot : Option β) (a : α) : (r.field m get).finish (slots, slot) = .ok a ↔
      ∃ f b, r.finish slots = .ok f ∧ slot.or m.absent = some b ∧ a = f b := by
  simp only [field]
  cases r.finish slots <;> cases slot.or m.absent <;> simp [bind, Except.bind, eq_comm]

/-- What a record with one more member takes from a list. -/
theorem items_field_iff (r : Record ρ (β → α)) {m : Member β} (hshort : m.short = m.absent)
    (get : ρ → β) (vs : List Json) (a : α) (rest : List Json) :
    (r.field m get).items .direct vs = .ok (a, rest) ↔ ∃ f left, r.items .direct vs = .ok (f, left) ∧
      rest = left.tail ∧ ∃ b, m.Fits left.head?.toList b ∧ a = f b := by
  simp only [field, hshort]
  cases r.items .direct vs with
  | error fault => simp [bind, Except.bind]
  | ok taken =>
    obtain ⟨f, left⟩ := taken
    cases left with
    | nil =>
      cases habsent : m.absent with
      | none => simp [bind, Except.bind, Member.Fits, habsent]
      | some b =>
        simp only [bind, Except.bind, Except.ok.injEq, Prod.mk.injEq, Member.Fits, habsent,
          Option.some.injEq]
        constructor
        · rintro ⟨rfl, rfl⟩
          exact ⟨f, [], ⟨rfl, rfl⟩, rfl, b, rfl, rfl⟩
        · rintro ⟨_, _, ⟨rfl, rfl⟩, rfl, _, rfl, rfl⟩
          exact ⟨rfl, rfl⟩
    | cons v left =>
      cases hread : m.form.read .direct v with
      | error fault => simp [bind, Except.bind, Except.map, Member.Fits, hread]
      | ok b =>
        simp only [bind, Except.bind, Except.map, hread, Except.ok.injEq, Prod.mk.injEq,
          Member.Fits]
        constructor
        · rintro ⟨rfl, rfl⟩
          exact ⟨f, _, ⟨rfl, rfl⟩, rfl, b, hread, rfl⟩
        · rintro ⟨_, _, ⟨rfl, rfl⟩, rfl, c, hc, rfl⟩
          obtain rfl := Except.ok.inj (hread.symm.trans hc)
          exact ⟨rfl, rfl⟩

/-- **Fields.** A record gets one more member with a name of its own. -/
theorem Accepts.field {r : Record ρ (β → α)} {names : List String}
    {P : (Nat → String → List Json) → (β → α) → Prop} (h : r.Accepts names P) (m : Member β)
    (get : ρ → β) (hshort : m.short = m.absent) (hnew : m.name ∉ names) :
    (r.field m get).Accepts (names ++ [m.name]) fun said a =>
      ∃ f b, P said f ∧ m.Fits (said names.length m.name) b ∧ a = f b where
  congr {said said' a} hsaid := by
    have hlast : said names.length m.name = said' names.length m.name :=
      hsaid _ _ (by simp)
    have hfront : ∀ f, P said f ↔ P said' f := fun f =>
      h.congr fun place name hname => hsaid place name (by simp [hname])
    simp only [hlast, hfront]
  members other ms a := by
    -- The members of other names say the same about the record without those of this name.
    have hcut : ∀ f, P (object (ms.filter (·.1 ≠ m.name))).entries f ↔ P (object ms).entries f :=
      fun f => h.congr fun place name hname => by
        have hne : name ≠ m.name := fun heq => hnew (heq ▸ hname)
        simp only [entries, List.filter_filter]
        congr 2
        funext e
        by_cases he : e.1 = name <;> simp [he, hne]
    have hothers : (∀ e ∈ ms.filter (·.1 ≠ m.name), e.1 ∉ names → other e.2 = .ok ()) ↔
        ∀ e ∈ ms, e.1 ∉ names ++ [m.name] → other e.2 = .ok () := by
      simp only [List.mem_filter, List.mem_append, List.mem_singleton, not_or, decide_eq_true_eq,
        and_imp]
      exact forall₂_congr fun e _ => ⟨fun h hn hne => h hne hn, fun h hne hn => h hn hne⟩
    constructor
    · rintro ⟨⟨slots, slot⟩, hfill, hfinish⟩
      obtain ⟨hbefore, hslot⟩ := (fillAll_field_iff ..).1 hfill
      obtain ⟨f, b, hf, hb, rfl⟩ := (finish_field_iff ..).1 hfinish
      obtain ⟨hpass, hP⟩ := (h.members other _ f).1 ⟨slots, hbefore, hf⟩
      exact ⟨hothers.1 hpass, f, b, (hcut f).1 hP, Member.fits_iff.2 ⟨slot, hslot, hb⟩, rfl⟩
    · rintro ⟨hpass, f, b, hP, hfits, rfl⟩
      obtain ⟨slots, hbefore, hf⟩ := (h.members other _ f).2 ⟨hothers.2 hpass, (hcut f).2 hP⟩
      obtain ⟨slot, hslot, hb⟩ := Member.fits_iff.1 hfits
      exact ⟨(slots, slot), (fillAll_field_iff ..).2 ⟨hbefore, hslot⟩,
        (finish_field_iff ..).2 ⟨f, b, hf, hb, rfl⟩⟩
  items vs a rest := by
    have hplace : (array vs).entries names.length m.name =
        (vs.drop names.length).head?.toList := by
      rw [List.head?_drop]
      rfl
    simp only [items_field_iff r hshort, h.items, hplace, List.length_append, List.length_singleton,
      ← List.tail_drop]
    constructor
    · rintro ⟨f, _, ⟨rfl, hP⟩, hrest, b, hfits, ha⟩
      exact ⟨hrest, f, b, hP, hfits, ha⟩
    · rintro ⟨hrest, f, b, hP, hfits, ha⟩
      exact ⟨f, _, ⟨rfl, hP⟩, hrest, b, hfits, ha⟩

/-- **Records.** A record is read off a value exactly if the value says about its members what they
ask for. -/
theorem Accepts.read_iff {r : Record α α} {names : List String}
    {P : (Nat → String → List Json) → α → Prop} (h : r.Accepts names P) {v : Json} {a : α} :
    r.form.read .direct v = .ok a ↔ v.Holds names ∧ P v.entries a := by
  cases v with
  | object ms =>
    have hread : r.form.read .direct (object ms) =
        r.fillAll .direct passOver ms r.blank >>= r.finish := rfl
    rw [hread, Holds, ← h.members]
    cases r.fillAll .direct passOver ms r.blank <;> simp [bind, Except.bind]
  | array vs =>
    have hread : r.form.read .direct (array vs) = .ok a ↔ r.items .direct vs = .ok (a, []) := by
      simp only [form]
      rcases r.items .direct vs with fault | ⟨b, _ | ⟨w, ws⟩⟩ <;> simp [bind, Except.bind]
    have hends : vs.length ≤ names.length ↔ [] = vs.drop names.length := by
      rw [eq_comm, List.drop_eq_nil_iff]
    rw [hread, Holds, hends, ← h.items]
  | _ => simp [form, refuse, Holds]

end Record

end Overlay.Json
