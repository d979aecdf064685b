import Mathlib.Data.List.Nodup
import Overlay.Json.Form

/-!
# What is written is read back

A form is faithful if it reads back what it has written, whether the value comes from a text as it is
or was held back as a whole (`Form.Faithful`). Each way to build a form keeps this:

* a list or an option of faithful values is faithful, an option only if its values are never written
  as `null`;
* a record is faithful if its members have different names and each of them either shows its value or
  leaves out what stands for a missing one (`Record.Faithful.field`, `Record.Faithful.form`);
* a record that includes another one is faithful if they share no name (`Record.Faithful.including`);
* a value beside its kind is faithful if the kind says how the payload is read (`Form.tagged_faithful`).
-/

namespace Overlay

/-! ## Sets as lists -/

namespace NameSet

theorem mem_foldl_insert {name : String} (names : List String) (s : NameSet) :
    name ∈ names.foldl insert s ↔ name ∈ names ∨ name ∈ s := by
  induction names generalizing s with
  | nil => simp
  | cons first rest ih =>
    rw [List.foldl_cons, ih, mem_insert, List.mem_cons, or_left_comm, or_assoc]

/-- The set of the members of a set. -/
theorem ofList_toList (s : NameSet) : ofList s.toList = s := by
  refine ext fun name => ?_
  rw [ofList, mem_foldl_insert, mem_toList]
  exact or_iff_left (not_mem_empty name)

/-- A set without members is the empty one. -/
theorem eq_empty_of_isEmpty {s : NameSet} (h : s.isEmpty = true) : s = ∅ := by
  rw [← s.ofList_toList, List.isEmpty_iff.1 h]
  rfl

end NameSet

namespace Json

variable {α β ρ : Type}

/-- What a form writes can be held back, and is read back as it was. -/
structure Form.Faithful (form : Form α) : Prop where
  read_write : ∀ source a, form.read source (form.write a) = .ok a
  readable_write : ∀ a, readable (form.write a) = true

/-- A form that writes something for every value. -/
def Form.NeverNull (form : Form α) : Prop :=
  ∀ a, form.write a ≠ .null

theorem readableItems_iff {vs : List Json} :
    readableItems vs = true ↔ ∀ v ∈ vs, readable v = true := by
  induction vs with
  | nil => simp [readableItems]
  | cons v vs ih => simp [readableItems, ih]

theorem readableMembers_iff {ms : List (String × Json)} :
    readableMembers ms = true ↔ ∀ m ∈ ms, readable m.2 = true := by
  induction ms with
  | nil => simp [readableMembers]
  | cons m ms ih => simp [readableMembers, ih]

namespace Form

/-! ## Plain values -/

theorem text_faithful : text.Faithful :=
  ⟨fun _ _ => rfl, fun _ => rfl⟩

theorem text_neverNull : text.NeverNull :=
  fun _ => nofun

theorem uint16_neverNull : uint16.NeverNull :=
  fun _ => nofun

/-- Numbers below the bound are read back. -/
theorem natural_faithful {bound : Nat} {ofNat : Nat → α} {toNat : α → Nat}
    (hlt : ∀ a, toNat a < bound) (hback : ∀ a, ofNat (toNat a) = a) :
    (natural bound ofNat toNat).Faithful where
  read_write _ a := by
    have hrange : (0 : Int) ≤ toNat a ∧ (toNat a : Int) < bound :=
      ⟨Int.natCast_nonneg _, Int.ofNat_lt.2 (hlt a)⟩
    simp only [natural, nat]
    rw [if_pos hrange, Int.toNat_natCast, hback]
  readable_write _ := rfl

theorem uint16_faithful : uint16.Faithful :=
  natural_faithful UInt16.toNat_lt_size fun _ => UInt16.ofNat_toNat

theorem uint32_faithful : uint32.Faithful :=
  natural_faithful UInt32.toNat_lt_size fun _ => UInt32.ofNat_toNat

/-- A value that is not written as `null` is told from a missing one. -/
theorem Faithful.option {form : Form α} (h : form.Faithful) (hnull : form.NeverNull) :
    form.option.Faithful where
  read_write source a := by
    cases a with
    | none => rfl
    | some a =>
      have hread : form.option.read source (form.write a) =
          (form.read source (form.write a)).map some := by
        simp only [Form.option]
        split
        · next heq => exact absurd heq (hnull a)
        · rfl
      rw [h.read_write] at hread
      exact hread
  readable_write a := by
    cases a with
    | none => rfl
    | some a => exact h.readable_write a

/-- Lists are read back item by item. -/
theorem Faithful.list {form : Form α} (h : form.Faithful) : (list form).Faithful where
  read_write source as := by
    change (as.map form.write).mapM (form.read source) = .ok as
    induction as with
    | nil => rfl
    | cons a as ih =>
      rw [List.map_cons, List.mapM_cons, h.read_write, ih]
      rfl
  readable_write as := by
    refine readableItems_iff.2 fun v hv => ?_
    obtain ⟨a, -, rfl⟩ := List.mem_map.1 hv
    exact h.readable_write a

/-- A set is read back from the list of its members. -/
theorem names_faithful : names.Faithful where
  read_write source s := by
    change ((list text).read source ((list text).write s.toList)).map NameSet.ofList = .ok s
    rw [text_faithful.list.read_write]
    exact congrArg Except.ok s.ofList_toList
  readable_write s := text_faithful.list.readable_write s.toList

/-- A choice is read back if each choice is listed and the names differ. -/
theorem choice_faithful {name : α → String} {all : List α} (hall : ∀ a, a ∈ all)
    (hnames : (all.map name).Nodup) : (choice name all).Faithful where
  read_write source a := by
    have hfind : all.find? (fun b => name b == name a) = some a := by
      cases hfound : all.find? fun b => name b == name a with
      | none => exact absurd (List.find?_eq_none.1 hfound a (hall a)) (by simp)
      | some b =>
        have hname : name b = name a := by simpa using List.find?_some hfound
        rw [List.inj_on_of_nodup_map hnames (hall b) (hall a) hname]
    simp only [choice, readChoice, readName, hfind]
  readable_write _ := rfl

end Form

/-! ## Members -/

namespace Member

/-- A member is faithful if it shows its value or leaves out what stands for a missing one. -/
structure Faithful (m : Member β) : Prop where
  read_write : ∀ source b, m.shown b = true → m.form.read source (m.form.write b) = .ok b
  readable_write : ∀ b, m.shown b = true → readable (m.form.write b) = true
  absent : ∀ b, m.shown b = false → m.absent = some b

/-- A member that leaves out only what stands for a missing value. -/
theorem faithful_of_form {m : Member β} (h : m.form.Faithful)
    (habsent : ∀ b, m.shown b = false → m.absent = some b) : m.Faithful :=
  ⟨fun source b _ => h.read_write source b, fun b _ => h.readable_write b, habsent⟩

theorem required_faithful {name : String} {form : Form β} (h : form.Faithful) :
    (required name form).Faithful :=
  faithful_of_form h fun _ => nofun

theorem defaulted_faithful {name : String} {form : Form β} {value : β} (h : form.Faithful) :
    (defaulted name form value).Faithful :=
  faithful_of_form h fun _ => nofun

theorem optional_faithful {name : String} {form : Form β} (h : form.Faithful)
    (hnull : form.NeverNull) : (optional name form).Faithful :=
  faithful_of_form (h.option hnull) fun b hb => by
    rw [Option.not_isSome_iff_eq_none.1 (Bool.eq_false_iff.1 hb)]
    rfl

theorem nullable_faithful {name : String} {form : Form β} (h : form.Faithful)
    (hnull : form.NeverNull) : (nullable name form).Faithful :=
  faithful_of_form (h.option hnull) fun _ => nofun

theorem placed_faithful {name : String} {form : Form β} (h : form.Faithful)
    (hnull : form.NeverNull) : (placed name form).Faithful :=
  faithful_of_form (h.option hnull) fun _ => nofun

/-! ### Texts and ports -/

theorem required_text (name : String) : (required name .text).Faithful :=
  required_faithful Form.text_faithful

theorem optional_text (name : String) : (optional name .text).Faithful :=
  optional_faithful Form.text_faithful Form.text_neverNull

theorem nullable_text (name : String) : (nullable name .text).Faithful :=
  nullable_faithful Form.text_faithful Form.text_neverNull

theorem placed_text (name : String) : (placed name .text).Faithful :=
  placed_faithful Form.text_faithful Form.text_neverNull

theorem required_uint16 (name : String) : (required name .uint16).Faithful :=
  required_faithful Form.uint16_faithful

theorem optional_uint16 (name : String) : (optional name .uint16).Faithful :=
  optional_faithful Form.uint16_faithful Form.uint16_neverNull

theorem nullable_uint16 (name : String) : (nullable name .uint16).Faithful :=
  nullable_faithful Form.uint16_faithful Form.uint16_neverNull

theorem required_uint32 (name : String) : (required name .uint32).Faithful :=
  required_faithful Form.uint32_faithful

end Member

/-! ## Records -/

namespace Record

/-- A record that knows the members of some names, and reads a value off the members that it has
written. -/
structure Faithful (r : Record ρ α) (names : List String) (value : ρ → α) : Prop where
  known : ∀ source name v slots, (r.fill source name v slots).isSome = true ↔ name ∈ names
  written : ∀ a, ∀ e ∈ r.members a, e.1 ∈ names ∧ readable e.2 = true
  reads : ∀ source other a, ∃ slots,
    r.fillAll source other (r.members a) r.blank = .ok slots ∧ r.finish slots = .ok (value a)

theorem fillAll_cons_of_some {r : Record ρ α} {source : Source} {other : Json → Except Fault Unit}
    {e : String × Json} {slots : r.Slots} {filled : Except Fault r.Slots}
    (h : r.fill source e.1 e.2 slots = some filled) (ms : List (String × Json)) :
    r.fillAll source other (e :: ms) slots = filled >>= r.fillAll source other ms := by
  rw [fillAll.eq_def]
  simp only [h]

theorem fillAll_cons_of_none {r : Record ρ α} {source : Source} {other : Json → Except Fault Unit}
    {e : String × Json} {slots : r.Slots} (h : r.fill source e.1 e.2 slots = none)
    (ms : List (String × Json)) : r.fillAll source other (e :: ms) slots =
      other e.2 >>= fun _ => r.fillAll source other ms slots := by
  rw [fillAll.eq_def]
  simp only [h]

theorem fillAll_append (r : Record ρ α) (source : Source) (other : Json → Except Fault Unit)
    (ms ms' : List (String × Json)) (slots : r.Slots) :
    r.fillAll source other (ms ++ ms') slots =
      r.fillAll source other ms slots >>= r.fillAll source other ms' := by
  induction ms generalizing slots with
  | nil => rfl
  | cons m ms ih =>
    rw [List.cons_append]
    cases hfill : r.fill source m.1 m.2 slots with
    | some filled =>
      rw [fillAll_cons_of_some hfill, fillAll_cons_of_some hfill]
      cases filled with
      | error e => rfl
      | ok slots => exact ih slots
    | none =>
      rw [fillAll_cons_of_none hfill, fillAll_cons_of_none hfill]
      cases other m.2 with
      | error e => rfl
      | ok u => exact ih slots

theorem start_faithful (a : α) : (start a : Record ρ α).Faithful [] fun _ => a where
  known _ _ _ _ := by simp [start]
  written _ := nofun
  reads _ _ _ := ⟨(), rfl, rfl⟩

/-- A member of the name fills the slot, if nothing is there yet. -/
theorem fill_field_self (r : Record ρ (β → α)) (m : Member β) (get : ρ → β) (source : Source)
    {name : String} (hname : name = m.name) (v : Json) (slots : r.Slots) (slot : Option β) :
    (r.field m get).fill source name v (slots, slot) =
      some (if slot.isSome then .error .mismatched
        else (m.form.read source v).map fun b => (slots, some b)) :=
  if_pos hname

/-- A member of another name goes to the slots that were there before. -/
theorem fill_field_of_ne (r : Record ρ (β → α)) (m : Member β) (get : ρ → β) (source : Source)
    {name : String} (hne : name ≠ m.name) (v : Json) (slots : r.Slots) (slot : Option β) :
    (r.field m get).fill source name v (slots, slot) =
      (r.fill source name v slots).map fun filled => filled.map fun slots => (slots, slot) :=
  if_neg hne

/-- Members of other names fill the slots that were there before. -/
theorem fillAll_field (r : Record ρ (β → α)) (m : Member β) (get : ρ → β) (source : Source)
    (other : Json → Except Fault Unit) {ms : List (String × Json)} (hms : ∀ e ∈ ms, e.1 ≠ m.name)
    (slots : r.Slots) (slot : Option β) : (r.field m get).fillAll source other ms (slots, slot) =
      (r.fillAll source other ms slots).map fun slots => (slots, slot) := by
  induction ms generalizing slots with
  | nil => rfl
  | cons e ms ih =>
    have hne := hms e List.mem_cons_self
    have hrest := ih fun e he => hms e (List.mem_cons_of_mem _ he)
    have hfill := fill_field_of_ne r m get source hne e.2 slots slot
    cases hbefore : r.fill source e.1 e.2 slots with
    | some filled =>
      rw [hbefore] at hfill
      rw [fillAll_cons_of_some hfill, fillAll_cons_of_some hbefore]
      cases filled with
      | error f => rfl
      | ok slots => exact hrest slots
    | none =>
      rw [hbefore] at hfill
      rw [fillAll_cons_of_none hfill, fillAll_cons_of_none hbefore]
      cases other e.2 with
      | error f => rfl
      | ok u => exact hrest slots

namespace Faithful

variable {names : List String}

/-- **Fields.** A record gets one more member with a name of its own. -/
theorem field {r : Record ρ (β → α)} {value : ρ → β → α} (h : r.Faithful names value)
    {m : Member β} (hm : m.Faithful) (get : ρ → β) (hnew : m.name ∉ names) :
    (r.field m get).Faithful (m.name :: names) fun a => value a (get a) where
  known source name v slots := by
    rw [List.mem_cons]
    obtain ⟨slots, slot⟩ := slots
    by_cases heq : name = m.name
    · rw [fill_field_self r m get source heq]
      exact iff_of_true rfl (.inl heq)
    · have hfill : ((r.field m get).fill source name v (slots, slot)).isSome =
          (r.fill source name v slots).isSome :=
        (congrArg Option.isSome (fill_field_of_ne r m get source heq ..)).trans Option.isSome_map
      rw [hfill, h.known, or_iff_right heq]
  written a e he := by
    rcases List.mem_append.1 he with he | he
    · obtain ⟨hname, hread⟩ := h.written a e he
      exact ⟨List.mem_cons_of_mem _ hname, hread⟩
    · split at he
      · next hshown =>
        obtain rfl := List.mem_singleton.1 he
        exact ⟨List.mem_cons_self, hm.readable_write _ hshown⟩
      · cases he
  reads source other a := by
    obtain ⟨slots, hfill, hfinish⟩ := h.reads source other a
    have hothers : ∀ e ∈ r.members a, e.1 ≠ m.name :=
      fun e he heq => hnew (heq ▸ (h.written a e he).1)
    have hbefore : (r.field m get).fillAll source other (r.members a) (r.blank, none) =
        .ok (slots, none) := by
      rw [fillAll_field r m get source other hothers, hfill]
      rfl
    have hmembers : (r.field m get).fillAll source other ((r.field m get).members a)
        (r.field m get).blank = (r.field m get).fillAll source other
          (if m.shown (get a) then [(m.name, m.form.write (get a))] else []) (slots, none) := by
      refine (fillAll_append ..).trans ?_
      exact congrArg (· >>= _) hbefore
    cases hshown : m.shown (get a) with
    | true =>
      have hvalue : (r.field m get).fill source m.name (m.form.write (get a)) (slots, none) =
          some (.ok (slots, some (get a))) := by
        rw [fill_field_self r m get source rfl, hm.read_write source _ hshown]
        rfl
      refine ⟨(slots, some (get a)), ?_, ?_⟩
      · rw [hmembers, hshown]
        exact fillAll_cons_of_some (e := (m.name, m.form.write (get a))) hvalue []
      · change (r.finish slots >>= fun f => _) = _
        rw [hfinish]
        rfl
    | false =>
      refine ⟨(slots, none), ?_, ?_⟩
      · rw [hmembers, hshown]
        rfl
      · change (r.finish slots >>= fun f => _) = _
        rw [hfinish]
        simp only [hm.absent _ hshown]
        rfl

/-- Members of the record fill its slots, and none is held back. -/
theorem fillAll_including {r : Record ρ (β → α)} {value : ρ → β → α} (h : r.Faithful names value)
    (inner : Record β β) (get : ρ → β) (source : Source) (other : Json → Except Fault Unit)
    {ms : List (String × Json)} (hms : ∀ e ∈ ms, e.1 ∈ names) (slots : r.Slots)
    (held : List (String × Json)) : (r.including inner get).fillAll source other ms (slots, held) =
      (r.fillAll source other ms slots).map fun slots => (slots, held) := by
  induction ms generalizing slots with
  | nil => rfl
  | cons e ms ih =>
    have hrest := ih fun e he => hms e (List.mem_cons_of_mem _ he)
    obtain ⟨filled, hfilled⟩ := Option.isSome_iff_exists.1
      ((h.known source e.1 e.2 slots).2 (hms e List.mem_cons_self))
    have hfill : (r.including inner get).fill source e.1 e.2 (slots, held) =
        some (filled.map fun slots => (slots, held)) := by
      simp only [including, hfilled]
    rw [fillAll_cons_of_some hfill, fillAll_cons_of_some hfilled]
    cases filled with
    | error f => rfl
    | ok slots => exact hrest slots

/-- Members that the record does not know are held back in their order. -/
theorem fillAll_held {r : Record ρ (β → α)} {value : ρ → β → α} (h : r.Faithful names value)
    (inner : Record β β) (get : ρ → β) (source : Source) (other : Json → Except Fault Unit)
    {ms : List (String × Json)} (hms : ∀ e ∈ ms, e.1 ∉ names ∧ readable e.2 = true)
    (slots : r.Slots) (held : List (String × Json)) :
    (r.including inner get).fillAll source other ms (slots, held) = .ok (slots, held ++ ms) := by
  induction ms generalizing held with
  | nil => rw [List.append_nil]; rfl
  | cons e ms ih =>
    obtain ⟨hname, hread⟩ := hms e List.mem_cons_self
    have hnone : r.fill source e.1 e.2 slots = none :=
      Option.not_isSome_iff_eq_none.1 fun hsome =>
        hname ((h.known source e.1 e.2 slots).1 hsome)
    have hfill : (r.including inner get).fill source e.1 e.2 (slots, held) =
        some (.ok (slots, held ++ [e])) := by
      simp only [including, hnone, holdBack, hread]
      rfl
    have hrest := ih (fun e he => hms e (List.mem_cons_of_mem _ he)) (held ++ [e])
    rw [List.append_assoc] at hrest
    exact (fillAll_cons_of_some hfill ms).trans hrest

/-- **Inclusion.** The members of two records without a common name stand side by side. -/
theorem including {r : Record ρ (β → α)} {value : ρ → β → α} (h : r.Faithful names value)
    {inner : Record β β} {innerNames : List String} {same : β → β}
    (hinner : inner.Faithful innerNames same) (hsame : ∀ b, same b = b) (get : ρ → β)
    (hapart : ∀ name ∈ innerNames, name ∉ names) (source : Source)
    (other : Json → Except Fault Unit) (a : ρ) : ∃ slots,
      (r.including inner get).fillAll source other ((r.including inner get).members a)
        (r.including inner get).blank = .ok slots ∧
      (r.including inner get).finish slots = .ok (value a (get a)) := by
  obtain ⟨slots, hfill, hfinish⟩ := h.reads source other a
  obtain ⟨innerSlots, hinnerFill, hinnerFinish⟩ := hinner.reads .held (fun _ => .ok ()) (get a)
  have houter := h.fillAll_including inner get source other
    (fun e he => (h.written a e he).1) r.blank []
  have hheld : (r.including inner get).fillAll source other (inner.members (get a)) (slots, []) =
      .ok (slots, [] ++ inner.members (get a)) :=
    h.fillAll_held inner get source other
      (fun e he => ⟨hapart _ (hinner.written _ e he).1, (hinner.written _ e he).2⟩) slots []
  refine ⟨(slots, inner.members (get a)), ?_, ?_⟩
  · refine (fillAll_append (r.including inner get) ..).trans ?_
    rw [hfill] at houter
    exact (congrArg (· >>= _) houter).trans hheld
  · change (r.finish slots >>= fun f => _) = _
    rw [hfinish]
    change (inner.fillAll .held (fun _ => .ok ()) (inner.members (get a)) inner.blank >>= _) = _
    rw [hinnerFill]
    change (inner.finish innerSlots >>= _) = _
    rw [hinnerFinish, hsame]
    rfl

end Faithful

/-- The form of a record reads back what the record reads off its own members. -/
theorem form_faithful {r : Record α α}
    (hwritten : ∀ a, ∀ e ∈ r.members a, readable e.2 = true)
    (hreads : ∀ source other a, ∃ slots,
      r.fillAll source other (r.members a) r.blank = .ok slots ∧ r.finish slots = .ok a) :
    r.form.Faithful where
  read_write source a := by
    cases source with
    | direct =>
      obtain ⟨slots, hfill, hfinish⟩ := hreads .direct passOver a
      exact (congrArg (· >>= r.finish) hfill).trans hfinish
    | held =>
      obtain ⟨slots, hfill, hfinish⟩ := hreads .held (fun _ => .ok ()) a
      exact (congrArg (· >>= r.finish) hfill).trans hfinish
  readable_write a := readableMembers_iff.2 (hwritten a)

theorem form_neverNull (r : Record α α) : r.form.NeverNull :=
  fun _ => nofun

/-- **Records.** All that is to check of a record is that it puts each member where it found it. -/
theorem Faithful.form {names : List String} {r : Record α α} {value : α → α}
    (h : r.Faithful names value) (hvalue : ∀ a, value a = a) : r.form.Faithful :=
  form_faithful (fun a e he => (h.written a e he).2) fun source other a => by
    obtain ⟨slots, hfill, hfinish⟩ := h.reads source other a
    exact ⟨slots, hfill, hfinish.trans (congrArg Except.ok (hvalue a))⟩

/-- **Records that include another one.** -/
theorem Faithful.including_form {names innerNames : List String} {r : Record α (β → α)}
    {value : α → β → α} {inner : Record β β} {same : β → β} {get : α → β}
    (h : r.Faithful names value) (hinner : inner.Faithful innerNames same)
    (hapart : ∀ name ∈ innerNames, name ∉ names) (hsame : ∀ b, same b = b)
    (hvalue : ∀ a, value a (get a) = a) : (r.including inner get).form.Faithful := by
  refine form_faithful (fun a e he => ?_) fun source other a => ?_
  · rcases List.mem_append.1 he with he | he
    · exact (h.written a e he).2
    · exact (hinner.written _ e he).2
  · obtain ⟨slots, hfill, hfinish⟩ := h.including hinner hsame get hapart source other a
    exact ⟨slots, hfill, hfinish.trans (congrArg Except.ok (hvalue a))⟩

end Record

/-! ## Values with a kind -/

/-- **Kinds.** A value beside its kind is read back if the kind says how the payload is read. -/
theorem Form.tagged_faithful {kind : α → String} {payload : α → Json}
    {body : String → Option (Source → Json → Except Fault α)}
    (hbody : ∀ a, ∃ reader, body (kind a) = some reader ∧
      ∀ source, reader source (payload a) = .ok a)
    (hpayload : ∀ a, readable (payload a) = true) : (tagged kind payload body).Faithful where
  read_write source a := by
    obtain ⟨reader, hreader, hread⟩ := hbody a
    have hkind : TagState.step source body .start ("kind", .string (kind a)) =
        .ok (.kind reader) := by
      simp only [TagState.step, readChoice, readName, hreader]
      rfl
    have hdone : TagState.step source body (.kind reader) ("payload", payload a) =
        .ok (.done a) := by
      simp only [TagState.step, hread]
      rfl
    change ((([("kind", Json.string (kind a)), ("payload", payload a)]).foldlM
      (TagState.step source body) .start) >>= _) = _
    rw [List.foldlM_cons, hkind]
    change (List.foldlM _ _ [("payload", payload a)] >>= _) = _
    rw [List.foldlM_cons, hdone]
    rfl
  readable_write a := readableMembers_iff.2 fun e he => by
    rcases List.mem_cons.1 he with rfl | he
    · rfl
    · obtain rfl := List.mem_singleton.1 he
      exact hpayload a

end Json

end Overlay
