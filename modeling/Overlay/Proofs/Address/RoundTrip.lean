import Overlay.Address.Codec
import Overlay.Proofs.Numeral
import Overlay.Proofs.Text.Split

/-!
# The text of an address denotes the address

`IpAddress.ofText?_text`: reading the text of an address gives the address back. The steps:

* a text with a colon is no IPv4 text (`readOctets?_eq_none`), and four octets read back
  (`readOctets?_octetsText`);
* the zero run that is left out of an IPv6 text consists of zeros (`longestZeroRun_spec`), so the
  groups before and after it, with zeros put between them, are all the groups;
* groups between single colons hold no doubled colon, so the text breaks at the one that stands
  for the run (`breakOn?_groupsText_append`);
* an IPv4-mapped address has six groups in front of its tail, all of them known.

No character of an address is a blank, so there is nothing to trim (`IpAddress.trimmed_text`).
-/

namespace Overlay.IpAddress

open Numeral

/-! ## Characters -/

/-- The digits of a number hold neither of the separators, and no blank. -/
theorem digits_plain {base n : Nat} {c : Char} (hb : 1 < base) (hb' : base ≤ 16)
    (h : c ∈ digits base n) : c ≠ '.' ∧ c ≠ ':' ∧ isBlank c = false := by
  have key : ∀ d < 16, d.digitChar ≠ '.' ∧ d.digitChar ≠ ':' ∧ isBlank d.digitChar = false := by
    decide
  obtain ⟨d, hd, rfl⟩ := mem_digits hb h
  exact key d (by omega)

/-- The characters of octets are dots and digits. -/
theorem mem_octetsText {c : Char} {v : Nat} (h : c ∈ octetsText v) :
    c ≠ ':' ∧ isBlank c = false := by
  rcases mem_joinWith h with rfl | ⟨part, hp, hc⟩
  · decide
  · obtain ⟨n, -, rfl⟩ := List.mem_map.1 hp
    exact (digits_plain (by decide) (by decide) hc).2

/-- The characters of groups are colons and digits. -/
theorem mem_groupsText {c : Char} {gs : List Nat} (h : c ∈ groupsText gs) :
    isBlank c = false := by
  rcases mem_joinWith h with rfl | ⟨part, hp, hc⟩
  · decide
  · obtain ⟨n, -, rfl⟩ := List.mem_map.1 hp
    exact (digits_plain (by decide) (by decide) hc).2.2

/-- No character of an address is a blank. -/
theorem isBlank_of_mem_chars {a : IpAddress} {c : Char} (h : c ∈ a.chars) :
    isBlank c = false := by
  unfold chars at h
  split at h
  · exact (mem_octetsText h).2
  · split at h
    · rcases List.mem_append.1 h with h | h
      · have hlead : ∀ c ∈ mappedLead, isBlank c = false := by
          simp [mappedLead, isBlank]
        exact hlead c h
      · exact (mem_octetsText h).2
    · simp only [compressedText] at h
      split at h
      · exact mem_groupsText h
      · simp only [List.mem_append, List.mem_cons, List.not_mem_nil, or_false] at h
        rcases h with (h | rfl | rfl) | h
        · exact mem_groupsText h
        · decide
        · decide
        · exact mem_groupsText h

/-! ## Octets -/

/-- An octet reads back. -/
theorem readOctet?_digits {n : Nat} (h : n < 256) :
    readOctet? .strict (digits 10 n) = some n := by
  have hlen : (digits 10 n).length ≤ 3 := length_digits_le (by decide) (by decide) (by omega)
  have hlead : ¬(1 < (digits 10 n).length ∧ (digits 10 n).head? = some '0') := by
    rintro ⟨hlong, hzero⟩
    by_cases hn : n = 0
    · subst hn
      exact absurd hlong (by decide)
    · exact head?_digits (by decide) (by decide) hn hzero
  have hfits : ¬(3 < (digits 10 n).length ∨
      (Strictness.strict = .strict ∧ 1 < (digits 10 n).length ∧ (digits 10 n).head? = some '0')) := by
    rintro (hlong | ⟨-, hzero⟩)
    · omega
    · exact hlead hzero
  rw [readOctet?, if_neg hfits, read?_digits (by decide) (by decide)]
  simpa using h

/-- Octets with dots between them read back. -/
theorem readOctets?_octetsText (v : Nat) :
    readOctets? .strict (octetsText v) = some (octets v) := by
  obtain ⟨a, b, c, d, hos⟩ : ∃ a b c d, octets v = [a, b, c, d] := ⟨_, _, _, _, rfl⟩
  have hlt : ∀ o ∈ [a, b, c, d], o < 256 := by
    intro o ho
    rw [← hos] at ho
    exact lt_of_mem_words (by decide) ho
  have hsplit : splitOn '.' (octetsText v) = [a, b, c, d].map (digits 10) := by
    rw [octetsText, hos]
    refine splitOn_joinWith fun p hp hdot => ?_
    obtain ⟨n, -, rfl⟩ := List.mem_map.1 (show p ∈ [a, b, c, d].map (digits 10) from hp)
    exact (digits_plain (by decide) (by decide) hdot).1 rfl
  simp only [List.forall_mem_cons] at hlt
  obtain ⟨ha, hb, hc, hd, -⟩ := hlt
  simp [readOctets?, hsplit, hos, readOctet?_digits, ha, hb, hc, hd]

/-- A text with a colon is not four octets. -/
theorem readOctets?_eq_none {s : Strictness} {cs : List Char} (h : ':' ∈ cs) :
    readOctets? s cs = none := by
  obtain ⟨part, hp, hc⟩ := mem_splitOn h (by decide : ':' ≠ '.')
  have hpart : readOctet? s part = none := by
    rw [readOctet?, read?_eq_none hc (by decide)]
    split <;> rfl
  have hall : ∀ parts : List (List Char), part ∈ parts → parts.mapM (readOctet? s) = none := by
    intro parts
    induction parts with
    | nil => intro hp; cases hp
    | cons p ps ih =>
      intro hp
      rcases List.mem_cons.1 hp with rfl | hp
      · simp [hpart]
      · simp [ih hp]
  simp only [readOctets?, hall _ hp, ite_self]

/-- An IPv4 text reads back. -/
theorem ofChars?_octetsText (v : Nat) : ofChars? .strict (octetsText v) = some (ofValue .v4 v) := by
  rw [ofChars?, readOctets?_octetsText]
  refine congrArg some (ext rfl ?_)
  rw [value_ofValue, value_ofValue, octets, value_words]
  exact Nat.mod_mod v _

/-! ## Groups -/

/-- A group reads back. -/
theorem readGroup?_digits {g : Nat} (h : g < 65536) : readGroup? (digits 16 g) = some g := by
  have hlen : (digits 16 g).length ≤ 4 := length_digits_le (by decide) (by decide) (by omega)
  rw [readGroup?, if_neg (by omega), read?_digits (by decide) (by decide)]

/-- The parts of groups are not empty and hold no colon. -/
theorem groupParts_plain {gs : List Nat} {p : List Char} (hp : p ∈ gs.map (digits 16)) :
    p ≠ [] ∧ ':' ∉ p := by
  obtain ⟨g, -, rfl⟩ := List.mem_map.1 hp
  exact ⟨digits_ne_nil 16 g,
    fun hc => (digits_plain (by decide) (by decide) hc).2.1 rfl⟩

/-- Groups are cut at their colons. -/
theorem splitOn_groupsText {g : Nat} {gs : List Nat} :
    splitOn ':' (groupsText (g :: gs)) = (g :: gs).map (digits 16) :=
  splitOn_joinWith fun _ (hp : _ ∈ (g :: gs).map (digits 16)) => (groupParts_plain hp).2

/-- Only no groups have no text. -/
theorem groupsText_ne_nil (g : Nat) (gs : List Nat) : groupsText (g :: gs) ≠ [] := by
  intro h
  have hsplit := @splitOn_groupsText g gs
  rw [h] at hsplit
  have hnil : [] ∈ (g :: gs).map (digits 16) := hsplit ▸ List.mem_cons_self
  exact (groupParts_plain hnil).1 rfl

/-- Groups read back one by one. -/
theorem mapM_readGroup? {gs : List Nat} (h : ∀ g ∈ gs, g < 65536) :
    (gs.map (digits 16)).mapM readGroup? = some gs := by
  induction gs with
  | nil => rfl
  | cons g gs ih =>
    obtain ⟨hg, hgs⟩ := List.forall_mem_cons.1 h
    simp [readGroup?_digits hg, ih hgs]

/-- Groups read back where an IPv4 tail is possible. -/
theorem readParts?_digits {gs : List Nat} (h : ∀ g ∈ gs, g < 65536) :
    readParts? .strict (gs.map (digits 16)) = some gs := by
  induction gs with
  | nil => rfl
  | cons g gs ih =>
    obtain ⟨hg, hgs⟩ := List.forall_mem_cons.1 h
    have ih := ih hgs
    cases gs with
    | nil => simp [readParts?, readGroup?_digits hg]
    | cons next rest =>
      rw [List.map_cons] at ih
      simp [readParts?, readGroup?_digits hg, ih]

/-- Groups with colons between them read back. -/
theorem readGroups?_groupsText {gs : List Nat} (h : ∀ g ∈ gs, g < 65536) :
    readGroups? .strict (groupsText gs) = some gs := by
  cases gs with
  | nil => rfl
  | cons g gs =>
    rw [readGroups?, if_neg (by simpa using groupsText_ne_nil g gs), splitOn_groupsText,
      readParts?_digits h]

/-- Groups in front of a doubled colon read back. -/
theorem readPlainGroups?_groupsText {gs : List Nat} (h : ∀ g ∈ gs, g < 65536) :
    readPlainGroups? (groupsText gs) = some gs := by
  cases gs with
  | nil => rfl
  | cons g gs =>
    rw [readPlainGroups?, if_neg (by simpa using groupsText_ne_nil g gs), splitOn_groupsText,
      mapM_readGroup? h]

/-- A text of groups breaks at the doubled colon that follows it. -/
theorem breakOn?_groupsText_append (gs : List Nat) (cs : List Char) :
    breakOn? [':', ':'] (groupsText gs ++ ':' :: ':' :: cs) = some (groupsText gs, cs) := by
  have h := breakOn?_joinWith_append
    (fun p (hp : p ∈ gs.map (digits 16)) => (groupParts_plain hp).1)
    (fun p hp => (groupParts_plain hp).2) (':' :: ':' :: cs)
  rw [breakOn?_double] at h
  simpa [groupsText] using h

/-! ## The zero run -/

/-- The zeros at the start of a list, and the rest of it. -/
theorem replicate_takeWhile_zero (l : List Nat) :
    List.replicate (l.takeWhile (· == 0)).length 0 ++ l.drop (l.takeWhile (· == 0)).length = l := by
  induction l with
  | nil => rfl
  | cons g gs ih =>
    by_cases hg : g = 0
    · simpa [hg, List.replicate_succ] using ih
    · simp [hg]

/-- The longest zero run lies inside the groups and consists of zeros. -/
theorem longestZeroRun_spec (gs : List Nat) :
    (longestZeroRun gs).1 + (longestZeroRun gs).2 ≤ gs.length ∧
      gs.take (longestZeroRun gs).1 ++ List.replicate (longestZeroRun gs).2 0 ++
        gs.drop ((longestZeroRun gs).1 + (longestZeroRun gs).2) = gs := by
  induction gs with
  | nil => simp [longestZeroRun]
  | cons g gs ih =>
    obtain ⟨hle, heq⟩ := ih
    rw [longestZeroRun]
    split
    · have hzeros := (List.takeWhile_prefix (· == 0) (l := g :: gs)).length_le
      simp only [List.take_zero, List.nil_append, Nat.zero_add]
      exact ⟨hzeros, replicate_takeWhile_zero (g :: gs)⟩
    · simp only [List.length_cons, List.take_succ_cons, List.cons_append,
        Nat.add_right_comm _ 1, List.drop_succ_cons, heq, and_true]
      omega

/-- The eight groups of an IPv6 text read back. -/
theorem readV6?_compressedText {gs : List Nat} (hlen : gs.length = 8)
    (h : ∀ g ∈ gs, g < 65536) : readV6? .strict (compressedText gs) = some gs := by
  obtain ⟨hle, heq⟩ := longestZeroRun_spec gs
  generalize hrun : longestZeroRun gs = run at hle heq
  obtain ⟨start, count⟩ := run
  simp only at hle heq
  simp only [compressedText, hrun]
  split
  · have hbreak := breakOn?_joinWith
      (fun p (hp : p ∈ gs.map (digits 16)) => (groupParts_plain hp).1)
      fun p hp => (groupParts_plain hp).2
    rw [readV6?, show breakOn? [':', ':'] (groupsText gs) = none from hbreak]
    simp [readGroups?_groupsText h, hlen]
  · next hcount =>
    have hfront : readPlainGroups? (groupsText (gs.take start)) = some (gs.take start) :=
      readPlainGroups?_groupsText fun g hg => h g (List.mem_of_mem_take hg)
    have hback : readGroups? .strict (groupsText (gs.drop (start + count))) =
        some (gs.drop (start + count)) :=
      readGroups?_groupsText fun g hg => h g (List.mem_of_mem_drop hg)
    have hfrontLen : (gs.take start).length = start := by simp; omega
    have hbackLen : (gs.drop (start + count)).length = 8 - (start + count) := by simp [hlen]
    have hzeros : 8 - start - (8 - (start + count)) = count := by omega
    rw [readV6?, List.append_assoc, List.cons_append, List.cons_append, List.nil_append,
      breakOn?_groupsText_append]
    simp only [hfront, hback, Option.bind_eq_bind, Option.bind_some, hfrontLen, hbackLen, hzeros]
    rw [if_pos (by omega), heq]
    rfl

/-- The text of an IPv4-mapped address reads back as its eight groups. -/
theorem readV6?_mapped (v : Nat) :
    readV6? .strict (mappedLead ++ octetsText v) =
      some (List.replicate 5 0 ++ [0xFFFF, v % 256 ^ 4 / 65536, v % 256 ^ 4 % 65536]) := by
  have hcolon : ':' ∉ octetsText v := fun hc => (mem_octetsText hc).1 rfl
  have hsplit : splitOn ':' (['f', 'f', 'f', 'f'] ++ ':' :: octetsText v) =
      [['f', 'f', 'f', 'f'], octetsText v] := by
    rw [splitOn_append (by decide), splitOn_of_not_mem hcolon]
  have hgroup : readGroup? (octetsText v) = none := by
    have hdot : '.' ∈ octetsText v := by
      obtain ⟨a, b, c, d, hos⟩ : ∃ a b c d, octets v = [a, b, c, d] := ⟨_, _, _, _, rfl⟩
      simp [octetsText, hos, joinWith]
    rw [readGroup?, read?_eq_none hdot (by decide)]
    split <;> rfl
  have hfirst : readGroup? ['f', 'f', 'f', 'f'] = some 0xFFFF := by decide
  have hback : readGroups? .strict (['f', 'f', 'f', 'f'] ++ ':' :: octetsText v) =
      some [0xFFFF, v % 256 ^ 4 / 65536, v % 256 ^ 4 % 65536] := by
    rw [readGroups?, if_neg (by simp), hsplit]
    simp only [readParts?, hfirst, hgroup, readTail?, readOctets?_octetsText, octets, value_words,
      Option.map_some, Option.bind_eq_bind, Option.bind_some]
    rfl
  have hbreak : breakOn? [':', ':'] (mappedLead ++ octetsText v) =
      some ([], ['f', 'f', 'f', 'f'] ++ ':' :: octetsText v) := breakOn?_double ':' _
  rw [readV6?, hbreak]
  simp only [hback, Option.bind_eq_bind, Option.bind_some]
  rfl

/-- **Texts of addresses.** The text of an address denotes the address. -/
theorem ofText?_text (a : IpAddress) : ofText? a.text = some a := by
  obtain ⟨f, v, hv⟩ := a
  rw [ofText?, text, String.toList_ofList]
  cases f with
  | v4 =>
    rw [chars, ofChars?_octetsText]
    exact congrArg some (ext rfl (Nat.mod_eq_of_lt hv))
  | v6 =>
    have hsize : Family.v6.size = 65536 ^ 8 := by decide
    simp only [chars]
    split
    · next hmapped =>
      have hv4 : Family.v4.size = 256 ^ 4 := by decide
      rw [hv4] at hmapped
      have hvalue : Numeral.value 65536 (List.replicate 5 0 ++
          [0xFFFF, v % 256 ^ 4 / 65536, v % 256 ^ 4 % 65536]) = v := by
        simp only [Numeral.value, List.replicate, List.foldl_cons, List.foldl_nil,
          List.cons_append, List.nil_append]
        omega
      rw [ofChars?, readOctets?_eq_none (by simp [mappedLead]), readV6?_mapped]
      refine congrArg some (ext rfl ?_)
      rw [value_ofValue, hvalue, Nat.mod_eq_of_lt hv]
    · have hlt : ∀ g ∈ groups v, g < 65536 := fun g hg => lt_of_mem_words (by decide) hg
      have hcolon : ':' ∈ compressedText (groups v) := by
        simp only [compressedText]
        split
        · obtain ⟨a, b, gs, hgs⟩ : ∃ a b gs, groups v = a :: b :: gs := ⟨_, _, _, rfl⟩
          rw [hgs]
          simp [groupsText, joinWith]
        · simp
      have hread : readV6? .strict (compressedText (groups v)) = some (groups v) :=
        readV6?_compressedText (length_words ..) hlt
      rw [ofChars?, readOctets?_eq_none hcolon, hread]
      refine congrArg some (ext rfl ?_)
      rw [value_ofValue, groups, value_words, Nat.pow_eq, ← hsize, Nat.mod_mod,
        Nat.mod_eq_of_lt hv]

/-- Addresses with the same text are the same. -/
theorem text_injective {a b : IpAddress} (h : a.text = b.text) : a = b := by
  have hab := ofText?_text a
  rw [h, ofText?_text b] at hab
  exact (Option.some.inj hab).symm

/-- There is nothing to trim from the text of an address. -/
@[simp] theorem trimmed_text (a : IpAddress) : trimmed a.text = a.text := by
  refine trimmed_of_no_blank fun c hc => ?_
  rw [text, String.toList_ofList] at hc
  exact isBlank_of_mem_chars hc

end Overlay.IpAddress
