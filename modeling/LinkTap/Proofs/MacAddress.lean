/-
How link-layer addresses are read and written.

The usual notation has six groups of one or two hexadecimal digits, with single colons between them.
A text is read by cutting it at its colons. A group has no colon, so the parts of a text that was
put together from groups are these groups again, and everything else is a matter of single groups.

A group is read by the reader of unsigned numerals, which knows numbers below a bound and not digits
by their count. So it takes zeros in front in any number, and a plus sign before them. The texts
that are read are therefore more than the usual ones. They are the usual ones exactly if no group
has more than two characters and none has a plus sign.

Writing gives every group two digits, which is enough for an octet, and small letters. Hence what is
written is read back, and a text of six groups with two digits each can only differ from what is
written again in the case of its letters.
-/
import Mathlib.Data.List.Forall2
import LinkTap.MacAddress
import LinkTap.Proofs.Refusal
import LinkTap.Proofs.Text.Hexadecimal

set_option autoImplicit false

namespace LinkTap

/-! ## Parts of a text -/

namespace Line

theorem splitOn_eq (sep : Char) (cs : List Char) : splitOn sep cs = cs.splitOn sep := by
  induction cs with
  | nil => rfl
  | cons c cs ih =>
    rw [splitOn, ih, List.splitOn, List.splitOn, List.splitOnP_cons_eq_if_modifyHead]
    by_cases hsep : c = sep
    · rw [if_pos hsep, if_pos (beq_iff_eq.mpr hsep)]
    · rw [if_neg hsep, if_neg (by rwa [beq_iff_eq])]
      cases hparts : List.splitOnP (· == sep) cs with
      | nil => exact absurd hparts (List.splitOnP_ne_nil _ _)
      | cons part parts => rfl

/-- The parts of a text, put together again. -/
theorem intercalate_splitOn (cs : List Char) : [':'].intercalate (splitOn ':' cs) = cs := by
  rw [splitOn_eq]
  exact List.intercalate_splitOn ':'

/-- A text can be put together from groups of which something holds exactly if it holds of the parts
of the text, given that it keeps colons out of the groups. -/
theorem exists_groups_iff {s : String} {P : List (List Char) → Prop}
    (hP : ∀ parts, P parts → parts ≠ [] ∧ ∀ part ∈ parts, ':' ∉ part) :
    (∃ groups : List String, s = String.intercalate ":" groups ∧ P (groups.map String.toList))
      ↔ P (splitOn ':' s.toList) := by
  constructor
  · rintro ⟨groups, rfl, hgroups⟩
    obtain ⟨hne, hcolon⟩ := hP _ hgroups
    rw [splitOn_eq, String.toList_intercalate]
    have hparts := List.splitOn_intercalate ':' hcolon hne
    rwa [← hparts] at hgroups
  · intro h
    have hlists : ((splitOn ':' s.toList).map String.ofList).map String.toList
        = splitOn ':' s.toList := by
      simp [Function.comp_def]
    refine ⟨(splitOn ':' s.toList).map String.ofList, ?_, ?_⟩
    · rw [← String.toList_inj, String.toList_intercalate, hlists]
      exact (intercalate_splitOn s.toList).symm
    · rwa [hlists]

theorem map_intercalate (f : Char → Char) (sep : Char) (parts : List (List Char)) :
    ([sep].intercalate parts).map f = [f sep].intercalate (parts.map (List.map f)) := by
  induction parts with
  | nil => rfl
  | cons part parts ih =>
    cases parts with
    | nil => simp
    | cons next parts =>
      rw [List.intercalate_cons_cons, List.map_append, List.map_append, ih]
      simp [List.intercalate_cons_cons]

end Line

namespace MacAddress

open Numeral

/-! ## Notations -/

/-- How an octet can be written for it to be read: digits that denote it, behind a plus sign or not.
-/
inductive Group : List Char → UInt8 → Prop where
  | plain {cs : List Char} {b : UInt8} : Hexadecimal cs b.toNat → Group cs b
  | plus {cs : List Char} {b : UInt8} : Hexadecimal cs b.toNat → Group ('+' :: cs) b

/-- The text is groups with single colons between them, and they are the octets of the address in
order. -/
def Spells (s : String) (m : MacAddress) : Prop :=
  ∃ groups : List String, s = String.intercalate ":" groups
    ∧ List.Forall₂ (fun group b => Group group.toList b) groups m.toBytes

/-- One or two hexadecimal digits and nothing else. -/
structure UsualGroup (cs : List Char) : Prop where
  length : cs.length = 1 ∨ cs.length = 2
  digits : ∀ c ∈ cs, ∃ d, HexDigit c d

/-- The usual notation: six such groups with single colons between them. -/
def Usual (s : String) : Prop :=
  ∃ groups : List String, s = String.intercalate ":" groups ∧ groups.length = 6
    ∧ ∀ group ∈ groups, UsualGroup group.toList

variable {s : String} {m : MacAddress} {part : List Char} {b : UInt8}

/-! ## Groups -/

theorem Group.not_colon (h : Group part b) : ':' ∉ part := by
  have hdigits : ∀ {cs : List Char} {n : Nat}, Hexadecimal cs n → ':' ∉ cs := by
    intro cs n hcs hcolon
    obtain ⟨d, hd⟩ := hcs.isDigit ':' hcolon
    exact not_hexDigit_colon d hd
  cases h with
  | plain hcs => exact hdigits hcs
  | plus hcs =>
    rintro (_ | ⟨_, hcolon⟩)
    exact hdigits hcs hcolon

theorem parseOctet_eq_ok_iff : parseOctet part = .ok b ↔ Group part b := by
  have hgroup : Group part b ↔ unsigned? 16 256 part = some b.toNat := by
    rw [unsigned?_hex_eq_some_iff]
    constructor
    · intro h
      refine ⟨?_, b.toNat_lt⟩
      cases h with
      | plain hcs => exact .inl hcs
      | plus hcs => exact .inr ⟨_, rfl, hcs⟩
    · rintro ⟨hcs | ⟨digits, rfl, hcs⟩, -⟩
      · exact .plain hcs
      · exact .plus hcs
  rw [hgroup, parseOctet]
  cases hread : unsigned? 16 256 part with
  | none => simp
  | some n =>
    have hlt : n < 256 := (unsigned?_hex_eq_some_iff.mp hread).2
    rw [Except.ok.injEq, Option.some.injEq]
    constructor
    · rintro rfl
      exact (UInt8.toNat_ofNat_of_lt' hlt).symm
    · rintro rfl
      exact UInt8.ofNat_toNat

/-- Whatever keeps a text from being read is reported as a malformed address. -/
def Malforms {α : Type} (x : Except Error α) : Prop :=
  ∀ e, x = .error e → ∃ reason, e = malformed reason

theorem malforms_parseOctet (part : List Char) : Malforms (parseOctet part) := by
  intro e h
  unfold parseOctet at h
  split at h
  · cases h
  · exact ⟨_, (Except.error.inj h).symm⟩

theorem Malforms.bind {α β : Type} {x : Except Error α} {f : α → Except Error β} (hx : Malforms x)
    (hf : ∀ a, Malforms (f a)) : Malforms (x >>= f) := by
  cases x with
  | error e => exact fun e' h => hx e' (by cases h; rfl)
  | ok a => exact hf a

/-! ## Reading -/

theorem length_toBytes (m : MacAddress) : m.toBytes.length = 6 := Vector.length_toList

theorem toBytes_inj {m' : MacAddress} (h : m.toBytes = m'.toBytes) : m = m' := by
  cases m
  cases m'
  exact congrArg _ (Vector.toList_inj.mp h)

/-- Six octets make an address. -/
theorem exists_toBytes {bs : Bytes} (h : bs.length = 6) : ∃ m : MacAddress, m.toBytes = bs :=
  ⟨⟨⟨bs.toArray, h⟩⟩, rfl⟩

/-- A text is read part by part. -/
theorem parse_eq_ok_iff_parts :
    parse s = .ok m ↔ List.Forall₂ Group (Line.splitOn ':' s.toList) m.toBytes := by
  unfold parse
  split
  · rename_i a b c d e f hparts
    rw [hparts]
    simp only [bind_eq_ok_iff, parseOctet_eq_ok_iff]
    constructor
    · rintro ⟨a', ha, b', hb, c', hc, d', hd, e', he, f', hf, hm⟩
      cases hm
      exact .cons ha (.cons hb (.cons hc (.cons hd (.cons he (.cons hf .nil)))))
    · intro h
      generalize hbytes : m.toBytes = bs at h
      cases h with | cons ha h
      cases h with | cons hb h
      cases h with | cons hc h
      cases h with | cons hd h
      cases h with | cons he h
      cases h with | cons hf h
      cases h
      refine ⟨_, ha, _, hb, _, hc, _, hd, _, he, _, hf, ?_⟩
      exact congrArg Except.ok (toBytes_inj hbytes.symm)
  · rename_i hshape
    constructor
    · intro h
      cases h
    · intro h
      have hlength := h.length_eq
      rw [length_toBytes] at hlength
      generalize Line.splitOn ':' s.toList = parts at hshape hlength
      match parts, hlength with
      | [a, b, c, d, e, f], _ => exact absurd rfl (hshape a b c d e f)

theorem malforms_parse (s : String) : Malforms (parse s) := by
  unfold parse
  split
  · -- The groups are read in turn, and the first one that cannot be is reported.
    refine .bind (malforms_parseOctet _) fun _ => ?_
    refine .bind (malforms_parseOctet _) fun _ => ?_
    refine .bind (malforms_parseOctet _) fun _ => ?_
    refine .bind (malforms_parseOctet _) fun _ => ?_
    refine .bind (malforms_parseOctet _) fun _ => ?_
    refine .bind (malforms_parseOctet _) fun _ => ?_
    intro e h
    cases h
  · intro e h
    exact ⟨_, (Except.error.inj h).symm⟩

theorem exists_forall₂_iff {α β : Type} {R : α → β → Prop} {as : List α} :
    (∃ bs, List.Forall₂ R as bs) ↔ ∀ a ∈ as, ∃ b, R a b := by
  constructor
  · rintro ⟨bs, h⟩
    have hboth := h.imp fun a b hab => (⟨⟨b, hab⟩, hab⟩ : (∃ b, R a b) ∧ R a b)
    exact ((List.forall₂_and_left _ _).mp hboth).1
  · intro h
    induction as with
    | nil => exact ⟨[], .nil⟩
    | cons a as ih =>
      obtain ⟨b, hb⟩ := h a (List.mem_cons_self ..)
      obtain ⟨bs, hbs⟩ := ih fun a' ha' => h a' (List.mem_cons_of_mem a ha')
      exact ⟨b :: bs, .cons hb hbs⟩

/-- Groups that can be read have no colon, so they are the parts of the text. -/
theorem spells_iff_parts :
    Spells s m ↔ List.Forall₂ Group (Line.splitOn ':' s.toList) m.toBytes := by
  have hgroups := Line.exists_groups_iff (s := s)
      (P := fun parts => List.Forall₂ Group parts m.toBytes) ?_
  · rw [← hgroups]
    simp only [List.forall₂_map_left_iff]
    exact Iff.rfl
  · intro parts h
    refine ⟨?_, ?_⟩
    · rintro rfl
      have hlength := h.length_eq
      rw [length_toBytes] at hlength
      cases hlength
    · intro part hpart
      obtain ⟨b, hb⟩ := exists_forall₂_iff.mp ⟨_, h⟩ part hpart
      exact hb.not_colon

theorem parse_eq_ok_iff : parse s = .ok m ↔ Spells s m :=
  parse_eq_ok_iff_parts.trans spells_iff_parts.symm

/-! ## The usual notation -/

theorem UsualGroup.exists_octet {cs : List Char} (h : UsualGroup cs) :
    ∃ b : UInt8, Hexadecimal cs b.toNat := by
  have hoctet : ∀ n, n < 256 → Hexadecimal cs n → ∃ b : UInt8, Hexadecimal cs b.toNat := by
    intro n hn hcs
    refine ⟨UInt8.ofNat n, ?_⟩
    rwa [UInt8.toNat_ofNat_of_lt' hn]
  match cs, h.length with
  | [c], _ =>
    obtain ⟨d, hd⟩ := h.digits c (List.mem_singleton.mpr rfl)
    have hlt := hd.written.1
    exact hoctet d (by omega) (.digit hd)
  | [c, c'], _ =>
    obtain ⟨d, hd⟩ := h.digits c (by simp)
    obtain ⟨d', hd'⟩ := h.digits c' (by simp)
    have hlt := hd.written.1
    have hlt' := hd'.written.1
    exact hoctet (16 * d + d') (by omega) (.append (.digit hd) hd')

theorem UsualGroup.not_mem {cs : List Char} (h : UsualGroup cs) : '+' ∉ cs ∧ ':' ∉ cs := by
  refine ⟨?_, ?_⟩
  · intro hplus
    obtain ⟨d, hd⟩ := h.digits '+' hplus
    exact not_hexDigit_plus d hd
  · intro hcolon
    obtain ⟨d, hd⟩ := h.digits ':' hcolon
    exact not_hexDigit_colon d hd

/-- What can be read is a usual group if it is short and has no plus sign. -/
theorem Group.usual (h : Group part b) (hlength : part.length ≤ 2) (hplus : '+' ∉ part) :
    UsualGroup part := by
  cases h with
  | plain hcs =>
    have hpos := List.length_pos_iff.mpr hcs.ne_nil
    exact ⟨by omega, hcs.isDigit⟩
  | plus hcs => exact absurd (List.mem_cons_self ..) hplus

theorem usual_iff_parts :
    Usual s ↔ (Line.splitOn ':' s.toList).length = 6
      ∧ ∀ part ∈ Line.splitOn ':' s.toList, UsualGroup part := by
  have hgroups := Line.exists_groups_iff (s := s)
    (P := fun parts => parts.length = 6 ∧ ∀ part ∈ parts, UsualGroup part) ?_
  · rw [← hgroups]
    simp only [List.length_map, List.forall_mem_map]
    exact Iff.rfl
  · rintro parts ⟨hlength, hparts⟩
    refine ⟨?_, fun part hpart => (hparts part hpart).not_mem.2⟩
    rintro rfl
    cases hlength

/-- The usual notation is what is read, but for long groups and plus signs. -/
theorem usual_iff :
    Usual s ↔ (∃ m, parse s = .ok m) ∧ ∀ part ∈ Line.splitOn ':' s.toList, part.length ≤ 2
        ∧ '+' ∉ part := by
  rw [usual_iff_parts]
  constructor
  · rintro ⟨hlength, hparts⟩
    refine ⟨?_, ?_⟩
    · obtain ⟨bs, hbs⟩ := exists_forall₂_iff.mpr fun part hpart => (hparts part hpart).exists_octet
      obtain ⟨m, hm⟩ := exists_toBytes (hbs.length_eq.symm.trans hlength)
      refine ⟨m, parse_eq_ok_iff_parts.mpr ?_⟩
      rw [hm]
      exact hbs.imp fun part b hb => .plain hb
    · intro part hpart
      have hgroup := hparts part hpart
      rcases hgroup.length with hone | htwo
      · exact ⟨by omega, hgroup.not_mem.1⟩
      · exact ⟨by omega, hgroup.not_mem.1⟩
  · rintro ⟨⟨m, hm⟩, hparts⟩
    have hgroups := parse_eq_ok_iff_parts.mp hm
    refine ⟨hgroups.length_eq.trans (length_toBytes m), ?_⟩
    intro part hpart
    obtain ⟨b, hb⟩ := exists_forall₂_iff.mp ⟨_, hgroups⟩ part hpart
    obtain ⟨hlength, hplus⟩ := hparts part hpart
    exact hb.usual hlength hplus

/-- **Exactly the texts that spell an address are read.** A text is read as an address if and only
if it consists of six groups with single colons between them, each of them hexadecimal digits that
denote the octet at its place, behind a plus sign or not. Every other text is refused as a malformed
setting of that name. The usual notation, with one or two digits a group and nothing else, is read
in full, and it is all that is read as long as no group has more than two characters and none has a
plus sign. -/
theorem parse_reads_spellings (s : String) :
    (∀ m, parse s = .ok m ↔ Spells s m)
      ∧ ((∀ m, ¬ Spells s m) → ∃ reason, parse s = .error (.invalidConfig "mac_address" reason))
      ∧ (Usual s
          ↔ (∃ m, parse s = .ok m)
            ∧ ∀ part ∈ Line.splitOn ':' s.toList, part.length ≤ 2 ∧ '+' ∉ part) := by
  refine ⟨fun m => parse_eq_ok_iff, ?_, usual_iff⟩
  intro hnone
  cases hparse : parse s with
  | ok m => exact absurd (parse_eq_ok_iff.mp hparse) (hnone m)
  | error e =>
    obtain ⟨reason, rfl⟩ := malforms_parse s e hparse
    exact ⟨reason, rfl⟩

/-- A usual text with groups of either length and letters of either case is read. -/
theorem parse_reads_spellings_mixed :
    ∃ m, parse "0:1a:2B:c:D:ff" = .ok m ∧ Spells "0:1a:2B:c:D:ff" m ∧ Usual "0:1a:2B:c:D:ff" := by
  obtain ⟨hreads, -, husual⟩ := parse_reads_spellings "0:1a:2B:c:D:ff"
  have hparse : ∃ m, parse "0:1a:2B:c:D:ff" = .ok m := ⟨_, rfl⟩
  obtain ⟨m, hm⟩ := hparse
  exact ⟨m, hm, (hreads m).mp hm, husual.mpr ⟨⟨m, hm⟩, by decide⟩⟩

/-- A plus sign and a third digit are read, although neither belongs to the usual notation. -/
theorem signed_and_long_groups_read :
    ((∃ m, parse "+f:+0:+1:2:3:4" = .ok m) ∧ ¬ Usual "+f:+0:+1:2:3:4")
      ∧ (∃ m, parse "0ff:1:2:3:4:5" = .ok m) ∧ ¬ Usual "0ff:1:2:3:4:5" := by
  refine ⟨⟨⟨_, rfl⟩, ?_⟩, ⟨_, rfl⟩, ?_⟩
  · intro h
    have hplus := ((usual_iff.mp h).2 "+f".toList (by decide)).2
    exact hplus (by decide)
  · intro h
    have hlength := ((usual_iff.mp h).2 "0ff".toList (by decide)).1
    exact absurd hlength (by decide)

/-! ## Writing -/

theorem toList_text (m : MacAddress) :
    (text m).toList = [':'].intercalate (m.toBytes.map fun b => hexDigits 2 b.toNat) := by
  rw [text, String.toList_intercalate, List.map_map]
  congr 1
  apply List.map_congr_left
  intro b hb
  exact String.toList_ofList

/-- Two digits are enough for an octet. -/
theorem hexadecimal_octet (b : UInt8) : Hexadecimal (hexDigits 2 b.toNat) b.toNat := by
  have hdigits := hexadecimal_hexDigits 1 b.toNat
  rwa [Nat.mod_eq_of_lt (show b.toNat < Nat.pow 16 (1 + 1) from b.toNat_lt)] at hdigits

theorem spells_text (m : MacAddress) : Spells (text m) m := by
  refine ⟨_, rfl, ?_⟩
  rw [List.forall₂_map_left_iff, List.forall₂_same]
  intro b hb
  rw [hexPadded, String.toList_ofList]
  exact .plain (hexadecimal_octet b)

/-- Seventeen characters: two for each of six groups, and the five colons between them. -/
theorem length_text (m : MacAddress) : (text m).length = 17 := by
  rw [← String.length_toList, toList_text]
  match m.toBytes, length_toBytes m with
  | [a, b, c, d, e, f], _ => simp [List.intercalate_cons_cons]

/-- Two digits, read and written again, have small letters. -/
theorem hexDigits_of_group (h : Group part b) (hlength : part.length = 2)
    (hdigits : ∀ c ∈ part, ∃ d, HexDigit c d) : hexDigits 2 b.toNat = part.map Char.toLower := by
  match part, hlength with
  | [c, c'], _ =>
    obtain ⟨d, hd⟩ := hdigits c (by simp)
    obtain ⟨d', hd'⟩ := hdigits c' (by simp)
    have hvalue : b.toNat = 16 * d + d' := by
      cases h with
      | plain hcs => exact hcs.unique (.append (.digit hd) hd')
      | plus hcs => exact absurd hd (not_hexDigit_plus d)
    obtain ⟨hlt, hwritten⟩ := hd.written
    obtain ⟨hlt', hwritten'⟩ := hd'.written
    show [hexDigit (b.toNat / 16 % 16), hexDigit (b.toNat % 16)] = [c.toLower, c'.toLower]
    rw [show b.toNat / 16 % 16 = d by omega, show b.toNat % 16 = d' by omega, hwritten, hwritten']

/-- Written again, a text of six groups with two digits each has small letters. -/
theorem text_of_spells (h : Spells s m)
    (hparts : ∀ part ∈ Line.splitOn ':' s.toList, part.length = 2 ∧ ∀ c ∈ part, ∃ d, HexDigit c d) :
    text m = Line.toLower s := by
  have hgroups : List.Forall₂ (fun part b => part.map Char.toLower = hexDigits 2 b.toNat)
      (Line.splitOn ':' s.toList) m.toBytes := by
    have hboth := (List.forall₂_and_left _ _).mpr ⟨hparts, spells_iff_parts.mp h⟩
    exact hboth.imp fun part b hpart => (hexDigits_of_group hpart.2 hpart.1.1 hpart.1.2).symm
  have hlower : (Line.splitOn ':' s.toList).map (List.map Char.toLower)
      = m.toBytes.map fun b => hexDigits 2 b.toNat := by
    rw [← List.forall₂_eq_eq_eq, List.forall₂_map_left_iff, List.forall₂_map_right_iff]
    exact hgroups
  -- A colon has no case, so lowering the text lowers its parts.
  have hlowered : ([':'].intercalate (Line.splitOn ':' s.toList)).map Char.toLower
      = [':'].intercalate ((Line.splitOn ':' s.toList).map (List.map Char.toLower)) :=
    Line.map_intercalate Char.toLower ':' _
  rw [Line.intercalate_splitOn] at hlowered
  rw [← String.toList_inj, toList_text, Line.toLower, String.toList_ofList, ← hlower]
  exact hlowered.symm

/-- **What is written is read back.** Every address is read back from its text, so different
addresses have different texts, and all of these have seventeen characters. For every text that is
read, writing the address and reading and writing it again gives the same text; and if each part of
the text between its colons is two hexadecimal digits, the text in lower case is what is written. -/
theorem text_read_back :
    (∀ m, parse (text m) = .ok m) ∧ Function.Injective text ∧ (∀ m, (text m).length = 17)
      ∧ ∀ s m, parse s = .ok m →
          (∃ m', parse (text m) = .ok m' ∧ text m' = text m)
            ∧ ((∀ part ∈ Line.splitOn ':' s.toList, part.length = 2
                ∧ ∀ c ∈ part, ∃ d, HexDigit c d) →
              text m = Line.toLower s) := by
  have hread : ∀ m, parse (text m) = .ok m := fun m => parse_eq_ok_iff.mpr (spells_text m)
  refine ⟨hread, ?_, length_text, ?_⟩
  · intro m m' htext
    have hsame := hread m
    rw [htext, hread m'] at hsame
    exact (Except.ok.inj hsame).symm
  · intro s m hs
    exact ⟨⟨m, hread m, rfl⟩, text_of_spells (parse_eq_ok_iff.mp hs)⟩

/-- A text in mixed case is read, and written again in lower case. -/
theorem text_read_back_mixedCase :
    ∃ m, parse "00:1a:2B:3c:4D:5E" = .ok m ∧ text m = Line.toLower "00:1a:2B:3c:4D:5E" := by
  have hparse : ∃ m, parse "00:1a:2B:3c:4D:5E" = .ok m := ⟨_, rfl⟩
  obtain ⟨m, hm⟩ := hparse
  obtain ⟨-, -, -, hwritten⟩ := text_read_back
  refine ⟨m, hm, (hwritten _ m hm).2 ?_⟩
  have hparts : ((Line.splitOn ':' "00:1a:2B:3c:4D:5E".toList).all fun part =>
      part.length == 2 && part.all fun c => (digitValue? 16 c).isSome) = true := by decide
  simp only [List.all_eq_true, Bool.and_eq_true, beq_iff_eq, Option.isSome_iff_exists,
    digitValue?_hex_iff] at hparts
  exact hparts

end MacAddress

end LinkTap
