/-
Headers are rows of fields that lie apart.

A decoded header has a value for each of its fields, and each value is read from octets of its own.
Where the fields lie and how wide they are is put down here in a table for either header. That the
decoders keep to the table is one fact for each field; that no two fields overlap is a fact about
the table alone. The rest follows for any header that is laid out in such a way: a field can be
overwritten without a trace in the others, and octets that belong to no field can be overwritten
without any trace.

A field that is read at a wrong place, or with a wrong width, shows in the values of its neighbours,
but only in some of them. So the law is about all values of all fields.
-/
import LinkTap.Proofs.Bytes
import LinkTap.Ring.Layout

set_option autoImplicit false

namespace LinkTap

/-! ## Overwriting -/

namespace Bytes

variable {bs data : Bytes} {start width place : Nat}

/-- A byte string with `data` in place of the octets that begin at `start`. -/
def overwrite (bs : Bytes) (start : Nat) (data : Bytes) : Bytes :=
  bs.take start ++ data ++ bs.drop (start + data.length)

/-- Each octet of an overwritten string is either one of the data or the old one. -/
theorem getElem?_overwrite (h : start + data.length ≤ bs.length) (i : Nat) :
    (bs.overwrite start data)[i]? =
      if start ≤ i ∧ i < start + data.length then data[i - start]? else bs[i]? := by
  -- Without the bound the new octets would move to the front.
  have hstart : (bs.take start).length = start := List.length_take_of_le (by omega)
  rw [overwrite, List.append_assoc, List.getElem?_append, hstart, List.getElem?_append]
  by_cases hbefore : i < start
  · rw [if_pos hbefore, if_neg (by omega), List.getElem?_take_of_lt hbefore]
  by_cases hin : i < start + data.length
  · rw [if_neg hbefore, if_pos (by omega), if_pos (by omega)]
  · rw [if_neg hbefore, if_neg (by omega), if_neg (by omega), List.getElem?_drop]
    congr 1
    omega

/-- Byte strings that agree on the octets of a field have the same field. -/
theorem field_congr {bs' : Bytes} (h : ∀ i < width, bs[start + i]? = bs'[start + i]?) :
    bs.field start width = bs'.field start width := by
  apply List.ext_getElem?
  intro i
  rw [getElem?_field, getElem?_field]
  by_cases hi : i < width
  · rw [if_pos hi, if_pos hi, h i hi]
  · rw [if_neg hi, if_neg hi]

/-- The octets that were written are there. -/
theorem field_overwrite (h : start + data.length ≤ bs.length) :
    (bs.overwrite start data).field start data.length = data := by
  apply List.ext_getElem?
  intro i
  rw [getElem?_field, getElem?_overwrite h]
  by_cases hi : i < data.length
  · rw [if_pos hi, if_pos (by omega), Nat.add_sub_cancel_left]
  · rw [if_neg hi, List.getElem?_eq_none (Nat.not_lt.mp hi)]

/-- A field apart from the octets that were written is as it was. -/
theorem field_overwrite_of_apart (h : start + data.length ≤ bs.length)
    (hapart : place + width ≤ start ∨ start + data.length ≤ place) :
    (bs.overwrite start data).field place width = bs.field place width := by
  apply field_congr
  intro i hi
  rw [getElem?_overwrite h, if_neg (by omega)]

theorem field_set_of_apart {octet : UInt8} (hapart : place < start ∨ start + width ≤ place) :
    Bytes.field (bs.set place octet) start width = bs.field start width := by
  apply field_congr
  intro i hi
  rw [List.getElem?_set_ne (by omega)]

end Bytes

namespace Ring

/-! ## Layouts -/

/-- How a header `H` with fields `F` is laid out in octets. -/
structure Layout (H F : Type) where
  /-- The number of octets that a header takes up. -/
  size : Nat
  decode : Bytes → H
  offset : F → Nat
  width : F → Nat
  /-- What a decoded header has for a field. -/
  value : H → F → Nat

variable {H F : Type}

/-- A decoder keeps to its layout: it reads every field from the octets of this field, least
significant one first, fields lie apart and inside the header, and there is nothing more to a
decoded header than its fields. -/
structure Layout.Lawful (l : Layout H F) : Prop where
  reads : ∀ bs f, l.value (l.decode bs) f = (bs.field (l.offset f) (l.width f)).littleEndian
  inside : ∀ f, l.offset f + l.width f ≤ l.size
  apart : ∀ f g, f ≠ g → l.offset f + l.width f ≤ l.offset g ∨ l.offset g + l.width g ≤ l.offset f
  ext : ∀ h h', (∀ f, l.value h f = l.value h' f) → h = h'

/-- The fields of a header do not depend on one another. -/
structure Layout.Independent (l : Layout H F) : Prop where
  /-- A field that is overwritten is decoded to the new value, and every other field to its old one.
  -/
  overwrite : ∀ (bs : Bytes) (f : F) (v : Nat), bs.length = l.size → v < Nat.pow 256 (l.width f) →
    let h := l.decode (bs.overwrite (l.offset f) (Bytes.ofNatLE (l.width f) v))
    l.value h f = v ∧ ∀ g, g ≠ f → l.value h g = l.value (l.decode bs) g
  /-- An octet of no field makes no difference. -/
  outside : ∀ (bs : Bytes) (place : Nat) (octet : UInt8), bs.length = l.size →
    (∀ f, place < l.offset f ∨ l.offset f + l.width f ≤ place) →
    l.decode (bs.set place octet) = l.decode bs

/-- Lawful layouts are independent: a field that is read from its own octets, apart from all others,
cannot tell what is done to them. -/
theorem Layout.Lawful.independent {l : Layout H F} (h : l.Lawful) : l.Independent := by
  constructor
  · intro bs f v hlength hv
    have hwidth : (Bytes.ofNatLE (l.width f) v).length = l.width f := Bytes.length_ofNatLE _ _
    -- A field at the end of the header may not make the octets longer.
    have hfits : l.offset f + (Bytes.ofNatLE (l.width f) v).length ≤ bs.length := by
      rw [hwidth, hlength]
      exact h.inside f
    dsimp only
    constructor
    · have hfield := Bytes.field_overwrite hfits
      rw [hwidth] at hfield
      rw [h.reads, hfield, Bytes.littleEndian_ofNatLE, Nat.mod_eq_of_lt hv]
    · -- The octets of another field are none of those that were overwritten.
      intro g hne
      have hapart := h.apart g f hne
      rw [h.reads, h.reads, Bytes.field_overwrite_of_apart hfits (by rwa [hwidth])]
  · intro bs place octet _ hplace
    apply h.ext
    intro f
    rw [h.reads, h.reads, Bytes.field_set_of_apart (hplace f)]

/-! ## Block descriptors -/

namespace BlockHeader

/-- The fields of a block descriptor, without its unused octets. -/
inductive Field where
  | version
  | status
  | packetCount
  | firstOffset
  | usedLength
  | sequence
  deriving DecidableEq, Repr

def Field.offset : Field → Nat
  | version => 0
  | status => 8
  | packetCount => 12
  | firstOffset => 16
  | usedLength => 20
  | sequence => 24

/-- The sequence number has 64 bits, and all others have 32. -/
def Field.width : Field → Nat
  | sequence => 8
  | _ => 4

def value (h : BlockHeader) : Field → Nat
  | .version => h.version.toNat
  | .status => h.status.toNat
  | .packetCount => h.packetCount.toNat
  | .firstOffset => h.firstOffset.toNat
  | .usedLength => h.usedLength.toNat
  | .sequence => h.sequence.toNat

/-- A block descriptor as a layout. -/
def layout : Layout BlockHeader Field :=
  { size := blockHeaderLength, decode := ofBytes, offset := Field.offset,
    width := Field.width, value }

/-- Each field is read from its own octets. There are few enough fields to look at all pairs. -/
theorem lawful_layout : layout.Lawful where
  reads := by
    intro bs f
    cases f with
    | sequence => exact Bytes.toNat_le64 bs _
    | _ => exact Bytes.toNat_le32 bs _
  inside := by
    intro f
    cases f <;> decide
  apart := by
    intro f g hne
    cases f <;> cases g <;> first | exact absurd rfl hne | decide
  ext := by
    intro h h' hvalue
    cases h
    cases h'
    rw [mk.injEq]
    exact ⟨UInt32.toNat_inj.mp (hvalue .version), UInt32.toNat_inj.mp (hvalue .status),
      UInt32.toNat_inj.mp (hvalue .packetCount), UInt32.toNat_inj.mp (hvalue .firstOffset),
      UInt32.toNat_inj.mp (hvalue .usedLength), UInt64.toNat_inj.mp (hvalue .sequence)⟩

end BlockHeader

/-! ## Record headers -/

namespace RecordHeader

/-- The fields of a record header, without its unused octets. -/
inductive Field where
  | nextOffset
  | seconds
  | nanos
  | snapLength
  | wireLength
  | status
  | macOffset
  | netOffset
  deriving DecidableEq, Repr

def Field.offset : Field → Nat
  | nextOffset => 0
  | seconds => 4
  | nanos => 8
  | snapLength => 12
  | wireLength => 16
  | status => 20
  | macOffset => 24
  | netOffset => 26

/-- The positions of the two headers have 16 bits, and all others have 32. -/
def Field.width : Field → Nat
  | macOffset => 2
  | netOffset => 2
  | _ => 4

def value (h : RecordHeader) : Field → Nat
  | .nextOffset => h.nextOffset.toNat
  | .seconds => h.seconds.toNat
  | .nanos => h.nanos.toNat
  | .snapLength => h.snapLength.toNat
  | .wireLength => h.wireLength.toNat
  | .status => h.status.toNat
  | .macOffset => h.macOffset.toNat
  | .netOffset => h.netOffset.toNat

/-- A record header as a layout. -/
def layout : Layout RecordHeader Field :=
  { size := recordHeaderLength, decode := ofBytes, offset := Field.offset,
    width := Field.width, value }

theorem lawful_layout : layout.Lawful where
  reads := by
    intro bs f
    cases f with
    | macOffset | netOffset => exact Bytes.toNat_le16 bs _
    | _ => exact Bytes.toNat_le32 bs _
  inside := by
    intro f
    cases f <;> decide
  apart := by
    intro f g hne
    cases f <;> cases g <;> first | exact absurd rfl hne | decide
  ext := by
    intro h h' hvalue
    cases h
    cases h'
    rw [mk.injEq]
    exact ⟨UInt32.toNat_inj.mp (hvalue .nextOffset), UInt32.toNat_inj.mp (hvalue .seconds),
      UInt32.toNat_inj.mp (hvalue .nanos), UInt32.toNat_inj.mp (hvalue .snapLength),
      UInt32.toNat_inj.mp (hvalue .wireLength), UInt32.toNat_inj.mp (hvalue .status),
      UInt16.toNat_inj.mp (hvalue .macOffset), UInt16.toNat_inj.mp (hvalue .netOffset)⟩

end RecordHeader

/-! ## Both headers -/

/-- **The fields of a header do not depend on one another.** Take any 48 octets. Whatever value of
its width a field of a block descriptor is overwritten with, at its place and least significant
octet first, this value is decoded for it, and every other field is decoded to what it was. An octet
that belongs to no field can be overwritten with any other, and the same descriptor is decoded. Both
hold of a record header as well. -/
theorem header_fields_independent (bs : Bytes) (hlength : bs.length = 48) :
    (∀ (f : BlockHeader.Field) (v : Nat), v < Nat.pow 256 f.width →
        let h := BlockHeader.ofBytes (bs.overwrite f.offset (Bytes.ofNatLE f.width v))
        h.value f = v ∧ ∀ g, g ≠ f → h.value g = (BlockHeader.ofBytes bs).value g)
      ∧ (∀ (place : Nat) (octet : UInt8),
          (∀ f : BlockHeader.Field, place < f.offset ∨ f.offset + f.width ≤ place) →
          BlockHeader.ofBytes (bs.set place octet) = BlockHeader.ofBytes bs)
      ∧ (∀ (f : RecordHeader.Field) (v : Nat), v < Nat.pow 256 f.width →
          let h := RecordHeader.ofBytes (bs.overwrite f.offset (Bytes.ofNatLE f.width v))
          h.value f = v ∧ ∀ g, g ≠ f → h.value g = (RecordHeader.ofBytes bs).value g)
      ∧ (∀ (place : Nat) (octet : UInt8),
          (∀ f : RecordHeader.Field, place < f.offset ∨ f.offset + f.width ≤ place) →
          RecordHeader.ofBytes (bs.set place octet) = RecordHeader.ofBytes bs) := by
  have hblock := BlockHeader.lawful_layout.independent
  have hrecord := RecordHeader.lawful_layout.independent
  exact ⟨fun f v => hblock.overwrite bs f v hlength,
    fun place octet => hblock.outside bs place octet hlength,
    fun f v => hrecord.overwrite bs f v hlength,
    fun place octet => hrecord.outside bs place octet hlength⟩

/-- Two 16-bit fields side by side, in a header with all bits set. -/
theorem header_fields_independent_positions :
    let bs : Bytes := List.replicate 48 255
    let h := RecordHeader.ofBytes (bs.overwrite 24 [66, 0])
    bs.length = 48 ∧ h.value .macOffset = 66 ∧ h.value .netOffset = 65535
      ∧ h.value .status = 4294967295
      ∧ RecordHeader.ofBytes (bs.set 28 0) = RecordHeader.ofBytes bs := by
  intro bs h
  have hlength : bs.length = 48 := rfl
  obtain ⟨-, -, hfield, houtside⟩ := header_fields_independent bs hlength
  obtain ⟨hmac, hother⟩ := hfield .macOffset 66 (by decide)
  refine ⟨hlength, hmac, ?_, ?_, ?_⟩
  · exact (hother .netOffset (by decide)).trans (by decide)
  · exact (hother .status (by decide)).trans (by decide)
  · refine houtside 28 0 ?_
    intro f
    cases f <;> decide

end Ring

end LinkTap
