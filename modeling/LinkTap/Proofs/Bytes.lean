/-
Words that are written and read again.

Writing keeps the lowest octets of a number, so what is read is the number modulo the size of the
word. Inside a longer byte string a word is read from its own octets, and of words that were laid
end to end each is found at its place.
-/
import LinkTap.Bytes

set_option autoImplicit false

namespace LinkTap.Bytes

@[simp] theorem length_ofNatLE (width n : Nat) : (ofNatLE width n).length = width := by
  induction width generalizing n with
  | zero => rfl
  | succ width ih => simp [ofNatLE, ih]

/-- A number that is spelled with `width` octets is read back as far as they go. -/
theorem littleEndian_ofNatLE (width n : Nat) :
    littleEndian (ofNatLE width n) = n % Nat.pow 256 width := by
  induction width generalizing n with
  | zero => simp [ofNatLE, littleEndian, Nat.mod_one]
  | succ width ih =>
    have hpow : Nat.pow 256 (width + 1) = 256 * Nat.pow 256 width := Nat.mul_comm _ _
    rw [ofNatLE, littleEndian, ih, hpow, Nat.mod_mul]
    simp

/-- Words of so many octets are no larger. -/
theorem littleEndian_lt (bs : Bytes) : bs.littleEndian < Nat.pow 256 bs.length := by
  induction bs with
  | nil => decide
  | cons b bs ih =>
    have hpow : Nat.pow 256 (bs.length + 1) = Nat.pow 256 bs.length * 256 := rfl
    have hb := b.toNat_lt
    rw [littleEndian, List.length_cons, hpow]
    omega

/-- An octet of a field is the octet at its place, as long as the byte string goes. -/
theorem getElem?_field (bs : Bytes) (start width i : Nat) :
    (bs.field start width)[i]? = if i < width then bs[start + i]? else none := by
  rw [field, List.getElem?_take, List.getElem?_drop]

/-- A field is a number that fits into its octets, also where it is cut off by the end. -/
theorem littleEndian_field_lt (bs : Bytes) (start width : Nat) :
    (bs.field start width).littleEndian < Nat.pow 256 width := by
  have hlength : (bs.field start width).length ≤ width := List.length_take_le _ _
  exact Nat.lt_of_lt_of_le (littleEndian_lt _) (Nat.pow_le_pow_right (by decide) hlength)

/-- Words are read without a loss: no field is too large for its type. -/
theorem toNat_le16 (bs : Bytes) (start : Nat) :
    (bs.le16 start).toNat = (bs.field start 2).littleEndian := by
  rw [le16, UInt16.toNat_ofNat']
  exact Nat.mod_eq_of_lt (littleEndian_field_lt bs start 2)

theorem toNat_le32 (bs : Bytes) (start : Nat) :
    (bs.le32 start).toNat = (bs.field start 4).littleEndian := by
  rw [le32, UInt32.toNat_ofNat']
  exact Nat.mod_eq_of_lt (littleEndian_field_lt bs start 4)

theorem toNat_le64 (bs : Bytes) (start : Nat) :
    (bs.le64 start).toNat = (bs.field start 8).littleEndian := by
  rw [le64, UInt64.toNat_ofNat']
  exact Nat.mod_eq_of_lt (littleEndian_field_lt bs start 8)

/-- A word that lies inside a byte string is read from its own octets. -/
theorem le32_of_field {bs : Bytes} {start n : Nat} (h : bs.field start 4 = ofNatLE 4 n) :
    bs.le32 start = UInt32.ofNat n := by
  apply UInt32.toNat_inj.mp
  rw [le32, h, littleEndian_ofNatLE]
  simp

theorem le16_of_field {bs : Bytes} {start n : Nat} (h : bs.field start 2 = ofNatLE 2 n) :
    bs.le16 start = UInt16.ofNat n := by
  apply UInt16.toNat_inj.mp
  rw [le16, h, littleEndian_ofNatLE]
  simp

/-- Words laid end to end. -/
def words (ns : List Nat) : Bytes := ns.flatMap (ofNatLE 4)

/-- A word is found among words laid end to end. -/
theorem le32_words {ns : List Nat} {i : Nat} (h : i < ns.length) :
    (words ns).le32 (4 * i) = UInt32.ofNat (ns.get ⟨i, h⟩) := by
  apply le32_of_field
  induction ns generalizing i with
  | nil => exact absurd h (Nat.not_lt_zero i)
  | cons n ns ih =>
    have hwords : words (n :: ns) = ofNatLE 4 n ++ words ns := rfl
    rw [hwords, field]
    cases i with
    | zero => exact List.take_left' (length_ofNatLE 4 n)
    | succ i =>
      -- The first word takes up four octets, and the others lie behind it.
      have hdrop : (ofNatLE 4 n ++ words ns).drop (4 * (i + 1)) = (words ns).drop (4 * i) := by
        rw [Nat.mul_succ, Nat.add_comm, ← List.drop_drop, List.drop_left' (length_ofNatLE 4 n)]
      rw [hdrop]
      exact ih (Nat.lt_of_succ_lt_succ h)

end LinkTap.Bytes
