/-
What hexadecimal numerals denote.

A numeral is one digit, or a numeral with one more digit behind it. In the second case the digit
adds its value and what stands before it counts sixteen times. Letters may have either case. The
reader goes from the front and carries the number so far along, so it meets the digits in the order
in which a numeral is built up, and reads exactly the numerals and each as what it denotes. In front
of the digits it also takes one plus sign, which no digit can be mistaken for.

The writer uses small letters and as many digits as it is told. It denotes the number with
everything beyond that width cut off, so a number that fits is read back.
-/
import Mathlib.Data.List.Induction
import LinkTap.Text.Numeral

set_option autoImplicit false

namespace LinkTap.Numeral

/-! ## Numerals -/

/-- A hexadecimal digit and its value. -/
inductive HexDigit : Char → Nat → Prop where
  | decimal {c : Char} : '0' ≤ c → c ≤ '9' → HexDigit c (c.toNat - '0'.toNat)
  | small {c : Char} : 'a' ≤ c → c ≤ 'f' → HexDigit c (c.toNat - 'a'.toNat + 10)
  | capital {c : Char} : 'A' ≤ c → c ≤ 'F' → HexDigit c (c.toNat - 'A'.toNat + 10)

/-- Hexadecimal digits, at least one, and the number that they denote, most significant first. -/
inductive Hexadecimal : List Char → Nat → Prop where
  | digit {c : Char} {n : Nat} : HexDigit c n → Hexadecimal [c] n
  | append {cs : List Char} {c : Char} {m n : Nat} :
      Hexadecimal cs m → HexDigit c n → Hexadecimal (cs ++ [c]) (16 * m + n)

variable {base acc n : Nat} {c : Char} {cs : List Char}

theorem Hexadecimal.ne_nil (h : Hexadecimal cs n) : cs ≠ [] := by
  cases h with
  | digit hdigit => simp
  | append hcs hdigit => simp

theorem Hexadecimal.isDigit (h : Hexadecimal cs n) : ∀ c ∈ cs, ∃ d, HexDigit c d := by
  induction h with
  | digit hdigit =>
    intro c hc
    rw [List.mem_singleton.mp hc]
    exact ⟨_, hdigit⟩
  | append hcs hdigit ih =>
    intro c hc
    rcases List.mem_append.mp hc with hfront | hlast
    · exact ih c hfront
    · rw [List.mem_singleton.mp hlast]
      exact ⟨_, hdigit⟩

/-! ## Digits -/

theorem char_le_iff (a b : Char) : a ≤ b ↔ a.toNat ≤ b.toNat := Iff.rfl

/-- The ends of the three ranges in which digits lie. -/
theorem hexRanges : ('0'.toNat = 48 ∧ '9'.toNat = 57)
    ∧ ('a'.toNat = 97 ∧ 'f'.toNat = 102 ∧ 'z'.toNat = 122)
    ∧ ('A'.toNat = 65 ∧ 'F'.toNat = 70 ∧ 'Z'.toNat = 90) := by decide

/-- The digits of base 16 and their values. -/
theorem digitValue?_hex_iff : digitValue? 16 c = some n ↔ HexDigit c n := by
  obtain ⟨⟨hzero, hnine⟩, ⟨ha, hf, hz⟩, hA, hF, hZ⟩ := hexRanges
  unfold digitValue?
  rw [Option.filter_eq_some_iff, decide_eq_true_iff]
  constructor
  · rintro ⟨hvalue, hlt⟩
    split at hvalue
    · rename_i hrange
      cases hvalue
      exact .decimal hrange.1 hrange.2
    split at hvalue
    · rename_i hrange
      cases hvalue
      refine .small hrange.1 ?_
      rw [char_le_iff] at hrange ⊢
      omega
    split at hvalue
    · rename_i hrange
      cases hvalue
      refine .capital hrange.1 ?_
      rw [char_le_iff] at hrange ⊢
      omega
    · cases hvalue
  · intro hdigit
    cases hdigit with
    | decimal hlow hhigh =>
      rw [if_pos ⟨hlow, hhigh⟩]
      rw [char_le_iff] at hlow hhigh
      exact ⟨rfl, by omega⟩
    | small hlow hhigh =>
      rw [char_le_iff] at hlow hhigh
      simp only [char_le_iff]
      rw [if_neg (by omega), if_pos (by omega)]
      exact ⟨rfl, by omega⟩
    | capital hlow hhigh =>
      rw [char_le_iff] at hlow hhigh
      simp only [char_le_iff]
      rw [if_neg (by omega), if_neg (by omega), if_pos (by omega)]
      exact ⟨rfl, by omega⟩

/-- There are sixteen digits to write. -/
theorem hexDigit_of_lt : ∀ n < 16, digitValue? 16 (hexDigit n) = some n := by decide

theorem hexDigit_isDigit (n : Nat) : HexDigit (hexDigit (n % 16)) (n % 16) :=
  digitValue?_hex_iff.mp (hexDigit_of_lt _ (Nat.mod_lt n (by decide)))

/-- Neither a plus sign nor a colon is a digit. -/
theorem not_hexDigit_plus (n : Nat) : ¬ HexDigit '+' n := by
  rw [← digitValue?_hex_iff]
  exact nofun

theorem not_hexDigit_colon (n : Nat) : ¬ HexDigit ':' n := by
  rw [← digitValue?_hex_iff]
  exact nofun

/-- Written again, a digit has its letter in lower case. -/
theorem HexDigit.written (h : HexDigit c n) : n < 16 ∧ hexDigit n = c.toLower := by
  -- Digits are among the first characters, few enough to be looked at one by one.
  have hfirst : ∀ k < 103, ∀ d ∈ digitValue? 16 (Char.ofNat k),
      d < 16 ∧ hexDigit d = (Char.ofNat k).toLower := by decide
  have hlt : c.toNat < 103 := by
    obtain ⟨⟨hzero, hnine⟩, ⟨ha, hf, -⟩, hA, hF, -⟩ := hexRanges
    cases h with
    | decimal hlow hhigh =>
      rw [char_le_iff] at hhigh
      omega
    | small hlow hhigh =>
      rw [char_le_iff] at hhigh
      omega
    | capital hlow hhigh =>
      rw [char_le_iff] at hhigh
      omega
  have hwritten := hfirst c.toNat hlt n
  rw [Char.ofNat_toNat] at hwritten
  exact hwritten (digitValue?_hex_iff.mpr h)

/-! ## Reading -/

/-- Digits that are read in two parts, the second one going on where the first one ended. -/
theorem extend?_append (base acc : Nat) (cs ds : List Char) :
    extend? base acc (cs ++ ds) = (extend? base acc cs).bind fun m => extend? base m ds := by
  induction cs generalizing acc with
  | nil => rfl
  | cons c cs ih =>
    rw [List.cons_append, extend?, extend?]
    cases digitValue? base c with
    | none => rfl
    | some d => exact ih (acc * base + d)

theorem extend?_singleton : extend? base acc [c] = (digitValue? base c).map (acc * base + ·) := by
  rw [extend?]
  cases digitValue? base c with
  | none => rfl
  | some d => rfl

/-- Numbers are read from their front, and what follows extends them. -/
theorem ofDigits?_append (h : cs ≠ []) (ds : List Char) :
    ofDigits? base (cs ++ ds) = (ofDigits? base cs).bind fun m => extend? base m ds := by
  cases cs with
  | nil => exact absurd rfl h
  | cons c rest => exact extend?_append base 0 (c :: rest) ds

theorem ofDigits?_singleton : ofDigits? base [c] = digitValue? base c := by
  rw [ofDigits?, extend?_singleton]
  simp

/-- Exactly the numerals are read, and each as what it denotes. -/
theorem ofDigits?_hex_eq_some_iff : ofDigits? 16 cs = some n ↔ Hexadecimal cs n := by
  constructor
  · intro h
    -- The last digit is the one that was read last.
    induction cs using List.reverseRecOn generalizing n with
    | nil => cases h
    | append_singleton cs c ih =>
      by_cases hempty : cs = []
      · subst hempty
        rw [List.nil_append, ofDigits?_singleton, digitValue?_hex_iff] at h
        exact .digit h
      · rw [ofDigits?_append hempty, Option.bind_eq_some_iff] at h
        obtain ⟨m, hm, hlast⟩ := h
        rw [extend?_singleton, Option.map_eq_some_iff] at hlast
        obtain ⟨d, hd, rfl⟩ := hlast
        rw [Nat.mul_comm]
        exact .append (ih hm) (digitValue?_hex_iff.mp hd)
  · intro h
    induction h with
    | digit hdigit => rw [ofDigits?_singleton, digitValue?_hex_iff.mpr hdigit]
    | append hcs hdigit ih =>
      rw [ofDigits?_append hcs.ne_nil, ih, Option.bind_some, extend?_singleton,
        digitValue?_hex_iff.mpr hdigit, Nat.mul_comm]
      rfl

/-- An unsigned numeral is read if it denotes a number in range, behind a plus sign or not. -/
theorem unsigned?_hex_eq_some_iff {bound : Nat} :
    unsigned? 16 bound cs = some n
      ↔ (Hexadecimal cs n ∨ ∃ digits, cs = '+' :: digits ∧ Hexadecimal digits n) ∧ n < bound := by
  unfold unsigned?
  split
  · rename_i digits
    rw [Option.filter_eq_some_iff, ofDigits?_hex_eq_some_iff, decide_eq_true_iff]
    have hsigned : ¬ Hexadecimal ('+' :: digits) n := by
      intro h
      obtain ⟨d, hd⟩ := h.isDigit '+' (List.mem_cons_self ..)
      exact not_hexDigit_plus d hd
    constructor
    · rintro ⟨hdigits, hlt⟩
      exact ⟨.inr ⟨digits, rfl, hdigits⟩, hlt⟩
    · rintro ⟨hplain | ⟨digits', heq, hdigits⟩, hlt⟩
      · exact absurd hplain hsigned
      · rw [(List.cons.inj heq).2]
        exact ⟨hdigits, hlt⟩
  · rename_i hplain
    rw [Option.filter_eq_some_iff, ofDigits?_hex_eq_some_iff, decide_eq_true_iff]
    constructor
    · rintro ⟨hdigits, hlt⟩
      exact ⟨.inl hdigits, hlt⟩
    · rintro ⟨hdigits | ⟨digits, heq, -⟩, hlt⟩
      · exact ⟨hdigits, hlt⟩
      · exact absurd heq (hplain digits)

/-- A text denotes one number at most. -/
theorem Hexadecimal.unique {m : Nat} (hn : Hexadecimal cs n) (hm : Hexadecimal cs m) : n = m :=
  Option.some.inj ((ofDigits?_hex_eq_some_iff.mpr hn).symm.trans (ofDigits?_hex_eq_some_iff.mpr hm))

/-! ## Writing -/

@[simp] theorem length_hexDigits (width n : Nat) : (hexDigits width n).length = width := by
  induction width generalizing n with
  | zero => rfl
  | succ width ih => simp [hexDigits, ih]

/-- What is written denotes the number, as far as its digits go. -/
theorem hexadecimal_hexDigits (width n : Nat) :
    Hexadecimal (hexDigits (width + 1) n) (n % Nat.pow 16 (width + 1)) := by
  induction width generalizing n with
  | zero => exact .digit (hexDigit_isDigit n)
  | succ width ih =>
    have hpow : Nat.pow 16 (width + 2) = 16 * Nat.pow 16 (width + 1) := Nat.mul_comm _ _
    rw [hpow, Nat.mod_mul, Nat.add_comm (n % 16)]
    exact .append (ih (n / 16)) (hexDigit_isDigit n)

end LinkTap.Numeral
