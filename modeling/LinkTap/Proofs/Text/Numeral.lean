/-
What numerals denote.

A signed numeral is a run of decimal digits, at least one, behind at most one sign. It denotes the
number that its digits add up to, most significant first, and many numerals denote the same number:
zeros may stand in front, and so may a plus sign. The reader accepts exactly the numerals whose
number is in its range, and answers that number. What the writer produces is one of the numerals of
a number, so reading undoes it.
-/
import LinkTap.Text.Numeral

set_option autoImplicit false

namespace LinkTap.Numeral

/-! ## Numerals -/

/-- A run of decimal digits, at least one. -/
structure Digits (cs : List Char) : Prop where
  nonempty : cs ≠ []
  digits : ∀ c ∈ cs, c.isDigit = true

/-- The number that decimal digits add up to, most significant first. -/
def decimal (cs : List Char) : Nat := Nat.ofDigitChars 10 cs 0

/-- How an integer is written: digits, behind a sign or not. -/
inductive Denotes : List Char → Int → Prop where
  | unsigned {cs : List Char} : Digits cs → Denotes cs (decimal cs)
  | plus {cs : List Char} : Digits cs → Denotes ('+' :: cs) (decimal cs)
  | minus {cs : List Char} : Digits cs → Denotes ('-' :: cs) (-(decimal cs : Int))

variable {cs : List Char} {n : Int}

/-- Only digits stand behind a sign, or without one. -/
theorem Digits.head_ne {c : Char} (h : Digits (c :: cs)) : c ≠ '+' ∧ c ≠ '-' := by
  have hdigit := h.digits c (List.mem_cons_self ..)
  constructor
  · rintro rfl
    cases hdigit
  · rintro rfl
    cases hdigit

/-! ## Reading -/

theorem isDigit_iff (c : Char) : c.isDigit = true ↔ '0'.toNat ≤ c.toNat ∧ c.toNat ≤ '9'.toNat := by
  rw [Char.isDigit, Bool.and_eq_true, decide_eq_true_iff, decide_eq_true_iff]
  exact Iff.rfl

theorem digitValue?_ten (c : Char) :
    digitValue? 10 c = if c.isDigit then some (c.toNat - '0'.toNat) else none := by
  have hle : ∀ a b : Char, a ≤ b ↔ a.toNat ≤ b.toNat := fun _ _ => Iff.rfl
  have hdigits : '0'.toNat = 48 ∧ '9'.toNat = 57 := ⟨rfl, rfl⟩
  have hlower : 'a'.toNat = 97 := rfl
  have hupper : 'A'.toNat = 65 := rfl
  unfold digitValue?
  simp only [hle, isDigit_iff]
  by_cases hdigit : '0'.toNat ≤ c.toNat ∧ c.toNat ≤ '9'.toNat
  · rw [if_pos hdigit, if_pos hdigit, Option.filter_some,
      if_pos (by rw [decide_eq_true_iff]; omega)]
  rw [if_neg hdigit, if_neg hdigit]
  -- Letters count from ten on.
  split
  · rw [Option.filter_some, if_neg (by rw [decide_eq_true_iff]; omega)]
  split
  · rw [Option.filter_some, if_neg (by rw [decide_eq_true_iff]; omega)]
  · rfl

theorem extend?_eq_some_iff {acc value : Nat} :
    extend? 10 acc cs = some value
      ↔ (∀ c ∈ cs, c.isDigit = true) ∧ value = Nat.ofDigitChars 10 cs acc := by
  induction cs generalizing acc with
  | nil =>
    rw [extend?, Option.some.injEq, Nat.ofDigitChars_nil, eq_comm]
    exact ⟨fun h => ⟨fun c hc => (by cases hc), h⟩, fun h => h.2⟩
  | cons c rest ih =>
    rw [extend?, digitValue?_ten, List.forall_mem_cons, Nat.ofDigitChars_cons, Nat.mul_comm 10 acc]
    cases hdigit : c.isDigit with
    | false =>
      rw [if_neg Bool.false_ne_true]
      constructor
      · intro h
        cases h
      · rintro ⟨⟨h, -⟩, -⟩
        cases h
    | true =>
      rw [if_pos rfl]
      dsimp only
      rw [ih]
      simp only [true_and]

/-- Digits are read as what they add up to, and nothing else is read. -/
theorem ofDigits?_eq_some_iff {value : Nat} :
    ofDigits? 10 cs = some value ↔ Digits cs ∧ value = decimal cs := by
  cases cs with
  | nil =>
    constructor
    · intro h
      cases h
    · rintro ⟨hdigits, -⟩
      exact absurd rfl hdigits.nonempty
  | cons c rest =>
    rw [ofDigits?, extend?_eq_some_iff]
    constructor
    · rintro ⟨hdigits, hvalue⟩
      exact ⟨⟨List.cons_ne_nil c rest, hdigits⟩, hvalue⟩
    · rintro ⟨hdigits, hvalue⟩
      exact ⟨hdigits.digits, hvalue⟩

/-- Digits are read if what they add up to is in range. -/
theorem filter_ofDigits?_eq_some_iff {value : Nat} {inRange : Nat → Bool} :
    (ofDigits? 10 cs).filter inRange = some value
      ↔ Digits cs ∧ value = decimal cs ∧ inRange value = true := by
  rw [Option.filter_eq_some_iff, ofDigits?_eq_some_iff, and_assoc]

/-- Digits that are read as an integer which is not negative. -/
theorem map_ofNat_ofDigits?_eq_some_iff {bound : Nat} :
    ((ofDigits? 10 cs).filter (· < bound)).map Int.ofNat = some n
      ↔ Digits cs ∧ n = decimal cs ∧ n < bound := by
  rw [Option.map_eq_some_iff]
  constructor
  · rintro ⟨value, hvalue, rfl⟩
    obtain ⟨hdigits, rfl, hrange⟩ := filter_ofDigits?_eq_some_iff.mp hvalue
    exact ⟨hdigits, rfl, Int.ofNat_lt.mpr (of_decide_eq_true hrange)⟩
  · rintro ⟨hdigits, rfl, hrange⟩
    have hin := decide_eq_true (Int.ofNat_lt.mp hrange)
    exact ⟨decimal cs, filter_ofDigits?_eq_some_iff.mpr ⟨hdigits, rfl, hin⟩, rfl⟩

/-- A signed numeral is read as what it denotes, if that is in range. -/
theorem signed?_eq_some_iff {bound : Nat} (hbound : 0 < bound) :
    signed? bound cs = some n ↔ Denotes cs n ∧ -(bound : Int) ≤ n ∧ n < bound := by
  unfold signed?
  split
  case h_1 digits =>
    simp only [Option.bind_eq_bind, Option.pure_def, Option.map_eq_some_iff,
      Option.bind_eq_some_iff, Option.some.injEq]
    constructor
    · rintro ⟨_, ⟨value, hvalue, rfl⟩, rfl⟩
      obtain ⟨hdigits, rfl, hrange⟩ := filter_ofDigits?_eq_some_iff.mp hvalue
      have hle := of_decide_eq_true hrange
      exact ⟨.minus hdigits, by omega, by omega⟩
    · rintro ⟨hdenotes, hlow, hhigh⟩
      -- A sign is no digit, so the text denotes nothing but a negative number or zero.
      cases hdenotes with
      | unsigned hdigits => exact absurd rfl hdigits.head_ne.2
      | minus hdigits =>
        have hin : decide (decimal digits ≤ bound) = true := decide_eq_true (by omega)
        exact ⟨_, ⟨decimal digits, filter_ofDigits?_eq_some_iff.mpr ⟨hdigits, rfl, hin⟩, rfl⟩, rfl⟩
  case h_2 digits =>
    rw [map_ofNat_ofDigits?_eq_some_iff]
    constructor
    · rintro ⟨hdigits, rfl, hrange⟩
      exact ⟨.plus hdigits, by omega, hrange⟩
    · rintro ⟨hdenotes, -, hrange⟩
      cases hdenotes with
      | unsigned hdigits => exact absurd rfl hdigits.head_ne.1
      | plus hdigits => exact ⟨hdigits, rfl, hrange⟩
  case h_3 digits hminus hplus =>
    rw [map_ofNat_ofDigits?_eq_some_iff]
    constructor
    · rintro ⟨hdigits, rfl, hrange⟩
      exact ⟨.unsigned hdigits, by omega, hrange⟩
    · rintro ⟨hdenotes, -, hrange⟩
      cases hdenotes with
      | unsigned hdigits => exact ⟨hdigits, rfl, hrange⟩
      | plus hdigits => exact absurd rfl (hplus _)
      | minus hdigits => exact absurd rfl (hminus _)

/-- A numeral of a 64-bit signed word. -/
structure Int64 (cs : List Char) (n : Int) : Prop where
  denotes : Denotes cs n
  lowest : -0x8000000000000000 ≤ n
  highest : n < 0x8000000000000000

theorem int64?_eq_some_iff : int64? cs = some n ↔ Int64 cs n := by
  have hbound : UInt64.size / 2 = 0x8000000000000000 := rfl
  rw [int64?, hbound, signed?_eq_some_iff (by decide)]
  exact ⟨fun ⟨hdenotes, hlow, hhigh⟩ => ⟨hdenotes, hlow, hhigh⟩,
    fun ⟨hdenotes, hlow, hhigh⟩ => ⟨hdenotes, hlow, hhigh⟩⟩

theorem int64?_eq_none_iff : int64? cs = none ↔ ∀ n, ¬ Int64 cs n := by
  rw [Option.eq_none_iff_forall_ne_some]
  simp only [ne_eq, int64?_eq_some_iff]

/-- A text denotes one integer at most. -/
theorem Denotes.unique {m : Int} (hn : Denotes cs n) (hm : Denotes cs m) : n = m := by
  -- A reader with a range wide enough for both reads the text as either.
  have hpos : 0 < n.natAbs + m.natAbs + 1 := Nat.succ_pos _
  have hreadn := (signed?_eq_some_iff hpos).mpr ⟨hn, by omega, by omega⟩
  have hreadm := (signed?_eq_some_iff hpos).mpr ⟨hm, by omega, by omega⟩
  exact Option.some.inj (hreadn.symm.trans hreadm)

/-! ## Writing -/

/-- Zeros in front of a number do not change it. -/
theorem digits_toString (zeros n : Nat) :
    Digits (List.replicate zeros '0' ++ (toString n).toList)
      ∧ decimal (List.replicate zeros '0' ++ (toString n).toList) = n := by
  rw [Nat.toString_eq_ofList_toDigits, String.toList_ofList]
  refine ⟨⟨?_, ?_⟩, ?_⟩
  · exact List.append_ne_nil_of_right_ne_nil _ Nat.toDigits_ne_nil
  · intro c hc
    rcases List.mem_append.mp hc with hzero | hdigit
    · rw [List.eq_of_mem_replicate hzero]
      rfl
    · exact Nat.isDigit_of_mem_toDigits (by decide) (by decide) hdigit
  · rw [decimal, Nat.ofDigitChars_append, Nat.ofDigitChars_replicate_zero, Nat.mul_zero,
      Nat.ofDigitChars_ten_toDigits]

/-- A number is denoted by its decimal text, also with zeros and a plus sign in front. -/
theorem denotes_toString {sign : String} (hsign : sign = "" ∨ sign = "+") (zeros n : Nat) :
    Denotes (sign ++ String.ofList (List.replicate zeros '0') ++ toString n).toList n := by
  obtain ⟨hdigits, hvalue⟩ := digits_toString zeros n
  rw [String.append_assoc, String.toList_append, String.toList_append, String.toList_ofList]
  rcases hsign with rfl | rfl
  · have hdenotes := Denotes.unsigned hdigits
    rwa [hvalue] at hdenotes
  · have hdenotes := Denotes.plus hdigits
    rwa [hvalue] at hdenotes

end LinkTap.Numeral
