/-
Texts as capture targets.

A text is looked up as an index if it is a numeral of a 64-bit signed word, and as a name if it is
not; the empty text and numerals that are too large are among the names. So the two ways to an
interface agree: on a host whose interfaces can be told apart, every way to write an index leads to
the interface with it, and so does its name unless the name is such a numeral itself. A lookup that
finds nothing says why.

Validation is a chain. The text must denote an interface, the interface must be up, the caller must
have the privilege to capture, and the link must deliver frames; the first of these that fails makes
the answer.
-/
import LinkTap.Proofs.Session.Lookup
import LinkTap.Proofs.Text.Numeral

set_option autoImplicit false

namespace LinkTap

namespace Interface

/-- The links that deliver frames. -/
def DeliversFrames (i : Interface) : Prop :=
  i.flags.loopback = true ∨ i.flags.broadcast = true ∨ i.flags.pointToPoint = true

/-- Three kinds of links can be captured on. -/
theorem supportsCapture_iff {i : Interface} : i.supportsCapture = true ↔ i.DeliversFrames := by
  rw [supportsCapture, Bool.or_eq_true, Bool.or_eq_true, or_assoc]
  rfl

end Interface

namespace Platform

variable {p : Platform} {i : Interface} {target : String} {n : Int}

/-! ## Which lookup is made -/

/-- A target that reads as a signed word is an index. -/
theorem resolve_of_int64 (h : Numeral.Int64 target.toList n) : p.resolve target = p.byIndex n := by
  rw [resolve, Numeral.int64?_eq_some_iff.mpr h]

/-- Any other target is a name. -/
theorem resolve_of_not_int64 (h : ∀ n, ¬ Numeral.Int64 target.toList n) :
    p.resolve target = p.byName target := by
  rw [resolve, Numeral.int64?_eq_none_iff.mpr h]

/-- A numeral outside the words is a name. -/
theorem not_int64_of_large (hdenotes : Numeral.Denotes target.toList n)
    (hlarge : n < -0x8000000000000000 ∨ 0x8000000000000000 ≤ n) (m : Int) :
    ¬ Numeral.Int64 target.toList m := by
  rintro ⟨hm, hlow, hhigh⟩
  have hsame := hdenotes.unique hm
  omega

theorem not_int64_empty (n : Int) : ¬ Numeral.Int64 "".toList n := by
  rw [← Numeral.int64?_eq_some_iff]
  intro h
  cases h

/-! ## Lookups that find nothing -/

theorem byIndex_of_not_pos {index : Int} (h : index ≤ 0) :
    p.byIndex index = .error (.invalidInterfaceIndex index) := by
  rw [byIndex, if_pos h]

/-- An index that no interface has. -/
theorem byIndex_of_missing {index : Int} (hpos : 0 < index)
    (h : ∀ i ∈ p.interfaces, (i.index : Int) ≠ index) :
    p.byIndex index = .error (.interfaceNotFound s!"index {index}") := by
  have hfind : (p.interfaces.find? fun i => (i.index : Int) == index) = none := by
    rw [List.find?_eq_none]
    intro i hi hindex
    exact h i hi (beq_iff_eq.mp hindex)
  rw [byIndex, if_neg (by omega), hfind]

theorem byName_empty (p : Platform) : p.byName "" = .error emptyName := rfl

/-- A name that no interface has. -/
theorem byName_of_missing (hname : target ≠ "") (h : ∀ i ∈ p.interfaces, i.name ≠ target) :
    p.byName target = .error (.interfaceNotFound target) := by
  have hfind : (p.interfaces.find? fun i => i.name == target) = none := by
    rw [List.find?_eq_none]
    intro i hi hsame
    exact h i hi (beq_iff_eq.mp hsame)
  rw [byName, if_neg (by rwa [String.isEmpty_iff]), hfind]

/-! ## Validation -/

theorem resolve_empty (p : Platform) : p.resolve "" = .error emptyName := by
  rw [resolve_of_not_int64 not_int64_empty, byName_empty]

/-- An interface is valid if it is found, up, may be captured on, and delivers frames. -/
theorem validate_eq_ok_iff_flags : p.validate target = .ok i
    ↔ p.resolve target = .ok i ∧ i.flags.up = true ∧ p.privileges = .ok ()
      ∧ i.DeliversFrames := by
  rw [validate_eq_ok_iff, Interface.supportsCapture_iff, String.isEmpty_eq_false_iff]
  constructor
  · rintro ⟨-, hvalid⟩
    exact hvalid
  · intro hvalid
    refine ⟨?_, hvalid⟩
    rintro rfl
    rw [resolve_empty] at hvalid
    cases hvalid.1

/-- What is not found is not valid, for the reason that it was not found. -/
theorem validate_of_resolve_error {err : Error} (h : p.resolve target = .error err) :
    p.validate target = .error err := by
  unfold validate
  by_cases hempty : target = ""
  · rw [hempty, resolve_empty] at h
    rw [hempty, ← h]
    rfl
  · rw [String.isEmpty_eq_false_iff.mpr hempty, h]
    rfl

/-- An interface that was found is refused for the first check that it fails. -/
theorem validate_of_resolve_ok (h : p.resolve target = .ok i) :
    (i.flags.up = false → p.validate target = .error (.interfaceDown i.name))
      ∧ (i.flags.up = true → ∀ err, p.privileges = .error err → p.validate target = .error err)
      ∧ (i.flags.up = true → p.privileges = .ok () → ¬ i.DeliversFrames →
          p.validate target = .error (.noCaptureSupport i.name)) := by
  have hname : target.isEmpty = false := by
    rw [String.isEmpty_eq_false_iff]
    rintro rfl
    rw [resolve_empty] at h
    cases h
  rw [validate_of_resolve hname h]
  refine ⟨?_, ?_, ?_⟩
  · intro hdown
    exact if_pos hdown
  · intro hup err herr
    rw [if_neg (by rw [Interface.isUp, hup]; exact Bool.noConfusion), herr]
  · intro hup hprivileges hlink
    rw [← Interface.supportsCapture_iff, Bool.not_eq_true] at hlink
    rw [if_neg (by rw [Interface.isUp, hup]; exact Bool.noConfusion), hprivileges]
    exact if_pos hlink

/-! ## Lookups agree -/

/-- **Lookups by name and by index agree, and validation accepts what can be captured on.** On a
host whose interfaces have distinct names, none of them empty, and distinct positive indexes: every
decimal text of the index of an interface, a 32-bit word, with zeros or a plus sign in front or
without, leads to the interface, and so does its name unless that is a 64-bit numeral. In general a
64-bit numeral leads to the interface with that index, is refused if it is not positive, and is not
found otherwise; any other text, numerals beyond 64 bits included, leads to the interface with that
name, is refused if it is empty, and is not found otherwise. A text is valid exactly if it leads to
an interface that is up, on a host that grants the privilege, over a link that delivers frames;
otherwise the first of these that fails is the error. -/
theorem lookups_agree {p : Platform} (hp : p.Distinct) (hnames : ∀ i ∈ p.interfaces, i.name ≠ "") :
    (∀ i ∈ p.interfaces,
        (i.index < UInt32.size → ∀ sign, sign = "" ∨ sign = "+" → ∀ zeros,
            p.resolve (sign ++ String.ofList (List.replicate zeros '0') ++ toString i.index)
              = .ok i)
          ∧ ((∀ n, ¬ Numeral.Int64 i.name.toList n) → p.resolve i.name = .ok i))
      ∧ (∀ target n, Numeral.Int64 target.toList n →
          (∀ i, p.resolve target = .ok i ↔ i ∈ p.interfaces ∧ (i.index : Int) = n)
            ∧ (n ≤ 0 → p.resolve target = .error (.invalidInterfaceIndex n))
            ∧ (0 < n → (∀ i ∈ p.interfaces, (i.index : Int) ≠ n) →
                p.resolve target = .error (.interfaceNotFound s!"index {n}")))
      ∧ (∀ target, (∀ n, ¬ Numeral.Int64 target.toList n) →
          (∀ i, p.resolve target = .ok i ↔ i ∈ p.interfaces ∧ i.name = target)
            ∧ (target = "" →
                p.resolve target = .error (.invalidInterface "interface name cannot be empty"))
            ∧ (target ≠ "" → (∀ i ∈ p.interfaces, i.name ≠ target) →
                p.resolve target = .error (.interfaceNotFound target)))
      ∧ (∀ target n, Numeral.Denotes target.toList n →
          n < -0x8000000000000000 ∨ 0x8000000000000000 ≤ n →
          (∀ m, ¬ Numeral.Int64 target.toList m) ∧ p.resolve target = p.byName target)
      ∧ ∀ target,
          (∀ i, p.validate target = .ok i
              ↔ p.resolve target = .ok i ∧ i.flags.up = true ∧ p.privileges = .ok ()
                ∧ i.DeliversFrames)
            ∧ (∀ err, p.resolve target = .error err → p.validate target = .error err)
            ∧ ∀ i, p.resolve target = .ok i →
                (i.flags.up = false → p.validate target = .error (.interfaceDown i.name))
                  ∧ (i.flags.up = true → ∀ err, p.privileges = .error err →
                      p.validate target = .error err)
                  ∧ (i.flags.up = true → p.privileges = .ok () → ¬ i.DeliversFrames →
                      p.validate target = .error (.noCaptureSupport i.name)) := by
  have hbyName : ∀ name i, p.byName name = .ok i ↔ i ∈ p.interfaces ∧ i.name = name := by
    intro name i
    rw [hp.byName_eq_ok_iff, String.isEmpty_eq_false_iff]
    constructor
    · rintro ⟨-, hfound⟩
      exact hfound
    · rintro ⟨hi, rfl⟩
      exact ⟨hnames i hi, hi, rfl⟩
  refine ⟨?_, ?_, ?_, ?_, ?_⟩
  · intro i hi
    refine ⟨?_, ?_⟩
    -- A 32-bit index is within the 64-bit words, so its text never is a name.
    · intro hword sign hsign zeros
      have hsize : UInt32.size = 0x100000000 := rfl
      have hdenotes := Numeral.denotes_toString hsign zeros i.index
      rw [resolve_of_int64 ⟨hdenotes, by omega, by omega⟩, hp.byIndex_eq_ok_iff]
      exact ⟨hi, rfl⟩
    · intro hname
      rw [resolve_of_not_int64 hname, hbyName]
      exact ⟨hi, rfl⟩
  · intro target n hn
    rw [resolve_of_int64 hn]
    exact ⟨fun i => hp.byIndex_eq_ok_iff n, byIndex_of_not_pos, byIndex_of_missing⟩
  · intro target hname
    rw [resolve_of_not_int64 hname]
    refine ⟨hbyName target, ?_, byName_of_missing⟩
    rintro rfl
    exact p.byName_empty
  · intro target n hdenotes hlarge
    have hname := not_int64_of_large hdenotes hlarge
    exact ⟨hname, resolve_of_not_int64 hname⟩
  · intro target
    exact ⟨fun i => validate_eq_ok_iff_flags, fun err => validate_of_resolve_error,
      fun i => validate_of_resolve_ok⟩

/-- A host with an interface named like a small number and one named like a number beyond 64 bits.
-/
theorem lookups_agree_digitNames :
    let small : Interface :=
      { name := "2", index := 1, mtu := 1500, flags := { up := true, broadcast := true } }
    let large : Interface :=
      { name := "9223372036854775808", index := 7, mtu := 1500, flags := { broadcast := true } }
    let p := replay "host" [large, small] none []
    p.Distinct ∧ (∀ i ∈ p.interfaces, i.name ≠ "")
      ∧ p.resolve "+007" = .ok large ∧ p.resolve small.name = .error (.interfaceNotFound "index 2")
      ∧ p.resolve large.name = .ok large
      ∧ p.validate large.name = .error (.interfaceDown large.name) := by
  intro small large p
  have hdistinct : p.Distinct := ⟨by decide +kernel, by decide +kernel, by decide +kernel⟩
  have hnames : ∀ i ∈ p.interfaces, i.name ≠ "" := by decide +kernel
  obtain ⟨hways, hnumeral, -, hlarge, hvalid⟩ := lookups_agree hdistinct hnames
  have hmem : large ∈ p.interfaces := List.mem_cons_self ..
  have htext : "+" ++ String.ofList (List.replicate 2 '0') ++ toString large.index = "+007" := by
    decide +kernel
  have hindex : p.resolve "+007" = .ok large :=
    htext ▸ (hways large hmem).1 (by decide) "+" (.inr rfl) 2
  have hname : p.resolve large.name = .ok large := by
    refine (hways large hmem).2 (hlarge large.name 9223372036854775808 ?_ (.inr (by decide))).1
    exact Numeral.denotes_toString (.inl rfl) 0 9223372036854775808
  have hmissing : p.resolve small.name = .error (.interfaceNotFound "index 2") := by
    refine (hnumeral small.name 2 ?_).2.2 (by decide) (by decide +kernel)
    exact ⟨Numeral.denotes_toString (.inl rfl) 0 2, by decide, by decide⟩
  exact ⟨hdistinct, hnames, hindex, hmissing, hname, ((hvalid large.name).2.2 large hname).1 rfl⟩

end Platform

end LinkTap
