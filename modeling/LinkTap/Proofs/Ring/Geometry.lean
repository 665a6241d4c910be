/-
Which shapes a ring can have.

The checks of a shape come one after another, and the last one is made on a product. What they come
to is one condition on the shape and the page size. Whoever lays a ring over memory, or starts a
session, goes through the same checks, so both are told by this condition and the little that each
of them adds: the memory must be long enough, and the queue must hold a packet.
-/
import LinkTap.Proofs.Refusal
import LinkTap.Ring.Buffer
import LinkTap.Session.Settings

set_option autoImplicit false

namespace LinkTap

namespace Ring

/-- A shape that a ring can have: whole pages, at least one block, inside the address space. -/
structure Admissible (page blockSize blockCount : Nat) : Prop where
  size_pos : 0 < blockSize
  whole : page ∣ blockSize
  count_pos : 0 < blockCount
  space : blockSize * blockCount < addressSpace

variable {page blockSize blockCount : Nat}

/-- The checks find no fault exactly with an admissible geometry. -/
theorem geometryFault?_eq_none_iff :
    geometryFault? blockSize blockCount page = none ↔ Admissible page blockSize blockCount := by
  unfold geometryFault?
  constructor
  · intro h
    split at h
    · cases h
    split at h
    · cases h
    split at h
    · cases h
    · exact ⟨by omega, Nat.dvd_of_mod_eq_zero (by omega), by omega, by omega⟩
  · rintro ⟨hsize, hpage, hcount, hspace⟩
    have hwhole := Nat.mod_eq_zero_of_dvd hpage
    rw [if_neg (by omega), if_neg (by omega), if_neg (by omega)]

theorem checkGeometry_eq_ok_iff :
    checkGeometry blockSize blockCount page = .ok () ↔ Admissible page blockSize blockCount := by
  rw [← geometryFault?_eq_none_iff, checkGeometry]
  cases geometryFault? blockSize blockCount page with
  | none => simp
  | some fault => simp

/-- A ring can be laid over every memory that holds its blocks. It has the shape that was asked for,
and its cursor is on the first block. -/
theorem create_eq_ok_iff {region : Region} {r : Ring} :
    create region blockSize blockCount page = .ok r
      ↔ Admissible page blockSize blockCount ∧ blockSize * blockCount ≤ region.size
        ∧ r = { region, blockSize, blockCount, cursor := 0, closed := false } := by
  rw [← checkGeometry_eq_ok_iff, create, check_bind_eq_ok_iff]
  refine and_congr_right fun _ => ?_
  refine refuse_eq_ok_iff.trans (and_congr Nat.not_lt ?_)
  exact ⟨fun h => (Except.ok.inj h).symm, fun h => congrArg Except.ok h.symm⟩

end Ring

/-- Beyond the geometry of its ring a session needs room for one packet in its queue. -/
theorem SessionSettings.validate_eq_ok_iff {s : SessionSettings} {page : Nat} :
    s.validate page = .ok () ↔ Ring.Admissible page s.blockSize s.blockCount
      ∧ 0 < s.queueCapacity := by
  rw [← Ring.checkGeometry_eq_ok_iff, validate, check_bind_eq_ok_iff]
  refine and_congr_right fun _ => ?_
  refine refuse_eq_ok_iff.trans ?_
  rw [Nat.pos_iff_ne_zero]
  exact and_iff_left rfl

end LinkTap
