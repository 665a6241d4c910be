/-
On which interface a run captures.

A run settles on a target and hands the name of the target to the engine, which looks it up once
more. The default target makes the same journey one stage earlier: it is chosen from the list and
then checked by name. Each time a name is read as a text that may be an index, so an interface whose
name is made of digits can lose its place to the one that has these digits for its index.

The two ends agree exactly if the name of the target, read as a numeral, is no other index than its
own. Nothing keeps a host from having a name like that, and such a host is one on which a run can
validate one interface and capture on another.
-/
import LinkTap.Proofs.Session.Lookup
import LinkTap.Proofs.Session.Run
import LinkTap.Session.Monitor

set_option autoImplicit false

namespace LinkTap

/-- An interface whose name, if it reads as a numeral, reads as its own index. -/
def Interface.NamesItself (i : Interface) : Prop :=
  ∀ n, Numeral.int64? i.name.toList = some n → n = i.index

namespace Platform

variable {p : Platform} {c : Config} {i j : Interface}

/-- Looking up the name of a listed interface leads back to it exactly if the name does not denote
another index. -/
theorem Distinct.resolve_name_iff (hp : p.Distinct) (hi : i ∈ p.interfaces)
    (hj : p.resolve i.name = .ok j) : j = i ↔ i.NamesItself := by
  obtain ⟨hmem, hindex, hname⟩ := (hp.resolve_eq_ok_iff i.name).mp hj
  constructor
  · intro hji n hn
    rw [← hindex n hn, hji]
  · intro h
    cases hn : Numeral.int64? i.name.toList with
    | none => exact hp.eq_of_name hmem hi (hname hn).2
    | some n =>
      have hji : (j.index : Int) = i.index := (hindex n hn).trans (h n hn)
      exact hp.eq_of_index hmem hi (Int.ofNat_inj.mp hji)

/-- The target was validated, under the name of the default interface or under the configured one.
-/
theorem target_eq_ok (h : p.target c = .ok i) :
    (c.wantsDefaultInterface = true
        ∧ ∃ chosen, p.selectDefault = .ok chosen ∧ p.validate chosen.name = .ok i)
      ∨ (c.wantsDefaultInterface = false ∧ p.validate c.interface = .ok i) := by
  unfold target at h
  cases hany : c.wantsDefaultInterface with
  | true =>
    rw [hany, if_pos rfl] at h
    cases hchosen : p.selectDefault with
    | error err =>
      rw [hchosen] at h
      cases h
    | ok chosen =>
      rw [hchosen] at h
      exact .inl ⟨rfl, chosen, rfl, h⟩
  | false =>
    rw [hany, if_neg Bool.false_ne_true] at h
    exact .inr ⟨rfl, h⟩

theorem Distinct.mem_of_target (hp : p.Distinct) (h : p.target c = .ok i) : i ∈ p.interfaces := by
  rcases target_eq_ok h with ⟨-, chosen, -, hvalid⟩ | ⟨-, hvalid⟩
  · obtain ⟨-, hresolve, -⟩ := (p.validate_eq_ok_iff chosen.name).mp hvalid
    exact ((hp.resolve_eq_ok_iff chosen.name).mp hresolve).1
  · obtain ⟨-, hresolve, -⟩ := (p.validate_eq_ok_iff c.interface).mp hvalid
    exact ((hp.resolve_eq_ok_iff c.interface).mp hresolve).1

end Platform

/-- A run that was started captures on what the name of its target denotes. -/
theorem Monitor.interface?_of_start {p : Platform} {now : Timestamp} {c : Config}
    {limit : Option Nat} {m : Monitor} (h : Monitor.start p now c limit = .ok m) :
    p.target c = .ok m.target
      ∧ ∃ i, p.resolve m.target.name = .ok i ∧ m.engine.interface? = some i := by
  obtain ⟨htarget, i, ring, hacquire, hm⟩ := Monitor.start_eq_ok h
  refine ⟨htarget, i, (Engine.acquire_eq_ok hacquire).2.1, ?_⟩
  rw [hm]
  rfl

/-! ## Consistency -/

/-- **The session is on the target exactly if the name of the target names it.** When a run opens a
session on a host whose interfaces can be told apart, the session is on the interface with the index
that the name of the target reads as, and on the target itself if the name is no numeral; so session
and target are the same exactly if that name reads as no other index. In the same way a run for any
interface validates the default one exactly if the name of the default interface names it. -/
theorem capture_on_target_iff {p : Platform} (hp : p.Distinct) (c : Config) :
    (∀ now limit m, Monitor.start p now c limit = .ok m →
      p.target c = .ok m.target
        ∧ (∃ i ∈ p.interfaces, m.engine.interface? = some i
          ∧ (∀ n, Numeral.int64? m.target.name.toList = some n → (i.index : Int) = n)
          ∧ (Numeral.int64? m.target.name.toList = none → i = m.target))
        ∧ (m.engine.interface? = some m.target ↔ m.target.NamesItself))
      ∧ ∀ i, c.wantsDefaultInterface = true → p.target c = .ok i →
          ∃ chosen, p.selectDefault = .ok chosen ∧ (i = chosen ↔ chosen.NamesItself) := by
  constructor
  · intro now limit m hm
    obtain ⟨htarget, i, hresolve, hinterface⟩ := Monitor.interface?_of_start hm
    have hmem := hp.mem_of_target htarget
    obtain ⟨hi, hindex, hname⟩ := (hp.resolve_eq_ok_iff m.target.name).mp hresolve
    have hsame := hp.resolve_name_iff hmem hresolve
    refine ⟨htarget, ⟨i, hi, hinterface, hindex, fun hn => ?_⟩, ?_⟩
    · exact hp.eq_of_name hi hmem (hname hn).2
    · rw [hinterface, Option.some.injEq]
      exact hsame
  · intro i hany hi
    rcases Platform.target_eq_ok hi with ⟨-, chosen, hchosen, hvalid⟩ | ⟨hnamed, -⟩
    · -- What was validated is what the name of the chosen interface denotes.
      obtain ⟨-, hresolve, -⟩ := (p.validate_eq_ok_iff chosen.name).mp hvalid
      exact ⟨chosen, hchosen, hp.resolve_name_iff (Platform.mem_of_selectDefault hchosen) hresolve⟩
    · rw [hany] at hnamed
      cases hnamed

/-- A host with an interface that has the index of the other one for its name. -/
def numericNames : Platform :=
  Platform.replay "host"
    [{ name := "2", index := 1, mtu := 1500,
       flags := { up := true, running := true, broadcast := true, multicast := true } },
     { name := "eth0", index := 2, mtu := 1500,
       flags := { up := true, broadcast := true, multicast := true } }]
    none []

theorem capture_on_target_iff_numericNames :
    numericNames.Distinct
      ∧ (∃ m, Monitor.start numericNames ⟨0, 0⟩ { interface := "1" } none = .ok m
          ∧ (m.engine.interface? = some m.target ↔ m.target.NamesItself))
      ∧ ∃ i, numericNames.target {} = .ok i
          ∧ ∃ chosen, numericNames.selectDefault = .ok chosen
            ∧ (i = chosen ↔ chosen.NamesItself) := by
  have hdistinct : numericNames.Distinct :=
    ⟨by decide +kernel, by decide +kernel, by decide +kernel⟩
  have hstart : ∃ m, Monitor.start numericNames ⟨0, 0⟩ { interface := "1" } none = .ok m := ⟨_, rfl⟩
  have htarget : ∃ i, numericNames.target {} = .ok i := ⟨_, rfl⟩
  obtain ⟨m, hm⟩ := hstart
  obtain ⟨i, hi⟩ := htarget
  obtain ⟨hsession, -⟩ := capture_on_target_iff hdistinct { interface := "1" }
  obtain ⟨-, hdefault⟩ := capture_on_target_iff hdistinct {}
  exact ⟨hdistinct, ⟨m, hm, (hsession _ _ m hm).2.2⟩, i, hi, hdefault i rfl hi⟩

/-- On that host a run for the interface with index 1 captures on the one with index 2, and a run
for any interface validates the one with index 2 although the default is the other. -/
theorem numericNames_capture_elsewhere :
    numericNames.Distinct
      ∧ (∃ m i, Monitor.start numericNames ⟨0, 0⟩ { interface := "1" } none = .ok m
          ∧ m.engine.interface? = some i ∧ m.target.index = 1 ∧ i.index = 2)
      ∧ ∃ i chosen, numericNames.target {} = .ok i ∧ numericNames.selectDefault = .ok chosen
          ∧ i.index = 2 ∧ chosen.index = 1 := by
  refine ⟨⟨by decide +kernel, by decide +kernel, by decide +kernel⟩, ?_, ?_⟩
  · exact ⟨_, _, rfl, rfl, rfl, rfl⟩
  · exact ⟨_, _, rfl, rfl, rfl, rfl⟩

end LinkTap
