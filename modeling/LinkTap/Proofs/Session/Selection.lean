/-
The default interface.

The choice has three stages. Of the candidates the best one is taken, by score, then by received
packets, then by the lower index. Without a candidate the first interface that is up and no loopback
stands in. And without one of those a loopback interface is taken if it is the only one that is up.

The three levels of the first stage are one linear order, the lexicographic one on the triple of
score, packets and reversed index, and the choice keeps a maximum of it while it goes through the
list. That no candidate beats the result is a fact about linear orders then, whatever the list.

A host does not choose from the list as the system reports it, but from the list in order of the
indexes. Where the indexes are distinct there is only one such order, so neither the list nor the
choice can tell in which order the system reported the interfaces.
-/
import Mathlib.Data.Prod.Lex
import LinkTap.Proofs.Session.Lookup

set_option autoImplicit false

namespace LinkTap

namespace Interface

/-! ## Candidates and their order -/

/-- What makes an interface a candidate: it is up and running, no loopback, and a broadcast or a
point-to-point link. -/
structure Candidate (i : Interface) : Prop where
  up : i.flags.up = true
  running : i.flags.running = true
  noLoopback : i.flags.loopback = false
  link : i.flags.broadcast = true ∨ i.flags.pointToPoint = true

/-- What lets an interface stand in for a candidate: it is up and no loopback. -/
structure StandIn (i : Interface) : Prop where
  up : i.flags.up = true
  noLoopback : i.flags.loopback = false

/-- `a` is the better target: by a higher score, then by more received packets, then by a lower
index. -/
def Beats (a b : Interface) : Prop :=
  b.score < a.score
    ∨ a.score = b.score
      ∧ (b.counters.rxPackets < a.counters.rxPackets
        ∨ a.counters.rxPackets = b.counters.rxPackets ∧ a.index < b.index)

/-- The place of an interface in the order of targets; a lower index ranks higher. -/
def rank (i : Interface) : Nat ×ₗ Nat ×ₗ Natᵒᵈ :=
  toLex (i.score, toLex (i.counters.rxPackets, OrderDual.toDual i.index))

variable {a b i : Interface} {interfaces : List Interface}

theorem standIn_iff : i.StandIn ↔ i.isUp = true ∧ (!i.isLoopback) = true := by
  rw [Bool.not_eq_true']
  exact ⟨fun h => ⟨h.up, h.noLoopback⟩, fun h => ⟨h.1, h.2⟩⟩

instance (i : Interface) : Decidable i.StandIn := decidable_of_iff' _ standIn_iff

theorem Candidate.standIn (h : i.Candidate) : i.StandIn := ⟨h.up, h.noLoopback⟩

theorem isCandidate_iff : i.isCandidate = true ↔ i.Candidate := by
  unfold isCandidate isUp isRunning isLoopback supportsCapture
  constructor
  · intro h
    simp only [Bool.and_eq_true, Bool.or_eq_true, Bool.not_eq_true'] at h
    obtain ⟨⟨⟨hup, hrunning⟩, hloopback⟩, hlink⟩ := h
    rw [hloopback] at hlink
    exact ⟨hup, hrunning, hloopback, by simpa using hlink⟩
  · rintro ⟨hup, hrunning, hloopback, hlink⟩
    simpa [hup, hrunning, hloopback] using hlink

theorem beats_iff_rank_lt : a.Beats b ↔ b.rank < a.rank := by
  unfold Beats rank
  rw [Prod.Lex.toLex_lt_toLex, Prod.Lex.toLex_lt_toLex, OrderDual.toDual_lt_toDual]
  rw [eq_comm (a := b.score), eq_comm (a := b.counters.rxPackets)]

theorem outranks_iff : a.outranks b = true ↔ a.Beats b := by
  unfold outranks Beats
  split
  · rw [decide_eq_true_iff]
    omega
  split
  · rw [decide_eq_true_iff]
    omega
  · rw [decide_eq_true_iff]
    omega

/-! ## The best one -/

theorem best?_eq_none_iff : best? interfaces = none ↔ interfaces = [] := by
  cases interfaces with
  | nil => simp [best?]
  | cons first rest => simp [best?]

/-- The induction is on the interfaces that are still to come. The best one so far ranks as high as
those before it, and the end ranks as high as the best one so far. -/
theorem rank_le_of_best? (h : best? interfaces = some a) : ∀ j ∈ interfaces, j.rank ≤ a.rank := by
  cases interfaces with
  | nil => cases h
  | cons first rest =>
    rw [best?, Option.some.injEq] at h
    rw [← h]
    clear h
    induction rest generalizing first with
    | nil =>
      intro j hj
      rw [List.mem_singleton.mp hj]
      rfl
    | cons next rest ih =>
      rw [List.foldl_cons]
      intro j hj
      -- Whichever of the two goes on, it ranks as high as both; in a draw they rank the same.
      have hkept : first.rank ≤ (if first.outranks next then first else next).rank
          ∧ next.rank ≤ (if first.outranks next then first else next).rank := by
        split
        · rename_i hfirst
          exact ⟨le_rfl, (beats_iff_rank_lt.mp (outranks_iff.mp hfirst)).le⟩
        · rename_i hnext
          rw [outranks_iff, beats_iff_rank_lt, not_lt] at hnext
          exact ⟨hnext, le_rfl⟩
      have hlater := ih (if first.outranks next then first else next)
      rcases List.mem_cons.mp hj with rfl | hj
      · exact hkept.1.trans (hlater _ (List.mem_cons_self ..))
      rcases List.mem_cons.mp hj with rfl | hj
      · exact hkept.2.trans (hlater _ (List.mem_cons_self ..))
      · exact hlater j (List.mem_cons_of_mem _ hj)

/-! ## The three stages -/

/-- A candidate that no other one beats is chosen. -/
theorem selectDefault_of_candidate (h : ∃ i ∈ interfaces, i.Candidate) :
    ∃ best ∈ interfaces, selectDefault interfaces = .ok best ∧ best.Candidate
      ∧ ∀ i ∈ interfaces, i.Candidate → ¬ i.Beats best := by
  obtain ⟨i, hi, hcandidate⟩ := h
  have hmem : ∀ {j}, j ∈ interfaces.filter isCandidate ↔ j ∈ interfaces ∧ j.Candidate := by
    intro j
    rw [List.mem_filter, isCandidate_iff]
  cases hbest : best? (interfaces.filter isCandidate) with
  | none =>
    rw [best?_eq_none_iff] at hbest
    have hi' := hmem.mpr ⟨hi, hcandidate⟩
    rw [hbest] at hi'
    cases hi'
  | some best =>
    obtain ⟨hlisted, hfit⟩ := hmem.mp (mem_of_best?_eq_some hbest)
    refine ⟨best, hlisted, ?_, hfit, ?_⟩
    · rw [selectDefault, hbest]
    · intro j hj hcandidate hbeats
      have hle := rank_le_of_best? hbest j (hmem.mpr ⟨hj, hcandidate⟩)
      exact absurd (beats_iff_rank_lt.mp hbeats) (not_lt.mpr hle)

/-- What is left without candidates: the interfaces that are up. -/
theorem selectDefault_of_no_candidate (h : ¬ ∃ i ∈ interfaces, i.Candidate) :
    selectDefault interfaces =
      match (interfaces.filter isUp).find? fun i => !i.isLoopback with
      | some i => .ok i
      | none =>
        match interfaces.filter isUp with
        | [only] => .ok only
        | _ => .error .noInterfaces := by
  have hnone : interfaces.filter isCandidate = [] := by
    rw [List.filter_eq_nil_iff]
    intro i hi hcandidate
    exact h ⟨i, hi, isCandidate_iff.mp hcandidate⟩
  rw [selectDefault, hnone]
  rfl

theorem find?_standIn (interfaces : List Interface) :
    ((interfaces.filter isUp).find? fun i => !i.isLoopback)
      = interfaces.find? fun i => decide i.StandIn := by
  have hsame : (fun i : Interface => decide i.StandIn)
      = fun i => decide (i.isUp = true ∧ (!i.isLoopback) = true) := by
    funext i
    exact decide_eq_decide.mpr standIn_iff
  rw [List.find?_filter, hsame]

/-- The first interface that can stand in does so. -/
theorem selectDefault_of_standIn (hnone : ¬ ∃ i ∈ interfaces, i.Candidate)
    (h : ∃ i ∈ interfaces, i.StandIn) :
    ∃ before i after, interfaces = before ++ i :: after ∧ i.StandIn ∧ (∀ j ∈ before, ¬ j.StandIn)
      ∧ selectDefault interfaces = .ok i := by
  obtain ⟨j, hj, hfit⟩ := h
  rw [selectDefault_of_no_candidate hnone, find?_standIn]
  cases hfind : interfaces.find? fun i => decide i.StandIn with
  | none => exact absurd (decide_eq_true hfit) (List.find?_eq_none.mp hfind j hj)
  | some i =>
    obtain ⟨hi, before, after, hsplit, hbefore⟩ := List.find?_eq_some_iff_append.mp hfind
    refine ⟨before, i, after, hsplit, of_decide_eq_true hi, ?_, rfl⟩
    intro k hk
    have hpassed := hbefore k hk
    rw [Bool.not_eq_true'] at hpassed
    exact of_decide_eq_false hpassed

/-- A loopback interface is the last resort. -/
theorem selectDefault_of_no_standIn (h : ¬ ∃ i ∈ interfaces, i.StandIn) :
    selectDefault interfaces =
      match interfaces.filter isUp with
      | [only] => .ok only
      | _ => .error .noInterfaces := by
  have hnone : ¬ ∃ i ∈ interfaces, i.Candidate := fun ⟨i, hi, hfit⟩ => h ⟨i, hi, hfit.standIn⟩
  have hfind : (interfaces.find? fun i => decide i.StandIn) = none := by
    rw [List.find?_eq_none]
    intro i hi hfit
    exact h ⟨i, hi, of_decide_eq_true hfit⟩
  rw [selectDefault_of_no_candidate hnone, find?_standIn, hfind]

/-- Whatever is chosen is listed and up, and a loopback interface is the only one that is up. -/
theorem up_of_selectDefault (h : selectDefault interfaces = .ok i) :
    i ∈ interfaces ∧ i.flags.up = true
      ∧ (i.flags.loopback = true → interfaces.filter isUp = [i]) := by
  refine ⟨mem_of_selectDefault h, ?_⟩
  have hstands : i.StandIn →
      i.flags.up = true ∧ (i.flags.loopback = true → interfaces.filter isUp = [i]) := by
    intro hfit
    refine ⟨hfit.up, ?_⟩
    intro hloopback
    rw [hfit.noLoopback] at hloopback
    cases hloopback
  -- The three stages, each with what it says of its choice.
  by_cases hcandidate : ∃ i ∈ interfaces, i.Candidate
  · obtain ⟨best, -, hbest, hfit, -⟩ := selectDefault_of_candidate hcandidate
    rw [hbest] at h
    cases h
    exact hstands hfit.standIn
  by_cases hstandIn : ∃ i ∈ interfaces, i.StandIn
  · obtain ⟨before, first, after, -, hfit, -, hfirst⟩ :=
      selectDefault_of_standIn hcandidate hstandIn
    rw [hfirst] at h
    cases h
    exact hstands hfit
  · rw [selectDefault_of_no_standIn hstandIn] at h
    split at h
    · rename_i only hup
      cases h
      exact ⟨(listed_of_only_up hup).2, fun _ => hup⟩
    · cases h

/-- **The default is the best there is.** If a list has candidates, one that no other candidate
beats is chosen. If it has none, but interfaces that are up and no loopback, the first of these is
chosen. Otherwise the interface that is up is chosen if it is the only one, and it is a loopback
then; and if it is not or none is up, no interface is found. Whatever is chosen is in the list and
up, and it is a loopback only if nothing else is up. -/
theorem selectDefault_optimal (interfaces : List Interface) :
    ((∃ i ∈ interfaces, i.Candidate) →
        ∃ best ∈ interfaces, selectDefault interfaces = .ok best ∧ best.Candidate
          ∧ ∀ i ∈ interfaces, i.Candidate → ¬ i.Beats best)
      ∧ ((¬ ∃ i ∈ interfaces, i.Candidate) → (∃ i ∈ interfaces, i.StandIn) →
        ∃ before i after, interfaces = before ++ i :: after ∧ i.StandIn
          ∧ (∀ j ∈ before, ¬ j.StandIn)
          ∧ selectDefault interfaces = .ok i)
      ∧ ((¬ ∃ i ∈ interfaces, i.StandIn) →
        (∀ i, interfaces.filter isUp = [i] →
            i.flags.loopback = true ∧ selectDefault interfaces = .ok i)
          ∧ ((¬ ∃ i, interfaces.filter isUp = [i]) →
            selectDefault interfaces = .error .noInterfaces))
      ∧ ∀ i, selectDefault interfaces = .ok i →
          i ∈ interfaces ∧ i.flags.up = true
            ∧ (i.flags.loopback = true → interfaces.filter isUp = [i]) := by
  refine ⟨selectDefault_of_candidate, selectDefault_of_standIn, ?_, fun i => up_of_selectDefault⟩
  intro hnone
  rw [selectDefault_of_no_standIn hnone]
  refine ⟨?_, ?_⟩
  · intro i hup
    obtain ⟨hlisted, hisUp⟩ := listed_of_only_up hup
    refine ⟨?_, by rw [hup]⟩
    -- Without the loopback flag it could stand in.
    by_contra hloopback
    exact hnone ⟨i, hlisted, hisUp, Bool.eq_false_iff.mpr hloopback⟩
  · intro hseveral
    split
    · rename_i only hup
      exact absurd ⟨only, hup⟩ hseveral
    · rfl

end Interface

namespace Platform

/-! ## Enumeration order -/

variable {p q : Platform} {i : Interface} {interfaces : List Interface}

theorem pairwise_sortByIndex (interfaces : List Interface) :
    (sortByIndex interfaces).Pairwise fun i j => i.index ≤ j.index := by
  rw [sortByIndex_eq]
  have htotal : Std.Total fun i j : Interface => i.index ≤ j.index := ⟨fun i j => Nat.le_total _ _⟩
  have htrans : IsTrans Interface fun i j => i.index ≤ j.index := ⟨fun i j k => Nat.le_trans⟩
  exact List.pairwise_insertionSort _ interfaces

/-- Distinct indexes ascend strictly. -/
theorem pairwise_lt_sortByIndex (hindexes : (interfaces.map Interface.index).Nodup) :
    (sortByIndex interfaces).Pairwise fun i j => i.index < j.index := by
  have hsorted : ((sortByIndex interfaces).map Interface.index).Nodup :=
    ((sortByIndex_perm interfaces).map Interface.index).nodup_iff.mpr hindexes
  have hne : (sortByIndex interfaces).Pairwise fun i j => i.index ≠ j.index :=
    List.pairwise_map.mp hsorted
  exact (pairwise_sortByIndex interfaces).imp₂ (fun _ _ => Nat.lt_of_le_of_ne) hne

/-- Interfaces with distinct indexes have one order by index only. -/
theorem sortByIndex_eq_of_perm {others : List Interface} (hperm : interfaces.Perm others)
    (hindexes : (interfaces.map Interface.index).Nodup) :
    sortByIndex interfaces = sortByIndex others := by
  refine List.Perm.eq_of_pairwise ?_ (pairwise_sortByIndex interfaces) (pairwise_sortByIndex others)
    ((sortByIndex_perm interfaces).trans (hperm.trans (sortByIndex_perm others).symm))
  -- Two interfaces that precede each other share their index, and a host lists only one with it.
  intro i j hi hj hij hji
  have hi' : i ∈ interfaces := mem_sortByIndex.mp hi
  have hj' : j ∈ interfaces := hperm.mem_iff.mpr (mem_sortByIndex.mp hj)
  exact List.inj_on_of_nodup_map hindexes hi' hj' (Nat.le_antisymm hij hji)

/-- **Enumeration order does not matter.** Two hosts that report the same interfaces, with distinct
indexes, in whatever orders, list the same and choose the same default, or fail in the same way.
Without any interface the list is an error. Otherwise it has exactly the interfaces that were
reported, by strictly ascending index. -/
theorem selectDefault_order_free {p q : Platform} (hperm : p.interfaces.Perm q.interfaces)
    (hindexes : (p.interfaces.map Interface.index).Nodup) :
    p.selectDefault = q.selectDefault ∧ p.list = q.list
      ∧ (p.interfaces = [] → p.list = .error .noInterfaces)
      ∧ (p.interfaces ≠ [] → ∃ sorted, p.list = .ok sorted
          ∧ sorted.Pairwise (fun i j => i.index < j.index) ∧ sorted.Perm p.interfaces) := by
  have hlist : p.list = q.list := by
    rw [list, list, hperm.isEmpty_eq, sortByIndex_eq_of_perm hperm hindexes]
  refine ⟨by rw [selectDefault, selectDefault, hlist], hlist, ?_, ?_⟩
  · intro hempty
    rw [list, hempty]
    rfl
  · intro hsome
    refine ⟨sortByIndex p.interfaces, ?_, pairwise_lt_sortByIndex hindexes,
      sortByIndex_perm p.interfaces⟩
    rw [list, if_neg (by rwa [List.isEmpty_iff])]

/-- Two links that tie in score and packets, reported before and behind a loopback. -/
theorem selectDefault_order_free_tie :
    let flags : InterfaceFlags := { up := true, running := true, broadcast := true }
    let loopback : Interface :=
      { name := "lo", index := 1, mtu := 65536, flags := { up := true, loopback := true } }
    let first : Interface := { name := "eth1", index := 2, mtu := 1500, flags }
    let second : Interface := { name := "eth0", index := 5, mtu := 1500, flags }
    let p := replay "host" [second, loopback, first] none []
    let q := replay "host" [first, second, loopback] none []
    p.interfaces.Perm q.interfaces ∧ (p.interfaces.map Interface.index).Nodup
      ∧ p.selectDefault = q.selectDefault ∧ p.selectDefault = .ok first
      ∧ p.list = .ok [loopback, first, second] := by
  intro flags loopback first second p q
  have hperm : p.interfaces.Perm q.interfaces := by decide +kernel
  have hindexes : (p.interfaces.map Interface.index).Nodup := by decide +kernel
  obtain ⟨hsame, -⟩ := selectDefault_order_free hperm hindexes
  exact ⟨hperm, hindexes, hsame, by decide +kernel, rfl⟩

end Platform

end LinkTap
