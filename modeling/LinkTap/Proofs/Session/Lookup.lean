/-
Looking up interfaces on a host whose interfaces can be told apart.

Every lookup takes the first interface that answers to what is asked for. Where names and indexes
are distinct there is at most one, so a lookup finds an interface exactly if it is listed and
answers, and the order of the list does not matter. A text that reads as a numeral asks for an index
and for nothing else, whatever the names are; the laws below therefore speak of a text through its
numeral.
-/
import Mathlib.Data.List.Nodup
import Mathlib.Data.List.Sort
import LinkTap.Session.Platform

set_option autoImplicit false

namespace LinkTap

/-- A search finds exactly the members that pass, if no two of them do. -/
theorem find?_eq_some_iff_of_unique {α : Type} {xs : List α} {q : α → Bool} {x : α}
    (hunique : ∀ y ∈ xs, ∀ z ∈ xs, q y = true → q z = true → y = z) :
    xs.find? q = some x ↔ x ∈ xs ∧ q x = true := by
  constructor
  · intro h
    exact ⟨List.mem_of_find?_eq_some h, List.find?_some h⟩
  · rintro ⟨hx, hq⟩
    cases hfind : xs.find? q with
    | none => exact absurd hq (List.find?_eq_none.mp hfind x hx)
    | some y =>
      have hy : y = x :=
        hunique y (List.mem_of_find?_eq_some hfind) x hx (List.find?_some hfind) hq
      rw [hy]

namespace Platform

/-- Names tell the interfaces apart, and so do indexes, which are positive. -/
structure Distinct (p : Platform) : Prop where
  names : (p.interfaces.map Interface.name).Nodup
  indexes : (p.interfaces.map Interface.index).Nodup
  positive : ∀ i ∈ p.interfaces, 0 < i.index

variable {p : Platform} {i j : Interface}

theorem Distinct.eq_of_name (hp : p.Distinct) (hi : i ∈ p.interfaces) (hj : j ∈ p.interfaces)
    (h : i.name = j.name) : i = j :=
  List.inj_on_of_nodup_map hp.names hi hj h

theorem Distinct.eq_of_index (hp : p.Distinct) (hi : i ∈ p.interfaces) (hj : j ∈ p.interfaces)
    (h : i.index = j.index) : i = j :=
  List.inj_on_of_nodup_map hp.indexes hi hj h

/-! ## By name and by index -/

/-- With names that differ a lookup finds the interface, not just the first one of the name. -/
theorem Distinct.byName_eq_ok_iff (hp : p.Distinct) (name : String) :
    p.byName name = .ok i ↔ name.isEmpty = false ∧ i ∈ p.interfaces ∧ i.name = name := by
  have hfind : (p.interfaces.find? fun j => j.name == name) = some i
      ↔ i ∈ p.interfaces ∧ (i.name == name) = true := by
    refine find?_eq_some_iff_of_unique fun y hy z hz hyn hzn => ?_
    have hyz : y.name = z.name := (beq_iff_eq.mp hyn).trans (beq_iff_eq.mp hzn).symm
    exact hp.eq_of_name hy hz hyz
  rw [beq_iff_eq] at hfind
  rw [← hfind]
  unfold byName
  by_cases hname : name.isEmpty = true
  · rw [if_pos hname, hname]
    simp
  · rw [if_neg hname, Bool.eq_false_iff.mpr hname]
    cases p.interfaces.find? fun j => j.name == name with
    | none => simp
    | some j => simp

/-- With indexes that differ a lookup finds the interface of
the index. None has an index below one. -/
theorem Distinct.byIndex_eq_ok_iff (hp : p.Distinct) (index : Int) :
    p.byIndex index = .ok i ↔ i ∈ p.interfaces ∧ (i.index : Int) = index := by
  have hfind : (p.interfaces.find? fun j => (j.index : Int) == index) = some i
      ↔ i ∈ p.interfaces ∧ ((i.index : Int) == index) = true := by
    refine find?_eq_some_iff_of_unique fun y hy z hz hyi hzi => ?_
    have hyz : (y.index : Int) = z.index := (beq_iff_eq.mp hyi).trans (beq_iff_eq.mp hzi).symm
    exact hp.eq_of_index hy hz (Int.ofNat_inj.mp hyz)
  rw [beq_iff_eq] at hfind
  unfold byIndex
  by_cases hindex : index ≤ 0
  · rw [if_pos hindex]
    refine ⟨fun h => ?_, fun ⟨hi, hii⟩ => ?_⟩
    · cases h
    · have := hp.positive i hi
      omega
  · rw [if_neg hindex, ← hfind]
    cases p.interfaces.find? fun j => (j.index : Int) == index with
    | none => simp
    | some j => simp

/-! ## By text -/

/-- A numeral denotes the interface with that index, any other text the one of that name. -/
theorem Distinct.resolve_eq_ok_iff (hp : p.Distinct) (target : String) :
    p.resolve target = .ok i
      ↔ i ∈ p.interfaces ∧ (∀ n, Numeral.int64? target.toList = some n → (i.index : Int) = n)
        ∧ (Numeral.int64? target.toList = none → target.isEmpty = false ∧ i.name = target) := by
  unfold resolve
  cases Numeral.int64? target.toList with
  | none =>
    dsimp only
    rw [hp.byName_eq_ok_iff]
    constructor
    · rintro ⟨htarget, hi, hname⟩
      exact ⟨hi, fun n hn => (by cases hn), fun _ => ⟨htarget, hname⟩⟩
    · rintro ⟨hi, -, hnamed⟩
      obtain ⟨htarget, hname⟩ := hnamed rfl
      exact ⟨htarget, hi, hname⟩
  | some index =>
    dsimp only
    rw [hp.byIndex_eq_ok_iff]
    simp

/-- What is checked of an interface that was found. -/
theorem validate_of_resolve {target : String} (htarget : target.isEmpty = false)
    (h : p.resolve target = .ok j) :
    p.validate target =
      if j.isUp = false then .error (.interfaceDown j.name)
      else
        match p.privileges with
        | .error err => .error err
        | .ok () =>
          if j.supportsCapture = false then .error (.noCaptureSupport j.name) else .ok j := by
  have hvalidate : p.validate target = (do
      if !j.isUp then throw (Error.interfaceDown j.name)
      p.privileges
      if !j.supportsCapture then throw (Error.noCaptureSupport j.name)
      return j) := by
    unfold validate
    rw [h, htarget]
    rfl
  rw [hvalidate]
  cases j.isUp with
  | false => rfl
  | true =>
    cases p.privileges with
    | error err => rfl
    | ok u =>
      cases j.supportsCapture with
      | false => rfl
      | true => rfl

/-- An interface is valid if it is denoted, up, able to deliver frames, and the caller may capture.
-/
theorem validate_eq_ok_iff (p : Platform) (target : String) :
    p.validate target = .ok i
      ↔ target.isEmpty = false ∧ p.resolve target = .ok i ∧ i.isUp = true ∧ p.privileges = .ok ()
        ∧ i.supportsCapture = true := by
  cases htarget : target.isEmpty with
  | true =>
    have hvalidate : p.validate target = .error emptyName := by
      unfold validate
      rw [htarget]
      rfl
    rw [hvalidate]
    simp
  | false =>
    cases hresolve : p.resolve target with
    | error err =>
      have hvalidate : p.validate target = .error err := by
        unfold validate
        rw [htarget, hresolve]
        rfl
      rw [hvalidate]
      simp
    | ok j =>
      rw [validate_of_resolve htarget hresolve]
      constructor
      · intro h
        split at h
        · cases h
        rename_i hup
        split at h
        · cases h
        rename_i u hprivileges
        split at h
        · cases h
        rename_i hcapture
        cases h
        exact ⟨rfl, rfl, eq_true_of_ne_false hup, hprivileges, eq_true_of_ne_false hcapture⟩
      · rintro ⟨-, h, hup, hprivileges, hcapture⟩
        cases h
        rw [hup, hprivileges, hcapture]
        rfl

end Platform

/-! ## The default interface -/

namespace Interface

/-- The best interface is one of those that were compared. -/
theorem mem_of_best?_eq_some {interfaces : List Interface} {i : Interface}
    (h : best? interfaces = some i) : i ∈ interfaces := by
  cases interfaces with
  | nil => cases h
  | cons first rest =>
    rw [best?, Option.some.injEq] at h
    rw [← h]
    clear h
    induction rest generalizing first with
    | nil => exact List.mem_cons_self ..
    | cons next rest ih =>
      rw [List.foldl_cons]
      -- The better one of the first two goes on, and it is one of them.
      split
      · rcases List.mem_cons.mp (ih first) with h | h
        · rw [h]
          exact List.mem_cons_self ..
        · exact List.mem_cons_of_mem _ (List.mem_cons_of_mem _ h)
      · exact List.mem_cons_of_mem _ (ih next)

/-- The only interface that is up is listed. -/
theorem listed_of_only_up {interfaces : List Interface} {only : Interface}
    (h : interfaces.filter isUp = [only]) : only ∈ interfaces ∧ only.isUp = true := by
  refine List.mem_filter.mp ?_
  rw [h]
  exact List.mem_singleton_self only

/-- Each of the three ways to choose takes an interface of the list. -/
theorem mem_of_selectDefault {interfaces : List Interface} {i : Interface}
    (h : selectDefault interfaces = .ok i) : i ∈ interfaces := by
  unfold selectDefault at h
  split at h
  · rename_i j hbest
    cases h
    exact (List.mem_filter.mp (mem_of_best?_eq_some hbest)).1
  dsimp only at h
  split at h
  · rename_i j hfind
    cases h
    exact (List.mem_filter.mp (List.mem_of_find?_eq_some hfind)).1
  split at h
  · rename_i only hup
    cases h
    exact (listed_of_only_up hup).1
  · cases h

end Interface

namespace Platform

/-! ## Order of the indexes -/

variable {p : Platform} {i : Interface} {interfaces : List Interface}

/-- Insertion by index is the library's ordered insertion. -/
theorem insertByIndex_eq : insertByIndex i interfaces
    = interfaces.orderedInsert (fun i j => i.index ≤ j.index) i := by
  induction interfaces with
  | nil => rfl
  | cons j rest ih => rw [insertByIndex, List.orderedInsert_cons, ih]

theorem sortByIndex_eq : sortByIndex interfaces
    = interfaces.insertionSort fun i j => i.index ≤ j.index := by
  induction interfaces with
  | nil => rfl
  | cons i rest ih =>
    rw [sortByIndex, List.foldr_cons, insertByIndex_eq, List.insertionSort_cons, ← ih]
    rfl

/-- Sorting neither adds nor loses an interface. -/
theorem sortByIndex_perm (interfaces : List Interface) :
    (sortByIndex interfaces).Perm interfaces := by
  rw [sortByIndex_eq]
  exact List.perm_insertionSort _ interfaces

theorem mem_sortByIndex : i ∈ sortByIndex interfaces ↔ i ∈ interfaces :=
  (sortByIndex_perm interfaces).mem_iff

/-- The default interface is one of the host's. -/
theorem mem_of_selectDefault (h : p.selectDefault = .ok i) : i ∈ p.interfaces := by
  unfold selectDefault list at h
  by_cases hempty : p.interfaces.isEmpty = true
  · rw [if_pos hempty] at h
    cases h
  · rw [if_neg hempty] at h
    exact mem_sortByIndex.mp (Interface.mem_of_selectDefault h)

end Platform

end LinkTap
