/-
What the statistics say of the ring.

The ring counts its waiting blocks whenever it is asked, and the engine asks while a session is
active and answers zero at any other time. That the ring it asks is the one of the session, and is
not released, is a matter of the life of sessions: between two acts, also in the middle of a round,
the engine is running over an open source or idle without one.
-/
import LinkTap.Proofs.Ring.Utilization
import LinkTap.Proofs.Session.Acts

set_option autoImplicit false

namespace LinkTap

/-! ## Looks by their reports -/

namespace Ring

variable {r : Ring}

/-- A look that reports a block as consumed, in good order or not, leaves one block less that waits;
any other look leaves the ring alone. -/
theorem WellFormed.userBlocks_of_goesOn (hw : r.WellFormed) :
    (r.process.goesOn = true → r.process.ring.userBlocks.card + 1 = r.userBlocks.card)
      ∧ (r.process.goesOn = false → r.process.ring = r) := by
  rcases hw.process_cases with ⟨-, hlook⟩ | ⟨-, -, hlook⟩ | ⟨-, hready, hlook⟩
  all_goals rw [hlook]
  · exact ⟨fun h => (by cases h), fun _ => rfl⟩
  · exact ⟨fun h => (by cases h), fun _ => rfl⟩
  · rw [Walk.goesOn_outcome]
    exact ⟨fun _ => hw.card_userBlocks_released hready, fun h => (by cases h)⟩

end Ring

namespace Engine

variable {e : Engine}

/-! ## Acts keep sessions in order -/

theorem Orderly.act (h : Orderly e) (a : Act) : Orderly (e.act a) := by
  cases a with
  | whole event hready => exact h.step event
  | handOn now record =>
    cases hoffer : e.offerOf? now record with
    | none =>
      rw [Engine.act, hoffer]
      exact h
    | some o =>
      obtain ⟨ring, hloop, -, -, -, ho⟩ := offerOf?_eq_some hoffer
      have hsome : e.session.isSome := by
        rw [(loop?_eq_some_iff.mp hloop).1]
        rfl
      rw [Engine.act, hoffer, ho]
      exact h.of_undisturbed (undisturbed_deliver hsome ..)
  | giveBack =>
    show Orderly e.giveBack
    unfold giveBack
    cases hloop : e.loop? with
    | none => exact h
    | some loop =>
      obtain ⟨s, ring⟩ := loop
      have hpassed := h.of_undisturbed
        (.setSource (loop?_eq_some_iff.mp hloop).2.2 (Ring.process_closed ring))
      dsimp only
      -- The error of a malformed block is counted, which leaves the order alone.
      split
      · exact ⟨hpassed.phase, hpassed.sources, hpassed.retired, hpassed.waiting⟩
      · exact hpassed

theorem Orderly.course (h : Orderly e) (acts : List Act) : Orderly (e.course acts) := by
  induction acts generalizing e with
  | nil => exact h
  | cons a acts ih => exact ih (h.act a)

/-! ## Statistics -/

/-- While the engine runs, the statistics count the waiting blocks of the source of its session;
while it is idle they show none. -/
theorem Orderly.utilization_cases (h : Orderly e) :
    (e.phase = .running ∧ ∃ source, e.source? = some source ∧ source.closed = false
        ∧ e.statistics.utilization
          = countToFloat source.userBlocks.card / countToFloat source.blockCount)
      ∨ (e.phase = .idle ∧ e.statistics.utilization = 0) := by
  cases hs : e.session with
  | none =>
    refine .inr ⟨h.idle_iff.mpr hs, ?_⟩
    show ((e.activeSource?.map Ring.utilization).getD 0) = 0
    rw [activeSource?, hs]
    rfl
  | some s =>
    have hsome : e.session.isSome = true := by
      rw [hs]
      rfl
    obtain ⟨source, hsource, hopen⟩ := h.exists_source hsome
    refine .inl ⟨h.running_iff.mpr hsome, source, hsource, hopen, ?_⟩
    show ((e.activeSource?.map Ring.utilization).getD 0) = _
    rw [activeSource?, if_pos hsome, hsource, ← Ring.utilization_eq hopen]
    rfl

/-- **Utilisation counts ownership.** In every state of a ring that was created over any memory,
whatever was written into it and however it was used, the utilisation is the number of blocks whose
status word has the user bit set, over that of all blocks; once the ring was released it is zero for
good. A look that consumes a block, be it malformed or not, lowers this number by one, and every
other look changes nothing. A handler in place of a look's answer finds the ring in each of its
calls as it was before the look, so that it counts as many waiting blocks as there were then, and at
least one. After any run of a new engine, and at any moment of the acts that follow it, the engine
is running and its statistics show the utilisation of the open source of its session, or it is idle
and they show zero. -/
theorem utilization_counts_ownership {region : Region} {blockSize blockCount : Nat} {ring : Ring}
    (hring : Ring.create region blockSize blockCount = .ok ring) (events : List Ring.Event)
    (past : List Event) (acts : List Act) :
    let r := ring.run events
    let e := (run {} past).course acts
    (r.blockSize = blockSize ∧ r.blockCount = blockCount ∧ r.userBlocks.card ≤ blockCount)
      ∧ (Ring.Event.close ∉ events →
          r.utilization = countToFloat r.userBlocks.card / countToFloat blockCount)
      ∧ (Ring.Event.close ∈ events → r.utilization = 0)
      ∧ (r.process.goesOn = true → r.process.ring.userBlocks.card + 1 = r.userBlocks.card)
      ∧ (r.process.goesOn = false → r.process.ring = r)
      ∧ (∀ (σ : Type) (handler : Ring → Ring.Record → σ → σ) (seen : σ),
          r.processWith handler seen
            = (r.process.ring, Ring.calls handler r r.process.records seen, r.process.result))
      ∧ r.readings = List.replicate r.process.records.length r.userBlocks.card
      ∧ (∀ count ∈ r.readings, 1 ≤ count)
      ∧ ((e.phase = .running ∧ ∃ source, e.source? = some source ∧ source.closed = false
            ∧ e.statistics.utilization
              = countToFloat source.userBlocks.card / countToFloat source.blockCount)
          ∨ (e.phase = .idle ∧ e.statistics.utilization = 0)) := by
  intro r e
  obtain ⟨hw, hsize, hcount⟩ := Ring.run_of_create hring events
  change r.WellFormed at hw
  change r.blockSize = blockSize at hsize
  change r.blockCount = blockCount at hcount
  -- A new ring is open, so only the events can have released it.
  have hclosed : r.closed = true ↔ Ring.Event.close ∈ events := by
    have hnew : ring.closed = false := by
      rw [(Ring.create_eq_ok hring).1]
    show (ring.run events).closed = true ↔ _
    rw [Ring.closed_run_iff, hnew]
    simp
  have ho : Orderly e := (Orderly.new.run past).course acts
  subst hsize hcount
  refine ⟨⟨rfl, rfl, r.card_userBlocks_le⟩, ?_, ?_,
    hw.userBlocks_of_goesOn.1, hw.userBlocks_of_goesOn.2,
    fun σ handler seen => r.processWith_eq handler seen, r.readings_eq,
    fun _ => hw.pos_of_mem_readings, ho.utilization_cases⟩
  · intro hopen
    rw [← hclosed, Bool.not_eq_true] at hopen
    exact Ring.utilization_eq hopen
  · intro hreleased
    exact Ring.utilization_of_closed (hclosed.mpr hreleased)

/-- A ring whose two blocks both wait, the first one with a record, and a session over a ring like
it. -/
theorem utilization_counts_ownership_bothWait :
    let ring : Ring := ⟨Region.zeroed 8192, 4096, 2, 0, false⟩
    let writes : List (Nat × Bytes) :=
      [(12, [1, 0, 0, 0, 48]), (60, [1]), (72, [48]), (96, [7]), (8, [1]), (4104, [3])]
    let events := writes.map fun w => Ring.Event.write w.1 w.2
    let host := Platform.replay "host"
      [{ name := "eth0", index := 2, mtu := 1500, flags := { up := true } }] none writes
    let past : List Event :=
      [.start host ⟨0, 0⟩ "eth0" { blockSize := 4096, blockCount := 2 } (.ok ())]
    Ring.create (Region.zeroed 8192) 4096 2 = .ok ring
      ∧ (ring.run events).utilization = countToFloat 2 / countToFloat 2
      ∧ (ring.run events).readings = [2]
      ∧ (ring.run events).process.ring.userBlocks.card = 1
      ∧ ((run {} past).course [.giveBack]).statistics.utilization
        = countToFloat 1 / countToFloat 2 := by
  intro ring writes events host past
  have hring : Ring.create (Region.zeroed 8192) 4096 2 = .ok ring := rfl
  have hopen : Ring.Event.close ∉ events := by decide +kernel
  have hcard : (ring.run events).userBlocks.card = 2 := by decide +kernel
  have hrecords : (ring.run events).process.records.length = 1 := by decide +kernel
  have hgoesOn : (ring.run events).process.goesOn = true := by decide +kernel
  obtain ⟨-, hshare, -, hless, -, -, hreadings, -, hsession⟩ :=
    utilization_counts_ownership hring events past [.giveBack]
  rw [hcard] at hshare hless hreadings
  rw [hrecords] at hreadings
  refine ⟨hring, hshare hopen, hreadings, Nat.succ.inj (hless hgoesOn), ?_⟩
  have hrunning : ((run {} past).course [.giveBack]).phase = .running := by decide +kernel
  have hblocks : (((run {} past).course [.giveBack]).source?.map
      fun source => (source.userBlocks.card, source.blockCount)) = some (1, 2) := by decide +kernel
  rcases hsession with ⟨-, source, hsource, -, hstatistics⟩ | ⟨hidle, -⟩
  · rw [hsource, Option.map_some, Option.some.injEq, Prod.mk.injEq] at hblocks
    rw [hstatistics, hblocks.1, hblocks.2]
  · rw [hrunning] at hidle
    cases hidle

end Engine

end LinkTap
