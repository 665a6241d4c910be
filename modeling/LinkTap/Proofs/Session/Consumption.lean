/-
How many packets a consumer takes.

A consumer goes through turns. In each turn it first looks whether it was told to stop, then makes
one attempt to receive, and counts what the attempt brings; the limit is looked at after a packet
was counted. So three things end it, at three different places of a turn, and what it took is
settled by whichever comes first.

Seen from the queue the matter is simpler: there are the packets that come before the queue is
disconnected, and of these the ones that come before the first turn in which the consumer is told to
stop. A consumer without a limit takes exactly the latter. A consumer with a limit takes the first
ones of them, as many as the limit says, but one at least: since nothing is compared with the limit
before a packet was taken, a limit of zero works as a limit of one.
-/
import Mathlib.Data.List.TakeWhile
import LinkTap.Session.Monitor

set_option autoImplicit false

namespace LinkTap

namespace Consumer

/-! ## Turns -/

/-- What a consumer meets in one turn. -/
structure Turn where
  /-- Whether it is told to stop when it looks. -/
  shutdown : Bool
  /-- What an attempt to receive would bring. -/
  reception : Reception
  deriving DecidableEq, Repr

/-- One turn. A consumer that has come to its end makes no attempt. -/
def turn (c : Consumer) (t : Turn) : Consumer :=
  let observed := c.observe t.shutdown
  if observed.finished then observed else observed.handle t.reception

/-- The consumer after a list of turns. -/
def run (c : Consumer) (turns : List Turn) : Consumer := turns.foldl turn c

/-- The packets that come before the queue is disconnected. -/
def delivered : List Turn → List Packet
  | [] => []
  | t :: turns =>
    match t.reception with
    | .packet p => p :: delivered turns
    | .empty => delivered turns
    | .disconnected => []

/-- The packets that come before the queue is disconnected and before the consumer is told to stop.
-/
def offered (turns : List Turn) : List Packet := delivered (turns.takeWhile fun t => !t.shutdown)

/-- Whether the queue is disconnected or the consumer told to stop. -/
def ended (turns : List Turn) : Bool :=
  turns.any fun t => t.shutdown || t.reception == .disconnected

/-- How many more packets a consumer takes that has not come to its end. -/
def room (c : Consumer) : Option Nat := c.limit.map fun n => max 1 (n - c.processed)

/-- The packets that a consumer takes of those that come. -/
def share (c : Consumer) (packets : List Packet) : List Packet :=
  match c.room with
  | some k => packets.take k
  | none => packets

/-- Whether the packets that come are as many as the consumer takes. -/
def Sated (c : Consumer) (packets : List Packet) : Prop := ∃ k, c.room = some k ∧ k ≤ packets.length

variable {c : Consumer} {p : Packet}

/-! ## One turn -/

theorem observe_of_finished (h : c.finished = true) (shutdown : Bool) : c.observe shutdown = c := by
  unfold observe
  split
  · rw [← h]
  · rfl

theorem turn_of_finished (h : c.finished = true) (t : Turn) : c.turn t = c := by
  unfold turn
  rw [observe_of_finished h]
  dsimp only
  rw [if_pos h]

/-- A consumer that has come to its end stays as it is. -/
theorem run_of_finished (h : c.finished = true) (turns : List Turn) : c.run turns = c := by
  induction turns with
  | nil => rfl
  | cons t turns ih =>
    rw [run, List.foldl_cons, turn_of_finished h]
    exact ih

theorem turn_of_stop (c : Consumer) (r : Reception) :
    c.turn ⟨true, r⟩ = { c with finished := true } := by
  simp [turn, observe]

theorem turn_of_attempt (h : c.finished = false) (r : Reception) :
    c.turn ⟨false, r⟩ = c.handle r := by
  simp [turn, observe, h]

/-! ## What is left to take -/

theorem reached_iff_room : c.reached (c.processed + 1) = true ↔ c.room = some 1 := by
  unfold reached room
  cases c.limit with
  | none => simp
  | some n =>
    simp only [decide_eq_true_eq, Option.map_some, Option.some.injEq]
    omega

theorem share_nil (c : Consumer) : c.share [] = [] := by
  unfold share
  split
  · exact List.take_nil
  · rfl

theorem sated_nil (c : Consumer) : ¬ c.Sated [] := by
  rintro ⟨k, hk, hle⟩
  obtain ⟨n, -, rfl⟩ := Option.map_eq_some_iff.mp hk
  rw [List.length_nil] at hle
  omega

/-- With the last packet that the limit allows nothing is left to take. -/
theorem share_of_reached (h : c.reached (c.processed + 1) = true) (packets : List Packet) :
    c.share (p :: packets) = [p] ∧ c.Sated (p :: packets) := by
  have hroom := reached_iff_room.mp h
  refine ⟨?_, 1, hroom, ?_⟩
  · rw [share, hroom]
    rfl
  · rw [List.length_cons]
    omega

/-- A packet short of the limit leaves one less to take. -/
theorem room_take (h : c.reached (c.processed + 1) = false) :
    c.room = (c.take p).room.map (· + 1) := by
  have hcount : (c.take p).processed = c.processed + 1 := by
    simp only [processed, take, List.length_append, List.length_singleton]
  have hlimit : (c.take p).limit = c.limit := rfl
  unfold reached at h
  unfold room
  rw [hcount, hlimit]
  cases hn : c.limit with
  | none => rfl
  | some n =>
    rw [hn] at h
    simp only [decide_eq_false_iff_not] at h
    simp only [Option.map_some, Option.some.injEq]
    omega

theorem share_of_not_reached (h : c.reached (c.processed + 1) = false) (packets : List Packet) :
    c.share (p :: packets) = p :: (c.take p).share packets
      ∧ (c.Sated (p :: packets) ↔ (c.take p).Sated packets) := by
  have hroom := room_take (p := p) h
  unfold share Sated
  rw [hroom]
  cases (c.take p).room with
  | none => simp
  | some k => simp

/-! ## All turns -/

theorem run_cons (c : Consumer) (t : Turn) (turns : List Turn) :
    c.run (t :: turns) = (c.turn t).run turns := rfl

theorem offered_cons (t : Turn) (turns : List Turn) :
    offered (t :: turns) =
      if t.shutdown then []
      else
        match t.reception with
        | .packet p => p :: offered turns
        | .empty => offered turns
        | .disconnected => [] := by
  obtain ⟨shutdown, reception⟩ := t
  cases shutdown with
  | true => rfl
  | false => cases reception <;> rfl

theorem ended_cons (t : Turn) (turns : List Turn) :
    ended (t :: turns) = (t.shutdown || t.reception == .disconnected || ended turns) := rfl

/-- What a consumer takes and when it comes to its end, whatever it took before and whatever it
meets. The induction is on the turns, for all consumers that have not come to their end. -/
theorem run_of_not_finished (h : c.finished = false) (turns : List Turn) :
    (c.run turns).taken = c.taken ++ c.share (offered turns)
      ∧ ((c.run turns).finished = true ↔ ended turns = true ∨ c.Sated (offered turns)) := by
  have hend : ∀ later, ({ c with finished := true } : Consumer).run later
      = { c with finished := true } :=
    run_of_finished rfl
  induction turns generalizing c with
  | nil =>
    refine ⟨?_, ?_⟩
    · rw [show offered [] = [] from rfl, share_nil, List.append_nil]
      rfl
    · simp [run, h, ended, show offered [] = [] from rfl, sated_nil]
  | cons t turns ih =>
    obtain ⟨shutdown, reception⟩ := t
    rw [run_cons, offered_cons, ended_cons]
    by_cases hstop : shutdown = true
    · -- Whatever would still come, the consumer does not look at it.
      subst hstop
      rw [turn_of_stop, hend]
      simp [share_nil]
    rw [Bool.not_eq_true] at hstop
    subst hstop
    rw [turn_of_attempt h]
    cases reception with
    | packet p =>
      show ((c.take p).run turns).taken = c.taken ++ c.share (p :: offered turns)
        ∧ (((c.take p).run turns).finished = true
          ↔ ended turns = true ∨ c.Sated (p :: offered turns))
      -- The limit is looked at with the packet counted in, so that the packet is taken either way.
      by_cases hreached : c.reached (c.processed + 1) = true
      · obtain ⟨hshare, hsated⟩ := share_of_reached (p := p) hreached (offered turns)
        rw [run_of_finished (c := c.take p) hreached, hshare]
        exact ⟨rfl, fun _ => .inr hsated, fun _ => hreached⟩
      · rw [Bool.not_eq_true] at hreached
        obtain ⟨hshare, hsated⟩ := share_of_not_reached (p := p) hreached (offered turns)
        obtain ⟨htaken, hfinished⟩ := ih (c := c.take p) hreached (run_of_finished rfl)
        rw [htaken, hshare, hsated, take, List.append_assoc, List.singleton_append]
        exact ⟨rfl, hfinished⟩
    | empty => exact ih h hend
    | disconnected =>
      rw [handle, hend]
      simp [share_nil]

/-! ## Turns of a queue and of a capture run -/

/-- What a consumer meets at a queue that holds the given packets and that nothing more comes to. -/
def turnsAt (shutdown : Bool) (packets : List Packet) : List Turn :=
  packets.map (fun p => ⟨shutdown, .packet p⟩) ++ [⟨shutdown, .disconnected⟩]

theorem exhaust_of_finished (h : c.finished = true) (shutdown : Bool) (packets : List Packet) :
    c.exhaust shutdown packets = (c, packets) := by
  cases packets with
  | nil => rw [exhaust, observe_of_finished h, handle, ← h]
  | cons p packets => rw [exhaust, observe_of_finished h, if_pos h]

/-- To consume what is left in such a queue is to take turns at it. The packets that are not taken
stay in the queue. -/
theorem exhaust_eq_run (h : c.finished = false) (shutdown : Bool) (packets : List Packet) :
    (c.exhaust shutdown packets).1 = c.run (turnsAt shutdown packets)
      ∧ (c.exhaust shutdown packets).1.taken ++ (c.exhaust shutdown packets).2
          = c.taken ++ packets := by
  induction packets generalizing c with
  | nil =>
    unfold exhaust turnsAt run
    cases shutdown <;> simp [observe, turn, handle, h]
  | cons p packets ih =>
    have hturns : turnsAt shutdown (p :: packets)
        = ⟨shutdown, .packet p⟩ :: turnsAt shutdown packets := rfl
    rw [hturns, run_cons, exhaust]
    by_cases hstop : shutdown = true
    · subst hstop
      rw [turn_of_stop, run_of_finished rfl]
      simp [observe]
    · rw [Bool.not_eq_true] at hstop
      subst hstop
      have hobserve : c.observe false = c := rfl
      rw [turn_of_attempt h, hobserve, h, if_neg Bool.false_ne_true]
      by_cases hreached : (c.take p).finished = true
      · rw [exhaust_of_finished hreached, handle, run_of_finished hreached]
        simp [take]
      · rw [Bool.not_eq_true] at hreached
        obtain ⟨hrun, htaken⟩ := ih hreached
        refine ⟨hrun, ?_⟩
        rw [htaken, take, List.append_assoc, List.singleton_append]

end Consumer

/-- An attempt of the consumer of a capture run is a turn. -/
theorem Monitor.consumer_consume (m : Monitor) :
    m.consume.consumer = m.consumer.turn ⟨m.shutdown, (m.engine.receive m.receiver).2⟩ := by
  unfold consume Consumer.turn
  dsimp only
  split <;> rfl

/-- The consumer of a capture run does nothing but take turns. -/
theorem Monitor.consumer_run (m : Monitor) (events : List Event) :
    ∃ turns, (m.run events).consumer = m.consumer.run turns := by
  induction events generalizing m with
  | nil => exact ⟨[], rfl⟩
  | cons event events ih =>
    obtain ⟨turns, hturns⟩ := ih (m.step event)
    have hrun : m.run (event :: events) = (m.step event).run events := rfl
    have hfinish : m.finish.consumer = m.consumer := by
      unfold finish
      split
      · rfl
      · split <;> rfl
    rw [hrun, hturns]
    cases event with
    | consume => exact ⟨_ :: turns, by rw [Consumer.run_cons, ← m.consumer_consume]; rfl⟩
    | receive now wait => exact ⟨turns, rfl⟩
    | write offset data => exact ⟨turns, rfl⟩
    | report now usage => exact ⟨turns, rfl⟩
    | conclude =>
      refine ⟨turns, ?_⟩
      rw [step]
      split
      · rw [hfinish]
      · rfl
    | interrupt => exact ⟨turns, by rw [step, hfinish]⟩

namespace Consumer

/-! ## The limit -/

/-- Packets that come before anything ends the consumer are all the packets that are delivered,
unless it is told to stop. -/
theorem offered_of_not_stopped {turns : List Turn} (h : ∀ t ∈ turns, t.shutdown = false) :
    offered turns = delivered turns := by
  rw [offered, List.takeWhile_eq_self_iff.mpr]
  intro t ht
  rw [h t ht]
  rfl

/-- **A consumer takes what its limit allows, but one packet at least.** Whatever a new consumer
meets in its turns: with a limit it takes the first packets of those that come before it is told to
stop and before the queue is disconnected, as many as the limit says and no fewer than one; it is at
its end exactly if it took that many, was told to stop, or found the queue disconnected. So it
exceeds its limit exactly if the limit is zero and a packet comes, and if it is never told to stop
and enough packets are delivered it ends with as many as a positive limit says. Without a limit it
takes all packets that come before it is told to stop and before the queue is disconnected, and is
at its end exactly if one of these happened. The consumer of a queue that nothing more comes to, and
the one of a capture run, take such turns. -/
theorem takes_what_limit_allows (snapLength : Nat) :
    (∀ (n : Nat) (turns : List Turn),
      let c := ({ snapLength, limit := some n } : Consumer).run turns
      c.taken = (offered turns).take (max 1 n)
        ∧ c.processed = min (max 1 n) (offered turns).length
        ∧ (c.finished = true ↔ ended turns = true ∨ max 1 n ≤ (offered turns).length)
        ∧ (n < c.processed ↔ n = 0 ∧ offered turns ≠ [])
        ∧ (0 < n → (∀ t ∈ turns, t.shutdown = false) → n ≤ (delivered turns).length →
            c.processed = n ∧ c.finished = true))
      ∧ (∀ turns : List Turn,
          let c := ({ snapLength, limit := none } : Consumer).run turns
          c.taken = offered turns ∧ c.processed = (offered turns).length
            ∧ (c.finished = true ↔ ended turns = true))
      ∧ (∀ (limit : Option Nat) (shutdown : Bool) (packets : List Packet),
          let c : Consumer := { snapLength, limit }
          (c.exhaust shutdown packets).1 = c.run (turnsAt shutdown packets)
            ∧ (c.exhaust shutdown packets).1.taken ++ (c.exhaust shutdown packets).2 = packets)
      ∧ ∀ (m : Monitor) (events : List Monitor.Event),
          ∃ turns, (m.run events).consumer = m.consumer.run turns := by
  refine ⟨?_, ?_, ?_, Monitor.consumer_run⟩
  · intro n turns c
    let new : Consumer := { snapLength, limit := some n }
    have hroom : new.room = some (max 1 n) := rfl
    obtain ⟨htaken, hfinished⟩ := run_of_not_finished (c := new) rfl turns
    have hshare : new.share (offered turns) = (offered turns).take (max 1 n) := by
      rw [share, hroom]
    have hsated : new.Sated (offered turns) ↔ max 1 n ≤ (offered turns).length := by
      simp [Sated, hroom]
    have hc : c.taken = (offered turns).take (max 1 n) := by
      rw [← hshare]
      exact htaken
    have hprocessed : c.processed = min (max 1 n) (offered turns).length := by
      rw [processed, hc, List.length_take]
    rw [hsated] at hfinished
    refine ⟨hc, hprocessed, hfinished, ?_, ?_⟩
    · rw [hprocessed, ← List.length_pos_iff]
      omega
    · intro hn hnever hmany
      rw [← offered_of_not_stopped hnever] at hmany
      exact ⟨by omega, hfinished.mpr (.inr (by omega))⟩
  · intro turns c
    let new : Consumer := { snapLength, limit := none }
    have hroom : new.room = none := rfl
    obtain ⟨htaken, hfinished⟩ := run_of_not_finished (c := new) rfl turns
    have hc : c.taken = offered turns := htaken
    have hsated : ¬ new.Sated (offered turns) := by
      simp [Sated, hroom]
    refine ⟨hc, ?_, ?_⟩
    · rw [processed, hc]
    · rw [← or_iff_left (a := ended turns = true) hsated]
      exact hfinished
  · intro limit shutdown packets c
    exact exhaust_eq_run rfl shutdown packets

/-- With a limit of zero a consumer takes the packet of a queue that holds one. -/
theorem limit_zero_takes_a_packet :
    let p : Packet := ⟨⟨0, 0⟩, 1, [0]⟩
    let c : Consumer := { snapLength := 65535, limit := some 0 }
    ¬ (c.run (turnsAt false [p])).processed ≤ 0
      ∧ (c.exhaust false [p]).1.processed = 1 ∧ (c.exhaust false [p]).2 = [] := by
  decide

end Consumer

end LinkTap
