/-
Drops show in the drop rate.

The drop rate relates the packets dropped to the packets received, and is zero by convention when
nothing was received. A session that drops before it receives would be reported as one without loss.
There is none: a packet is dropped when the queue is full, and every packet that ever entered the
queue was counted as received. So the first drop finds as many packets received as the queue may
hold, which is at least one.

Behind this stand two inequalities that every act keeps. There are never more packets queued than
received, and once something was dropped no fewer packets were received than the queue may hold.
Taking packets from the queue only helps, and so does the end of a session, which empties the queue
and leaves the counters. A start begins afresh on both sides, even one that fails after it opened
its source.
-/
import Mathlib.Algebra.Order.Field.Basic
import Mathlib.Algebra.Order.Ring.Rat
import Mathlib.Data.Nat.Cast.Order.Ring
import LinkTap.Proofs.Session.Acts

set_option autoImplicit false

namespace LinkTap

/-! ## The rule for significant drops -/

namespace Counters

/-- Whether more packets are dropped than `threshold` per cent, in the number system that `ofCount`
maps counts into. -/
def dropsExceed {α : Type} [Div α] [Mul α] [LT α] [DecidableLT α] (ofCount : Nat → α) (c : Counters)
    (threshold : α) : Bool :=
  decide (threshold < percentage ofCount c.dropped c.received)

variable {c : Counters}

/-- The rate is zero only without drops, provided that it is not zero by convention. -/
theorem exactDropRate_eq_zero_iff (h : 0 < c.dropped → 0 < c.received) :
    c.exactDropRate = 0 ↔ c.dropped = 0 := by
  unfold exactDropRate percentage
  by_cases hnone : c.received = 0
  · have hdropped : c.dropped = 0 := by omega
    simp [hnone, hdropped]
  · simp [hnone]

theorem dropsExceed_iff (h : 0 < c.dropped → 0 < c.received) {threshold : Rat}
    (hthreshold : 0 ≤ threshold) :
    c.dropsExceed (fun n => (n : Rat)) threshold = true
      ↔ threshold * c.received < 100 * c.dropped := by
  unfold dropsExceed percentage
  rw [decide_eq_true_iff]
  by_cases hnone : c.received = 0
  · -- Nothing was received, so nothing was dropped, and neither side exceeds the threshold.
    have hdropped : c.dropped = 0 := by omega
    simp [hnone, hdropped, hthreshold]
  · have hreceived : (0 : Rat) < c.received := by
      have := Nat.pos_of_ne_zero hnone
      exact_mod_cast this
    rw [if_neg hnone, div_mul_eq_mul_div, lt_div_iff₀ hreceived, mul_comm (c.dropped : Rat)]
    norm_num

end Counters

theorem Statistics.hasSignificantDrops_eq (s : Statistics) (threshold : Float) :
    s.hasSignificantDrops threshold = s.dropsExceed countToFloat threshold := rfl

/-- A session has room for at least one packet. -/
theorem SessionSettings.queueCapacity_pos {settings : SessionSettings}
    (h : settings.validate = .ok ()) :
    0 < settings.queueCapacity :=
  (validate_eq_ok_iff.mp h).2

namespace Engine

/-! ## The invariant -/

/-- The settings of the session that opened a source last; `last` are those from before the acts. -/
def lastOpened (last : Option SessionSettings) : Engine → List Act → Option SessionSettings
  | _, [] => last
  | e, a :: acts => lastOpened ((e.opening? a).or last) (e.act a) acts

/-- The queue is covered by what was received: packet by packet, and as a whole once something was
dropped. -/
structure Covered (e : Engine) (last : Option SessionSettings) : Prop where
  waiting : e.queue.packets.length ≤ e.counters.received
  full : 0 < e.counters.dropped → e.queue.capacity ≤ e.counters.received
  opened : ∀ settings, last = some settings →
    0 < settings.queueCapacity ∧ e.queue.capacity = settings.queueCapacity
  unopened : last = none → e.session = none ∧ e.counters.dropped = 0

namespace Covered

variable {e e' : Engine} {last : Option SessionSettings}

theorem new : Covered {} none := by
  refine ⟨Nat.le_refl _, ?_, ?_, fun _ => ⟨rfl, rfl⟩⟩
  · intro hdropped
    exact absurd hdropped (Nat.lt_irrefl 0)
  · intro settings hsettings
    cases hsettings

theorem of_opened {settings : SessionSettings} (h : Opened e e' settings) :
    Covered e' (some settings) := by
  refine ⟨?_, ?_, ?_, ?_⟩
  · rw [h.queue]
    exact Nat.zero_le _
  · rw [h.counters]
    intro hdropped
    exact absurd hdropped (Nat.lt_irrefl 0)
  · intro settings' hsame
    rw [← Option.some.inj hsame, h.queue]
    exact ⟨SessionSettings.queueCapacity_pos h.valid, rfl⟩
  · intro hnone
    cases hnone

/-- Packets leave the queue, and the counters of packets stay. -/
theorem of_quiet (h : Covered e last) (hquiet : Quiet e e') : Covered e' last := by
  obtain ⟨more, hcounters⟩ := hquiet.counters
  refine ⟨?_, ?_, ?_, ?_⟩
  · have hwaiting := h.waiting
    have hfewer := hquiet.packets.length_le
    rw [hcounters]
    show e'.queue.packets.length ≤ e.counters.received
    omega
  · rw [hcounters, hquiet.capacity]
    exact h.full
  · rw [hquiet.capacity]
    exact h.opened
  · intro hnone
    obtain ⟨hsession, hdropped⟩ := h.unopened hnone
    refine ⟨?_, by rw [hcounters]; exact hdropped⟩
    -- A quiet act begins no session.
    cases hs' : e'.session with
    | none => rfl
    | some s' =>
      obtain ⟨⟨s, hs, -⟩, -⟩ := hquiet.session s' hs'
      rw [hsession] at hs
      cases hs

/-- An offer that is accepted adds one on both sides. One that is dropped found the queue full, so
that as many packets were received as are queued. -/
theorem of_offer (h : Covered e last) (hsteady : Steady e) {a : Act} {o : Offer}
    (hoffer : e.offer? a = some o) : Covered o.outcome last := by
  obtain ⟨-, hs, -⟩ := hsteady.offer hoffer
  have hlast : last ≠ none := by
    intro hnone
    rw [(h.unopened hnone).1] at hs
    cases hs
  have hwaiting := h.waiting
  rcases hsteady.outcome_cases hoffer with ⟨-, -, houtcome⟩ | ⟨-, hfull, houtcome⟩
  · -- Queue and counter grow together.
    rw [houtcome]
    refine ⟨?_, ?_, h.opened, fun hnone => absurd hnone hlast⟩
    · show (e.queue.packets ++ [o.packet]).length ≤ e.counters.received + 1
      rw [List.length_append, List.length_singleton]
      omega
    · intro hdropped
      have hbefore := h.full hdropped
      show e.queue.capacity ≤ e.counters.received + 1
      omega
  · -- The queue is full, and whatever is queued was received.
    rw [houtcome]
    refine ⟨hwaiting, ?_, h.opened, fun hnone => absurd hnone hlast⟩
    intro _
    show e.queue.capacity ≤ e.counters.received
    omega

theorem act (h : Covered e last) (hsteady : Steady e) (a : Act) :
    Covered (e.act a) ((e.opening? a).or last) := by
  rcases e.act_cases a with ⟨settings, hopening, -, hopened⟩ | ⟨hopening, o, hoffer, hact⟩
    | ⟨hopening, -, hquiet⟩
  · rw [hopening]
    exact of_opened hopened
  · rw [hopening, hact]
    exact h.of_offer hsteady hoffer
  · rw [hopening]
    exact h.of_quiet hquiet

theorem course (h : Covered e last) (hsteady : Steady e) (acts : List Act) :
    Covered (e.course acts) (lastOpened last e acts) := by
  induction acts generalizing e last with
  | nil => exact h
  | cons a acts ih => exact ih (h.act hsteady a) (hsteady.act a)

end Covered

/-! ## Drops are reported -/

/-- **Drops are never hidden.** After any run of a new engine, and at any moment of the acts that
follow it, during and after its sessions: once a packet was dropped, no fewer packets were received
than the queue of the session that opened a source last may hold, and at least one. So the drop rate
is the quotient of the two and not zero by convention. Taken exactly, it is zero only without drops,
and it exceeds a threshold exactly if the packets dropped, taken a hundred times, exceed the packets
received, taken as many times as the threshold says. -/
theorem drops_never_hidden (events : List Event) (acts : List Act) :
    let s := ((run {} events).course acts).statistics
    let last := lastOpened none {} (runActs {} events ++ acts)
    (0 < s.dropped → ∃ settings, last = some settings ∧ settings.queueCapacity ≤ s.received)
      ∧ (0 < s.dropped → 0 < s.received)
      ∧ (0 < s.dropped →
          s.dropRate = countToFloat s.dropped / countToFloat s.received * countToFloat 100)
      ∧ (s.exactDropRate = 0 ↔ s.dropped = 0)
      ∧ (∀ threshold, s.hasSignificantDrops threshold = s.dropsExceed countToFloat threshold)
      ∧ ∀ threshold : Rat, 0 ≤ threshold →
          (s.dropsExceed (fun n => (n : Rat)) threshold = true
            ↔ threshold * s.received < 100 * s.dropped) := by
  intro s last
  have h : Covered ((run {} events).course acts) last := by
    rw [sound_new.run_eq_course, ← course_append]
    exact Covered.new.course steady_new _
  have hcapacity : 0 < s.dropped → ∃ settings, last = some settings
      ∧ 0 < settings.queueCapacity ∧ settings.queueCapacity ≤ s.received := by
    intro hdropped
    have hfull := h.full hdropped
    cases hlast : last with
    | none =>
      have hnothing : s.dropped = 0 := (h.unopened hlast).2
      omega
    | some settings =>
      obtain ⟨hroom, hsame⟩ := h.opened settings hlast
      rw [hsame] at hfull
      exact ⟨settings, rfl, hroom, hfull⟩
  have hreceived : 0 < s.dropped → 0 < s.received := by
    intro hdropped
    obtain ⟨settings, -, hroom, hle⟩ := hcapacity hdropped
    omega
  refine ⟨?_, hreceived, ?_, Counters.exactDropRate_eq_zero_iff hreceived, s.hasSignificantDrops_eq,
    fun threshold => Counters.dropsExceed_iff hreceived⟩
  · intro hdropped
    obtain ⟨settings, hlast, -, hle⟩ := hcapacity hdropped
    exact ⟨settings, hlast, hle⟩
  · intro hdropped
    have hsome := hreceived hdropped
    unfold Counters.dropRate percentage
    rw [if_neg (by omega)]

/-- A session whose queue has room for one packet, and two packets of a block that the consumer
owns. -/
def overfull : List Act :=
  let host := Platform.replay "host"
    [{ name := "eth0", index := 2, mtu := 1500, flags := { up := true } }]
    none [(8, [1, 0, 0, 0])]
  let settings : SessionSettings := { blockSize := 4096, blockCount := 2, queueCapacity := 1 }
  [.whole (.start host ⟨0, 0⟩ "eth0" settings (.ok ())) rfl, .handOn ⟨0, 0⟩ ⟨[1, 2, 3], ⟨5, 6⟩⟩,
    .handOn ⟨0, 0⟩ ⟨[4], ⟨5, 7⟩⟩]

example : (course {} overfull).counters
    = { received := 1, dropped := 1, bytes := 3, last := some ⟨5, 6⟩ } := by decide +kernel

end Engine

end LinkTap
