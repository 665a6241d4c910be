/-
Reports and deliveries.

A session reports to the installed sink once for each packet that it puts into its queue. Which sink
that is may change between any two packets, and other things happen in between: packets are dropped,
waits fail, blocks turn out malformed, sessions end and new ones begin. So the reports are held here
against the deliveries of a whole course, the offers that were accepted, in order.

What a report says is put together from two sources. The counters are those of the moment right
after the packet was counted. The utilisation is read off the ring while the block of the packet is
still at the cursor and still the consumer's, with the blocks before it given back already; it
therefore counts that block, and is at least the share of one block.

Two deliveries of one session that follow each other have nothing but drops and errors between them.
This is carried by an invariant between an engine and a delivery that it made: while the session
lasts, the packets counted since the delivery are none, and drops and errors have grown at most.
-/
import Mathlib.Data.List.Chain
import LinkTap.Proofs.Ring.Utilization
import LinkTap.Proofs.Session.Acts

set_option autoImplicit false

namespace LinkTap

namespace Engine

variable {e : Engine} {a : Act} {o : Offer}

/-! ## Deliveries -/

/-- The offer of an act, if it is accepted. -/
def delivery? (e : Engine) (a : Act) : Option Offer := (e.offer? a).filter fun o => !o.dropped

/-- The offers that were accepted along a course, in order. -/
def deliveries : Engine → List Act → List Offer
  | _, [] => []
  | e, a :: acts => (e.delivery? a).toList ++ deliveries (e.act a) acts

theorem delivery?_eq_some_iff :
    e.delivery? a = some o ↔ e.offer? a = some o ∧ o.dropped = false := by
  unfold delivery?
  rw [Option.filter_eq_some_iff, Bool.not_eq_true']

/-- What a sink gets to see from outside the session. -/
def Act.rearrange : Act → Metrics.Sinks → Metrics.Sinks
  | .whole (.installSink target) _, sinks => { sinks with installed := target }
  | .whole .takeJournal _, sinks => { sinks with journal := [] }
  | .whole (.setGauge gauge) _, sinks => { sinks with gauge }
  | _, sinks => sinks

/-- A packet that is delivered goes to the end of the queue, counts as received, and is reported
once. -/
theorem Steady.act_of_delivery (h : Steady e) (ho : e.delivery? a = some o) :
    (e.act a).queue = { e.queue with packets := e.queue.packets ++ [o.packet] }
      ∧ (e.act a).counters = e.counters.countPacket o.record.payload.length o.record.time
      ∧ (e.act a).sinks = e.sinks.send o.now o.update ∧ e.act a = o.outcome := by
  obtain ⟨hoffer, haccepted⟩ := delivery?_eq_some_iff.mp ho
  rcases e.act_cases a with ⟨settings, -, hnone, -⟩ | ⟨-, o', ho', hact⟩ | ⟨-, hnone, -⟩
  · rw [hoffer] at hnone
    cases hnone
  · obtain rfl := Option.some.inj (hoffer.symm.trans ho')
    rcases h.outcome_cases hoffer with ⟨-, -, houtcome⟩ | ⟨hdropped, -, -⟩
    · rw [hact, houtcome]
      exact ⟨rfl, rfl, rfl, rfl⟩
    · rw [haccepted] at hdropped
      cases hdropped
  · rw [hoffer] at hnone
    cases hnone

theorem sinks_step (e : Engine) {event : Event} (hready : event.readyAt? = none) :
    (e.step event).sinks = (Act.whole event hready).rearrange e.sinks := by
  cases event with
  | start platform now target settings thread =>
    show (e.start platform now target settings thread).1.sinks = e.sinks
    rcases e.start_cases platform now target settings thread with
      ⟨-, hstart⟩ | ⟨-, err, -, hstart⟩ | ⟨-, i, ring, -, ⟨err, -, hstart⟩ | ⟨-, hstart⟩⟩
    all_goals rw [hstart]
  | stop =>
    show e.stop.1.sinks = e.sinks
    rcases e.stop_cases with ⟨-, hstop⟩ | ⟨-, hstop⟩
    all_goals rw [hstop]
  | round now wait =>
    show (e.round now wait).sinks = e.sinks
    unfold round
    split
    · rfl
    split
    · rfl
    cases wait with
    | ready => cases hready
    | _ => rfl
  | write offset data =>
    show ((e.writeMemory offset data).getD e).sinks = e.sinks
    rcases e.write_cases offset data with hwrite | ⟨ring, region, -, -, hwrite⟩
    · rw [hwrite]
    · rw [hwrite]
      rfl
  | receive receiver =>
    show (e.receive receiver).1.sinks = e.sinks
    rcases e.receive_cases receiver with ⟨-, ⟨p, rest, -, hreceive⟩ | ⟨-, hreceive⟩⟩
      | ⟨-, ⟨p, retired, -, hreceive⟩ | ⟨-, hreceive⟩⟩
    all_goals rw [hreceive]
  | installSink target => rfl
  | takeJournal => rfl
  | setGauge gauge => rfl

/-- Without a delivery nothing is put into the queue, and no report goes out. -/
theorem Steady.act_of_no_delivery (h : Steady e) (hnone : e.delivery? a = none) :
    (e.act a).queue.packets <:+ e.queue.packets ∧ (e.act a).sinks = a.rearrange e.sinks := by
  have hdrop : ∀ o, e.offer? a = some o →
      o.outcome = { e with counters := e.counters.countDrop } := by
    intro o hoffer
    rcases h.outcome_cases hoffer with ⟨haccepted, -, -⟩ | ⟨-, -, houtcome⟩
    · rw [delivery?_eq_some_iff.mpr ⟨hoffer, haccepted⟩] at hnone
      cases hnone
    · exact houtcome
  refine ⟨?_, ?_⟩
  · rcases e.act_cases a with ⟨settings, -, -, hopened⟩ | ⟨-, o, hoffer, hact⟩ | ⟨-, -, hquiet⟩
    · rw [hopened.queue]
      exact List.nil_suffix
    · simp only [hact, hdrop o hoffer, List.suffix_refl]
    · exact hquiet.packets
  · cases a with
    | whole event hready => exact sinks_step e hready
    | handOn now record =>
      cases hoffer : e.offerOf? now record with
      | none =>
        rw [Engine.act, hoffer]
        rfl
      | some o =>
        rw [Engine.act, hoffer]
        show o.outcome.sinks = e.sinks
        rw [hdrop o hoffer]
    | giveBack =>
      show e.giveBack.sinks = e.sinks
      unfold giveBack
      split
      · rfl
      · dsimp only
        split <;> rfl

/-! ## The journal -/

/-- The reports that an act takes out of the journal. -/
def taken (e : Engine) : Act → List Metrics.Update
  | .whole .takeJournal _ => e.takeJournal.2
  | _ => []

/-- The reports that reached the journal, in order: those taken out of it along a course and those
that are left in it. -/
def journaled : Engine → List Act → List Metrics.Update
  | e, [] => e.sinks.journal
  | e, a :: acts => e.taken a ++ journaled (e.act a) acts

/-- The deliveries that found the journal installed. -/
def toJournal (offers : List Offer) : List Offer :=
  offers.filter fun o => o.engine.sinks.installed == some .journal

theorem taken_append_journal (e : Engine) (a : Act) :
    e.taken a ++ (a.rearrange e.sinks).journal = e.sinks.journal := by
  unfold taken Act.rearrange
  split
  · exact List.append_nil _
  · split <;> simp_all

theorem Steady.taken_append_journal_act (h : Steady e) (a : Act) :
    e.taken a ++ (e.act a).sinks.journal
      = e.sinks.journal ++ (toJournal (e.delivery? a).toList).map Offer.update := by
  cases ho : e.delivery? a with
  | none =>
    rw [(h.act_of_no_delivery ho).2, taken_append_journal]
    exact (List.append_nil _).symm
  | some o =>
    have hengine := (h.offer (delivery?_eq_some_iff.mp ho).1).1
    have htaken : e.taken a = [] := by
      unfold taken
      split
      · cases ho
      · rfl
    rw [htaken, (h.act_of_delivery ho).2.2.1, List.nil_append, toJournal, Option.toList_some,
      List.filter_cons, hengine]
    unfold Metrics.Sinks.send
    cases e.sinks.installed with
    | none => exact (List.append_nil _).symm
    | some target =>
      cases target with
      | journal => rfl
      | gauge => exact (List.append_nil _).symm

theorem Steady.journaled_eq (h : Steady e) (acts : List Act) :
    journaled e acts
      = e.sinks.journal ++ (toJournal (deliveries e acts)).map Offer.update := by
  induction acts generalizing e with
  | nil => exact (List.append_nil _).symm
  | cons a acts ih =>
    rw [journaled, ih (h.act a), ← List.append_assoc, h.taken_append_journal_act, deliveries,
      toJournal, toJournal, toJournal, List.filter_append, List.map_append, List.append_assoc]

/-! ## What a report says -/

/-- The report of a delivery carries the counters right after the packet was counted, and the
utilisation of a ring whose block at the cursor is the consumer's. -/
structure Offer.Reported (o : Offer) : Prop where
  counters : o.update.statistics.toCounters
    = o.engine.counters.countPacket o.packet.data.length o.packet.time
  utilization : ∃ ring, o.engine.source? = some ring ∧ ring.closed = false ∧ ring.WellFormed
    ∧ ring.ready ring.cursor = true ∧ o.update.statistics.utilization = ring.utilization

theorem Steady.reported (h : Steady e) (ho : e.delivery? a = some o) : o.Reported := by
  obtain ⟨hoffer, -⟩ := delivery?_eq_some_iff.mp ho
  obtain ⟨hengine, -⟩ := h.offer hoffer
  obtain ⟨-, hcounters, -, hact⟩ := h.act_of_delivery ho
  refine ⟨?_, ?_⟩
  · show o.outcome.counters = _
    rw [← hact, hcounters, hengine]
    rfl
  · cases a with
    | handOn now record =>
      obtain ⟨ring, hloop, hopen, hready, -, hsame⟩ := offerOf?_eq_some hoffer
      have hring := (loop?_eq_some_iff.mp hloop).2.2
      refine ⟨ring, ?_, hopen, h.sound.source hring, hready, ?_⟩
      · rw [hengine]
        exact hring
      · rw [hsame]
        rfl
    | whole event hready => cases hoffer
    | giveBack => cases hoffer

theorem Steady.reported_of_mem (h : Steady e) {acts : List Act} (ho : o ∈ deliveries e acts) :
    o.Reported := by
  induction acts generalizing e with
  | nil => cases ho
  | cons a acts ih =>
    rw [deliveries, List.mem_append, Option.mem_toList] at ho
    rcases ho with hfirst | hlater
    · exact h.reported hfirst
    · exact ih (h.act a) hlater

/-! ## One delivery after the other -/

/-- Of two deliveries of one session, the second one counts one packet more, and drops and errors
have not become fewer. -/
def Offer.Precedes (o o' : Offer) : Prop :=
  o.session.generation = o'.session.generation →
    o'.update.statistics.received = o.update.statistics.received + 1
      ∧ o'.update.statistics.bytes = o.update.statistics.bytes + o'.packet.data.length
      ∧ o.update.statistics.dropped ≤ o'.update.statistics.dropped
      ∧ o.update.statistics.errors ≤ o'.update.statistics.errors

/-- No packet was counted since the delivery, unless another session began. -/
structure Since (o : Offer) (e : Engine) : Prop where
  generation : o.session.generation ≤ e.queue.generation
  counters : o.session.generation = e.queue.generation →
    e.counters.received = o.update.statistics.received
      ∧ e.counters.bytes = o.update.statistics.bytes
      ∧ o.update.statistics.dropped ≤ e.counters.dropped
      ∧ o.update.statistics.errors ≤ e.counters.errors

theorem Steady.since_delivery (h : Steady e) (ho : e.delivery? a = some o) : Since o (e.act a) := by
  obtain ⟨-, -, -, hgeneration⟩ := h.offer (delivery?_eq_some_iff.mp ho).1
  obtain ⟨hqueue, -, -, hact⟩ := h.act_of_delivery ho
  refine ⟨?_, ?_⟩
  · rw [hqueue]
    exact Nat.le_of_eq hgeneration
  · intro _
    rw [hact]
    exact ⟨rfl, rfl, Nat.le_refl _, Nat.le_refl _⟩

theorem Since.act (hsince : Since o e) (h : Steady e) (hnone : e.delivery? a = none) :
    Since o (e.act a) := by
  obtain ⟨hgeneration, hcounters⟩ := hsince
  rcases e.act_cases a with ⟨settings, -, -, hopened⟩ | ⟨-, o', hoffer, hact⟩ | ⟨-, -, hquiet⟩
  · -- The queue of another session is in place now.
    have hlater : (e.act a).queue.generation = e.queue.generation + 1 := by
      rw [hopened.queue]
      rfl
    refine ⟨by omega, ?_⟩
    intro hsame
    omega
  · rcases h.outcome_cases hoffer with ⟨haccepted, -, -⟩ | ⟨-, -, houtcome⟩
    · rw [delivery?_eq_some_iff.mpr ⟨hoffer, haccepted⟩] at hnone
      cases hnone
    · rw [hact, houtcome]
      refine ⟨hgeneration, ?_⟩
      intro hsame
      obtain ⟨hreceived, hbytes, hdropped, herrors⟩ := hcounters hsame
      exact ⟨hreceived, hbytes, Nat.le_succ_of_le hdropped, herrors⟩
  · obtain ⟨more, hmore⟩ := hquiet.counters
    have hlater := hquiet.generation
    refine ⟨by omega, ?_⟩
    intro hsame
    -- The queue is that of the delivery, so it was before the act as well.
    obtain ⟨hreceived, hbytes, hdropped, herrors⟩ := hcounters (by omega)
    rw [hmore]
    exact ⟨hreceived, hbytes, hdropped, Nat.le_add_right_of_le herrors⟩

theorem Since.precedes {o' : Offer} (hsince : Since o e) (h : Steady e)
    (ho' : e.delivery? a = some o') : o.Precedes o' := by
  obtain ⟨-, -, -, hgeneration⟩ := h.offer (delivery?_eq_some_iff.mp ho').1
  obtain ⟨-, hcounted, -, hact⟩ := h.act_of_delivery ho'
  intro hsame
  obtain ⟨hreceived, hbytes, hdropped, herrors⟩ := hsince.counters (hsame.trans hgeneration)
  have hafter : o'.update.statistics.toCounters
      = e.counters.countPacket o'.record.payload.length o'.record.time := by
    rw [← hcounted, hact]
    rfl
  rw [hafter, ← hreceived, ← hbytes]
  exact ⟨rfl, rfl, hdropped, herrors⟩

/-- The induction is on the acts that are left. What it needs of the acts before them is the
delivery made last, so that is carried along: it precedes the first one that is still to come. -/
theorem Steady.deliveries_chain (h : Steady e) (acts : List Act) :
    (deliveries e acts).IsChain Offer.Precedes
      ∧ ∀ o, Since o e → ∀ o' ∈ (deliveries e acts).head?, o.Precedes o' := by
  induction acts generalizing e with
  | nil =>
    refine ⟨.nil, ?_⟩
    intro o _ o' ho'
    cases ho'
  | cons a acts ih =>
    obtain ⟨hchain, hhead⟩ := ih (h.act a)
    rw [deliveries]
    cases ho : e.delivery? a with
    | none =>
      refine ⟨hchain, ?_⟩
      intro o hsince
      exact hhead o (hsince.act h ho)
    | some first =>
      refine ⟨List.isChain_cons.mpr ⟨hhead first (h.since_delivery ho), hchain⟩, ?_⟩
      intro o hsince o' ho'
      rw [← Option.some.inj ho']
      exact hsince.precedes h ho

/-! ## Reports mirror deliveries -/

/-- **Reports mirror deliveries.** After any run of a new engine, and at any moment of the acts that
follow it, the reports that reached the journal are those of the deliveries that found it installed,
one for each and in order. A further act that delivers puts one packet at the end of the queue and
hands one report to whatever sink is installed; any other act, be it a drop, a malformed block or
the end of a wait, puts nothing into the queue and hands over no report. The report of a delivery
carries the counters right after the packet was counted, its time as that of the last packet, and
the share of blocks that are the consumer's while the packet is handed on, among them the one that
is being walked. From one delivery to the next one of the same session the packets received rise by
one and the octets by the length of the packet, and drops and errors do not fall. -/
theorem reports_mirror_deliveries (events : List Event) (acts : List Act) :
    let e := (run {} events).course acts
    let past := runActs {} events ++ acts
    let sent := deliveries {} past
    journaled {} past = (toJournal sent).map Offer.update
      ∧ (∀ a o, e.delivery? a = some o → o.engine = e
          ∧ (e.act a).queue.packets = e.queue.packets ++ [o.packet]
          ∧ (e.act a).counters = o.update.statistics.toCounters
          ∧ (e.act a).sinks = e.sinks.send o.now o.update)
      ∧ (∀ a, e.delivery? a = none →
          (e.act a).queue.packets <:+ e.queue.packets ∧ (e.act a).sinks = a.rearrange e.sinks)
      ∧ (∀ o ∈ sent,
          o.update.statistics.toCounters
              = o.engine.counters.countPacket o.packet.data.length o.packet.time
            ∧ o.update.statistics.last = some o.packet.time
            ∧ ∃ ring, o.engine.source? = some ring ∧ ring.closed = false
              ∧ ring.cursor < ring.blockCount ∧ ring.ready ring.cursor = true
              ∧ o.update.statistics.utilization
                  = countToFloat ((List.range ring.blockCount).countP ring.ready)
                    / countToFloat ring.blockCount
              ∧ 1 / (ring.blockCount : Rat) ≤ ring.exactUtilization ∧ ring.exactUtilization ≤ 1)
      ∧ sent.IsChain fun o o' =>
          o.session.generation = o'.session.generation →
            o'.update.statistics.received = o.update.statistics.received + 1
              ∧ o'.update.statistics.bytes = o.update.statistics.bytes + o'.packet.data.length
              ∧ o.update.statistics.dropped ≤ o'.update.statistics.dropped
              ∧ o.update.statistics.errors ≤ o'.update.statistics.errors := by
  intro e past sent
  have h : Steady e := by
    show Steady ((run {} events).course acts)
    rw [sound_new.run_eq_course, ← course_append]
    exact steady_new.course past
  refine ⟨steady_new.journaled_eq past, ?_, fun a => h.act_of_no_delivery, ?_,
    (steady_new.deliveries_chain past).1⟩
  · intro a o ho
    obtain ⟨hqueue, -, hsinks, hact⟩ := h.act_of_delivery ho
    refine ⟨(h.offer (delivery?_eq_some_iff.mp ho).1).1, ?_, ?_, hsinks⟩
    · rw [hqueue]
    · rw [hact]
      rfl
  · intro o ho
    obtain ⟨hcounters, ring, hring, hopen, hw, hready, hutilization⟩ :=
      steady_new.reported_of_mem ho
    refine ⟨hcounters, ?_, ring, hring, hopen, hw.cursor_lt, hready, ?_, ?_⟩
    · rw [hcounters]
      rfl
    · rw [hutilization, Ring.utilization_of_open hopen, Ring.readyCount_of_open hopen]
    · exact Ring.exactUtilization_bounds (Ring.readyCount_bounds hopen hw.cursor_lt hready)

end Engine

end LinkTap
