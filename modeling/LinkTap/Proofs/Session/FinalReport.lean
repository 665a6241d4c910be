/-
Where the packets of a capture run end up.

At any moment of a course every packet that the queue of the session accepted is in one of three
places: the consumer has taken it, it is queued, or the end has discarded it. An act moves packets
in four ways at most, and what holds of all courses follows from these alone: between any two
moments nothing is lost, nothing is counted twice, and both the packets taken and the packets
discarded are told in order.

Which packets are taken and which are discarded is settled only as long as the two do not mix. The
end discards one packet after another, and the consumer still receives meanwhile. What it took
before comes first. What it takes then may come behind a packet that is discarded already, and the
last part shows a course in which it does.
-/
import LinkTap.Proofs.Session.Course

set_option autoImplicit false

namespace LinkTap

namespace Monitor

/-! ## Places -/

/-- Where the packets of a course are, and how many the engine counts. -/
structure Ledger where
  accepted : List Packet
  taken : List Packet
  queued : List Packet
  discarded : List Packet
  received : Nat

namespace Ledger

/-- The ways in which packets move. -/
inductive Next : Ledger → Ledger → Prop where
  | still (l : Ledger) : Next l l
  | accept (l : Ledger) (p : Packet) :
      Next l
        { l with
          accepted := l.accepted ++ [p]
          queued := l.queued ++ [p]
          received := l.received + 1 }
  | take (l : Ledger) (p : Packet) (rest : List Packet) (h : l.queued = p :: rest) :
      Next l { l with taken := l.taken ++ [p], queued := rest }
  | discard (l : Ledger) (p : Packet) (rest : List Packet) (h : l.queued = p :: rest) :
      Next l { l with queued := rest, discarded := l.discarded ++ [p] }

/-! ## What left the queue -/

/-- A packet that left the queue. It was taken, which is told by `true`, or it was discarded. -/
abbrev Departure := Packet × Bool

/-- All packets of a log, in order. -/
def all (log : List Departure) : List Packet := log.map Prod.fst

/-- The packets of a log that were taken. -/
def takenOf (log : List Departure) : List Packet := (log.filter Prod.snd).map Prod.fst

/-- The packets of a log that were discarded. -/
def discardedOf (log : List Departure) : List Packet :=
  (log.filter fun entry => !entry.2).map Prod.fst

theorem all_append (log later : List Departure) : all (log ++ later) = all log ++ all later :=
  List.map_append

theorem takenOf_append (log later : List Departure) :
    takenOf (log ++ later) = takenOf log ++ takenOf later := by
  simp [takenOf]

theorem discardedOf_append (log later : List Departure) :
    discardedOf (log ++ later) = discardedOf log ++ discardedOf later := by
  simp [discardedOf]

/-- A log has two parts. Where one of them is empty, the other one is all of it. -/
theorem map_filter_of_nil {p q : Departure → Bool} {log : List Departure}
    (hparts : ∀ entry, q entry = !p entry) (h : (log.filter q).map Prod.fst = []) :
    (log.filter p).map Prod.fst = all log := by
  have hnone := List.filter_eq_nil_iff.mp (List.map_eq_nil_iff.mp h)
  have hwhole : log.filter p = log := by
    rw [List.filter_eq_self]
    intro entry hentry
    simpa [hparts] using hnone entry hentry
  rw [hwhole, all]

/-- Where nothing was discarded, all was taken. -/
theorem takenOf_of_discardedOf {log : List Departure} (h : discardedOf log = []) :
    takenOf log = all log :=
  map_filter_of_nil (fun _ => rfl) h

/-- Where nothing was taken, all was discarded. -/
theorem discardedOf_of_takenOf {log : List Departure} (h : takenOf log = []) :
    discardedOf log = all log :=
  map_filter_of_nil (fun entry => (Bool.not_not entry.2).symm) h

/-! ## From one moment to another -/

/-- What happened between two moments: packets were accepted and counted, and of those that were
queued or accepted some left the queue, in the order in which they stood. -/
def Leads (l l' : Ledger) : Prop :=
  ∃ (log : List Departure) (added : List Packet),
    l'.accepted = l.accepted ++ added
      ∧ l.queued ++ added = all log ++ l'.queued
      ∧ l'.taken = l.taken ++ takenOf log
      ∧ l'.discarded = l.discarded ++ discardedOf log
      ∧ l'.received = l.received + added.length

variable {l l' l'' : Ledger}

theorem Leads.refl (l : Ledger) : l.Leads l := by
  refine ⟨[], [], ?_, ?_, ?_, ?_, rfl⟩
  all_goals simp [all, takenOf, discardedOf]

/-- What happened earlier and what happened later make up what happened in all. -/
theorem Leads.trans (h : l.Leads l') (h' : l'.Leads l'') : l.Leads l'' := by
  obtain ⟨log, added, haccepted, hqueued, htaken, hdiscarded, hreceived⟩ := h
  obtain ⟨log', added', haccepted', hqueued', htaken', hdiscarded', hreceived'⟩ := h'
  refine ⟨log ++ log', added ++ added', ?_, ?_, ?_, ?_, ?_⟩
  · rw [haccepted', haccepted, List.append_assoc]
  · calc l.queued ++ (added ++ added')
        = all log ++ (l'.queued ++ added') := by
          rw [← List.append_assoc, hqueued, List.append_assoc]
      _ = all (log ++ log') ++ l''.queued := by
          rw [hqueued', all_append, List.append_assoc]
  · rw [htaken', htaken, takenOf_append, List.append_assoc]
  · rw [hdiscarded', hdiscarded, discardedOf_append, List.append_assoc]
  · rw [hreceived', hreceived, List.length_append, Nat.add_assoc]

/-- One move of a packet is the shortest log. -/
theorem Next.leads (h : Next l l') : l.Leads l' := by
  cases h with
  | still => exact .refl l
  | accept p => exact ⟨[], [p], rfl, rfl, by simp [takenOf], by simp [discardedOf], rfl⟩
  | take p rest hqueued =>
    refine ⟨[(p, true)], [], by simp, ?_, rfl, by simp [discardedOf], rfl⟩
    rw [hqueued, List.append_nil]
    rfl
  | discard p rest hqueued =>
    refine ⟨[(p, false)], [], by simp, ?_, by simp [takenOf], rfl, rfl⟩
    rw [hqueued, List.append_nil]
    rfl

/-! ## Order -/

/-- Before anything moves. -/
def start : Ledger := ⟨[], [], [], [], 0⟩

/-- What was taken comes before what was discarded, and that before what is queued. -/
def InOrder (l : Ledger) : Prop := l.accepted = l.taken ++ l.discarded ++ l.queued

/-- As long as nothing was discarded the packets are in order. -/
theorem Leads.inOrder (h : start.Leads l) (hnone : l.discarded = []) : l.InOrder := by
  obtain ⟨log, added, haccepted, hqueued, htaken, hdiscarded, -⟩ := h
  have hlog : discardedOf log = [] := hdiscarded.symm.trans hnone
  have htaken : l.taken = all log := htaken.trans (takenOf_of_discardedOf hlog)
  calc l.accepted
      = all log ++ l.queued := haccepted.trans hqueued
    _ = l.taken ++ l.discarded ++ l.queued := by rw [htaken, hnone, List.append_nil]

/-- What was taken before anything was discarded are the first packets of all that are ever
accepted. -/
theorem Leads.taken_first (h : start.Leads l) (hnone : l.discarded = []) (hlater : l.Leads l') :
    l.taken <+: l'.accepted := by
  have hfirst : l.accepted = l.taken ++ l.discarded ++ l.queued := h.inOrder hnone
  obtain ⟨-, later, haccepted, -⟩ := hlater
  refine ⟨l.discarded ++ l.queued ++ later, ?_⟩
  rw [← List.append_assoc, ← List.append_assoc, ← hfirst]
  exact haccepted.symm

/-- Once nothing is queued every accepted packet has left the queue, one way or the other. -/
theorem Leads.all_departed (h : start.Leads l) (hempty : l.queued = []) :
    ∃ log : List Departure, l.accepted = all log ∧ l.taken = takenOf log
      ∧ l.discarded = discardedOf log ∧ l.received = l.accepted.length := by
  obtain ⟨log, added, haccepted, hall, htaken, hdiscarded, hreceived⟩ := h
  have haccepted : l.accepted = added := haccepted
  have hall : added = all log ++ l.queued := hall
  refine ⟨log, ?_, htaken, hdiscarded, ?_⟩
  · rw [haccepted, hall, hempty, List.append_nil]
  · rw [haccepted]
    exact hreceived.trans (Nat.zero_add _)

/-- Discarding keeps the order if nothing is taken meanwhile. -/
theorem InOrder.leads (h : l.InOrder) (hleads : l.Leads l') (hsame : l'.taken = l.taken) :
    l'.InOrder := by
  obtain ⟨log, added, haccepted, hqueued, htaken, hdiscarded, -⟩ := hleads
  have hlog : takenOf log = [] := List.append_right_eq_self.mp (htaken.symm.trans hsame)
  rw [discardedOf_of_takenOf hlog] at hdiscarded
  calc l'.accepted
      = l.taken ++ l.discarded ++ (l.queued ++ added) := by
        rw [haccepted, h, List.append_assoc]
    _ = l'.taken ++ l'.discarded ++ l'.queued := by
        rw [hqueued, hsame, hdiscarded, List.append_assoc, List.append_assoc, List.append_assoc]

end Ledger

namespace Course

variable {w w' : Course}

/-- What is queued for the session; nothing once its queue is gone. -/
def queued (w : Course) : List Packet :=
  if w.stage.isEmptied then [] else w.monitor.engine.queue.packets

/-- A course, told by the places of its packets. -/
def ledger (w : Course) : Ledger :=
  { accepted := w.accepted
    taken := w.monitor.consumer.taken
    queued := w.queued
    discarded := w.discarded
    received := w.monitor.engine.counters.received }

theorem queued_of_emptied (h : w.stage.isEmptied = true) : w.queued = [] := if_pos h

theorem queued_of_not_emptied (h : w.stage.isEmptied = false) :
    w.queued = w.monitor.engine.queue.packets := by
  rw [queued, h]
  rfl

/-! ## Acts -/

/-- An act that changes neither the queue nor what is kept beside it moves no packet. -/
theorem next_of_eq (hstage : w'.stage.isEmptied = w.stage.isEmptied)
    (haccepted : w'.accepted = w.accepted)
    (hdiscarded : w'.discarded = w.discarded)
    (htaken : w'.monitor.consumer.taken = w.monitor.consumer.taken)
    (hqueue : w'.monitor.engine.queue = w.monitor.engine.queue)
    (hcounters : w'.monitor.engine.counters.received = w.monitor.engine.counters.received) :
    w.ledger.Next w'.ledger := by
  have hsame : w'.ledger = w.ledger := by
    unfold ledger queued
    rw [hstage, haccepted, hdiscarded, htaken, hqueue, hcounters]
  rw [hsame]
  exact .still _

theorem next_receiving {f : Engine → Engine} (hqueue : ∀ e, (f e).queue = e.queue)
    (hcounters : ∀ e, (f e).counters.received = e.counters.received) :
    w.ledger.Next (w.receiving f).ledger := by
  unfold receiving
  split
  · exact next_of_eq rfl rfl rfl rfl (hqueue _) (hcounters _)
  · exact .still _

theorem next_crash (w : Course) : w.ledger.Next w.crash.ledger := by
  unfold crash
  split
  · exact .still _
  · exact next_of_eq rfl rfl rfl rfl rfl rfl

theorem next_write (w : Course) (offset : Nat) (data : Bytes) :
    w.ledger.Next
      (w.setEngine ((w.monitor.engine.writeMemory offset data).getD w.monitor.engine)).ledger := by
  rcases w.monitor.engine.write_cases offset data with hwrite | ⟨ring, region, -, -, hwrite⟩
  · rw [hwrite]
    exact .still _
  · rw [hwrite]
    exact next_of_eq rfl rfl rfl rfl rfl rfl

theorem next_look (w : Course) : w.ledger.Next w.look.ledger := by
  have htaken : (w.monitor.consumer.observe w.monitor.shutdown).taken
      = w.monitor.consumer.taken := by
    unfold Consumer.observe
    split <;> rfl
  unfold look
  split
  · exact .still _
  · exact next_of_eq rfl rfl rfl htaken rfl rfl

theorem next_halt (w : Course) : w.ledger.Next w.halt.ledger := by
  unfold halt
  split
  · rename_i hstage
    exact next_of_eq (by rw [hstage]; rfl) rfl rfl rfl rfl rfl
  · exact .still _

/-- The end discards the packet that is first in the queue. -/
theorem next_empty (hstage : w.stage = .released) : w.ledger.Next w.empty.ledger := by
  have hqueued : w.ledger.queued = w.monitor.engine.queue.packets :=
    queued_of_not_emptied (by rw [hstage]; rfl)
  rcases w.empty_cases with ⟨p, rest, hpackets, hact⟩ | ⟨hpackets, hact⟩
  · have hdiscard := Ledger.Next.discard w.ledger p rest (hqueued.trans hpackets)
    have hledger : w.empty.ledger
        = { w.ledger with queued := rest, discarded := w.discarded ++ [p] } := by
      rw [hact]
      unfold ledger
      congr 1
      exact queued_of_not_emptied (by show w.stage.isEmptied = false; rw [hstage]; rfl)
    rw [hledger]
    exact hdiscard
  · -- The queue that is replaced is empty, so nothing is lost with it.
    have hledger : w.empty.ledger = w.ledger := by
      rw [hact]
      unfold ledger
      congr 1
      exact (hqueued.trans hpackets).symm
    rw [hledger]
    exact .still _

/-- Of the stages of an end, one moves packets. -/
theorem next_proceed (w : Course) : w.ledger.Next w.proceed.ledger := by
  unfold proceed
  split
  · exact .still _
  · rename_i hstage
    exact next_of_eq (by rw [hstage]; rfl) rfl rfl rfl rfl rfl
  · rename_i hstage
    have hclose : w.monitor.engine.closeSource.queue = w.monitor.engine.queue
        ∧ w.monitor.engine.closeSource.counters = w.monitor.engine.counters := by
      unfold Engine.closeSource
      split
      · exact ⟨rfl, rfl⟩
      · exact ⟨rfl, rfl⟩
    exact next_of_eq (by rw [hstage]; rfl) rfl rfl rfl hclose.1
      (congrArg Counters.received hclose.2)
  · rename_i hstage
    exact next_empty hstage
  · rename_i hstage
    exact next_of_eq (by rw [hstage]; rfl) rfl rfl rfl rfl rfl
  · exact .still _

namespace Coherent

theorem next_handOn (h : Coherent w) (now : Timestamp) (utilization : Float)
    (record : Ring.Record) :
    w.ledger.Next (w.handOn now utilization record).ledger := by
  rcases h.handOn_cases now utilization record with
    ⟨counters, hact, hreceived⟩ | ⟨hqueue, p, counters, sinks, hact, hreceived⟩
  · rw [hact]
    exact next_of_eq rfl rfl rfl rfl rfl hreceived
  · have haccept := Ledger.Next.accept w.ledger p
    have hledger : (w.handOn now utilization record).ledger
        = { w.ledger with
            accepted := w.accepted ++ [p]
            queued := w.queued ++ [p]
            received := w.monitor.engine.counters.received + 1 } := by
      rw [hact, ← hreceived, queued_of_not_emptied hqueue]
      unfold ledger
      congr 1
      exact queued_of_not_emptied hqueue
    rw [hledger]
    exact haccept

/-- The consumer takes the packet that is first in the queue. -/
theorem next_attempt (h : Coherent w) : w.ledger.Next w.attempt.ledger := by
  rcases h.attempt_cases with ⟨consumer, waiting, hact, htaken⟩ | ⟨hqueue, p, rest, hpackets, hact⟩
  · rw [hact]
    exact next_of_eq rfl rfl rfl htaken rfl rfl
  · have hqueued : w.ledger.queued = p :: rest := (queued_of_not_emptied hqueue).trans hpackets
    have htake := Ledger.Next.take w.ledger p rest hqueued
    have hledger : w.attempt.ledger
        = { w.ledger with taken := w.monitor.consumer.taken ++ [p], queued := rest } := by
      rw [hact]
      unfold ledger
      congr 1
      exact queued_of_not_emptied hqueue
    rw [hledger]
    exact htake

/-- Every act moves packets in one of the four ways. -/
theorem next_act (h : Coherent w) (a : Act) : w.ledger.Next (w.act a).ledger := by
  cases a with
  | handOn now utilization record => exact h.next_handOn now utilization record
  | moveOn ring => exact next_receiving (fun _ => rfl) fun _ => rfl
  | countError => exact next_receiving (fun _ => rfl) fun _ => rfl
  | crash => exact w.next_crash
  | write offset data => exact w.next_write offset data
  | look => exact w.next_look
  | attempt => exact h.next_attempt
  | report now usage => exact next_of_eq rfl rfl rfl rfl rfl rfl
  | conclude =>
    rw [Course.act]
    split
    · exact w.next_halt
    · exact .still _
  | interrupt => exact w.next_halt
  | proceed => exact w.next_proceed

end Coherent

/-! ## Courses -/

/-- So every course is told by one log. -/
theorem Coherent.leads_run (h : Coherent w) (acts : List Act) :
    w.ledger.Leads (w.run acts).ledger := by
  induction acts generalizing w with
  | nil => exact .refl _
  | cons a acts ih => exact (h.next_act a).leads.trans (ih (h.act a))

/-! ## The end of a course -/

/-- The consumer of an ended run finishes: if it still waits its wait comes to an end, and the next
time it looks it is told to stop. -/
theorem Coherent.finished_of_told (h : Coherent w) (hstage : w.stage = .told) :
    ((w.act .attempt).act .look).monitor.consumer.finished = true := by
  have hshutdown : w.monitor.shutdown = true := by
    rw [h.shutdown, hstage]
    rfl
  have hattempt : w.attempt.waiting = false ∧ w.attempt.monitor.shutdown = true := by
    unfold Course.attempt
    split
    · exact ⟨rfl, hshutdown⟩
    · rename_i hwaiting
      exact ⟨Bool.eq_false_iff.mpr hwaiting, hshutdown⟩
  show w.attempt.look.monitor.consumer.finished = true
  rw [Course.look, hattempt.1, hattempt.2]
  rfl

/-- A run begins with no packet anywhere. -/
theorem ledger_begin {platform : Platform} {now : Timestamp} {config : Config} {limit : Option Nat}
    {m : Monitor} (hstart : Monitor.start platform now config limit = .ok m) :
    (begin m).ledger = .start := by
  obtain ⟨-, interface, ring, -, hm⟩ := Monitor.start_eq_ok hstart
  rw [hm]
  rfl

/-! ## Events -/

/-- An event after which the run is over took no packet. -/
theorem taken_step_of_shutdown {m : Monitor} {event : Event}
    (h : (m.step event).shutdown = true) : (m.step event).consumer.taken = m.consumer.taken := by
  have hfinish : m.finish.consumer = m.consumer := by
    unfold finish
    split
    · rfl
    · split <;> rfl
  cases event with
  | receive | write | report => rfl
  | consume =>
    have hshutdown : m.shutdown = true := by
      rw [← h, Monitor.step, Monitor.consume]
      dsimp only
      split <;> rfl
    rw [Monitor.step, Monitor.consume, Consumer.observe, if_pos hshutdown]
    rfl
  | conclude =>
    rw [Monitor.step]
    split
    · rw [hfinish]
    · rfl
  | interrupt => exact congrArg Consumer.taken hfinish

/-- The events of a run are a course of acts, and no packet
is received in the middle of one that ends the run. -/
theorem Steady.exists_run_eq (h : Steady w) (hstart : Ledger.start.Leads w.ledger)
    (horder : w.ledger.InOrder) (events : List Event) :
    ∃ acts, (w.run acts).monitor = w.monitor.run events ∧ (w.run acts).ledger.InOrder := by
  induction events generalizing w with
  | nil => exact ⟨[], rfl, horder⟩
  | cons event events ih =>
    obtain ⟨acts, hstep, hnext⟩ := h.step event
    have hleads := h.coherent.leads_run acts
    have hfollows : (w.run acts).ledger.InOrder := by
      rcases hnext.stage with ⟨-, hnone⟩ | hstage
      · exact (hstart.trans hleads).inOrder hnone
      · have hshutdown : (w.monitor.step event).shutdown = true := by
          rw [← hstep, hnext.coherent.shutdown, hstage]
          rfl
        refine horder.leads hleads ?_
        show (w.run acts).monitor.consumer.taken = _
        rw [hstep]
        exact taken_step_of_shutdown hshutdown
    obtain ⟨more, hmore, hlast⟩ := ih hnext (hstart.trans hleads) hfollows
    refine ⟨acts ++ more, ?_, ?_⟩
    · rw [run_append, hmore, hstep]
      rfl
    · rw [run_append]
      exact hlast

end Course

/-- **The final report adds up.** For every host, configuration and limit, and for every order in
which the acts of the receive loop, the consumer, the supervisor and the outside world follow each
other: once the engine is stopped and the consumer told so, the statistics call exactly those
packets received that the queue of the session accepted. Each of these was processed by the consumer
or discarded by the end, once and in order. The engine is idle, its one source is released, and the
consumer finishes.

The packets that were processed before the first one was discarded are the first that were accepted;
if the consumer receives none after that, then all processed packets come before all discarded ones.
It is so for the events of a run, which are such acts: nobody comes in between the stages of an end
there. A run has told its consumer to stop exactly if its acts came to the last stage. -/
theorem final_report_adds_up {platform : Platform} {now : Timestamp} {config : Config}
    {limit : Option Nat} {m : Monitor}
    (hstart : Monitor.start platform now config limit = .ok m) :
    (∀ acts : List Act,
      let w := (Course.begin m).run acts
      w.stage = .told →
        w.monitor.consumer.processed ≤ w.monitor.engine.statistics.received
          ∧ w.monitor.engine.statistics.received = w.accepted.length
          ∧ (∃ log : List (Packet × Bool), w.accepted = log.map Prod.fst
            ∧ w.monitor.consumer.taken = (log.filter Prod.snd).map Prod.fst
            ∧ w.discarded = (log.filter fun entry => !entry.2).map Prod.fst)
          ∧ (∀ before after : List Act, acts = before ++ after →
            let v := (Course.begin m).run before
            v.discarded = [] →
              v.monitor.consumer.taken <+: w.accepted
                ∧ (w.monitor.consumer.taken = v.monitor.consumer.taken →
                  w.accepted = w.monitor.consumer.taken ++ w.discarded))
          ∧ w.monitor.discarded = some w.discarded.length
          ∧ w.monitor.engine.phase = .idle ∧ w.monitor.engine.session = none
          ∧ (∃ ring, w.monitor.engine.sources = [ring] ∧ ring.closed = true)
          ∧ ((w.act .attempt).act .look).monitor.consumer.finished = true)
      ∧ ∀ events : List Event, ∃ acts : List Act,
          let w := (Course.begin m).run acts
          w.monitor = m.run events ∧ (w.stage = .told ↔ (m.run events).shutdown = true)
            ∧ (w.stage = .told → w.accepted = w.monitor.consumer.taken ++ w.discarded) := by
  have hbegin := Course.coherent_begin hstart
  have hledger := Course.ledger_begin hstart
  have hnothing : Ledger.start.Leads (Course.begin m).ledger := by
    rw [hledger]
    exact .refl _
  have hleads : ∀ acts, Ledger.start.Leads ((Course.begin m).run acts).ledger :=
    fun acts => hnothing.trans (hbegin.leads_run acts)
  have hqueued : ∀ {w : Course}, w.stage = .told → w.queued = [] := by
    intro w hstage
    exact Course.queued_of_emptied (by rw [hstage]; rfl)
  -- At the end nothing is queued, so what is in order is processed or behind what is.
  have hinOrder : ∀ {w : Course}, w.stage = .told → w.ledger.InOrder →
      w.accepted = w.monitor.consumer.taken ++ w.discarded := by
    intro w hstage horder
    have hall : w.accepted = w.monitor.consumer.taken ++ w.discarded ++ w.queued := horder
    rwa [hqueued hstage, List.append_nil] at hall
  refine ⟨?_, ?_⟩
  · intro acts w hstage
    have hw : Course.Coherent w := hbegin.run acts
    have hgone : w.stage.isEmptied = true := by
      rw [hstage]
      rfl
    obtain ⟨log, hall, htaken, hdiscarded, hreceived⟩ := (hleads acts).all_departed (hqueued hstage)
    have htaken : w.monitor.consumer.taken = (log.filter Prod.snd).map Prod.fst := htaken
    obtain ⟨ring, hsources, hclosed⟩ := hw.source
    refine ⟨?_, hreceived, ⟨log, hall, htaken, hdiscarded⟩, ?_, hw.noted hgone, (hw.idle hgone).1,
      hw.ended (by rw [hstage]; nofun), ⟨ring, hsources, hclosed (by rw [hstage]; rfl)⟩,
      hw.finished_of_told hstage⟩
    · calc w.monitor.consumer.processed
          = (log.filter Prod.snd).length := by rw [Consumer.processed, htaken, List.length_map]
        _ ≤ log.length := List.length_filter_le _ _
        _ = w.accepted.length := (List.length_map ..).symm.trans (congrArg List.length hall).symm
        _ = w.monitor.engine.statistics.received := hreceived.symm
    · intro before after hsplit v hnone
      have hrest : v.ledger.Leads w.ledger := by
        have hafter := (hbegin.run before).leads_run after
        rwa [← Course.run_append, ← hsplit] at hafter
      have horder := (hleads before).inOrder hnone
      exact ⟨(hleads before).taken_first hnone hrest,
        fun hsame => hinOrder hstage (horder.leads hrest hsame)⟩
  · intro events
    have horder : (Course.begin m).ledger.InOrder := by
      rw [hledger]
      rfl
    obtain ⟨acts, hacts, hlast⟩ := (Course.steady_begin hstart).exists_run_eq hnothing horder events
    refine ⟨acts, hacts, ?_, fun hstage => hinOrder hstage hlast⟩
    have hshutdown := (hbegin.run acts).shutdown
    rw [hacts] at hshutdown
    rw [show (Course.begin m).monitor = m from rfl] at hshutdown
    rw [hshutdown, decide_eq_true_iff]

/-- A host with one interface. -/
def singleHost : Platform :=
  Platform.replay "host"
    [{ name := "eth0", index := 2, mtu := 1500,
       flags := { up := true, running := true, broadcast := true, multicast := true } }] none []

/-- The acts by which two records are handed on. -/
def twoRecords : List Act :=
  [.handOn ⟨0, 0⟩ 0 ⟨[1], ⟨0, 0⟩⟩, .handOn ⟨0, 0⟩ 0 ⟨[2], ⟨0, 0⟩⟩]

/-- The consumer takes the first packet and waits for the next one; then the run is interrupted, and
the wait of the consumer ends when the queue is gone. -/
theorem final_report_adds_up_singleHost :
    ∃ m, Monitor.start singleHost ⟨0, 0⟩ { interface := "eth0" } none = .ok m
      ∧ let w := (Course.begin m).run (twoRecords ++ [.look, .attempt, .look, .interrupt,
          .proceed, .proceed, .proceed, .proceed, .proceed, .attempt, .look])
        w.stage = .told ∧ w.monitor.consumer.processed ≤ w.monitor.engine.statistics.received
          ∧ w.accepted = w.monitor.consumer.taken ++ w.discarded
          ∧ w.monitor.consumer.taken = [⟨⟨0, 0⟩, 2, [1]⟩] ∧ w.discarded = [⟨⟨0, 0⟩, 2, [2]⟩] := by
  refine ⟨_, rfl, ?_⟩
  intro w
  have htold : w.stage = .told := rfl
  have hstart : Monitor.start singleHost ⟨0, 0⟩ { interface := "eth0" } none = .ok _ := rfl
  obtain ⟨hreport, -⟩ := final_report_adds_up hstart
  obtain ⟨hprocessed, -, -, horder, -⟩ := hreport _ htold
  obtain ⟨-, hfollows⟩ := horder (twoRecords ++ [.look, .attempt, .look]) _ rfl rfl
  exact ⟨htold, hprocessed, hfollows rfl, rfl, rfl⟩

/-- The consumer waits when the end begins. The end discards the first
packet, and before it comes to the second one the consumer receives that.
So the packet that is processed is not the first one that was accepted. -/
theorem late_packet_processed :
    ∃ m, Monitor.start singleHost ⟨0, 0⟩ { interface := "eth0" } none = .ok m
      ∧ let w := (Course.begin m).run (twoRecords ++ [.look, .interrupt, .proceed, .proceed,
          .proceed, .attempt, .proceed, .proceed, .look])
        w.stage = .told ∧ w.monitor.consumer.finished = true
          ∧ w.accepted = [⟨⟨0, 0⟩, 2, [1]⟩, ⟨⟨0, 0⟩, 2, [2]⟩]
          ∧ w.discarded = [⟨⟨0, 0⟩, 2, [1]⟩] ∧ w.monitor.consumer.taken = [⟨⟨0, 0⟩, 2, [2]⟩]
          ∧ ¬ w.monitor.consumer.taken <+: w.accepted := by
  refine ⟨_, rfl, ?_⟩
  intro w
  have haccepted : w.accepted = [⟨⟨0, 0⟩, 2, [1]⟩, ⟨⟨0, 0⟩, 2, [2]⟩] := rfl
  have htaken : w.monitor.consumer.taken = [⟨⟨0, 0⟩, 2, [2]⟩] := rfl
  refine ⟨rfl, rfl, haccepted, rfl, htaken, ?_⟩
  rw [haccepted, htaken]
  decide

end Monitor

end LinkTap
