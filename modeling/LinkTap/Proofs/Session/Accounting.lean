/-
The books of the capture engine.

The books are kept beside a run, from the last start that opened a source: the states of the ring at
which the receive loop looked, every record that was handed on together with the engine that it
found, the waits that failed, and the packets taken from the receiver of the session. Nothing in
them is read off a counter or off the queue, so they are an account of their own to hold the engine
against.

That the books balance is one invariant. A single record keeps it, because a record either finds
room and joins the accepted ones, or finds the queue full and joins the dropped ones. By induction
over the records of a look, the looks of a round and the events of a run, every engine keeps it. A
stop throws away what is still queued, so the order of packets is promised for an active session
only.
-/
import Mathlib.Algebra.GroupWithZero.Nat
import LinkTap.Proofs.Session.Run

set_option autoImplicit false

namespace LinkTap

namespace Engine

/-! ## Offers -/

/-- A record as it is handed on: for which session, when, and which engine it finds. -/
structure Offer where
  session : Session
  now : Timestamp
  utilization : Float
  engine : Engine
  record : Ring.Record

namespace Offer

def outcome (o : Offer) : Engine := deliver o.session o.now o.utilization o.engine o.record

/-- The packet that the record becomes. -/
def packet (o : Offer) : Packet := ⟨o.record.time, o.session.interface.index, o.record.payload⟩

/-- The report that goes out once the packet is counted. -/
def update (o : Offer) : Metrics.Update :=
  ⟨Statistics.ofCounters o.outcome.counters o.utilization, o.session.startedAt⟩

/-- Whether the queue is left as it was found. -/
def dropped (o : Offer) : Bool := decide (o.outcome.queue = o.engine.queue)

/-- The record is dropped exactly if it finds as many packets as the queue may hold; otherwise its
packet goes to the end of the queue. -/
def Settled (o : Offer) (capacity : Nat) : Prop :=
  (o.dropped = true ↔ o.engine.queue.packets.length = capacity)
    ∧ (o.dropped = false → o.outcome.queue.packets = o.engine.queue.packets ++ [o.packet])

variable {o : Offer}

/-- An offer finds room, and the packet is queued, counted and reported; or it finds none, and the
drop is counted. -/
theorem outcome_cases (hpayload : 0 < o.record.payload.length)
    (hgeneration : o.session.generation = o.engine.queue.generation) :
    (o.dropped = false ∧ o.engine.queue.packets.length < o.engine.queue.capacity
        ∧ o.outcome =
          { o.engine with
            queue := { o.engine.queue with packets := o.engine.queue.packets ++ [o.packet] }
            counters := o.engine.counters.countPacket o.record.payload.length o.record.time
            sinks := o.engine.sinks.send o.now o.update })
      ∨ (o.dropped = true ∧ o.engine.queue.capacity ≤ o.engine.queue.packets.length
        ∧ o.outcome = { o.engine with counters := o.engine.counters.countDrop }) := by
  by_cases hroom : o.engine.queue.packets.length < o.engine.queue.capacity
  · have hdelivered := deliver_of_room o.session o.now o.utilization hpayload hgeneration hroom
    refine .inl ⟨decide_eq_false fun hsame => ?_, hroom, ?_⟩
    · rw [outcome, hdelivered] at hsame
      -- A queue that did not change would be as long as itself with one packet more.
      have hlength := congrArg (fun queue : Queue => queue.packets.length) hsame
      simp at hlength
    · rw [update, outcome, hdelivered]
      rfl
  · have hfull := Nat.not_lt.mp hroom
    have hdelivered := deliver_of_full o.session o.now o.utilization hpayload hgeneration hfull
    refine .inr ⟨decide_eq_true ?_, hfull, hdelivered⟩
    rw [outcome, hdelivered]

/-- An offer to a queue that is not overfull is settled. -/
theorem settled (hpayload : 0 < o.record.payload.length)
    (hgeneration : o.session.generation = o.engine.queue.generation)
    (hlimit : o.engine.queue.packets.length ≤ o.engine.queue.capacity) :
    o.Settled o.engine.queue.capacity := by
  rcases outcome_cases hpayload hgeneration with ⟨hdropped, hroom, houtcome⟩ | ⟨hdropped, hfull, -⟩
  · refine ⟨⟨fun h => ?_, fun h => ?_⟩, fun _ => ?_⟩
    · rw [hdropped] at h
      cases h
    · omega
    · rw [houtcome]
  · refine ⟨⟨fun _ => ?_, fun _ => hdropped⟩, fun h => ?_⟩
    · omega
    · rw [hdropped] at h
      cases h

end Offer

/-- The offers of a list of records, each with the engine that the ones before it leave. -/
def offersOf (s : Session) (now : Timestamp) (utilization : Float) :
    Engine → List Ring.Record → List Offer
  | _, [] => []
  | e, record :: records =>
    ⟨s, now, utilization, e, record⟩
      :: offersOf s now utilization (deliver s now utilization e record) records

def lookOffers (s : Session) (now : Timestamp) (e : Engine) (ring : Ring) : List Offer :=
  offersOf s now ring.utilization (e.setSource ring.process.ring) ring.process.records

def roundOffers (s : Session) (now : Timestamp) : Engine → List Ring → List Offer
  | _, [] => []
  | e, ring :: rings => lookOffers s now e ring ++ roundOffers s now (handle s now e ring) rings

theorem offersOf_map_record (s : Session) (now : Timestamp) (utilization : Float) (e : Engine)
    (records : List Ring.Record) :
    (offersOf s now utilization e records).map Offer.record = records := by
  induction records generalizing e with
  | nil => rfl
  | cons record records ih => rw [offersOf, List.map_cons, ih]

/-- What is offered is what the ring hands on, in the same order. -/
theorem roundOffers_map_record (s : Session) (now : Timestamp) (e : Engine) (rings : List Ring) :
    (roundOffers s now e rings).map Offer.record
      = rings.flatMap fun ring => ring.process.records := by
  induction rings generalizing e with
  | nil => rfl
  | cons ring rings ih =>
    rw [roundOffers, List.map_append, List.flatMap_cons, ih, lookOffers, offersOf_map_record]

/-! ## Books -/

/-- The books of an engine since a source was last opened. -/
structure Books where
  /-- The queue capacity of that start. -/
  capacity : Nat := 1000
  /-- The states of the ring at which the receive loop looked. -/
  looks : List Ring := []
  offers : List Offer := []
  failedWaits : Nat := 0
  /-- The packets taken from the receiver of the current queue. -/
  taken : List Packet := []

namespace Books

/-- The records that the ring handed on. -/
def handed (b : Books) : List Ring.Record := b.looks.flatMap fun ring => ring.process.records

def malformedBlocks (b : Books) : Nat := b.looks.countP fun ring => ring.process.isMalformed

/-- The offers that were appended to the queue. -/
def accepted (b : Books) : List Offer := b.offers.filter fun o => !o.dropped

def refused (b : Books) : List Offer := b.offers.filter fun o => o.dropped

/-- The counters that the books call for. -/
def counters (b : Books) : Counters :=
  { received := b.accepted.length
    dropped := b.refused.length
    bytes := (b.accepted.map fun o => o.record.payload.length).sum
    errors := b.failedWaits + b.malformedBlocks
    last := b.accepted.getLast?.map fun o => o.record.time }

def offer (b : Books) (offers : List Offer) : Books := { b with offers := b.offers ++ offers }

def look (b : Books) (rings : List Ring) : Books := { b with looks := b.looks ++ rings }

/-- Enter what a receive loop did on behalf of a session. -/
def noteRound (b : Books) (e : Engine) (s : Session) (now : Timestamp) : Wait → Books
  | .ready =>
    match e.source? with
    | none => b
    | some ring =>
      let rings := ring.looks ring.blockCount
      (b.offer (roundOffers s now e rings)).look rings
  | .failed => { b with failedWaits := b.failedWaits + 1 }
  | _ => b

/-- Enter an event that happens to the engine `e`. A start that opens a source begins new books. -/
def note (b : Books) (e : Engine) : Event → Books
  | .start platform now target settings thread =>
    if (e.start platform now target settings thread).1.opened = e.opened then b
    else { capacity := settings.queueCapacity }
  | .round now wait =>
    match e.session with
    | none => b
    | some s => if s.receiving then b.noteRound e s now wait else b
  | .receive receiver =>
    match (e.receive receiver).2 with
    | .packet p => if receiver = e.receiver then { b with taken := b.taken ++ [p] } else b
    | _ => b
  | _ => b

/-! ### Entries -/

@[simp] theorem offer_nil (b : Books) : b.offer [] = b := by
  rw [offer, List.append_nil]

@[simp] theorem look_nil (b : Books) : b.look [] = b := by
  rw [look, List.append_nil]

theorem offer_append (b : Books) (offers more : List Offer) :
    b.offer (offers ++ more) = (b.offer offers).offer more := by
  rw [offer, offer, offer, List.append_assoc]

theorem offer_cons (b : Books) (o : Offer) (offers : List Offer) :
    b.offer (o :: offers) = (b.offer [o]).offer offers :=
  b.offer_append [o] offers

theorem look_cons (b : Books) (ring : Ring) (rings : List Ring) :
    b.look (ring :: rings) = (b.look [ring]).look rings := by
  rw [look, look, look, List.append_assoc]
  rfl

theorem mem_offers_offer {b : Books} {o o' : Offer} :
    o ∈ (b.offer [o']).offers ↔ o ∈ b.offers ∨ o = o' := by
  rw [offer, List.mem_append, List.mem_singleton]

theorem accepted_offer (b : Books) (o : Offer) :
    (b.offer [o]).accepted = if o.dropped then b.accepted else b.accepted ++ [o] := by
  unfold accepted offer
  rw [List.filter_append, List.filter_cons, List.filter_nil]
  cases o.dropped
  · rfl
  · exact List.append_nil _

theorem refused_offer (b : Books) (o : Offer) :
    (b.offer [o]).refused = if o.dropped then b.refused ++ [o] else b.refused := by
  unfold refused offer
  rw [List.filter_append, List.filter_cons, List.filter_nil]
  cases o.dropped
  · exact List.append_nil _
  · rfl

/-- An offer that is accepted counts as one packet. -/
theorem counters_offer_of_accepted (b : Books) {o : Offer} (ho : o.dropped = false) :
    (b.offer [o]).counters = b.counters.countPacket o.record.payload.length o.record.time := by
  rw [counters, accepted_offer, refused_offer, ho]
  simp [Counters.countPacket, counters, offer, malformedBlocks]

theorem counters_offer_of_dropped (b : Books) {o : Offer} (ho : o.dropped = true) :
    (b.offer [o]).counters = b.counters.countDrop := by
  rw [counters, accepted_offer, refused_offer, ho]
  simp [Counters.countDrop, counters, offer, malformedBlocks]

/-- A look counts as an error exactly if it found a malformed block. -/
theorem counters_look (b : Books) (ring : Ring) :
    (b.look [ring]).counters
      = if ring.process.isMalformed then b.counters.countError else b.counters := by
  have hblocks : (b.look [ring]).malformedBlocks
      = b.malformedBlocks + if ring.process.isMalformed then 1 else 0 := by
    unfold malformedBlocks look
    rw [List.countP_append, List.countP_singleton]
  rw [counters, hblocks]
  cases ring.process.isMalformed
  · rfl
  · rfl

end Books

/-- One event, with the books kept. -/
def keep (kept : Engine × Books) (event : Event) : Engine × Books :=
  (kept.1.step event, kept.2.note kept.1 event)

/-- The books of a run that begins with a new engine. -/
def booksOf (events : List Event) : Books := (events.foldl keep ({}, {})).2

/-- Keeping the books does not disturb the engine. -/
theorem keep_foldl_engine (events : List Event) (e : Engine) (b : Books) :
    (events.foldl keep (e, b)).1 = e.run events := by
  induction events generalizing e b with
  | nil => rfl
  | cons event events ih =>
    rw [List.foldl_cons, keep, ih]
    rfl

/-! ## The books balance -/

/-- The engine is as its books call for. -/
structure Balanced (e : Engine) (b : Books) : Prop where
  counters : e.counters = b.counters
  capacity : e.queue.capacity = b.capacity
  room : e.queue.packets.length ≤ b.capacity
  settled : ∀ o ∈ b.offers, o.Settled b.capacity
  idle : e.session = none → e.queue.packets = []
  generation : ∀ s, e.session = some s → s.generation = e.queue.generation
  order : e.session.isSome → b.taken ++ e.queue.packets = b.accepted.map Offer.packet
  interface : ∀ s, e.session = some s → ∀ o ∈ b.offers, o.session.interface = s.interface

namespace Balanced

variable {e : Engine} {b : Books}

/-- The books speak of counters, queue and session only. -/
theorem congr {e' : Engine} (h : Balanced e b) (hcounters : e'.counters = e.counters)
    (hqueue : e'.queue = e.queue) (hsession : e'.session = e.session) : Balanced e' b := by
  obtain ⟨h₁, h₂, h₃, h₄, h₅, h₆, h₇, h₈⟩ := h
  refine ⟨?_, ?_, ?_, h₄, ?_, ?_, ?_, ?_⟩
  · rw [hcounters, h₁]
  · rw [hqueue, h₂]
  · rw [hqueue]
    exact h₃
  · rw [hqueue, hsession]
    exact h₅
  · rw [hqueue, hsession]
    exact h₆
  · rw [hqueue, hsession]
    exact h₇
  · rw [hsession]
    exact h₈

/-- New books balance with a queue that is empty, counters that are zero and a session that uses
that queue. -/
theorem opened {capacity : Nat} (hcounters : e.counters = {})
    (hcapacity : e.queue.capacity = capacity)
    (hempty : e.queue.packets = [])
    (hgeneration : ∀ s, e.session = some s → s.generation = e.queue.generation) :
    Balanced e { capacity } := by
  refine ⟨hcounters, hcapacity, ?_, ?_, fun _ => hempty, hgeneration, ?_, ?_⟩
  · rw [hempty]
    exact Nat.zero_le _
  · intro o ho
    cases ho
  · intro _
    rw [hempty]
    rfl
  · intro _ _ o ho
    cases ho

/-! ### Draining -/

/-- One record that is handed on for the active session. -/
theorem deliver {s : Session} {record : Ring.Record} (h : Balanced e b) (hs : e.session = some s)
    (now : Timestamp) (utilization : Float) (hpayload : 0 < record.payload.length) :
    Balanced (Engine.deliver s now utilization e record)
      (b.offer [⟨s, now, utilization, e, record⟩]) := by
  let o : Offer := ⟨s, now, utilization, e, record⟩
  have hgeneration : o.session.generation = o.engine.queue.generation := h.generation s hs
  have hlimit : o.engine.queue.packets.length ≤ o.engine.queue.capacity := by
    show e.queue.packets.length ≤ e.queue.capacity
    rw [h.capacity]
    exact h.room
  have hsettled : ∀ o' ∈ (b.offer [o]).offers, o'.Settled b.capacity := by
    intro o' ho'
    rcases Books.mem_offers_offer.mp ho' with ho' | rfl
    · exact h.settled o' ho'
    · rw [← h.capacity]
      exact Offer.settled hpayload hgeneration hlimit
  have hinterface : ∀ t, e.session = some t →
      ∀ o' ∈ (b.offer [o]).offers, o'.session.interface = t.interface := by
    intro t ht o' ho'
    rcases Books.mem_offers_offer.mp ho' with ho' | rfl
    · exact h.interface t ht o' ho'
    · exact congrArg Session.interface (Option.some.inj (hs.symm.trans ht))
  have haccepted := b.accepted_offer o
  show Balanced o.outcome (b.offer [o])
  rcases Offer.outcome_cases hpayload hgeneration with
    ⟨hdropped, hroom, houtcome⟩ | ⟨hdropped, -, houtcome⟩
  · rw [hdropped, if_neg Bool.false_ne_true] at haccepted
    rw [houtcome]
    refine ⟨?_, h.capacity, ?_, hsettled, ?_, h.generation, ?_, hinterface⟩
    · rw [b.counters_offer_of_accepted hdropped, ← h.counters]
    · -- There was room for one more.
      have hcapacity : o.engine.queue.capacity = b.capacity := h.capacity
      show (o.engine.queue.packets ++ [o.packet]).length ≤ b.capacity
      rw [List.length_append, List.length_singleton]
      omega
    · intro hnone
      exact absurd (hs.symm.trans hnone) (by simp)
    · intro hsome
      rw [haccepted, List.map_append, ← h.order hsome, List.append_assoc]
      rfl
  · rw [hdropped, if_pos rfl] at haccepted
    rw [houtcome]
    refine ⟨?_, h.capacity, h.room, hsettled, h.idle, h.generation, ?_, hinterface⟩
    · rw [b.counters_offer_of_dropped hdropped, ← h.counters]
    · intro hsome
      rw [haccepted]
      exact h.order hsome

/-- The records of one look, handed on one after the other. -/
theorem deliver_foldl {s : Session} {records : List Ring.Record} (h : Balanced e b)
    (hs : e.session = some s) (now : Timestamp) (utilization : Float)
    (hpayload : ∀ record ∈ records, 0 < record.payload.length) :
    Balanced (records.foldl (Engine.deliver s now utilization) e)
      (b.offer (offersOf s now utilization e records)) := by
  induction records generalizing e b with
  | nil =>
    rw [offersOf, Books.offer_nil]
    exact h
  | cons record records ih =>
    have hfirst := h.deliver hs now utilization (hpayload record (List.mem_cons_self ..))
    have hsession := (deliver_frame s now utilization e record).2
    rw [offersOf, Books.offer_cons]
    exact ih hfirst (hsession.trans hs)
      fun record hrecord => hpayload record (List.mem_cons_of_mem _ hrecord)

/-- One look at the ring. -/
theorem handle {s : Session} (h : Balanced e b) (hs : e.session = some s) (now : Timestamp)
    (ring : Ring) :
    Balanced (Engine.handle s now e ring) ((b.offer (lookOffers s now e ring)).look [ring]) := by
  have hsource : Balanced (e.setSource ring.process.ring) b := h.congr rfl rfl rfl
  have hdelivered := hsource.deliver_foldl hs now ring.utilization
    fun record hrecord => ring.payload_pos_of_mem_process hrecord
  obtain ⟨h₁, h₂, h₃, h₄, h₅, h₆, h₇, h₈⟩ := hdelivered
  have hcounters := (b.offer (lookOffers s now e ring)).counters_look ring
  unfold Engine.handle
  dsimp only
  by_cases hmalformed : ring.process.isMalformed = true
  · rw [if_pos hmalformed] at hcounters ⊢
    refine ⟨?_, h₂, h₃, h₄, h₅, h₆, h₇, h₈⟩
    rw [hcounters, countError, h₁]
    rfl
  · rw [if_neg hmalformed] at hcounters ⊢
    exact ⟨h₁.trans hcounters.symm, h₂, h₃, h₄, h₅, h₆, h₇, h₈⟩

theorem handle_foldl {s : Session} (h : Balanced e b) (hs : e.session = some s) (now : Timestamp)
    (rings : List Ring) :
    Balanced (rings.foldl (Engine.handle s now) e)
      ((b.offer (roundOffers s now e rings)).look rings) := by
  induction rings generalizing e b with
  | nil =>
    rw [roundOffers, Books.offer_nil, Books.look_nil]
    exact h
  | cons ring rings ih =>
    have hsession := (handle_frame s now e ring).2
    have hrest := ih (h.handle hs now ring) (hsession.trans hs)
    rw [roundOffers, Books.offer_append, Books.look_cons]
    exact hrest

/-! ### Events -/

/-- A start leaves the books alone or begins new ones. -/
theorem start (h : Balanced e b) (platform : Platform) (now : Timestamp) (target : String)
    (settings : SessionSettings) (thread : Except Error Unit) :
    Balanced (e.start platform now target settings thread).1
      (b.note e (.start platform now target settings thread)) := by
  rw [Books.note]
  rcases e.start_cases platform now target settings thread with
    ⟨-, hstart⟩ | ⟨-, err, -, hstart⟩ | ⟨hnone, interface, ring, -, ⟨err, -, hstart⟩ | ⟨-, hstart⟩⟩
  · have hopened : (e.start platform now target settings thread).1.opened = e.opened := by
      rw [hstart]
    rw [if_pos hopened, hstart]
    exact h
  · have hopened : (e.start platform now target settings thread).1.opened = e.opened := by
      rw [hstart]
      rfl
    rw [if_pos hopened, hstart]
    exact h.congr rfl rfl rfl
  · have hopened : (e.start platform now target settings thread).1.opened = e.opened + 1 := by
      rw [hstart]
      rfl
    -- The source was opened, so new books begin although the start fails.
    rw [if_neg (by omega), hstart]
    refine opened rfl rfl rfl ?_
    intro s hs
    exact absurd (hnone.symm.trans hs) (by simp)
  · have hopened : (e.start platform now target settings thread).1.opened = e.opened + 1 := by
      rw [hstart]
      rfl
    rw [if_neg (by omega), hstart]
    refine opened rfl rfl rfl ?_
    intro s hs
    rw [← Option.some.inj hs]
    rfl

/-- A stop discards what is queued and ends the session. -/
theorem stop (h : Balanced e b) : Balanced e.stop.1 b := by
  rcases e.stop_cases with ⟨-, hstop⟩ | ⟨-, hstop⟩
  · rw [hstop]
    exact h
  · rw [hstop]
    -- The counters stay for the reports that follow; what was promised of a session ends with it.
    refine ⟨h.counters, h.capacity, Nat.zero_le _, h.settled, fun _ => rfl, ?_, ?_, ?_⟩
    · intro s hs
      cases hs
    · intro hsome
      cases hsome
    · intro s hs
      cases hs

/-- A wait that fails counts as an error. -/
theorem failed_wait (h : Balanced e b) :
    Balanced e.countError { b with failedWaits := b.failedWaits + 1 } := by
  refine ⟨?_, h.capacity, h.room, h.settled, h.idle, h.generation, h.order, h.interface⟩
  rw [countError, h.counters]
  show b.counters.countError = _
  rw [Counters.countError, Books.counters, Books.counters]
  congr 1
  show b.failedWaits + b.malformedBlocks + 1 = b.failedWaits + 1 + b.malformedBlocks
  omega

/-- A receive loop that comes to a sudden end leaves everything else in place. -/
theorem crashed {s : Session} (h : Balanced e b) (hs : e.session = some s) :
    Balanced { e with session := some { s with receiving := false } } b := by
  refine ⟨h.counters, h.capacity, h.room, h.settled, ?_, ?_, ?_, ?_⟩
  · intro hnone
    cases hnone
  · intro t ht
    rw [← Option.some.inj ht]
    exact h.generation s hs
  · intro _
    exact h.order (by rw [hs]; rfl)
  · intro t ht
    rw [← Option.some.inj ht]
    exact h.interface s hs

/-- A round of the receive loop, with every outcome of its wait. -/
theorem round (h : Balanced e b) (now : Timestamp) (wait : Wait) :
    Balanced (e.round now wait) (b.note e (.round now wait)) := by
  unfold Engine.round Books.note
  cases hs : e.session with
  | none => exact h
  | some s =>
    dsimp only
    cases hreceiving : s.receiving with
    | false => exact h
    | true =>
      cases wait with
      | ready =>
        cases hring : e.source? with
        | none => simpa [Books.noteRound, hring] using h
        | some ring =>
          have hround := h.handle_foldl hs now (ring.looks ring.blockCount)
          rw [← drain_eq_foldl s now hring] at hround
          simpa [Books.noteRound, hring] using hround
      | timedOut => exact h
      | interrupted => exact h
      | failed => exact h.failed_wait
      | crashed => exact h.crashed hs

theorem receive (h : Balanced e b) (r : Receiver) :
    Balanced (e.receive r).1 (b.note e (.receive r)) := by
  unfold Books.note
  dsimp only
  rcases e.receive_cases r with ⟨hr, ⟨p, rest, hpackets, hreceive⟩ | ⟨-, hreceive⟩⟩
    | ⟨hr, ⟨p, retired, -, hreceive⟩ | ⟨-, hreceive⟩⟩
  · rw [hreceive]
    dsimp only
    rw [if_pos hr]
    refine ⟨h.counters, h.capacity, ?_, h.settled, ?_, h.generation, ?_, h.interface⟩
    · have hroom := h.room
      rw [hpackets, List.length_cons] at hroom
      show rest.length ≤ b.capacity
      omega
    · intro hnone
      rw [h.idle hnone] at hpackets
      cases hpackets
    · -- The packet moves from the front of the queue to the end of what was taken.
      intro hsome
      have horder := h.order hsome
      rw [hpackets] at horder
      show b.taken ++ [p] ++ rest = b.accepted.map Offer.packet
      rw [List.append_assoc, List.singleton_append, horder]
  · rw [hreceive]
    exact h
  · rw [hreceive]
    dsimp only
    rw [if_neg hr]
    exact h.congr rfl rfl rfl
  · rw [hreceive]
    exact h

/-- A write of the kernel reaches ring memory only. -/
theorem write (h : Balanced e b) (offset : Nat) (data : Bytes) :
    Balanced ((e.writeMemory offset data).getD e) b := by
  rcases e.write_cases offset data with hwrite | ⟨ring, region, -, -, hwrite⟩
  · rw [hwrite]
    exact h
  · rw [hwrite]
    exact h.congr rfl rfl rfl

theorem step (h : Balanced e b) (event : Event) : Balanced (e.step event) (b.note e event) := by
  cases event with
  | start platform now target settings thread => exact h.start platform now target settings thread
  | stop => exact h.stop
  | round now wait => exact h.round now wait
  | write offset data => exact h.write offset data
  | receive receiver => exact h.receive receiver
  | installSink target => exact h.congr rfl rfl rfl
  | takeJournal => exact h.congr rfl rfl rfl
  | setGauge gauge => exact h.congr rfl rfl rfl

end Balanced

theorem balanced_new : Balanced {} {} :=
  Balanced.opened rfl rfl rfl fun _ hs => by cases hs

/-- The books balance along every run. -/
theorem balanced_foldl {e : Engine} {b : Books} (h : Balanced e b) (events : List Event) :
    Balanced (events.foldl keep (e, b)).1 (events.foldl keep (e, b)).2 := by
  induction events generalizing e b with
  | nil => exact h
  | cons event events ih => exact ih (h.step event)

/-! ## Nothing is lost -/

/-- Offers are entered as the ring hands records on. -/
def Books.Complete (b : Books) : Prop := b.offers.map Offer.record = b.handed

theorem Books.Complete.note {b : Books} (h : b.Complete) (e : Engine) (event : Event) :
    (b.note e event).Complete := by
  cases event with
  | start platform now target settings thread =>
    rw [Books.note]
    split
    · exact h
    · rfl
  | round now wait =>
    unfold Books.note
    cases e.session with
    | none => exact h
    | some s =>
      dsimp only
      split
      · cases wait with
        | ready =>
          unfold Books.noteRound
          cases e.source? with
          | none => exact h
          | some ring =>
            show (b.offers ++ roundOffers s now e _).map Offer.record
              = (b.looks ++ _).flatMap fun ring => ring.process.records
            rw [List.map_append, List.flatMap_append, roundOffers_map_record, h]
            rfl
        | timedOut => exact h
        | interrupted => exact h
        | failed => exact h
        | crashed => exact h
      · exact h
  | receive receiver =>
    unfold Books.note
    dsimp only
    split
    · split
      · exact h
      · exact h
    · exact h
  | stop => exact h
  | write offset data => exact h
  | installSink target => exact h
  | takeJournal => exact h
  | setGauge gauge => exact h

theorem complete_foldl {e : Engine} {b : Books} (h : b.Complete) (events : List Event) :
    (events.foldl keep (e, b)).2.Complete := by
  induction events generalizing e b with
  | nil => exact h
  | cons event events ih => exact ih (h.note e event)

theorem Books.accepted_add_refused (b : Books) :
    b.accepted.length + b.refused.length = b.offers.length := by
  unfold accepted refused
  induction b.offers with
  | nil => rfl
  | cons o offers ih =>
    rw [List.filter_cons, List.filter_cons, List.length_cons, ← ih]
    cases o.dropped
    · simp
      omega
    · simp
      omega

/-- **The engine's accounting.** After any run of a new engine: every record that the ring handed on
since a source was last opened was offered to the queue, in order; it was dropped exactly if it
found the queue at its capacity, and was put at the end of the queue otherwise. The statistics count
these offers, failed waits and malformed blocks and nothing else. While a session is active, what
was taken from its receiver and what is still queued are together the packets accepted, in order. -/
theorem run_accounting (events : List Event) :
    let e := run {} events
    let b := booksOf events
    b.offers.map Offer.record = b.handed
      ∧ (∀ o ∈ b.offers,
          (o.dropped = true ↔ o.engine.queue.packets.length = b.capacity)
          ∧ (o.dropped = false → o.outcome.queue.packets = o.engine.queue.packets ++ [o.packet]))
      ∧ e.queue.capacity = b.capacity
      ∧ e.statistics.received = b.accepted.length
      ∧ e.statistics.dropped = b.refused.length
      ∧ e.statistics.received + e.statistics.dropped = b.handed.length
      ∧ e.statistics.bytes = (b.accepted.map fun o => o.record.payload.length).sum
      ∧ e.statistics.last = b.accepted.getLast?.map (fun o => o.record.time)
      ∧ e.statistics.errors = b.failedWaits + b.malformedBlocks
      ∧ ∀ s, e.session = some s →
          b.taken ++ e.queue.packets
            = b.accepted.map fun o => ⟨o.record.time, s.interface.index, o.record.payload⟩ := by
  intro e b
  have hengine : (events.foldl keep ({}, {})).1 = e := keep_foldl_engine events {} {}
  have hbalanced : Balanced e b := by
    have h := balanced_foldl balanced_new events
    rw [hengine] at h
    exact h
  have hnew : Books.Complete {} := rfl
  have hcomplete : b.Complete := complete_foldl hnew events
  have hcounters := hbalanced.counters
  have hreceived : e.statistics.received = b.accepted.length := congrArg Counters.received hcounters
  have hdropped : e.statistics.dropped = b.refused.length := congrArg Counters.dropped hcounters
  refine ⟨hcomplete, hbalanced.settled, hbalanced.capacity, hreceived, hdropped, ?_,
    congrArg Counters.bytes hcounters, congrArg Counters.last hcounters,
    congrArg Counters.errors hcounters, ?_⟩
  · rw [hreceived, hdropped, b.accepted_add_refused, ← List.length_map Offer.record, hcomplete]
  · intro s hs
    have hsome : e.session.isSome := by
      rw [hs]
      rfl
    rw [hbalanced.order hsome]
    refine List.map_congr_left fun o ho => ?_
    rw [Offer.packet, hbalanced.interface s hs o (List.mem_filter.mp ho).1]

end Engine

end LinkTap
