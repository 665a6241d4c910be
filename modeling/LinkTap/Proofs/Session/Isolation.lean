/-
Which packets a receiver can see.

The queue between a session and its consumers is replaced by every start that opens a source, even
by one that fails afterwards, and by every stop. Whoever holds a receiver may hold it across any
number of replacements. Queues are therefore numbered in the order in which they are put in place, a
receiver carries the number that was current when it was taken, and a session the number of the
queue that was made for it.

Beside a run the traffic is recorded: every packet that a receive loop sends, with the engine it
finds, and every packet that comes out of a receiver. Nothing is ever forgotten in this record, so
it covers all sessions of the run. That a receiver sees its own session only is then a statement
about two lists for each number: what came out is a prefix of what was put in. While a session is
active these lists are the ones that the books of the engine speak of; the numbers of all other
queues are out of reach, because sessions use the current number only and the next one is always
unused.
-/
import LinkTap.Proofs.Session.Accounting
import LinkTap.Proofs.Session.Lifecycle

set_option autoImplicit false

namespace LinkTap

/-! ## Channels -/

/-- What a channel answers to one attempt to receive: the oldest packet in it, or whether one can
still come. -/
def Reception.ofChannel (waiting : List Packet) (senders : Nat) : Reception :=
  match waiting with
  | p :: _ => .packet p
  | [] => if senders = 0 then .disconnected else .empty

namespace Engine

/-- What waits for the receivers of a number. -/
def pending (e : Engine) (generation : Nat) : List Packet :=
  match (e.queue :: e.retired).find? fun queue => queue.generation == generation with
  | some queue => queue.packets
  | none => []

/-- The handles for sending to the receivers of a number. The engine holds one for its current
queue, and a receive loop holds one for the queue of its session until it ends. -/
def senders (e : Engine) (generation : Nat) : Nat :=
  (if e.queue.generation = generation then 1 else 0)
    + (if e.session.any fun s => s.receiving && s.generation == generation then 1 else 0)

/-- The session uses the current queue and the replaced queues are empty, so the answer to an
attempt is the one that a channel with these packets and senders gives. -/
theorem Orderly.receive_eq_ofChannel {e : Engine} (h : Orderly e)
    (hsession : ∀ s, e.session = some s → s.generation = e.queue.generation) (r : Receiver) :
    (e.receive r).2 = .ofChannel (e.pending r.generation) (e.senders r.generation) := by
  by_cases hr : r.generation = e.queue.generation
  · have hpending : e.pending r.generation = e.queue.packets := by
      simp [pending, hr]
    have hsenders : e.senders r.generation ≠ 0 := by
      simp [senders, hr]
    have hcurrent : r = e.receiver := by
      rw [receiver, ← hr]
    rw [hpending]
    rcases e.receive_cases r with
      ⟨-, ⟨p, rest, hpackets, hreceive⟩ | ⟨hpackets, hreceive⟩⟩ | ⟨hne, -⟩
    · rw [hreceive, hpackets]
      rfl
    · rw [hreceive, hpackets]
      simp only [Reception.ofChannel, if_neg hsenders]
    · exact absurd hcurrent hne
  · have hne : r ≠ e.receiver := by
      intro hsame
      exact hr (congrArg Receiver.generation hsame)
    have hpending : e.pending r.generation = [] := by
      unfold pending
      rw [List.find?_cons_of_neg (by simpa using Ne.symm hr)]
      split
      · rename_i queue hfound
        exact h.retired queue (List.mem_of_find?_eq_some hfound)
      · rfl
    -- A receive loop that still runs sends to the current queue, so it is no sender here.
    have hsenders : e.senders r.generation = 0 := by
      have hloop : (e.session.any fun s => s.receiving && s.generation == r.generation)
          = false := by
        cases hs : e.session with
        | none => rfl
        | some s =>
          simp [hsession s hs, Ne.symm hr]
      simp [senders, hloop, Ne.symm hr]
    rw [h.receive_of_ne hne, hpending, hsenders]
    rfl

/-! ## Numbers of queues -/

/-- Whether an event that happens to the engine `e` puts a new queue in place. -/
def installs (e : Engine) : Event → Bool
  | .stop => e.session.isSome
  | event => e.opens event

/-- How many queues the events put in place that happen to the engine `e`. -/
def installations (e : Engine) : List Event → Nat
  | [] => 0
  | event :: events => (if e.installs event then 1 else 0) + installations (e.step event) events

/-- The queues are numbered without gaps, the latest one first. -/
def Numbered (e : Engine) : Prop :=
  (e.queue :: e.retired).map Queue.generation = (List.range (e.queue.generation + 1)).reverse

/-- A queue that is put in front of the others takes the next number. -/
theorem Numbered.install {e e' : Engine} (h : Numbered e)
    (hqueue : e'.queue.generation = e.queue.generation + 1)
    (hretired : e'.retired.map Queue.generation = (e.queue :: e.retired).map Queue.generation) :
    Numbered e' := by
  unfold Numbered
  rw [List.map_cons, hretired, hqueue, h, List.range_succ (n := e.queue.generation + 1),
    List.reverse_append]
  rfl

/-- One event moves the current number on exactly if it puts a queue in place. -/
theorem Orderly.numbered_step {e : Engine} (h : Orderly e) (hn : Numbered e) (event : Event) :
    Numbered (e.step event)
      ∧ (e.step event).queue.generation
          = e.queue.generation + if e.installs event then 1 else 0 := by
  -- What neither starts nor stops a session leaves the queues where they are.
  have hsame : ∀ {e' : Engine}, Undisturbed e e' →
      Numbered e' ∧ e'.queue.generation = e.queue.generation := by
    intro e' hu
    refine ⟨?_, hu.generation⟩
    unfold Numbered
    rw [List.map_cons, hu.retired, hu.generation]
    exact hn
  cases event with
  | start platform now target settings thread =>
    have hopened := e.opened_start platform now target settings thread
    have hinstalls : e.installs (.start platform now target settings thread)
        = e.opens (.start platform now target settings thread) := rfl
    -- A start opens as many sources as it installs queues, one or none.
    have hnone : ∀ k, e.opened = e.opened + k → e.queue.generation = e.queue.generation + k := by
      intro k hk
      omega
    have hone : ∀ k, e.opened + 1 = e.opened + k →
        e.queue.generation + 1 = e.queue.generation + k := by
      intro k hk
      omega
    rw [Engine.step, hinstalls]
    rcases e.start_cases platform now target settings thread with
      ⟨-, hstart⟩ | ⟨-, err, -, hstart⟩ | ⟨-, i, ring, -, ⟨err, -, hstart⟩ | ⟨-, hstart⟩⟩
    all_goals rw [hstart] at hopened ⊢
    · exact ⟨hn, hnone _ hopened⟩
    · exact ⟨hn, hnone _ hopened⟩
    -- Whether the receive loop can be launched makes no difference to the queue.
    all_goals exact ⟨hn.install rfl rfl, hone _ hopened⟩
  | stop =>
    have hinstalls : e.installs .stop = e.session.isSome := rfl
    rw [Engine.step, hinstalls]
    rcases e.stop_cases with ⟨hnone, hstop⟩ | ⟨hsome, hstop⟩
    · rw [hstop, hnone]
      exact ⟨hn, rfl⟩
    · rw [hstop, if_pos hsome]
      exact ⟨hn.install rfl rfl, rfl⟩
  | round now wait => exact hsame (e.undisturbed_round now wait)
  | write offset data => exact hsame (e.undisturbed_write offset data)
  | receive receiver => exact hsame (h.undisturbed_receive receiver)
  | installSink target => exact ⟨hn, rfl⟩
  | takeJournal => exact ⟨hn, rfl⟩
  | setGauge gauge => exact ⟨hn, rfl⟩

theorem Orderly.numbered_run {e : Engine} (h : Orderly e) (hn : Numbered e) (events : List Event) :
    Numbered (e.run events)
      ∧ (e.run events).queue.generation = e.queue.generation + e.installations events := by
  induction events generalizing e with
  | nil => exact ⟨hn, rfl⟩
  | cons event events ih =>
    obtain ⟨hstep, hgeneration⟩ := h.numbered_step hn event
    obtain ⟨hrun, htotal⟩ := ih (h.step event) hstep
    refine ⟨hrun, ?_⟩
    show ((e.step event).run events).queue.generation = _
    rw [htotal, hgeneration, installations]
    omega

theorem numbered_new : Numbered {} := rfl

/-! ## Traffic -/

/-- What went into queues and came out of them. -/
structure Traffic where
  /-- The records that the rings handed on. -/
  handed : List Ring.Record := []
  /-- What receive loops sent, and the engine that they found. -/
  sends : List Offer := []
  /-- What came out, and the number of the receiver. -/
  receipts : List (Nat × Packet) := []

namespace Traffic

/-- The packets that the session with a number put into its queue, in order. -/
def captured (t : Traffic) (generation : Nat) : List Packet :=
  (t.sends.filter fun o => o.session.generation == generation && !o.dropped).map Offer.packet

/-- The packets that came out of receivers with a number, in order. -/
def received (t : Traffic) (generation : Nat) : List Packet :=
  (t.receipts.filter fun receipt => receipt.1 == generation).map Prod.snd

/-- Enter what a round sends. -/
def send (t : Traffic) (records : List Ring.Record) (offers : List Offer) : Traffic :=
  { t with handed := t.handed ++ records, sends := t.sends ++ offers }

/-- Enter a packet that came out of a receiver. -/
def receipt (t : Traffic) (generation : Nat) (p : Packet) : Traffic :=
  { t with receipts := t.receipts ++ [(generation, p)] }

/-- Enter an event that happens to the engine `e`. -/
def note (t : Traffic) (e : Engine) : Event → Traffic
  | .round now .ready =>
    match e.session, e.source? with
    | some s, some ring =>
      let rings := ring.looks ring.blockCount
      if s.receiving then
        t.send (rings.flatMap fun ring => ring.process.records) (roundOffers s now e rings)
      else t
    | _, _ => t
  | .receive receiver =>
    match (e.receive receiver).2 with
    | .packet p => t.receipt receiver.generation p
    | _ => t
  | _ => t

/-- The sends of one session are captured under its number, unless they are dropped. -/
theorem captured_send (t : Traffic) (records : List Ring.Record) {offers : List Offer} {k : Nat}
    (hoffers : ∀ o ∈ offers, o.session.generation = k) (generation : Nat) :
    (t.send records offers).captured generation = t.captured generation
      ++ if k = generation then (offers.filter fun o => !o.dropped).map Offer.packet else [] := by
  unfold captured send
  rw [List.filter_append, List.map_append]
  congr 1
  by_cases hk : k = generation
  · rw [if_pos hk]
    congr 1
    apply List.filter_congr
    intro o ho
    simp [hoffers o ho, hk]
  · rw [if_neg hk, List.map_eq_nil_iff, List.filter_eq_nil_iff]
    intro o ho
    simp [hoffers o ho, hk]

theorem received_receipt (t : Traffic) (k : Nat) (p : Packet) (generation : Nat) :
    (t.receipt k p).received generation
      = t.received generation ++ if k = generation then [p] else [] := by
  unfold received receipt
  rw [List.filter_append, List.map_append]
  by_cases hk : k = generation
  · simp [hk]
  · simp [hk]

end Traffic

/-- One event, with the traffic recorded. -/
def follow (followed : Engine × Traffic) (event : Event) : Engine × Traffic :=
  (followed.1.step event, followed.2.note followed.1 event)

/-- The traffic of a run that begins with a new engine. -/
def trafficOf (events : List Event) : Traffic := (events.foldl follow ({}, {})).2

/-! ## Sends of a round -/

theorem generation_deliver (s : Session) (now : Timestamp) (utilization : Float) (e : Engine)
    (record : Ring.Record) :
    (deliver s now utilization e record).queue.generation = e.queue.generation := by
  unfold deliver
  split
  · rfl
  · dsimp only
    split
    · rfl
    · rename_i queue hqueue
      exact generation_of_enqueue? hqueue

theorem generation_handle (s : Session) (now : Timestamp) (e : Engine) (ring : Ring) :
    (handle s now e ring).queue.generation = e.queue.generation := by
  have hfold : ∀ (records : List Ring.Record) (e : Engine),
      (records.foldl (deliver s now ring.utilization) e).queue.generation = e.queue.generation := by
    intro records
    induction records with
    | nil => exact fun e => rfl
    | cons record records ih => exact fun e => (ih _).trans (generation_deliver ..)
  have hdelivered := hfold ring.process.records (e.setSource ring.process.ring)
  unfold handle
  dsimp only
  split <;> exact hdelivered

/-- A look sends on behalf of its session and never replaces the queue. -/
theorem of_mem_offersOf {s : Session} {now : Timestamp} {utilization : Float} {e : Engine}
    {records : List Ring.Record} {o : Offer} (h : o ∈ offersOf s now utilization e records) :
    o.session = s ∧ o.engine.queue.generation = e.queue.generation := by
  induction records generalizing e with
  | nil => cases h
  | cons record records ih =>
    rw [offersOf] at h
    rcases List.mem_cons.mp h with rfl | h
    · exact ⟨rfl, rfl⟩
    · obtain ⟨hsession, hgeneration⟩ := ih h
      exact ⟨hsession, hgeneration.trans (generation_deliver ..)⟩

theorem of_mem_roundOffers {s : Session} {now : Timestamp} {e : Engine} {rings : List Ring}
    {o : Offer} (h : o ∈ roundOffers s now e rings) :
    o.session = s ∧ o.engine.queue.generation = e.queue.generation := by
  induction rings generalizing e with
  | nil => cases h
  | cons ring rings ih =>
    rw [roundOffers] at h
    rcases List.mem_append.mp h with h | h
    · exact of_mem_offersOf (e := e.setSource ring.process.ring) h
    · obtain ⟨hsession, hgeneration⟩ := ih h
      exact ⟨hsession, hgeneration.trans (generation_handle ..)⟩

/-! ## Numbers and sessions -/

/-- What the traffic `t` of a run says of each number, for the engine and the books at its end. -/
structure Separate (e : Engine) (b : Books) (t : Traffic) : Prop where
  /-- The current number of an active session has the packets that the books have. -/
  active : e.session.isSome → t.captured e.queue.generation = b.accepted.map Offer.packet
    ∧ t.received e.queue.generation = b.taken
  /-- Later numbers were never used. -/
  unused : ∀ generation, e.queue.generation < generation →
    t.captured generation = [] ∧ t.received generation = []
  others : ∀ generation, (e.session.isSome → generation ≠ e.queue.generation) →
    t.received generation <+: t.captured generation
  /-- A receive loop finds the queue of its session in place. -/
  connected : ∀ o ∈ t.sends, o.session.generation = o.engine.queue.generation
  complete : t.sends.map Offer.record = t.handed

namespace Separate

variable {e : Engine} {b : Books} {t : Traffic}

theorem new : Separate {} {} {} := by
  refine ⟨?_, ?_, ?_, ?_, rfl⟩
  · intro hsome
    cases hsome
  · intro generation _
    exact ⟨rfl, rfl⟩
  · intro generation _
    exact List.prefix_refl []
  · intro o ho
    cases ho

/-- For the number of an active session the books say that the law holds. -/
theorem isPrefix (h : Separate e b t) (hb : Balanced e b) (generation : Nat) :
    t.received generation <+: t.captured generation := by
  by_cases hcurrent : e.session.isSome ∧ generation = e.queue.generation
  · obtain ⟨hsome, rfl⟩ := hcurrent
    obtain ⟨hcaptured, hreceived⟩ := h.active hsome
    rw [hcaptured, hreceived, ← hb.order hsome]
    exact List.prefix_append _ _
  · apply h.others
    intro hsome hsame
    exact hcurrent ⟨hsome, hsame⟩

theorem congr {e' : Engine} {b' : Books} (h : Separate e b t)
    (hsession : e'.session.isSome = e.session.isSome)
    (hgeneration : e'.queue.generation = e.queue.generation) (haccepted : b'.accepted = b.accepted)
    (htaken : b'.taken = b.taken) : Separate e' b' t := by
  refine ⟨?_, ?_, ?_, h.connected, h.complete⟩
  · rw [hsession, hgeneration, haccepted, htaken]
    exact h.active
  · rw [hgeneration]
    exact h.unused
  · rw [hsession, hgeneration]
    exact h.others

/-- A queue is put in place for which nothing was sent or received yet. -/
theorem install {e' : Engine} {b' : Books} (h : Separate e b t) (hb : Balanced e b)
    (capacity : Nat) (hgeneration : e'.queue.generation = e.queue.generation + 1)
    (hbooks : e'.session.isSome → b' = { capacity }) : Separate e' b' t := by
  refine ⟨?_, ?_, ?_, h.connected, h.complete⟩
  · intro hsome
    obtain ⟨hcaptured, hreceived⟩ := h.unused (e.queue.generation + 1) (Nat.lt_succ_self _)
    rw [hbooks hsome, hgeneration, hcaptured, hreceived]
    exact ⟨rfl, rfl⟩
  · intro generation hlater
    apply h.unused
    omega
  · intro generation _
    exact h.isPrefix hb generation

/-! ### Events -/

theorem start (h : Separate e b t) (hb : Balanced e b) (platform : Platform) (now : Timestamp)
    (target : String) (settings : SessionSettings) (thread : Except Error Unit) :
    Separate (e.start platform now target settings thread).1
      (b.note e (.start platform now target settings thread)) t := by
  rw [Books.note]
  rcases e.start_cases platform now target settings thread with
    ⟨-, hstart⟩ | ⟨-, err, -, hstart⟩ | ⟨hnone, i, ring, -, ⟨err, -, hstart⟩ | ⟨-, hstart⟩⟩
  all_goals rw [hstart]
  · rw [if_pos rfl]
    exact h
  · have hkept : ({ e with phase := .idle } : Engine).opened = e.opened := rfl
    rw [if_pos hkept]
    exact h.congr rfl rfl rfl rfl
  -- Once a source is open the queue is replaced and new books begin.
  all_goals
    rw [if_neg (by simp [opened])]
    exact h.install hb settings.queueCapacity rfl fun _ => rfl

theorem stop (h : Separate e b t) (hb : Balanced e b) : Separate e.stop.1 b t := by
  rcases e.stop_cases with ⟨-, hstop⟩ | ⟨-, hstop⟩
  · rw [hstop]
    exact h
  · rw [hstop]
    refine h.install hb e.queue.capacity rfl ?_
    intro hsome
    cases hsome

/-- The sends of a round enter the books and the traffic alike. -/
theorem sent {s : Session} {e' : Engine} (h : Separate e b t) (hb : Balanced e b)
    (hs : e.session = some s) (now : Timestamp) (rings : List Ring)
    (hsession : e'.session.isSome = e.session.isSome)
    (hgeneration : e'.queue.generation = e.queue.generation) :
    Separate e' ((b.offer (roundOffers s now e rings)).look rings)
      (t.send (rings.flatMap fun ring => ring.process.records) (roundOffers s now e rings)) := by
  have hsome : e.session.isSome := by
    rw [hs]
    rfl
  have hcurrent : s.generation = e.queue.generation := hb.generation s hs
  have hoffers : ∀ o ∈ roundOffers s now e rings, o.session.generation = e.queue.generation := by
    intro o ho
    rw [(of_mem_roundOffers ho).1, hcurrent]
  have hcaptured := t.captured_send (rings.flatMap fun ring => ring.process.records) hoffers
  refine ⟨?_, ?_, ?_, ?_, ?_⟩
  · intro _
    obtain ⟨hbefore, hreceived⟩ := h.active hsome
    rw [hgeneration, hcaptured, if_pos rfl, hbefore]
    refine ⟨?_, hreceived⟩
    simp only [Books.accepted, Books.offer, Books.look, List.filter_append, List.map_append]
  · intro generation hlater
    rw [hgeneration] at hlater
    obtain ⟨hbefore, hreceived⟩ := h.unused generation hlater
    rw [hcaptured, hbefore, if_neg (by omega)]
    exact ⟨rfl, hreceived⟩
  · intro generation hother
    rw [hsession, hgeneration] at hother
    rw [hcaptured, if_neg (Ne.symm (hother hsome)), List.append_nil]
    exact h.others generation hother
  · intro o ho
    rcases List.mem_append.mp ho with ho | ho
    · exact h.connected o ho
    · rw [hoffers o ho, (of_mem_roundOffers ho).2]
  · simp only [Traffic.send, List.map_append, h.complete, roundOffers_map_record]

theorem round (h : Separate e b t) (hb : Balanced e b) (now : Timestamp) (wait : Wait) :
    Separate (e.round now wait) (b.note e (.round now wait)) (t.note e (.round now wait)) := by
  have hsession := (e.undisturbed_round now wait).session_isSome
  have hgeneration := (e.undisturbed_round now wait).generation
  have hkept : ∀ b' : Books, b'.accepted = b.accepted → b'.taken = b.taken →
      Separate (e.round now wait) b' t := fun _ => h.congr hsession hgeneration
  unfold Books.note
  cases hs : e.session with
  | none =>
    have hquiet : t.note e (.round now wait) = t := by
      cases wait <;> simp [Traffic.note, hs]
    rw [hquiet]
    exact hkept b rfl rfl
  | some s =>
    dsimp only
    by_cases hreceiving : s.receiving = true
    · rw [if_pos hreceiving]
      cases wait with
      | ready =>
        unfold Books.noteRound Traffic.note
        rw [hs]
        cases hring : e.source? with
        | none => exact hkept b rfl rfl
        | some ring =>
          dsimp only
          rw [if_pos hreceiving]
          exact h.sent hb hs now _ hsession hgeneration
      | timedOut => exact hkept b rfl rfl
      | interrupted => exact hkept b rfl rfl
      | failed => exact hkept _ rfl rfl
      | crashed => exact hkept b rfl rfl
    · have hquiet : t.note e (.round now wait) = t := by
        cases wait <;> simp [Traffic.note, hs]
        cases e.source? <;> simp [hreceiving]
      rw [if_neg hreceiving, hquiet]
      exact hkept b rfl rfl

theorem receive (h : Separate e b t) (hb : Balanced e b) (ho : Orderly e) (r : Receiver) :
    Separate (e.receive r).1 (b.note e (.receive r)) (t.note e (.receive r)) := by
  unfold Books.note Traffic.note
  dsimp only
  rcases e.receive_cases r with ⟨hr, ⟨p, rest, hpackets, hreceive⟩ | ⟨-, hreceive⟩⟩ | ⟨hr, -⟩
  · rw [hreceive]
    dsimp only
    rw [if_pos hr]
    -- Only a session queues packets, so this one is of the current session.
    have hsome : e.session.isSome := by
      rw [Option.isSome_iff_ne_none]
      intro hnone
      rw [hb.idle hnone] at hpackets
      cases hpackets
    have hgeneration : r.generation = e.queue.generation := congrArg Receiver.generation hr
    refine ⟨?_, ?_, ?_, h.connected, h.complete⟩
    · intro _
      obtain ⟨hcaptured, hreceived⟩ := h.active hsome
      refine ⟨hcaptured, ?_⟩
      rw [Traffic.received_receipt, hgeneration, if_pos rfl, hreceived]
    · intro generation hlater
      obtain ⟨hcaptured, hreceived⟩ := h.unused generation hlater
      refine ⟨hcaptured, ?_⟩
      have hne : ¬ r.generation = generation := by
        rw [hgeneration]
        exact Nat.ne_of_lt hlater
      rw [Traffic.received_receipt, if_neg hne, hreceived]
      rfl
    · intro generation hother
      have hne : ¬ r.generation = generation := by
        rw [hgeneration]
        exact Ne.symm (hother hsome)
      rw [Traffic.received_receipt, if_neg hne, List.append_nil]
      exact h.others generation hother
  · rw [hreceive]
    exact h
  · rw [ho.receive_of_ne hr]
    exact h

theorem step (h : Separate e b t) (hb : Balanced e b) (ho : Orderly e) (event : Event) :
    Separate (e.step event) (b.note e event) (t.note e event) := by
  cases event with
  | start platform now target settings thread =>
    exact h.start hb platform now target settings thread
  | stop => exact h.stop hb
  | round now wait => exact h.round hb now wait
  | write offset data =>
    have hu := e.undisturbed_write offset data
    exact h.congr hu.session_isSome hu.generation rfl rfl
  | receive receiver => exact h.receive hb ho receiver
  | installSink target => exact h.congr rfl rfl rfl rfl
  | takeJournal => exact h.congr rfl rfl rfl rfl
  | setGauge gauge => exact h.congr rfl rfl rfl rfl

/-- Engine, books and traffic along a run. -/
theorem foldl (h : Separate e b t) (hb : Balanced e b) (ho : Orderly e) (events : List Event) :
    Separate (e.run events) (events.foldl keep (e, b)).2 (events.foldl follow (e, t)).2 := by
  induction events generalizing e b t with
  | nil => exact h
  | cons event events ih => exact ih (h.step hb ho event) (hb.step event) (ho.step event)

end Separate

/-! ## Isolation -/

/-- **Receivers see their own session only.** After any run of a new engine, the queues that were
put in place so far are numbered without gaps. A receiver whose queue was replaced is disconnected
and brings nothing, a receiver of the current queue is never disconnected, and a receiver taken at
any moment of the run is of the first kind exactly if a queue was put in place since. These are the
answers that a channel gives whose senders are the engine and the receive loop. A session has the
number of the queue that was made for it, and what came out of the receivers of a number is a prefix
of what the session with that number put into its queue. Nothing is queued while the engine is idle,
the queue never holds more than its capacity, and whenever a receive loop sent a packet the queue of
its session was the current one, so a send fails for want of room only. -/
theorem receivers_isolated (events : List Event) :
    let e := run {} events
    let t := trafficOf events
    (e.queue :: e.retired).map Queue.generation
        = (List.range (installations {} events + 1)).reverse
      ∧ (∀ r : Receiver, r.generation < e.queue.generation → e.receive r = (e, .disconnected))
      ∧ (∀ r : Receiver, r.generation = e.queue.generation → (e.receive r).2 ≠ .disconnected)
      ∧ (∀ earlier later, events = earlier ++ later →
          (run {} earlier).receiver.generation + installations (run {} earlier) later
            = e.queue.generation)
      ∧ (∀ r : Receiver,
          (e.receive r).2 = .ofChannel (e.pending r.generation) (e.senders r.generation))
      ∧ (∀ s, e.session = some s → s.generation = e.queue.generation)
      ∧ (∀ generation, t.received generation <+: t.captured generation)
      ∧ (e.phase = .idle → e.queue.packets = [])
      ∧ e.queue.packets.length ≤ e.queue.capacity
      ∧ t.sends.map Offer.record = t.handed
      ∧ ∀ o ∈ t.sends, o.session.generation = o.engine.queue.generation
          ∧ o.engine.enqueue? o.session o.packet = o.engine.queue.push? o.packet := by
  intro e t
  have ho : Orderly e := Orderly.new.run events
  have hb : Balanced e (booksOf events) := by
    have hkept := balanced_foldl balanced_new events
    rwa [keep_foldl_engine] at hkept
  have ht : Separate e (booksOf events) t := Separate.new.foldl balanced_new Orderly.new events
  obtain ⟨hnumbered, hcurrent⟩ := Orderly.new.numbered_run numbered_new events
  have hzero : ({} : Engine).queue.generation = 0 := rfl
  rw [hzero, Nat.zero_add] at hcurrent
  refine ⟨?_, ?_, ?_, ?_, ho.receive_eq_ofChannel hb.generation, hb.generation,
    ht.isPrefix hb, ?_, ?_, ht.complete, ?_⟩
  · rw [← hcurrent]
    exact hnumbered
  · intro r hr
    apply ho.receive_of_ne
    intro hsame
    have hgeneration : r.generation = e.queue.generation := congrArg Receiver.generation hsame
    omega
  · intro r hr hlost
    rw [ho.receive_eq_ofChannel hb.generation] at hlost
    unfold Reception.ofChannel senders at hlost
    split at hlost
    · cases hlost
    · simp [hr] at hlost
  · intro earlier later hsplit
    have hrun : e = (run {} earlier).run later := by
      simp only [e, hsplit, run, List.foldl_append]
    have hn := (Orderly.new.numbered_run numbered_new earlier).1
    rw [hrun, ((Orderly.new.run earlier).numbered_run hn later).2]
    rfl
  · intro hidle
    exact hb.idle (ho.idle_iff.mp hidle)
  · rw [hb.capacity]
    exact hb.room
  · intro o hsend
    have hconnected := ht.connected o hsend
    refine ⟨hconnected, ?_⟩
    rw [enqueue?, if_pos hconnected]

end Engine

end LinkTap
