/-
A round of the receive loop, taken apart.

A round that finds the ring ready hands on many records, and the other parties do not wait for its
end: a packet may be taken from the queue between two records, a sink installed, a block filled. So
the round is taken apart here into acts. One act hands one record on, read off the block at the
cursor, which stays the consumer's and stays at the cursor until another act gives it back. Every
other event is one act. A course is any list of acts; the records are left open, so that nothing
hangs on how a block is walked.

The events of a run are courses of acts. What differs between a round and its acts is one moment
only: the round sets its ring to the state behind the block before it hands the records on, the acts
afterwards, when the utilisation that the reports carry has been read. Handing on never looks at the
ring, so the two agree.

An act does one of three things to the queue and the counters. It opens a source and both begin
afresh, it offers a record, or it leaves the counters of packets alone and takes packets from the
queue at most.
-/
import LinkTap.Proofs.Session.Accounting
import LinkTap.Proofs.Session.Round

set_option autoImplicit false

namespace LinkTap

namespace Engine

/-! ## Acts -/

/-- The time of a round that finds the ring ready. -/
def Event.readyAt? : Event → Option Timestamp
  | .round now .ready => some now
  | _ => none

/-- What one party does without another one in between. -/
inductive Act where
  /-- Anything but a round that finds the ring ready. -/
  | whole (event : Event) (h : event.readyAt? = none)
  /-- The receive loop hands on a record of the block at the cursor. -/
  | handOn (now : Timestamp) (record : Ring.Record)
  /-- The receive loop has come to the end of the block at the cursor and gives it back. -/
  | giveBack

/-- The session whose receive loop runs, with the source that it drains. -/
def loop? (e : Engine) : Option (Session × Ring) :=
  match e.session, e.source? with
  | some s, some ring => if s.receiving then some (s, ring) else none
  | _, _ => none

/-- The offer that a record makes while its block is at the cursor. A block that is not the
consumer's has no records to hand on. -/
def offerOf? (e : Engine) (now : Timestamp) (record : Ring.Record) : Option Offer :=
  match e.loop? with
  | none => none
  | some (s, ring) =>
    if ring.closed = false ∧ ring.ready ring.cursor = true ∧ 0 < record.payload.length then
      some ⟨s, now, ring.utilization, e, record⟩
    else none

def giveBack (e : Engine) : Engine :=
  match e.loop? with
  | none => e
  | some (_, ring) =>
    let passed := e.setSource ring.process.ring
    if ring.process.isMalformed then passed.countError else passed

/-- The offer that an act makes. -/
def offer? (e : Engine) : Act → Option Offer
  | .handOn now record => e.offerOf? now record
  | _ => none

/-- The engine after one act. -/
def act (e : Engine) : Act → Engine
  | .whole event _ => e.step event
  | .handOn now record => ((e.offerOf? now record).map Offer.outcome).getD e
  | .giveBack => e.giveBack

/-- The engine after a list of acts. -/
def course (e : Engine) (acts : List Act) : Engine := acts.foldl act e

variable {e e' : Engine}

theorem course_append (e : Engine) (acts more : List Act) :
    e.course (acts ++ more) = (e.course acts).course more :=
  List.foldl_append

theorem loop?_eq_some_iff {s : Session} {ring : Ring} :
    e.loop? = some (s, ring) ↔ e.session = some s ∧ s.receiving = true ∧ e.source? = some ring := by
  unfold loop?
  constructor
  · intro h
    split at h
    · rename_i s' ring' hs hring
      split at h
      · rename_i hreceiving
        obtain ⟨rfl, rfl⟩ := Prod.mk.inj (Option.some.inj h)
        exact ⟨hs, hreceiving, hring⟩
      · cases h
    · cases h
  · rintro ⟨hs, hreceiving, hring⟩
    rw [hs, hring]
    exact if_pos hreceiving

/-- What an offer of an act tells: whose it is, and of what ring. -/
theorem offerOf?_eq_some {now : Timestamp} {record : Ring.Record} {o : Offer}
    (h : e.offerOf? now record = some o) :
    ∃ ring, e.loop? = some (o.session, ring) ∧ ring.closed = false ∧ ring.ready ring.cursor = true
      ∧ 0 < record.payload.length ∧ o = ⟨o.session, now, ring.utilization, e, record⟩ := by
  unfold offerOf? at h
  split at h
  · cases h
  · rename_i s ring hloop
    split at h
    · rename_i hguard
      obtain rfl := Option.some.inj h
      exact ⟨ring, hloop, hguard.1, hguard.2.1, hguard.2.2, rfl⟩
    · cases h

/-! ## A round is a course -/

/-- Handing on does not look at the ring. -/
theorem deliver_setSource (s : Session) (now : Timestamp) (utilization : Float) (e : Engine)
    (ring : Ring) (record : Ring.Record) :
    deliver s now utilization (e.setSource ring) record
      = (deliver s now utilization e record).setSource ring := by
  have henqueue : ∀ packet, (e.setSource ring).enqueue? s packet = e.enqueue? s packet :=
    fun _ => rfl
  unfold deliver
  split
  · rfl
  · dsimp only
    rw [henqueue]
    split <;> rfl

theorem deliver_foldl_setSource (s : Session) (now : Timestamp) (utilization : Float) (ring : Ring)
    (records : List Ring.Record) (e : Engine) :
    records.foldl (deliver s now utilization) (e.setSource ring)
      = (records.foldl (deliver s now utilization) e).setSource ring := by
  induction records generalizing e with
  | nil => rfl
  | cons record records ih => rw [List.foldl_cons, List.foldl_cons, deliver_setSource, ih]

/-- The receive loop goes on with the source that it has. -/
theorem loop?_of_frame {s : Session} {ring : Ring} (hloop : e.loop? = some (s, ring))
    (hsources : e'.sources = e.sources) (hsession : e'.session = e.session) :
    e'.loop? = some (s, ring) := by
  unfold loop? source? at hloop ⊢
  rwa [hsources, hsession]

theorem act_handOn {s : Session} {ring : Ring} (hloop : e.loop? = some (s, ring))
    (hopen : ring.closed = false) (hready : ring.ready ring.cursor = true) {record : Ring.Record}
    (hpayload : 0 < record.payload.length) (now : Timestamp) :
    e.act (.handOn now record) = deliver s now ring.utilization e record := by
  have hoffer : e.offerOf? now record = some ⟨s, now, ring.utilization, e, record⟩ := by
    unfold offerOf?
    rw [hloop]
    exact if_pos ⟨hopen, hready, hpayload⟩
  rw [act, hoffer]
  rfl

theorem course_handOn {s : Session} {ring : Ring} (hloop : e.loop? = some (s, ring))
    (hopen : ring.closed = false) (hready : ring.ready ring.cursor = true)
    {records : List Ring.Record}
    (hpayload : ∀ record ∈ records, 0 < record.payload.length) (now : Timestamp) :
    e.course (records.map (.handOn now)) = records.foldl (deliver s now ring.utilization) e := by
  induction records generalizing e with
  | nil => rfl
  | cons record records ih =>
    have hfirst := act_handOn hloop hopen hready (hpayload record (List.mem_cons_self ..)) now
    obtain ⟨hsources, hsession⟩ := deliver_frame s now ring.utilization e record
    have hnext := loop?_of_frame hloop hsources hsession
    rw [List.map_cons, course, List.foldl_cons, hfirst, List.foldl_cons]
    exact ih hnext fun record hrecord => hpayload record (List.mem_cons_of_mem _ hrecord)

/-- The acts of one look at the ring. -/
def lookActs (now : Timestamp) (look : Ring) : List Act :=
  look.process.records.map (.handOn now) ++ [.giveBack]

theorem course_lookActs {s : Session} {ring : Ring} (hw : ring.WellFormed)
    (hloop : e.loop? = some (s, ring)) (now : Timestamp) :
    e.course (lookActs now ring) = handle s now e ring := by
  have hrecords : e.course (ring.process.records.map (.handOn now))
      = ring.process.records.foldl (deliver s now ring.utilization) e := by
    -- Only a block of the consumer has records.
    rcases hw.process_cases with ⟨-, hlook⟩ | ⟨-, -, hlook⟩ | ⟨hopen, hready, -⟩
    · rw [hlook]
      rfl
    · rw [hlook]
      rfl
    · exact course_handOn hloop hopen hready (fun _ => ring.payload_pos_of_mem_process) now
  obtain ⟨hsources, hsession⟩ := deliver_foldl_frame s now ring.utilization ring.process.records e
  have hlast := loop?_of_frame hloop hsources hsession
  unfold lookActs handle
  -- The round moves its ring on before the records, the acts behind them.
  rw [course_append, hrecords, deliver_foldl_setSource]
  show giveBack _ = _
  unfold giveBack
  rw [hlast]

/-- The acts of a round that looks at the given states of the ring. -/
def roundActs (now : Timestamp) (looks : List Ring) : List Act := looks.flatMap (lookActs now)

/-- The induction is on the looks that are left. The loop and the shape of its ring carry it: each
look leaves both to the next one. -/
theorem course_roundActs {s : Session} {ring : Ring} (hw : ring.WellFormed)
    (hloop : e.loop? = some (s, ring)) (now : Timestamp) (limit : Nat) :
    e.course (roundActs now (ring.looks limit)) = (ring.looks limit).foldl (handle s now) e := by
  induction limit generalizing e ring with
  | zero => rfl
  | succ limit ih =>
    obtain ⟨hs, hreceiving, -⟩ := loop?_eq_some_iff.mp hloop
    obtain ⟨hsources, hsession⟩ := handle_frame s now e ring
    have hnext : (handle s now e ring).loop? = some (s, ring.process.ring) :=
      loop?_eq_some_iff.mpr ⟨hsession.trans hs, hreceiving, source?_of_sources hsources⟩
    rw [Ring.looks, roundActs, List.flatMap_cons, course_append, course_lookActs hw hloop,
      List.foldl_cons]
    split
    · exact ih hw.process hnext
    · rfl

/-- The acts that an event consists of. -/
def eventActs (e : Engine) (event : Event) : List Act :=
  match h : event.readyAt? with
  | none => [.whole event h]
  | some now =>
    match e.loop? with
    | none => []
    | some (_, ring) => roundActs now (ring.looks ring.blockCount)

theorem Event.eq_of_readyAt? {event : Event} {now : Timestamp} (h : event.readyAt? = some now) :
    event = .round now .ready := by
  unfold readyAt? at h
  split at h
  · rw [Option.some.inj h]
  · cases h

/-- Without a receive loop that runs over a source, a round is over at once. -/
theorem round_ready (e : Engine) (now : Timestamp) :
    e.round now .ready = match e.loop? with
      | none => e
      | some (s, ring) => drain s now ring.blockCount e := by
  unfold round loop?
  cases e.session with
  | none => rfl
  | some s =>
    cases e.source? with
    | none => simp
    | some ring => cases hreceiving : s.receiving <;> simp [hreceiving]

theorem Sound.step_eq_course (h : Sound e) (event : Event) :
    e.step event = e.course (e.eventActs event) := by
  unfold eventActs
  split
  · rfl
  · rename_i now hnow
    rw [Event.eq_of_readyAt? hnow, Engine.step, round_ready]
    cases hloop : e.loop? with
    | none => rfl
    | some loop =>
      obtain ⟨s, ring⟩ := loop
      have hring := (loop?_eq_some_iff.mp hloop).2.2
      dsimp only
      rw [course_roundActs (h.source hring) hloop, ← drain_eq_foldl s now hring]

/-- The acts of a run. -/
def runActs : Engine → List Event → List Act
  | _, [] => []
  | e, event :: events => e.eventActs event ++ runActs (e.step event) events

/-- **A run is a course.** The rounds of a run are taken apart into their acts, and nothing changes.
-/
theorem Sound.run_eq_course (h : Sound e) (events : List Event) :
    e.run events = e.course (e.runActs events) := by
  induction events generalizing e with
  | nil => rfl
  | cons event events ih =>
    rw [runActs, course_append, ← h.step_eq_course]
    exact ih (h.step event)

/-! ## What an act does to queue and counters -/

/-- From `e` to `e'` no packet was counted, and none was queued. -/
structure Quiet (e e' : Engine) : Prop where
  counters : ∃ more, e'.counters = { e.counters with errors := e.counters.errors + more }
  capacity : e'.queue.capacity = e.queue.capacity
  packets : e'.queue.packets <:+ e.queue.packets
  generation : e.queue.generation ≤ e'.queue.generation
  /-- A session that is still there has its queue. -/
  session : ∀ s', e'.session = some s' → (∃ s, e.session = some s ∧ s'.generation = s.generation)
    ∧ e'.queue.generation = e.queue.generation

namespace Quiet

/-- Changes that reach neither the counters nor the queue nor the session. -/
theorem of_eq (hcounters : e'.counters = e.counters) (hqueue : e'.queue = e.queue)
    (hsession : e'.session = e.session) : Quiet e e' := by
  refine ⟨⟨0, hcounters⟩, ?_, ?_, ?_, ?_⟩
  · rw [hqueue]
  · simp only [hqueue, List.suffix_refl]
  · exact Nat.le_of_eq (congrArg Queue.generation hqueue.symm)
  · intro s' hs'
    rw [hsession] at hs'
    exact ⟨⟨s', hs', rfl⟩, by rw [hqueue]⟩

theorem countError (h : Quiet e e') : Quiet e e'.countError := by
  obtain ⟨more, hcounters⟩ := h.counters
  refine ⟨⟨more + 1, ?_⟩, h.capacity, h.packets, h.generation, h.session⟩
  show e'.counters.countError = _
  rw [hcounters]
  rfl

theorem giveBack (e : Engine) : Quiet e e.giveBack := by
  unfold Engine.giveBack
  split
  · exact .of_eq rfl rfl rfl
  · dsimp only
    split
    · exact .countError (.of_eq rfl rfl rfl)
    · exact .of_eq rfl rfl rfl

theorem stop (e : Engine) : Quiet e e.stop.1 := by
  rcases e.stop_cases with ⟨-, hstop⟩ | ⟨-, hstop⟩
  · rw [hstop]
    exact .of_eq rfl rfl rfl
  · rw [hstop]
    refine ⟨⟨0, rfl⟩, rfl, List.nil_suffix, Nat.le_succ _, ?_⟩
    intro s' hs'
    cases hs'

theorem receive (e : Engine) (r : Receiver) : Quiet e (e.receive r).1 := by
  rcases e.receive_cases r with ⟨-, ⟨p, rest, hpackets, hreceive⟩ | ⟨-, hreceive⟩⟩
    | ⟨-, ⟨p, retired, -, hreceive⟩ | ⟨-, hreceive⟩⟩
  · -- Only an attempt on the current queue takes from it.
    rw [hreceive]
    refine ⟨⟨0, rfl⟩, rfl, ?_, Nat.le_refl _, fun s' hs' => ⟨⟨s', hs', rfl⟩, rfl⟩⟩
    rw [hpackets]
    exact List.suffix_cons p rest
  all_goals
    rw [hreceive]
    exact .of_eq rfl rfl rfl

/-- A wait that finds no frames. -/
theorem round (e : Engine) (now : Timestamp) {wait : Wait} (hwait : wait ≠ .ready) :
    Quiet e (e.round now wait) := by
  have hsame : Quiet e e := .of_eq rfl rfl rfl
  unfold Engine.round
  split
  · exact hsame
  rename_i s hs
  split
  · exact hsame
  cases wait with
  | ready => exact absurd rfl hwait
  | timedOut => exact hsame
  | interrupted => exact hsame
  | failed => exact hsame.countError
  | crashed =>
    refine ⟨⟨0, rfl⟩, rfl, List.suffix_refl _, Nat.le_refl _, ?_⟩
    intro s' hs'
    exact ⟨⟨s, hs, by rw [← Option.some.inj hs']⟩, rfl⟩

/-- A start that opens no source. -/
theorem start {platform : Platform} {now : Timestamp} {target : String} {settings : SessionSettings}
    {thread : Except Error Unit}
    (h : e.opens (.start platform now target settings thread) = false) :
    Quiet e (e.start platform now target settings thread).1 := by
  rcases e.start_cases platform now target settings thread with
    ⟨-, hstart⟩ | ⟨-, err, -, hstart⟩ | ⟨hnone, i, ring, hacquire, -⟩
  · rw [hstart]
    exact .of_eq rfl rfl rfl
  · rw [hstart]
    exact .of_eq rfl rfl rfl
  · rw [opens, hnone, hacquire] at h
    cases h

/-- Every event is quiet but a start that opens a source and a round that finds the ring ready. -/
theorem step {event : Event} (hready : event.readyAt? = none) (hopens : e.opens event = false) :
    Quiet e (e.step event) := by
  cases event with
  | start platform now target settings thread => exact .start hopens
  | stop => exact .stop e
  | round now wait =>
    refine .round e now ?_
    rintro rfl
    cases hready
  | write offset data =>
    rcases e.write_cases offset data with hwrite | ⟨ring, region, -, -, hwrite⟩
    · rw [Engine.step, hwrite]
      exact .of_eq rfl rfl rfl
    · rw [Engine.step, hwrite]
      exact .of_eq rfl rfl rfl
  | receive receiver => exact .receive e receiver
  | installSink target => exact .of_eq rfl rfl rfl
  | takeJournal => exact .of_eq rfl rfl rfl
  | setGauge gauge => exact .of_eq rfl rfl rfl

end Quiet

/-- The settings of the session that an act opens a source for. -/
def opening? (e : Engine) : Act → Option SessionSettings
  | .whole (.start platform now target settings thread) _ =>
    if e.opens (.start platform now target settings thread) then some settings else none
  | _ => none

/-- From `e` to `e'` a source was opened for a session with the given settings. -/
structure Opened (e e' : Engine) (settings : SessionSettings) : Prop where
  valid : settings.validate = .ok ()
  counters : e'.counters = {}
  queue : e'.queue = e.freshQueue settings.queueCapacity
  session : ∀ s, e'.session = some s → s.generation = e'.queue.generation

theorem opened_of_start {platform : Platform} {now : Timestamp} {target : String}
    {settings : SessionSettings} {thread : Except Error Unit}
    (h : e.opens (.start platform now target settings thread) = true) :
    Opened e (e.start platform now target settings thread).1 settings := by
  rcases e.start_cases platform now target settings thread with
    ⟨hsome, -⟩ | ⟨-, err, hacquire, -⟩
    | ⟨hnone, i, ring, hacquire, ⟨err, -, hstart⟩ | ⟨-, hstart⟩⟩
  · rw [opens, Option.isNone_eq_false_iff.mpr hsome] at h
    cases h
  · simp [opens, hacquire, Except.isOk, Except.toBool] at h
  · -- A launch that fails has begun counters and queue afresh, and leaves no session.
    rw [hstart]
    refine ⟨(acquire_eq_ok hacquire).1, rfl, rfl, ?_⟩
    intro s hs
    exact absurd (hnone.symm.trans hs) (by simp)
  · rw [hstart]
    refine ⟨(acquire_eq_ok hacquire).1, rfl, rfl, ?_⟩
    intro s hs
    rw [← Option.some.inj hs]
    rfl

/-- An act opens a source, offers a record, or is quiet. -/
theorem act_cases (e : Engine) (a : Act) :
    (∃ settings, e.opening? a = some settings ∧ e.offer? a = none ∧ Opened e (e.act a) settings)
      ∨ (e.opening? a = none ∧ ∃ o, e.offer? a = some o ∧ e.act a = o.outcome)
      ∨ (e.opening? a = none ∧ e.offer? a = none ∧ Quiet e (e.act a)) := by
  cases a with
  | whole event hready =>
    cases hopens : e.opens event with
    | true =>
      -- Only a start opens a source.
      cases event with
      | start platform now target settings thread =>
        exact .inl ⟨settings, if_pos hopens, rfl, opened_of_start hopens⟩
      | _ => cases hopens
    | false =>
      refine .inr (.inr ⟨?_, rfl, .step hready hopens⟩)
      unfold opening?
      split
      · rename_i heq
        obtain rfl := Act.whole.inj heq
        exact if_neg (by simp [hopens])
      · rfl
  | handOn now record =>
    cases hoffer : e.offerOf? now record with
    | none =>
      have hsame : e.act (.handOn now record) = e := by
        rw [act, hoffer]
        rfl
      rw [hsame]
      exact .inr (.inr ⟨rfl, hoffer, .of_eq rfl rfl rfl⟩)
    | some o =>
      refine .inr (.inl ⟨rfl, o, hoffer, ?_⟩)
      rw [act, hoffer]
      rfl
  | giveBack => exact .inr (.inr ⟨rfl, rfl, .giveBack e⟩)

/-! ## What holds along every course -/

/-- The rings have their shape, and a session has the current queue. -/
structure Steady (e : Engine) : Prop where
  sound : Sound e
  generation : ∀ s, e.session = some s → s.generation = e.queue.generation

theorem steady_new : Steady {} := by
  refine ⟨sound_new, ?_⟩
  intro s hs
  cases hs

namespace Steady

/-- An offer comes from the receive loop of the session, for the queue that is current. -/
theorem offer (h : Steady e) {a : Act} {o : Offer} (hoffer : e.offer? a = some o) :
    o.engine = e ∧ e.session = some o.session ∧ 0 < o.record.payload.length
      ∧ o.session.generation = e.queue.generation := by
  unfold offer? at hoffer
  split at hoffer
  · obtain ⟨ring, hloop, -, -, hpayload, ho⟩ := offerOf?_eq_some hoffer
    have hs := (loop?_eq_some_iff.mp hloop).1
    rw [ho]
    exact ⟨rfl, hs, hpayload, h.generation _ hs⟩
  · cases hoffer

theorem outcome_cases (h : Steady e) {a : Act} {o : Offer} (hoffer : e.offer? a = some o) :
    (o.dropped = false ∧ e.queue.packets.length < e.queue.capacity
        ∧ o.outcome =
          { e with
            queue := { e.queue with packets := e.queue.packets ++ [o.packet] }
            counters := e.counters.countPacket o.record.payload.length o.record.time
            sinks := e.sinks.send o.now o.update })
      ∨ (o.dropped = true ∧ e.queue.capacity ≤ e.queue.packets.length
        ∧ o.outcome = { e with counters := e.counters.countDrop }) := by
  obtain ⟨rfl, -, hpayload, hgeneration⟩ := h.offer hoffer
  exact Offer.outcome_cases hpayload hgeneration

theorem sound_act (h : Steady e) (a : Act) : Sound (e.act a) := by
  cases a with
  | whole event hready => exact h.sound.step event
  | handOn now record =>
    cases hoffer : e.offerOf? now record with
    | none =>
      rw [Engine.act, hoffer]
      exact h.sound
    | some o =>
      obtain ⟨ring, -, -, -, -, ho⟩ := offerOf?_eq_some hoffer
      have hsources : o.outcome.sources = e.sources := by
        rw [ho]
        exact (deliver_frame ..).1
      rw [Engine.act, hoffer]
      intro ring' hmem
      exact h.sound ring' (hsources ▸ hmem)
  | giveBack =>
    show Sound e.giveBack
    unfold giveBack
    split
    · exact h.sound
    · rename_i s ring hloop
      have hring := h.sound.source (loop?_eq_some_iff.mp hloop).2.2
      dsimp only
      split
      · exact .cons hring.process h.sound.tail rfl
      · exact .cons hring.process h.sound.tail rfl

theorem act (h : Steady e) (a : Act) : Steady (e.act a) := by
  refine ⟨h.sound_act a, ?_⟩
  rcases e.act_cases a with ⟨settings, -, -, hopened⟩ | ⟨-, o, hoffer, hact⟩ | ⟨-, -, hquiet⟩
  · exact hopened.session
  · rw [hact]
    rcases h.outcome_cases hoffer with ⟨-, -, houtcome⟩ | ⟨-, -, houtcome⟩
    · rw [houtcome]
      exact h.generation
    · rw [houtcome]
      exact h.generation
  · -- A session that outlives the act keeps its queue.
    intro s' hs'
    obtain ⟨⟨s, hs, hsame⟩, hqueue⟩ := hquiet.session s' hs'
    rw [hsame, h.generation s hs, hqueue]

theorem course (h : Steady e) (acts : List Act) : Steady (e.course acts) := by
  induction acts generalizing e with
  | nil => exact h
  | cons a acts ih => exact ih (h.act a)

end Steady

end Engine

end LinkTap
