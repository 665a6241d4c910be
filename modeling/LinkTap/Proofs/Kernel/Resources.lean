/-
What a capture source holds of the kernel.

A socket and a mapping are acquired on the way to a source, and there is no step behind the socket
that cannot fail. Whether everything is given back is therefore a matter of each point of failure,
with what is held there. It is settled step by step: an attempt is told by what a process holds
before it, after it succeeded and after it failed, and attempts that follow each other are put
together along these.

From then on what a process holds can be read off the source: the socket while the source is
connected and the mapping while its ring is open. Every use of the source keeps the two in step, so
that the releases of its whole life, explicit ones and the one at its end, are those that an
immediate end would make.
-/
import LinkTap.Kernel.PacketSource
import LinkTap.Proofs.Ring.Run

set_option autoImplicit false

namespace LinkTap.Kernel

/-! ## Holdings -/

/-- What a process holds of the kernel: open sockets, and mappings by their length, latest first. -/
structure Holdings where
  sockets : Nat := 0
  mappings : List Nat := []
  deriving DecidableEq, Repr

namespace Description

/-- What a process holds after a call. A call on a socket that is not open is a fault, and so is the
release of what is not held. -/
def after (k : Description) (h : Holdings) : Call → Option Holdings
  | .socket .. => some (if k.socket.isNone then { h with sockets := h.sockets + 1 } else h)
  | .setOption .. | .bind .. | .poll .. => if h.sockets = 0 then none else some h
  | .map length .. =>
    if h.sockets = 0 then none
    else
      match k.mapping with
      -- A mapping at the null address is one all the same.
      | .mapped | .null => some { h with mappings := length :: h.mappings }
      | .failed _ => some h
  | .unmap length =>
    if length ∈ h.mappings then some { h with mappings := h.mappings.erase length } else none
  | .close => if h.sockets = 0 then none else some { h with sockets := h.sockets - 1 }
  | .openFile _ => some h

/-- What a process holds after calls that meet no fault. -/
def afterAll (k : Description) (h : Holdings) (calls : List Call) : Option Holdings :=
  calls.foldlM k.after h

end Description

/-- The calls that release something. -/
def releases (calls : List Call) : List Call :=
  calls.filter fun
    | .unmap _ | .close => true
    | _ => false

/-- One open socket. -/
def Holdings.socket : Holdings := { sockets := 1 }

/-- One open socket and one mapping. -/
def Holdings.source (length : Nat) : Holdings := { sockets := 1, mappings := [length] }

variable {k : Description} {α β : Type}

theorem afterAll_append {h h' : Holdings} {calls : List Call}
    (hcalls : k.afterAll h calls = some h')
    (more : List Call) : k.afterAll h (calls ++ more) = k.afterAll h' more := by
  rw [Description.afterAll, List.foldlM_append]
  show ((k.afterAll h calls).bind fun held => k.afterAll held more) = _
  rw [hcalls]
  rfl

theorem releases_append (calls more : List Call) :
    releases (calls ++ more) = releases calls ++ releases more :=
  List.filter_append ..

/-! ## Attempts -/

theorem Attempt.andThen_eq_ok {a : Attempt α} {next : α → Attempt β} {y : β}
    (h : (a.andThen next).outcome = .ok y) : ∃ x, a.outcome = .ok x ∧ (next x).outcome = .ok y := by
  unfold andThen at h
  cases houtcome : a.outcome with
  | error e =>
    rw [houtcome] at h
    cases h
  | ok x =>
    rw [houtcome] at h
    exact ⟨x, rfl, h⟩

theorem Attempt.outcome_onError (a : Attempt α) (cleanup : List Call) :
    (a.onError cleanup).outcome = a.outcome := by
  unfold onError
  split <;> rfl

/-- An attempt that begins with `before` at hand ends with `held` if it succeeds, having released
nothing, and with `kept` if it fails. -/
structure Leaves (k : Description) (a : Attempt α) (before held kept : Holdings) : Prop where
  ok : ∀ x, a.outcome = .ok x → k.afterAll before a.calls = some held ∧ releases a.calls = []
  error : ∀ e, a.outcome = .error e → k.afterAll before a.calls = some kept

namespace Leaves

variable {before held kept : Holdings}

/-- Without a call nothing changes. -/
theorem nothing (k : Description) (outcome : Except Error α) (h : Holdings) :
    Leaves k ⟨[], outcome⟩ h h h :=
  ⟨fun _ _ => ⟨rfl, rfl⟩, fun _ _ => rfl⟩

theorem success (k : Description) (x : α) (h kept : Holdings) : Leaves k ⟨[], .ok x⟩ h h kept :=
  ⟨fun _ _ => ⟨rfl, rfl⟩, nofun⟩

theorem call {c : Call} {failure : Option Error} (hrelease : releases [c] = [])
    (hok : failure = none → k.after before c = some held)
    (herror : ∀ e, failure = some e → k.after before c = some kept) :
    Leaves k (Attempt.call c failure) before held kept := by
  have hone : ∀ h, k.after before c = some h → k.afterAll before [c] = some h := by
    intro h hafter
    show (k.after before c).bind _ = _
    rw [hafter]
    rfl
  cases failure with
  | none => exact ⟨fun _ _ => ⟨hone _ (hok rfl), hrelease⟩, nofun⟩
  | some e => exact ⟨nofun, fun _ _ => hone _ (herror e rfl)⟩

/-- One attempt after another: the second one begins with what the first one leaves. -/
theorem andThen {a : Attempt α} {next : α → Attempt β} {m : Holdings}
    (ha : Leaves k a before m kept)
    (hnext : ∀ x, Leaves k (next x) m held kept) : Leaves k (a.andThen next) before held kept := by
  unfold Attempt.andThen
  cases houtcome : a.outcome with
  | error e => exact ⟨nofun, fun _ _ => ha.error e houtcome⟩
  | ok x =>
    obtain ⟨hmid, hnone⟩ := ha.ok x houtcome
    refine ⟨fun y hy => ?_, fun e he => ?_⟩
    · obtain ⟨hheld, hlater⟩ := (hnext x).ok y hy
      refine ⟨(afterAll_append hmid _).trans hheld, ?_⟩
      show releases (a.calls ++ (next x).calls) = []
      rw [releases_append, hnone, hlater]
      rfl
    · exact (afterAll_append hmid _).trans ((hnext x).error e he)

/-- A failure that is put up with must not cost anything. -/
theorem regardless {a : Attempt Unit} (ha : Leaves k a before held held)
    (hrelease : releases a.calls = []) : Leaves k a.regardless before held kept := by
  refine ⟨fun _ _ => ⟨?_, hrelease⟩, nofun⟩
  cases houtcome : a.outcome with
  | error e => exact ha.error e houtcome
  | ok x => exact (ha.ok x houtcome).1

/-- Further calls after a failure take care of what it kept. -/
theorem onError {a : Attempt α} {cleanup : List Call} {kept' : Holdings}
    (ha : Leaves k a before held kept)
    (hcleanup : k.afterAll kept cleanup = some kept') :
    Leaves k (a.onError cleanup) before held kept' := by
  refine ⟨?_, ?_⟩
  · intro x hsucceeded
    unfold Attempt.onError at hsucceeded ⊢
    split at hsucceeded
    · rename_i e hfailed
      rw [hfailed] at hsucceeded
      cases hsucceeded
    · rename_i y houtcome
      exact ha.ok y houtcome
  · intro e hfailed
    unfold Attempt.onError at hfailed ⊢
    split at hfailed
    · rename_i e' houtcome
      exact (afterAll_append (ha.error e' houtcome) _).trans hcleanup
    · rename_i y houtcome
      rw [houtcome] at hfailed
      cases hfailed

end Leaves

/-! ## Opening -/

theorem RingRequest.length_of_ofSettings {s : SessionSettings} {request : RingRequest}
    (h : RingRequest.ofSettings s = .ok request) : request.length = s.blockSize * s.blockCount := by
  unfold RingRequest.ofSettings at h
  dsimp only at h
  repeat' split at h
  all_goals cases h
  rfl

namespace Description

theorem leaves_layRing (k : Description) (s : SessionSettings) (request : RingRequest) :
    Leaves k (k.layRing s request) (.source request.length) (.source request.length) .socket := by
  apply Leaves.onError (Leaves.nothing ..)
  simp [afterAll, after, Holdings.source, Holdings.socket]

/-- Unless the kernel maps at the null address, memory stays mapped only under a ring. -/
theorem leaves_mapRing (hk : k.mapping ≠ .null) (s : SessionSettings) (request : RingRequest) :
    Leaves k (k.mapRing s request) .socket (.source request.length) .socket := by
  refine Leaves.andThen (m := .source request.length) (Leaves.call rfl ?_ ?_)
    fun _ => leaves_layRing k s request
  · intro hnone
    cases hmapping : k.mapping with
    | mapped => simp [after, mapCall, hmapping, Holdings.socket, Holdings.source]
    | null => exact absurd hmapping hk
    | failed e => simp [hmapping] at hnone
  · intro e hsome
    cases hmapping : k.mapping with
    | mapped => simp [hmapping] at hsome
    | null => exact absurd hmapping hk
    | failed e => simp [after, mapCall, hmapping, Holdings.socket]

theorem leaves_configure (k : Description) (i : Interface) (s : SessionSettings)
    (request : RingRequest) :
    Leaves k (k.configure i s request) .socket .socket .socket := by
  -- Options and binding ask for an open socket and acquire
  -- nothing, whether they are refused or not.
  have hcall : ∀ c failure, releases [c] = [] → k.after .socket c = some .socket →
      Leaves k (Attempt.call c failure) .socket .socket .socket :=
    fun c failure hrelease h => Leaves.call hrelease (fun _ => h) fun _ _ => h
  unfold configure
  refine Leaves.andThen (hcall _ _ rfl rfl) fun _ => ?_
  refine Leaves.andThen (hcall _ _ rfl rfl) fun _ => ?_
  refine Leaves.andThen (hcall _ _ rfl rfl) fun _ => ?_
  split
  · exact Leaves.regardless (hcall _ _ rfl rfl) rfl
  · exact Leaves.nothing ..

/-- An attempt to open a source ends with the whole source or with nothing. -/
theorem leaves_openSource (hk : k.mapping ≠ .null) (i : Interface) (s : SessionSettings) :
    Leaves k (k.openSource i s) {} (.source (s.blockSize * s.blockCount)) {} := by
  unfold openSource
  cases hrequest : RingRequest.ofSettings s with
  | error e => exact ⟨nofun, fun _ _ => rfl⟩
  | ok request =>
    rw [← RingRequest.length_of_ofSettings hrequest]
    -- Wherever the rest fails it has the socket at hand, and the socket alone.
    have hring : Leaves k ((k.configure i s request).andThen fun _ => k.mapRing s request)
        .socket (.source request.length) .socket :=
      (k.leaves_configure i s request).andThen fun _ => leaves_mapRing hk s request
    refine Leaves.andThen (m := .socket) (Leaves.call rfl ?_ ?_) fun _ => ?_
    · intro hnone
      have hsocket : k.socket = none := Option.map_eq_none_iff.mp hnone
      simp [after, socketCall, hsocket, Holdings.socket]
    · intro e hsome
      obtain ⟨errno, hsocket, -⟩ := Option.map_eq_some_iff.mp hsome
      simp [after, socketCall, hsocket]
    · exact Leaves.andThen (hring.onError rfl) fun _ => Leaves.success ..

/-- What an opened source is: connected, with an open ring of the shape that was asked for. -/
theorem openSource_eq_ok {i : Interface} {s : SessionSettings} {p : PacketSource}
    (h : (k.openSource i s).outcome = .ok p) :
    p.connected = true ∧ p.ring.closed = false ∧ p.ring.blockSize = s.blockSize
      ∧ p.ring.blockCount = s.blockCount := by
  unfold openSource at h
  cases hrequest : RingRequest.ofSettings s with
  | error e =>
    rw [hrequest] at h
    cases h
  | ok request =>
    rw [hrequest] at h
    obtain ⟨-, -, h⟩ := Attempt.andThen_eq_ok h
    obtain ⟨ring, hring, h⟩ := Attempt.andThen_eq_ok h
    rw [Attempt.outcome_onError] at hring
    obtain ⟨-, -, hring⟩ := Attempt.andThen_eq_ok hring
    obtain ⟨-, -, hring⟩ := Attempt.andThen_eq_ok hring
    rw [layRing, Attempt.outcome_onError] at hring
    obtain ⟨-, -, hring⟩ := Ring.create_eq_ok_iff.mp hring
    rw [← Except.ok.inj h, hring]
    exact ⟨rfl, rfl, rfl, rfl⟩

/-- Whether the frames of others can be had makes no difference to opening: the call is made either
way, and what it answers is put up with. -/
theorem openSource_promiscuous (k : Description) (i : Interface) (s : SessionSettings)
    (refusal : Option Errno) :
    { k with promiscuous := refusal }.openSource i s = k.openSource i s := rfl

end Description

/-! ## Using and releasing -/

/-- What can be done with a source before its end. -/
inductive Use where
  | wait (timeoutMs : Nat) (poll : Except Errno Nat)
  | process
  /-- The kernel writes into the ring. -/
  | write (offset : Nat) (data : Bytes)
  | close

namespace PacketSource

/-- One use, with the calls that it makes. -/
def use (p : PacketSource) : Use → List Call × PacketSource
  | .wait timeoutMs poll => ((p.wait timeoutMs poll).1, p)
  | .process => ([], p.process.1)
  | .write offset data => ([], (p.write offset data).getD p)
  | .close => p.close

/-- The calls of the rest of a source's life: the uses in turn, and the release at its end of what
is still held. -/
def life (p : PacketSource) : List Use → List Call
  | [] => p.close.1
  | u :: uses => (p.use u).1 ++ (p.use u).2.life uses

/-- What is held as long as the source is in its present state. -/
def holdings (p : PacketSource) : Holdings :=
  { sockets := if p.connected then 1 else 0
    mappings := if p.ring.closed then [] else [p.ring.blockSize * p.ring.blockCount] }

variable {p : PacketSource} {u : Use}

theorem holdings_close (p : PacketSource) : p.close.2.holdings = {} := rfl

/-- A release gives back what is held, the mapping before the socket. -/
theorem close_eq (p : PacketSource) :
    p.close.1 = p.holdings.mappings.map Call.unmap ++ List.replicate p.holdings.sockets .close := by
  unfold close holdings
  cases p.ring.closed <;> cases p.connected <;> rfl

/-- A source that was released has nothing left to release. -/
theorem close_close (p : PacketSource) : p.close.2.close.1 = [] := by
  rw [close_eq, holdings_close]
  rfl

/-- Nothing but a release changes what is held. -/
theorem holdings_use (hu : u ≠ .close) : (p.use u).2.holdings = p.holdings := by
  cases u with
  | wait timeoutMs poll => rfl
  | process =>
    obtain ⟨hsize, hcount⟩ :
        p.ring.process.ring.blockSize = p.ring.blockSize
          ∧ p.ring.process.ring.blockCount = p.ring.blockCount :=
      p.ring.step_geometry .process
    show holdings { p with ring := p.ring.process.ring } = p.holdings
    simp only [holdings, p.ring.process_closed, hsize, hcount]
  | write offset data =>
    show ((p.write offset data).getD p).holdings = p.holdings
    unfold write
    split
    · cases p.ring.region.write offset data with
      | none => rfl
      | some region => rfl
    · rfl
  | close => exact absurd rfl hu

theorem releases_use (hu : u ≠ .close) : releases (p.use u).1 = [] := by
  cases u with
  | wait timeoutMs poll =>
    show releases (p.wait timeoutMs poll).1 = []
    unfold wait
    split
    · rfl
    · rfl
  | process => rfl
  | write offset data => rfl
  | close => exact absurd rfl hu

/-- A use meets no fault, and what is held afterwards can be read off the source again. -/
theorem after_use (k : Description) (p : PacketSource) (u : Use) :
    k.afterAll p.holdings (p.use u).1 = some (p.use u).2.holdings := by
  by_cases hu : u = .close
  · subst hu
    show k.afterAll p.holdings p.close.1 = some p.close.2.holdings
    rw [holdings_close]
    unfold close holdings
    cases p.ring.closed <;> cases p.connected <;> simp [Description.afterAll, Description.after]
  rw [holdings_use hu]
  cases u with
  | wait timeoutMs poll =>
    -- A wait asks for the socket only while there is one.
    show k.afterAll p.holdings (p.wait timeoutMs poll).1 = some p.holdings
    unfold wait holdings
    cases p.connected <;> simp [Description.afterAll, Description.after, pollCall]
  | process => rfl
  | write offset data => rfl
  | close => exact absurd rfl hu

theorem after_life (k : Description) (p : PacketSource) (uses : List Use) :
    k.afterAll p.holdings (p.life uses) = some {} := by
  induction uses generalizing p with
  | nil => exact after_use k p .close
  | cons u uses ih => exact (afterAll_append (after_use k p u) _).trans (ih _)

/-- However a source is used, the releases of its life are those of an immediate end. -/
theorem releases_life (p : PacketSource) (uses : List Use) :
    releases (p.life uses) = releases p.close.1 := by
  induction uses generalizing p with
  | nil => rfl
  | cons u uses ih =>
    rw [life, releases_append, ih]
    by_cases hu : u = .close
    · -- After an explicit release nothing is left for the end.
      subst hu
      show releases p.close.1 ++ releases p.close.2.close.1 = _
      rw [close_close]
      exact List.append_nil _
    · rw [releases_use hu, close_eq (p.use u).2, holdings_use hu, ← close_eq]
      rfl

end PacketSource

/-! ## Nothing is lost -/

/-- **A capture source releases what it acquires.** For every kernel that does not map at the null
address, every interface and all settings: an attempt to open a source that fails leaves nothing
open or mapped; one that succeeds leaves one open socket and one mapping, as long as all blocks of
the ring together. Whatever is done with the source from then on, waits and explicit releases among
it, after its end nothing is held, no call on the way was made on a socket that is not open or
released what is not held, and of all calls since the beginning exactly two release something: the
unmapping, and behind it the closing of the socket. A kernel that refuses the frames of others makes
no difference to opening. -/
theorem source_releases_once (k : Description) (i : Interface) (s : SessionSettings)
    (hk : k.mapping ≠ .null) :
    let length := s.blockSize * s.blockCount
    let opening := k.openSource i s
    (∀ e, opening.outcome = .error e → k.afterAll {} opening.calls = some {})
      ∧ (∀ p, opening.outcome = .ok p →
          k.afterAll {} opening.calls = some { sockets := 1, mappings := [length] }
            ∧ ∀ uses : List Use, k.afterAll {} (opening.calls ++ p.life uses) = some {}
              ∧ releases (opening.calls ++ p.life uses) = [.unmap length, .close])
      ∧ ∀ refusal : Option Errno, { k with promiscuous := refusal }.openSource i s = opening := by
  intro length opening
  have hopening : Leaves k opening {} (.source length) {} := Description.leaves_openSource hk i s
  refine ⟨hopening.error, fun p hp => ?_, k.openSource_promiscuous i s⟩
  obtain ⟨hheld, hreleases⟩ := hopening.ok p hp
  obtain ⟨hconnected, hopen, hsize, hcount⟩ := Description.openSource_eq_ok hp
  have hholdings : p.holdings = .source length := by
    unfold PacketSource.holdings
    rw [hconnected, hopen, hsize, hcount]
    rfl
  refine ⟨hheld, fun uses => ⟨?_, ?_⟩⟩
  · rw [afterAll_append hheld, ← hholdings]
    exact p.after_life k uses
  · rw [releases_append, hreleases, p.releases_life, p.close_eq, hholdings]
    rfl

/-- On a kernel that refuses the frames of others a source is opened, waited for and released twice.
-/
theorem source_releases_once_refused :
    let k : Description := { promiscuous := some .notPermitted }
    let i : Interface := { name := "eth0", index := 2, mtu := 1500, flags := { up := true } }
    let s : SessionSettings := { blockSize := 4096, blockCount := 2, promiscuous := true }
    k.mapping ≠ .null
      ∧ ∃ p, (k.openSource i s).outcome = .ok p
        ∧ releases ((k.openSource i s).calls ++ p.life [.wait 100 (.ok 1), .close, .close])
            = [.unmap (s.blockSize * s.blockCount), .close] := by
  intro k i s
  have hk : k.mapping ≠ .null := by decide
  have hopens : (k.openSource i s).outcome.isOk = true := by decide +kernel
  obtain ⟨-, hopened, -⟩ := source_releases_once k i s hk
  cases hp : (k.openSource i s).outcome with
  | error e =>
    rw [hp] at hopens
    cases hopens
  | ok p =>
    obtain ⟨-, hlife⟩ := hopened p hp
    exact ⟨hk, p, rfl, (hlife _).2⟩

end LinkTap.Kernel
