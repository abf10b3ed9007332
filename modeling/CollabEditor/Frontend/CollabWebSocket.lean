import CollabEditor.Foundation.TransitionSystem
import Mathlib.Tactic.Common

/-! # The sockets of the collaboration service

`connect` asks for a ticket, and the socket is made when the answer is there. Tickets are
answered in any order, and a socket lives on in the browser after the service has let go of it.
-/

namespace CollabEditor.Frontend

open Foundation

/-- `WebSocket.readyState` -/
inductive ReadyState
  | connecting
  | opened
  | closing
  | closed
deriving DecidableEq, Repr

inductive ConnectionState
  | idle
  | requestingTicket
  | connecting
  | opened
  | closed
  | error
deriving DecidableEq, Repr

structure WebSocket where
  ticket : String
  /-- The `connect` call whose ticket it is, a record. -/
  call : Nat
  readyState : ReadyState
deriving DecidableEq, Repr

/-- `connecting` or `open`. -/
def WebSocket.Live (socket : WebSocket) : Prop :=
  socket.readyState = .connecting ∨ socket.readyState = .opened

instance (socket : WebSocket) : Decidable socket.Live := inferInstanceAs (Decidable (_ ∨ _))

/-- A `connect` call at its `await`. -/
structure PendingConnect where
  documentId : Int
  call : Nat
deriving DecidableEq, Repr

structure CollaborationWebSocketService where
  /-- The stored socket, by its index. -/
  socket : Option Nat
  requestedDocumentId : Option Int
  state : ConnectionState
  connectionError : Option String
  /-- The sockets the browser has made. -/
  sockets : List WebSocket
  pending : List PendingConnect
  /-- The number of `connect` calls so far, a record. -/
  calls : Nat
  /-- The most recent call was `disconnect`, a record. -/
  disconnected : Bool
deriving DecidableEq, Repr

namespace CollaborationWebSocketService

variable (service : CollaborationWebSocketService)

def setReadyState (index : Nat) (readyState : ReadyState) : CollaborationWebSocketService :=
  { service with
    sockets := service.sockets.modify index fun socket => { socket with readyState := readyState } }

/-- `disconnect`: only the stored socket is closed. -/
def disconnect : CollaborationWebSocketService :=
  match service.socket with
  | none => { service with state := .closed }
  | some index =>
      let released := { service with socket := none, state := .closed }
      match service.sockets[index]? with
      | some socket => if socket.Live then released.setReadyState index .closing else released
      | none => released

/-- `connect` up to its `await`; a document id that is no id throws before anything is done. -/
def connect (documentId : Int) : CollaborationWebSocketService :=
  if documentId ≤ 0 then service
  else { service.disconnect with
    requestedDocumentId := some documentId
    connectionError := none
    state := .requestingTicket
    pending := service.disconnect.pending ++
      [{ documentId := documentId, call := service.disconnect.calls + 1 }]
    calls := service.disconnect.calls + 1
    disconnected := false }

/-- `connect` after its `await`. What was called in between is not looked at. -/
def openSocket (call : PendingConnect) (ticket : String) : CollaborationWebSocketService :=
  { service with
    state := .connecting
    sockets := service.sockets ++ [{ ticket := ticket, call := call.call, readyState := .connecting }]
    socket := some service.sockets.length }

/-- The `error` event. An empty text counts as no text. -/
def failSocket (index : Nat) : CollaborationWebSocketService :=
  let next := service.setReadyState index .closed
  if service.socket = some index then
    { next with
      state := .error
      connectionError :=
        if next.connectionError.getD "" = "" then some "websocket error"
        else next.connectionError }
  else next

/-- The `close` event. -/
def closeSocket (index : Nat) : CollaborationWebSocketService :=
  let next := service.setReadyState index .closed
  if service.socket = some index then { next with socket := none, state := .closed } else next

inductive Event
  | connect (documentId : Int)
  | disconnect
  | ticket (index : Nat) (ticket : String)
  /-- The request for a ticket fails, or nothing comes of it. -/
  | ticketFailed (index : Nat)
  | opened (index : Nat)
  | error (index : Nat)
  | closed (index : Nat)
deriving DecidableEq, Repr

def step : Event → Option CollaborationWebSocketService
  | .connect documentId => some (service.connect documentId)
  | .disconnect => some { service.disconnect with disconnected := true }
  | .ticket index ticket => do
      let call ← service.pending[index]?
      return openSocket { service with pending := service.pending.eraseIdx index } call ticket
  -- `connect` throws, and the state stays as it was set before the `await`
  | .ticketFailed index =>
      if index < service.pending.length then
        some { service with pending := service.pending.eraseIdx index }
      else none
  | .opened index =>
      match service.sockets[index]? with
      | some socket =>
          if socket.readyState = .connecting then
            let next := service.setReadyState index .opened
            some (if service.socket = some index then { next with state := .opened } else next)
          else none
      | none => none
  | .error index =>
      if index < service.sockets.length then some (service.failSocket index) else none
  | .closed index =>
      if index < service.sockets.length then some (service.closeSocket index) else none

/-- The service as it is injected. -/
def start : CollaborationWebSocketService where
  socket := none
  requestedDocumentId := none
  state := .idle
  connectionError := none
  sockets := []
  pending := []
  calls := 0
  disconnected := false

def system : TransitionSystem CollaborationWebSocketService Event where
  init service := service = start
  step := step

/-- At most one socket is live, it has the ticket of the last `connect`, and after a
`disconnect` there is none once every ticket has been answered. -/
structure OneSocket : Prop where
  unique : ∀ (i j : Nat) (first second : WebSocket), service.sockets[i]? = some first →
    service.sockets[j]? = some second → first.Live → second.Live → i = j
  current : ∀ socket ∈ service.sockets, socket.Live → socket.call = service.calls
  released : service.disconnected = true → service.pending = [] →
    ∀ socket ∈ service.sockets, ¬socket.Live

/-- A ticket arrives for the most recent call. -/
def Wanted : Event → Prop
  | .ticket index _ => ∀ call ∈ service.pending[index]?,
      call.call = service.calls ∧ service.disconnected = false
  | _ => True

instance : (event : Event) → Decidable (service.Wanted event)
  | .ticket index _ => inferInstanceAs (Decidable (∀ call ∈ service.pending[index]?,
      call.call = service.calls ∧ service.disconnected = false))
  | .connect _ | .disconnect | .ticketFailed _ | .opened _ | .error _ | .closed _ =>
      .isTrue trivial

/-! ## Whose socket is live -/

/-- A live socket is the stored one and belongs to the most recent call, whose ticket has
then been answered. -/
structure Owned : Prop where
  stored : ∀ (i : Nat) (socket : WebSocket), service.sockets[i]? = some socket → socket.Live →
    service.socket = some i ∧ socket.call = service.calls ∧ service.disconnected = false ∧
      ∀ call ∈ service.pending, call.call ≠ service.calls
  bound : ∀ call ∈ service.pending, call.call ≤ service.calls
  distinct : service.pending.Pairwise fun first second => first.call ≠ second.call

variable {service}

theorem Owned.oneSocket (howned : service.Owned) : service.OneSocket where
  unique i j first second hfirst hsecond hlive hother := by
    have hsame := (howned.stored i first hfirst hlive).1.symm.trans
      (howned.stored j second hsecond hother).1
    exact Option.some.inj hsame
  current socket hsocket hlive := by
    obtain ⟨i, hi⟩ := List.getElem?_of_mem hsocket
    exact (howned.stored i socket hi hlive).2.1
  released hdisconnected _ socket hsocket hlive := by
    obtain ⟨i, hi⟩ := List.getElem?_of_mem hsocket
    have hconnected := (howned.stored i socket hi hlive).2.2.1
    rw [hdisconnected] at hconnected
    cases hconnected

/-! ## What keeps it so -/

theorem getElem?_setReadyState {index i : Nat} {readyState : ReadyState} {socket : WebSocket}
    (hsocket : (service.setReadyState index readyState).sockets[i]? = some socket) :
    ∃ old, service.sockets[i]? = some old ∧
      socket = if index = i then { old with readyState := readyState } else old := by
  rw [setReadyState, List.getElem?_modify] at hsocket
  obtain ⟨old, hold, hnew⟩ := Option.map_eq_some_iff.mp hsocket
  exact ⟨old, hold, hnew.symm⟩

/-- Sockets that live on belonged to the stored one before, and stay with it. -/
theorem Owned.mono {next : CollaborationWebSocketService} (howned : service.Owned)
    (hkept : ∀ (i : Nat) (socket : WebSocket), next.sockets[i]? = some socket → socket.Live →
      next.socket = service.socket ∧
        ∃ old, service.sockets[i]? = some old ∧ old.Live ∧ old.call = socket.call)
    (hpending : next.pending.Sublist service.pending) (hcalls : next.calls = service.calls)
    (hdisconnected : next.disconnected = service.disconnected) : next.Owned where
  stored i socket hsocket hlive := by
    obtain ⟨hstored, old, hold, holdlive, hcall⟩ := hkept i socket hsocket hlive
    obtain ⟨hsame, hlast, hconnected, hanswered⟩ := howned.stored i old hold holdlive
    rw [hstored, hcalls, hdisconnected, ← hcall]
    exact ⟨hsame, hlast, hconnected, fun call hcall => hanswered call (hpending.subset hcall)⟩
  bound call hcall := hcalls ▸ howned.bound call (hpending.subset hcall)
  distinct := howned.distinct.sublist hpending

/-- A socket that dies leaves the others as they were. -/
theorem Owned.setReadyState (howned : service.Owned) (index : Nat) {readyState : ReadyState}
    (hdead : readyState = .closing ∨ readyState = .closed) :
    (service.setReadyState index readyState).Owned ∧
      ∀ (i : Nat) (socket : WebSocket),
        (service.setReadyState index readyState).sockets[i]? = some socket → socket.Live →
          i ≠ index ∧ service.sockets[i]? = some socket := by
  have hother : ∀ (i : Nat) (socket : WebSocket),
      (service.setReadyState index readyState).sockets[i]? = some socket → socket.Live →
        i ≠ index ∧ service.sockets[i]? = some socket := by
    intro i socket hsocket hlive
    obtain ⟨old, hold, hnew⟩ := getElem?_setReadyState hsocket
    split at hnew
    next =>
      subst hnew
      rcases hlive with hlive | hlive <;> rcases hdead with hdead | hdead <;>
        cases hlive.symm.trans hdead
    next hne =>
      subst hnew
      exact ⟨Ne.symm hne, hold⟩
  refine ⟨howned.mono ?_ (List.Sublist.refl _) rfl rfl, hother⟩
  intro i socket hsocket hlive
  exact ⟨rfl, socket, (hother i socket hsocket hlive).2, hlive, rfl⟩

/-- Nothing is live once the stored socket has been closed. -/
theorem Owned.disconnect_dead (howned : service.Owned) :
    ∀ (i : Nat) (socket : WebSocket), service.disconnect.sockets[i]? = some socket →
      ¬socket.Live := by
  intro i socket hsocket hlive
  unfold disconnect at hsocket
  split at hsocket
  next hnone =>
    have hstored := (howned.stored i socket hsocket hlive).1
    rw [hnone] at hstored
    cases hstored
  next index hindex =>
    dsimp only at hsocket
    split at hsocket
    next found hfound =>
      split at hsocket
      next =>
        obtain ⟨hne, hbefore⟩ := (howned.setReadyState index (.inl rfl)).2 i socket hsocket hlive
        have hstored := (howned.stored i socket hbefore hlive).1
        exact hne (Option.some.inj (hstored.symm.trans hindex))
      next hdead =>
        have hstored := (howned.stored i socket hsocket hlive).1
        cases hindex.symm.trans hstored
        cases hfound.symm.trans hsocket
        exact hdead hlive
    next hnone =>
      have hstored := (howned.stored i socket hsocket hlive).1
      cases hindex.symm.trans hstored
      cases hnone.symm.trans hsocket

theorem disconnect_calls (service : CollaborationWebSocketService) :
    service.disconnect.pending = service.pending ∧ service.disconnect.calls = service.calls := by
  unfold disconnect
  split
  next => exact ⟨rfl, rfl⟩
  next =>
    dsimp only
    split
    next => split <;> exact ⟨rfl, rfl⟩
    next => exact ⟨rfl, rfl⟩

theorem Owned.connect (howned : service.Owned) (documentId : Int) :
    (service.connect documentId).Owned := by
  obtain ⟨hpending, hcalls⟩ := service.disconnect_calls
  unfold CollaborationWebSocketService.connect
  split
  next => exact howned
  next =>
    refine ⟨?_, ?_, ?_⟩
    · intro i socket hsocket hlive
      exact absurd hlive (howned.disconnect_dead i socket hsocket)
    · intro call hcall
      dsimp only at hcall ⊢
      rw [hpending] at hcall
      rcases List.mem_append.mp hcall with hold | hnew
      · have hbound := howned.bound call hold
        lia
      · cases List.mem_singleton.mp hnew
        exact Nat.le_refl _
    · dsimp only
      rw [hpending, hcalls]
      refine List.pairwise_append.mpr ⟨howned.distinct, List.pairwise_singleton _ _, ?_⟩
      intro first hfirst second hsecond
      cases List.mem_singleton.mp hsecond
      have hbound := howned.bound first hfirst
      dsimp only
      lia

theorem Owned.disconnect (howned : service.Owned) :
    Owned { service.disconnect with disconnected := true } := by
  obtain ⟨hpending, hcalls⟩ := service.disconnect_calls
  refine ⟨?_, ?_, ?_⟩
  · intro i socket hsocket hlive
    exact absurd hlive (howned.disconnect_dead i socket hsocket)
  · dsimp only
    rw [hpending, hcalls]
    exact howned.bound
  · dsimp only
    rw [hpending]
    exact howned.distinct

/-- A call waits once. -/
theorem Owned.pending_index (howned : service.Owned) {i j : Nat} {first second : PendingConnect}
    (hfirst : service.pending[i]? = some first) (hsecond : service.pending[j]? = some second)
    (hsame : first.call = second.call) : i = j := by
  obtain ⟨hi, rfl⟩ := List.getElem?_eq_some_iff.mp hfirst
  obtain ⟨hj, rfl⟩ := List.getElem?_eq_some_iff.mp hsecond
  have hdistinct := List.pairwise_iff_getElem.mp howned.distinct
  rcases Nat.lt_trichotomy i j with hlt | heq | hgt
  · exact absurd hsame (hdistinct i j hi hj hlt)
  · exact heq
  · exact absurd hsame.symm (hdistinct j i hj hi hgt)

/-- The ticket of the most recent call makes the one live socket. -/
theorem Owned.openSocket (howned : service.Owned) {index : Nat} {call : PendingConnect}
    (hcall : service.pending[index]? = some call) (hlast : call.call = service.calls)
    (hconnected : service.disconnected = false) (ticket : String) :
    (CollaborationWebSocketService.openSocket
      { service with pending := service.pending.eraseIdx index } call ticket).Owned := by
  have hmem : call ∈ service.pending := List.mem_of_getElem? hcall
  refine ⟨?_, ?_, howned.distinct.sublist (List.eraseIdx_sublist _ _)⟩
  · intro i socket hsocket hlive
    simp only [CollaborationWebSocketService.openSocket] at hsocket ⊢
    rw [List.getElem?_append] at hsocket
    split at hsocket
    next hold =>
      -- while the call waits there is no live socket
      exact absurd hlast ((howned.stored i socket hsocket hlive).2.2.2 call hmem)
    next hnew =>
      obtain ⟨hbound, hsame⟩ := List.getElem?_eq_some_iff.mp hsocket
      rw [List.length_singleton] at hbound
      have hi : i = service.sockets.length := by lia
      rw [List.getElem_singleton] at hsame
      subst hsame
      refine ⟨by rw [hi], hlast, hconnected, ?_⟩
      intro other hother hsameCall
      obtain ⟨k, hk, hindex⟩ := List.mem_eraseIdx_iff_getElem?.mp hother
      exact hk (howned.pending_index hindex hcall (hsameCall.trans hlast.symm))
  · intro other hother
    exact howned.bound other (List.mem_of_mem_eraseIdx hother)

/-- A socket that opens was connecting. -/
theorem Owned.opened (howned : service.Owned) {index : Nat} {socket : WebSocket}
    (hsocket : service.sockets[index]? = some socket) (hconnecting : socket.readyState = .connecting) :
    (service.setReadyState index .opened).Owned := by
  refine howned.mono ?_ (List.Sublist.refl _) rfl rfl
  intro i found hfound hlive
  obtain ⟨old, hold, hnew⟩ := getElem?_setReadyState hfound
  split at hnew
  next heq =>
    subst heq hnew
    cases hsocket.symm.trans hold
    exact ⟨rfl, socket, hsocket, .inl hconnecting, rfl⟩
  next =>
    subst hnew
    exact ⟨rfl, found, hold, hlive, rfl⟩

theorem Owned.failSocket (howned : service.Owned) (index : Nat) :
    (service.failSocket index).Owned := by
  have hclosed := (howned.setReadyState index (.inr rfl)).1
  unfold CollaborationWebSocketService.failSocket
  dsimp only
  split
  next => exact ⟨hclosed.stored, hclosed.bound, hclosed.distinct⟩
  next => exact hclosed

theorem Owned.closeSocket (howned : service.Owned) (index : Nat) :
    (service.closeSocket index).Owned := by
  have hdead : ReadyState.closed = .closing ∨ ReadyState.closed = .closed := .inr rfl
  obtain ⟨hclosed, hothers⟩ := howned.setReadyState index hdead
  unfold CollaborationWebSocketService.closeSocket
  dsimp only
  split
  next hstored =>
    refine ⟨?_, hclosed.bound, hclosed.distinct⟩
    intro i socket hsocket hlive
    obtain ⟨hne, hbefore⟩ := hothers i socket hsocket hlive
    -- a live socket would be the stored one, which is the one that has closed
    have hsame := (howned.stored i socket hbefore hlive).1.symm.trans hstored
    exact absurd (Option.some.inj hsame) hne
  next => exact hclosed

theorem Owned.step {event : Event} {next : CollaborationWebSocketService}
    (howned : service.Owned) (hguard : service.Wanted event)
    (hstep : service.step event = some next) : next.Owned := by
  cases event with
  | connect documentId =>
      cases hstep
      exact howned.connect documentId
  | disconnect =>
      cases hstep
      exact howned.disconnect
  | ticket index ticket =>
      obtain ⟨call, hcall, hnext⟩ := Option.bind_eq_some_iff.mp hstep
      cases hnext
      obtain ⟨hlast, hconnected⟩ := hguard call hcall
      exact howned.openSocket hcall hlast hconnected ticket
  | ticketFailed index =>
      obtain ⟨-, hnext⟩ := Option.ite_none_right_eq_some.mp hstep
      cases hnext
      refine howned.mono ?_ (List.eraseIdx_sublist _ _) rfl rfl
      intro i socket hsocket hlive
      exact ⟨rfl, socket, hsocket, hlive, rfl⟩
  | opened index =>
      simp only [CollaborationWebSocketService.step] at hstep
      split at hstep
      next socket hsocket =>
        obtain ⟨hconnecting, hnext⟩ := Option.ite_none_right_eq_some.mp hstep
        cases hnext
        have hopened := howned.opened hsocket hconnecting
        split
        next => exact ⟨hopened.stored, hopened.bound, hopened.distinct⟩
        next => exact hopened
      next => cases hstep
  | error index =>
      obtain ⟨-, hnext⟩ := Option.ite_none_right_eq_some.mp hstep
      cases hnext
      exact howned.failSocket index
  | closed index =>
      obtain ⟨-, hnext⟩ := Option.ite_none_right_eq_some.mp hstep
      cases hnext
      exact howned.closeSocket index

/-- In every run in which tickets arrive for the most recent call alone, there is one socket
at most. -/
theorem reachable_oneSocket (hreach : system.ReachableUnder Wanted service) :
    service.OneSocket := by
  have howned : service.Owned := by
    refine hreach.invariant system Owned ?_ ?_
    · rintro service rfl
      exact ⟨nofun, nofun, .nil⟩
    · intro service event next _ howned hguard hstep
      exact howned.step hguard hstep
  exact howned.oneSocket

/-- Two documents one after the other, the ticket of the first being refused late. -/
theorem reachable_oneSocket_reconnect : ∃ service, system.ReachableUnder Wanted service ∧
    (service.sockets.map (·.readyState) = [.opened] ∧ service.pending = []) ∧
      service.OneSocket := by
  obtain ⟨service, hreach, hcheck⟩ := system.exists_reachable_of_exec
    (.init rfl : system.ReachableUnder Wanted start)
    [.connect 1, .connect 2, .ticket 1 "second", .opened 0, .ticketFailed 0]
    (fun service => service.sockets.map (·.readyState) = [.opened] ∧ service.pending = [])
    (by decide +kernel)
  exact ⟨service, hreach, of_decide_eq_true hcheck, reachable_oneSocket hreach⟩

/-- A ticket that arrives after `disconnect` makes a socket nobody closes. -/
theorem ghost_socket : ¬ ∀ service, system.Reachable service → service.OneSocket := by
  intro hall
  obtain ⟨service, hreach, hcheck⟩ := system.exists_reachable_of_exec
    (.init rfl : system.Reachable start)
    [.connect 1, .disconnect, .ticket 0 "late", .opened 0]
    (fun service => service.disconnected = true ∧ service.pending = [] ∧
      service.sockets = [{ ticket := "late", call := 1, readyState := .opened }])
    (by decide +kernel)
  obtain ⟨hdisconnected, hpending, hsockets⟩ := of_decide_eq_true hcheck
  refine (hall service hreach).released hdisconnected hpending
    { ticket := "late", call := 1, readyState := .opened } ?_ (.inr rfl)
  rw [hsockets]
  exact List.mem_singleton_self _

end CollaborationWebSocketService

end CollabEditor.Frontend
