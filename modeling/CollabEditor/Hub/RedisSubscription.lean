import CollabEditor.Foundation.Channel
import CollabEditor.Foundation.TransitionSystem

/-! # A subscription to Redis

One goroutine forwards the messages of the channel of go-redis to the channel of the
subscription, one reads them, and any number may call `Close`. Between two of their operations
any other goroutine may run.
-/

namespace CollabEditor.Hub

open Foundation

/-- Where `forward` stands. -/
inductive Forward (Payload : Type)
  /-- In the outer `select`. -/
  | selecting
  /-- In the inner `select`, with a message. -/
  | holding (payload : Payload)
  /-- Before the deferred `close(s.messages)`. -/
  | returning
  | returned

/-- `sync.Once`. Other calls wait for the one that runs the function. -/
inductive Once
  | fresh
  | running (call : Nat)
  | finished
deriving DecidableEq, Repr

/-- Where a call of `Close` stands. -/
inductive CloseCall
  /-- Before or in `s.once.Do`. -/
  | entering
  /-- Before `close(s.done)`. -/
  | closingDone
  /-- Before `s.pubsub.Close()`. -/
  | closingPubsub
  | returned
deriving DecidableEq, Repr

/-- What is done to the two channels of the subscription. -/
inductive Operation (Payload : Type)
  | send (payload : Payload)
  | closeMessages
  | closeDone

def Operation.closesMessages {Payload : Type} : Operation Payload → Bool
  | closeMessages => true
  | _ => false

def Operation.closesDone {Payload : Type} : Operation Payload → Bool
  | closeDone => true
  | _ => false

/-- `redisSubscription` with its goroutines. `arrived`, `received` and `read` are the messages
that go-redis has put into its channel, that `forward` has taken out of it, and that were read
from `Messages()`; `log` are the operations on `messages` and `done`. -/
structure RedisSubscription (Payload : Type) where
  /-- `s.pubsub.Channel()`. -/
  incoming : Channel Payload
  pubsubClosed : Bool
  messages : Channel Payload
  done : Channel Unit
  once : Once
  forward : Forward Payload
  calls : List CloseCall
  arrived : List Payload
  received : List Payload
  read : List Payload
  log : List (Operation Payload)
  panicked : Bool

namespace RedisSubscription

variable {Payload : Type} (subscription : RedisSubscription Payload)

/-- What `Subscribe` returns. The size of the channel of go-redis is its own. -/
def subscribe (channelSize : Nat) : RedisSubscription Payload where
  incoming := .make channelSize
  pubsubClosed := false
  messages := .make 256
  done := .make 0
  once := .fresh
  forward := .selecting
  calls := []
  arrived := []
  received := []
  read := []
  log := []
  panicked := false

inductive Event (Payload : Type)
  /-- go-redis puts a message into its channel. -/
  | arrive (payload : Payload)
  /-- go-redis closes its channel. -/
  | closeIncoming
  /-- A `select` of `forward` takes `<-s.done`. -/
  | stop
  /-- The outer `select` takes `<-ch`. -/
  | take
  /-- The inner `select` sends to `s.messages`. -/
  | forward
  /-- The deferred `close(s.messages)`. -/
  | closeMessages
  /-- The consumer reads from `Messages()`. -/
  | read
  /-- Another goroutine calls `Close`. -/
  | close
  /-- A call of `Close` goes on. -/
  | advance (call : Nat)
deriving DecidableEq, Repr

def setCall (call : Nat) (stage : CloseCall) : RedisSubscription Payload :=
  { subscription with calls := subscription.calls.set call stage }

/-- One statement of a call of `Close`. -/
def advance (call : Nat) : CloseCall → Option (RedisSubscription Payload)
  | .entering =>
      match subscription.once with
      | .fresh => some { subscription.setCall call .closingDone with once := .running call }
      | .running _ => none
      | .finished => some (subscription.setCall call .returned)
  | .closingDone =>
      match subscription.done.close with
      | .done done =>
          some { subscription.setCall call .closingPubsub with
            done := done
            log := subscription.log ++ [.closeDone] }
      | .panics => some { subscription with panicked := true }
      | .blocked => none
  | .closingPubsub =>
      some { subscription.setCall call .returned with pubsubClosed := true, once := .finished }
  | .returned => none

def step : Event Payload → Option (RedisSubscription Payload)
  | .arrive payload =>
      match subscription.incoming.send payload with
      | .done incoming =>
          some { subscription with
            incoming := incoming
            arrived := subscription.arrived ++ [payload] }
      | _ => none
  | .closeIncoming =>
      match subscription.incoming.close with
      | .done incoming => some { subscription with incoming := incoming }
      | _ => none
  | .stop =>
      match subscription.forward, subscription.done.receive with
      | .selecting, .done _ => some { subscription with forward := .returning }
      -- the message is dropped
      | .holding _, .done _ => some { subscription with forward := .returning }
      | _, _ => none
  | .take =>
      match subscription.forward, subscription.incoming.receive with
      | .selecting, .done (some payload, incoming) =>
          some { subscription with
            incoming := incoming
            forward := .holding payload
            received := subscription.received ++ [payload] }
      | .selecting, .done (none, _) => some { subscription with forward := .returning }
      | _, _ => none
  | .forward =>
      match subscription.forward with
      | .holding payload =>
          match subscription.messages.send payload with
          | .done messages =>
              some { subscription with
                messages := messages
                forward := .selecting
                log := subscription.log ++ [.send payload] }
          | .panics => some { subscription with panicked := true }
          | .blocked => none
      | _ => none
  | .closeMessages =>
      match subscription.forward with
      | .returning =>
          match subscription.messages.close with
          | .done messages =>
              some { subscription with
                messages := messages
                forward := .returned
                log := subscription.log ++ [.closeMessages] }
          | .panics => some { subscription with panicked := true }
          | .blocked => none
      | _ => none
  | .read =>
      match subscription.messages.receive with
      | .done (some payload, messages) =>
          some { subscription with
            messages := messages
            read := subscription.read ++ [payload] }
      | .done (none, _) => some subscription
      | _ => none
  | .close => some { subscription with calls := subscription.calls ++ [.entering] }
  | .advance call => (subscription.calls[call]?).bind (subscription.advance call)

def system : TransitionSystem (RedisSubscription Payload) (Event Payload) where
  init subscription := ∃ channelSize, subscription = subscribe channelSize
  step := step

/-! ## The calls of `Close` -/

/-- Only the call that runs the function of `s.once` closes `done`, which is open until then. -/
structure ClosesOnce : Prop where
  fresh : subscription.once = .fresh → subscription.done.closed = false
  closingDone : ∀ call : Nat, subscription.calls[call]? = some .closingDone →
    subscription.once = .running call ∧ subscription.done.closed = false
  closingPubsub : ∀ call : Nat, subscription.calls[call]? = some .closingPubsub →
    subscription.once = .running call
  count : subscription.log.countP Operation.closesDone = subscription.done.closed.toNat

variable {subscription} {next : RedisSubscription Payload}

/-- The other goroutines leave what `Close` works on alone. -/
theorem ClosesOnce.of_same (hcloses : subscription.ClosesOnce)
    (honce : next.once = subscription.once) (hdone : next.done = subscription.done)
    (hcalls : next.calls = subscription.calls)
    (hcount : next.log.countP Operation.closesDone =
      subscription.log.countP Operation.closesDone) : next.ClosesOnce where
  fresh := by
    rw [honce, hdone]
    exact hcloses.fresh
  closingDone := by
    rw [honce, hdone, hcalls]
    exact hcloses.closingDone
  closingPubsub := by
    rw [honce, hcalls]
    exact hcloses.closingPubsub
  count := by rw [hcount, hdone, hcloses.count]

/-- A call that is not closing anything is added. -/
theorem ClosesOnce.call (hcloses : subscription.ClosesOnce) :
    { subscription with calls := subscription.calls ++ [CloseCall.entering] }.ClosesOnce where
  fresh := hcloses.fresh
  closingDone call hcall := by
    refine hcloses.closingDone call ?_
    rw [List.getElem?_append] at hcall
    split at hcall
    next => exact hcall
    next => simp [List.getElem?_singleton] at hcall
  closingPubsub call hcall := by
    refine hcloses.closingPubsub call ?_
    rw [List.getElem?_append] at hcall
    split at hcall
    next => exact hcall
    next => simp [List.getElem?_singleton] at hcall
  count := hcloses.count

theorem getElem?_set_cases {calls : List CloseCall} {call other : Nat} {stage found : CloseCall}
    (hfound : (calls.set call stage)[other]? = some found) :
    (other = call ∧ found = stage) ∨ (other ≠ call ∧ calls[other]? = some found) := by
  by_cases hother : call = other
  · subst hother
    rw [List.getElem?_set_self'] at hfound
    obtain ⟨_, -, rfl⟩ := Option.map_eq_some_iff.mp hfound
    exact .inl ⟨rfl, rfl⟩
  · rw [List.getElem?_set_ne hother] at hfound
    exact .inr ⟨Ne.symm hother, hfound⟩

/-- One statement of a call keeps the invariant, and does not panic. -/
theorem ClosesOnce.advance {call : Nat} {stage : CloseCall}
    (hcloses : subscription.ClosesOnce) (hcall : subscription.calls[call]? = some stage)
    (hadvance : subscription.advance call stage = some next) :
    next.ClosesOnce ∧ next.panicked = subscription.panicked := by
  cases stage with
  | entering =>
      dsimp only [RedisSubscription.advance] at hadvance
      split at hadvance
      next hfresh =>
        cases hadvance
        refine ⟨⟨nofun, fun other hother => ?_, fun other hother => ?_, hcloses.count⟩, rfl⟩
        · obtain ⟨rfl, -⟩ | ⟨-, hother⟩ := getElem?_set_cases hother
          · exact ⟨rfl, hcloses.fresh hfresh⟩
          · have hrunning := (hcloses.closingDone other hother).1
            rw [hfresh] at hrunning
            cases hrunning
        · obtain ⟨-, hstage⟩ | ⟨-, hother⟩ := getElem?_set_cases hother
          · cases hstage
          · have hrunning := hcloses.closingPubsub other hother
            rw [hfresh] at hrunning
            cases hrunning
      next => cases hadvance
      next =>
        cases hadvance
        refine ⟨⟨hcloses.fresh, fun other hother => ?_, fun other hother => ?_, hcloses.count⟩,
          rfl⟩
        · obtain ⟨-, hstage⟩ | ⟨-, hother⟩ := getElem?_set_cases hother
          · cases hstage
          · exact hcloses.closingDone other hother
        · obtain ⟨-, hstage⟩ | ⟨-, hother⟩ := getElem?_set_cases hother
          · cases hstage
          · exact hcloses.closingPubsub other hother
  | closingDone =>
      obtain ⟨hrunning, hopen⟩ := hcloses.closingDone call hcall
      dsimp only [RedisSubscription.advance] at hadvance
      split at hadvance
      next done hdone =>
        cases hadvance
        obtain ⟨-, rfl⟩ := Channel.close_done hdone
        refine ⟨⟨fun hfresh => ?_, fun other hother => ?_, fun other hother => ?_, ?_⟩, rfl⟩
        · cases hrunning.symm.trans hfresh
        · obtain ⟨-, hstage⟩ | ⟨hne, hother⟩ := getElem?_set_cases hother
          · cases hstage
          · have hsame := (hcloses.closingDone other hother).1
            rw [hrunning] at hsame
            cases hsame
            exact absurd rfl hne
        · obtain ⟨rfl, -⟩ | ⟨-, hother⟩ := getElem?_set_cases hother
          · exact hrunning
          · exact hcloses.closingPubsub other hother
        · rw [List.countP_append, hcloses.count, hopen]
          rfl
      next hpanics =>
        rw [Channel.close_panics hpanics] at hopen
        cases hopen
      next => cases hadvance
  | closingPubsub =>
      have hrunning := hcloses.closingPubsub call hcall
      cases hadvance
      refine ⟨⟨nofun, fun other hother => ?_, fun other hother => ?_, hcloses.count⟩, rfl⟩
      · obtain ⟨-, hstage⟩ | ⟨hne, hother⟩ := getElem?_set_cases hother
        · cases hstage
        · have hsame := (hcloses.closingDone other hother).1
          rw [hrunning] at hsame
          cases hsame
          exact absurd rfl hne
      · obtain ⟨-, hstage⟩ | ⟨hne, hother⟩ := getElem?_set_cases hother
        · cases hstage
        · have hsame := hcloses.closingPubsub other hother
          rw [hrunning] at hsame
          cases hsame
          exact absurd rfl hne
  | returned => cases hadvance

/-! ## The forwarded messages -/

/-- Nothing is sent to `messages` after it is closed. -/
def SendsBeforeClose (log : List (Operation Payload)) : Prop :=
  log.Pairwise fun earlier later => earlier = .closeMessages → ∀ payload, later ≠ .send payload

/-- The messages in the buffer and in the hands of `forward` are what has been received and not
been read, until the last one is dropped. -/
def Accounted (read buffer received : List Payload) : Forward Payload → Prop
  | .selecting => received = read ++ buffer
  | .holding payload => received = read ++ buffer ++ [payload]
  | .returning | .returned => read ++ buffer <+: received

/-- `forward` is the only one that sends to `messages` and that closes it. -/
structure Relays (subscription : RedisSubscription Payload) : Prop where
  closed_iff : subscription.messages.closed = true ↔ subscription.forward = .returned
  count : subscription.log.countP Operation.closesMessages = subscription.messages.closed.toNat
  order : SendsBeforeClose subscription.log
  accounted : Accounted subscription.read subscription.messages.buffer subscription.received
    subscription.forward
  arrived : subscription.arrived = subscription.received ++ subscription.incoming.buffer

theorem SendsBeforeClose.concat {log : List (Operation Payload)} (horder : SendsBeforeClose log)
    {operation : Operation Payload}
    (hlast : ∀ payload, operation = .send payload → .closeMessages ∉ log) :
    SendsBeforeClose (log ++ [operation]) := by
  refine List.pairwise_append.mpr ⟨horder, List.pairwise_singleton _ _, ?_⟩
  rintro earlier hearlier later hlater rfl payload rfl
  exact hlast payload (List.mem_singleton.mp hlater).symm hearlier

theorem Relays.closeMessages_notMem (hrelays : subscription.Relays)
    (hforward : subscription.forward ≠ .returned) :
    Operation.closeMessages ∉ subscription.log := by
  intro hmem
  have hopen : subscription.messages.closed = false :=
    Bool.eq_false_iff.mpr fun hclosed => hforward (hrelays.closed_iff.mp hclosed)
  have hcount := hrelays.count
  rw [hopen, Bool.toNat_false, List.countP_eq_zero] at hcount
  exact hcount _ hmem rfl

/-- Whatever `forward` has, what has been read is the beginning of what has been received. -/
theorem Accounted.read_isPrefix {read buffer received : List Payload} {forward : Forward Payload}
    (haccounted : Accounted read buffer received forward) : read ++ buffer <+: received := by
  cases forward with
  | selecting => exact ⟨[], (List.append_nil _).trans haccounted.symm⟩
  | holding payload => exact ⟨[payload], haccounted.symm⟩
  | returning | returned => exact haccounted

/-- `forward` gives up, with or without a message. -/
theorem Relays.giveUp (hrelays : subscription.Relays)
    (hforward : subscription.forward ≠ .returned) :
    { subscription with forward := Forward.returning }.Relays where
  closed_iff := iff_of_false (fun hclosed => hforward (hrelays.closed_iff.mp hclosed)) nofun
  count := hrelays.count
  order := hrelays.order
  accounted := hrelays.accounted.read_isPrefix
  arrived := hrelays.arrived

/-- What `forward` has not changed is kept by the other goroutines. -/
theorem Relays.of_same (hrelays : subscription.Relays)
    (hforward : next.forward = subscription.forward)
    (hmessages : next.messages = subscription.messages)
    (hcount : next.log.countP Operation.closesMessages =
      subscription.log.countP Operation.closesMessages)
    (horder : SendsBeforeClose next.log) (hread : next.read = subscription.read)
    (hreceived : next.received = subscription.received)
    (harrived : next.arrived = next.received ++ next.incoming.buffer) : next.Relays where
  closed_iff := by
    rw [hforward, hmessages]
    exact hrelays.closed_iff
  count := by rw [hcount, hmessages, hrelays.count]
  order := horder
  accounted := by
    rw [hforward, hmessages, hread, hreceived]
    exact hrelays.accounted
  arrived := harrived

/-- A call of `Close` works on neither channel of messages. -/
theorem Relays.advance {call : Nat} {stage : CloseCall} (hrelays : subscription.Relays)
    (hadvance : subscription.advance call stage = some next) : next.Relays := by
  cases stage with
  | entering =>
      dsimp only [RedisSubscription.advance] at hadvance
      split at hadvance
      next =>
        cases hadvance
        exact hrelays.of_same rfl rfl rfl hrelays.order rfl rfl hrelays.arrived
      next => cases hadvance
      next =>
        cases hadvance
        exact hrelays.of_same rfl rfl rfl hrelays.order rfl rfl hrelays.arrived
  | closingDone =>
      dsimp only [RedisSubscription.advance] at hadvance
      split at hadvance
      next done _ =>
        cases hadvance
        exact hrelays.of_same rfl rfl (by simp [Operation.closesMessages])
          (hrelays.order.concat nofun) rfl rfl hrelays.arrived
      next =>
        cases hadvance
        exact hrelays.of_same rfl rfl rfl hrelays.order rfl rfl hrelays.arrived
      next => cases hadvance
  | closingPubsub =>
      cases hadvance
      exact hrelays.of_same rfl rfl rfl hrelays.order rfl rfl hrelays.arrived
  | returned => cases hadvance

/-- The invariant of a subscription. -/
structure Sound (subscription : RedisSubscription Payload) : Prop where
  closes : subscription.ClosesOnce
  relays : subscription.Relays
  alive : subscription.panicked = false

theorem subscribe_sound (channelSize : Nat) :
    (subscribe channelSize : RedisSubscription Payload).Sound where
  closes := ⟨fun _ => rfl, nofun, nofun, rfl⟩
  relays := ⟨iff_of_false nofun nofun, rfl, List.Pairwise.nil, rfl, rfl⟩
  alive := rfl

theorem Sound.step {event : Event Payload} (hsound : subscription.Sound)
    (hstep : subscription.step event = some next) : next.Sound := by
  obtain ⟨hcloses, hrelays, halive⟩ := hsound
  cases event with
  | arrive payload =>
      dsimp only [RedisSubscription.step] at hstep
      split at hstep
      next incoming hsend =>
        cases hstep
        obtain ⟨-, rfl⟩ := Channel.send_done hsend
        refine ⟨hcloses.of_same rfl rfl rfl rfl,
          hrelays.of_same rfl rfl rfl hrelays.order rfl rfl ?_, halive⟩
        simp [hrelays.arrived]
      next => cases hstep
  | closeIncoming =>
      dsimp only [RedisSubscription.step] at hstep
      split at hstep
      next incoming hclose =>
        cases hstep
        obtain ⟨-, rfl⟩ := Channel.close_done hclose
        exact ⟨hcloses.of_same rfl rfl rfl rfl,
          hrelays.of_same rfl rfl rfl hrelays.order rfl rfl hrelays.arrived, halive⟩
      next => cases hstep
  | stop =>
      dsimp only [RedisSubscription.step] at hstep
      split at hstep
      next hforward _ =>
        cases hstep
        exact ⟨hcloses.of_same rfl rfl rfl rfl, hrelays.giveUp (by rw [hforward]; nofun), halive⟩
      next hforward _ =>
        cases hstep
        exact ⟨hcloses.of_same rfl rfl rfl rfl, hrelays.giveUp (by rw [hforward]; nofun), halive⟩
      next => cases hstep
  | take =>
      dsimp only [RedisSubscription.step] at hstep
      split at hstep
      next payload incoming hforward hreceive =>
        cases hstep
        obtain ⟨hbuffer, -⟩ := Channel.receive_item hreceive
        have haccounted := hrelays.accounted
        rw [hforward] at haccounted
        have hopen : subscription.messages.closed ≠ true := fun hclosed => by
          cases hforward.symm.trans (hrelays.closed_iff.mp hclosed)
        refine ⟨hcloses.of_same rfl rfl rfl rfl,
          ⟨iff_of_false hopen nofun, hrelays.count, hrelays.order, ?_, ?_⟩, halive⟩
        · exact congrArg (· ++ [payload]) haccounted
        · simp [hrelays.arrived, hbuffer]
      next hforward _ =>
        cases hstep
        exact ⟨hcloses.of_same rfl rfl rfl rfl, hrelays.giveUp (by rw [hforward]; nofun), halive⟩
      next => cases hstep
  | forward =>
      dsimp only [RedisSubscription.step] at hstep
      split at hstep
      next payload hforward =>
        have hrunning : subscription.forward ≠ .returned := by
          rw [hforward]
          nofun
        split at hstep
        next messages hsend =>
          cases hstep
          obtain ⟨hopen, rfl⟩ := Channel.send_done hsend
          have haccounted := hrelays.accounted
          rw [hforward] at haccounted
          refine ⟨hcloses.of_same rfl rfl rfl (by simp [Operation.closesDone]),
            ⟨iff_of_false (by simp [hopen]) nofun, ?_, ?_, ?_, hrelays.arrived⟩, halive⟩
          · simp [Operation.closesMessages, hrelays.count]
          · exact hrelays.order.concat fun _ _ => hrelays.closeMessages_notMem hrunning
          · exact haccounted.trans (List.append_assoc _ _ _)
        next hpanics =>
          exact absurd (hrelays.closed_iff.mp (Channel.send_panics hpanics)) hrunning
        next => cases hstep
      next => cases hstep
  | closeMessages =>
      dsimp only [RedisSubscription.step] at hstep
      split at hstep
      next hforward =>
        have hrunning : subscription.forward ≠ .returned := by
          rw [hforward]
          nofun
        split at hstep
        next messages hclose =>
          cases hstep
          obtain ⟨hopen, rfl⟩ := Channel.close_done hclose
          have haccounted := hrelays.accounted
          rw [hforward] at haccounted
          refine ⟨hcloses.of_same rfl rfl rfl (by simp [Operation.closesDone]),
            ⟨iff_of_true rfl rfl, ?_, hrelays.order.concat nofun, haccounted, hrelays.arrived⟩,
            halive⟩
          simp [Operation.closesMessages, hrelays.count, hopen]
        next hpanics =>
          exact absurd (hrelays.closed_iff.mp (Channel.close_panics hpanics)) hrunning
        next => cases hstep
      next => cases hstep
  | read =>
      dsimp only [RedisSubscription.step] at hstep
      split at hstep
      next payload messages hreceive =>
        cases hstep
        obtain ⟨hbuffer, hclosed⟩ := Channel.receive_item hreceive
        have hbuffered : subscription.read ++ subscription.messages.buffer =
            subscription.read ++ [payload] ++ messages.buffer := by
          rw [hbuffer, List.append_assoc]
          rfl
        refine ⟨hcloses.of_same rfl rfl rfl rfl, ⟨?_, ?_, hrelays.order, ?_, hrelays.arrived⟩,
          halive⟩
        · dsimp only
          rw [hclosed]
          exact hrelays.closed_iff
        · dsimp only
          rw [hclosed]
          exact hrelays.count
        · have haccounted := hrelays.accounted
          cases hforward : subscription.forward with
          | selecting | holding _ | returning | returned =>
              rw [hforward] at haccounted
              dsimp only [Accounted] at haccounted ⊢
              rwa [← hbuffered]
      next =>
        cases hstep
        exact ⟨hcloses, hrelays, halive⟩
      next => cases hstep
  | close =>
      cases hstep
      exact ⟨hcloses.call, hrelays.of_same rfl rfl rfl hrelays.order rfl rfl hrelays.arrived,
        halive⟩
  | advance call =>
      obtain ⟨stage, hcall, hadvance⟩ := Option.bind_eq_some_iff.mp hstep
      obtain ⟨hclosed, hpanicked⟩ := hcloses.advance hcall hadvance
      exact ⟨hclosed, hrelays.advance hadvance, hpanicked.trans halive⟩

theorem reachable_sound (hreach : system.Reachable subscription) : subscription.Sound := by
  refine TransitionSystem.ReachableUnder.invariant system Sound ?_ ?_ hreach
  · rintro subscription ⟨channelSize, rfl⟩
    exact subscribe_sound channelSize
  · exact fun subscription event next _ hsound _ hstep => hsound.step hstep

/-- What has been read is the beginning of what has been received, both channels are closed at
most once, nothing is sent to the closed one, and no goroutine panics. -/
theorem reachable_relay (hreach : system.Reachable subscription) :
    subscription.read <+: subscription.received ∧
      subscription.received <+: subscription.arrived ∧
      subscription.log.countP Operation.closesMessages ≤ 1 ∧
      subscription.log.countP Operation.closesDone ≤ 1 ∧
      SendsBeforeClose subscription.log ∧ subscription.panicked = false := by
  obtain ⟨hcloses, hrelays, halive⟩ := reachable_sound hreach
  refine ⟨(List.prefix_append _ _).trans hrelays.accounted.read_isPrefix,
    ⟨_, hrelays.arrived.symm⟩, ?_, ?_, hrelays.order, halive⟩
  · rw [hrelays.count]
    exact Bool.toNat_le _
  · rw [hcloses.count]
    exact Bool.toNat_le _

/-- Two calls of `Close` while a message is on its way. -/
theorem reachable_relay_closed : ∃ subscription : RedisSubscription Nat,
    system.Reachable subscription ∧ subscription.calls = [.returned, .returned] ∧
      subscription.received = [7, 8] ∧ subscription.read <+: subscription.received ∧
      subscription.log.countP Operation.closesDone ≤ 1 := by
  obtain ⟨subscription, hreach, hcheck⟩ := system.exists_reachable_of_exec
    (.init ⟨100, rfl⟩ : system.Reachable (subscribe 100))
    [.arrive 7, .arrive 8, .take, .forward, .take, .close, .close, .advance 1, .advance 1, .stop,
      .closeMessages, .advance 1, .advance 0, .read]
    (fun subscription => subscription.calls = [.returned, .returned] ∧
      subscription.received = [7, 8]) (by decide)
  obtain ⟨hcalls, hreceived⟩ := of_decide_eq_true hcheck
  obtain ⟨hread, -, -, hdone, -⟩ := reachable_relay hreach
  exact ⟨subscription, hreach, hcalls, hreceived, hread, hdone⟩

end RedisSubscription

end CollabEditor.Hub
