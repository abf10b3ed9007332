import CollabEditor.Backend.Database

/-! # Websocket tickets

The backend writes a ticket to Redis under a random key, and a hub node takes it
out again. The JSON of the payload is read back field by field, so the store
holds the payload itself.
-/

namespace CollabEditor.Backend

open Database

/-- The name of the constant, which Jackson writes. -/
def PermissionLevel.name : PermissionLevel → String
  | .owner => "OWNER"
  | .viewer => "VIEWER"
  | .editor => "EDITOR"

/-- `WebSocketTicketPayload`. -/
structure WebSocketTicketPayload where
  documentId : DocumentId
  userId : UserId
  username : String
  permissionLevel : PermissionLevel
  issuedAt : Instant
  expiresAt : Instant
deriving DecidableEq, Repr

/-- The tickets in Redis. A key lives until the `expiresAt` of its payload. -/
abbrev TicketStore := String → Option WebSocketTicketPayload

namespace TicketStore

variable (store : TicketStore) (now : Instant)

/-- `GET` of a key that may have run out. -/
def get (ticket : String) : Option WebSocketTicketPayload :=
  (store ticket).filter fun payload => now < payload.expiresAt

/-- `RedisTicketStore.Consume`: the ticket is deleted whatever becomes of it. -/
def consume (ticket : String) : Option WebSocketTicketPayload × TicketStore :=
  if ticket = "" then (none, store)
  else
    ((store.get now ticket).filter fun payload =>
        now ≤ payload.expiresAt ∧ 0 < payload.documentId ∧ 0 < payload.userId,
      Function.update store ticket none)

end TicketStore

namespace WebSocketTicketService

/-- `TICKET_TTL`. -/
def ticketTtl : Duration := .ofMinutes 1

variable (db : Database) (now : Instant)

/-- `resolvePermission`. -/
def resolvePermission (documentId : DocumentId) (userId : UserId) : Option PermissionLevel :=
  (db.findPermission documentId userId).map DocumentPermission.level

/-- `createTicketWithContent`. `ticket` is the random text the call draws. -/
def createTicketWithContent (store : TicketStore) (documentId : DocumentId) (principalUser : User)
    (ticket : String) : Except ServiceError (WebSocketTicketPayload × TicketStore) :=
  match resolvePermission db documentId principalUser.id with
  | none => .error .accessDenied
  | some permissionLevel => do
      let expiresAt ← now.plus ticketTtl
      let payload : WebSocketTicketPayload :=
        { documentId := documentId
          userId := principalUser.id
          username := principalUser.username
          permissionLevel := permissionLevel
          issuedAt := now
          expiresAt := expiresAt }
      if (store.get now ticket).isSome then .error .illegalState
      else return (payload, Function.update store ticket (some payload))

/-- A ticket carries the level of the permission row of its user. -/
theorem createTicketWithContent_level {store next : TicketStore} {documentId : DocumentId}
    {principalUser : User} {ticket : String} {payload : WebSocketTicketPayload}
    (hok : createTicketWithContent db now store documentId principalUser ticket =
      .ok (payload, next)) :
    payload.documentId = documentId ∧ payload.userId = principalUser.id ∧
      ∃ row, db.findPermission documentId principalUser.id = some row ∧
        payload.permissionLevel = row.level := by
  unfold createTicketWithContent at hok
  split at hok
  next => cases hok
  next level hlevel =>
    obtain ⟨row, hrow, hlevel⟩ := Option.map_eq_some_iff.mp hlevel
    cases hexpires : now.plus ticketTtl with
    | error error =>
        rw [hexpires] at hok
        cases hok
    | ok expiresAt =>
        rw [hexpires] at hok
        simp only [bind, Except.bind] at hok
        split at hok
        next => cases hok
        next =>
          cases hok
          exact ⟨rfl, rfl, row, hrow, hlevel.symm⟩

/-- The ticket is written for the user under the text the call has drawn. -/
theorem createTicketWithContent_store {store next : TicketStore} {documentId : DocumentId}
    {principalUser : User} {ticket : String} {payload : WebSocketTicketPayload}
    (hok : createTicketWithContent db now store documentId principalUser ticket =
      .ok (payload, next)) :
    payload.username = principalUser.username ∧
      next = Function.update store ticket (some payload) := by
  unfold createTicketWithContent at hok
  split at hok
  next => cases hok
  next =>
    cases hexpires : now.plus ticketTtl with
    | error error =>
        rw [hexpires] at hok
        cases hok
    | ok expiresAt =>
        rw [hexpires] at hok
        simp only [bind, Except.bind] at hok
        split at hok
        next => cases hok
        next =>
          cases hok
          exact ⟨rfl, rfl⟩

end WebSocketTicketService

end CollabEditor.Backend
