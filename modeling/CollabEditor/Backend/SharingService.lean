import CollabEditor.Backend.DocumentService

/-! # Invites, access requests and the permissions they grant -/

namespace CollabEditor.Backend.SharingService

open Database

variable (db : Database) (now : Instant)

/-- `createInvite`. The token is the random UUID of the call; the column is
unique, so a repeated one is refused. -/
def createInvite (docId : DocumentId) (doc : Document) (creator : User) (autoApprove : Bool)
    (expiresAt : Option Instant) (token : String) : Transaction Invite :=
  if doc.owner.id ≠ creator.id then
    .error (.appException "Only owner can create invites" 403)
  else if db.invites.any (fun row => row.token == token) then .error .constraintViolation
  else
    let invite : Invite :=
      { token := token
        documentId := docId
        createdBy := creator
        createdAt := now
        expiresAt := some (expiresAt.getD (now + Duration.ofSeconds (3 * 3600)))
        autoApprove := autoApprove }
    .ok (invite, { db with invites := invite :: db.invites })

/-- `findByDocumentAndRequester`, declared `Optional`: two rows are an error. -/
def findByDocumentAndRequester (docId : DocumentId) (requester : User) :
    Except ServiceError (Option AccessRequest) :=
  match db.accessRequests.filter
      fun row => row.documentId == docId && row.requester.id == requester.id with
  | [] => .ok none
  | [row] => .ok (some row)
  | _ => .error .nonUniqueResult

/-- The two results of `useInvite`. -/
inductive InviteResult
  | granted
  | pending (request : AccessRequest)
deriving DecidableEq, Repr

/-- `useInvite`: an approving invite grants `VIEWER` unless a permission row
exists; any other invite leaves one pending request. -/
def useInvite (token : String) (requester : User) :
    Except ServiceError (InviteResult × Database) :=
  match db.invites.find? fun row => row.token == token with
  | none => .error (.notFound "Invite not found")
  | some invite =>
      if invite.expiresAt.any (· < now) then .error (.appException "Invite expired" 400)
      else if invite.autoApprove then
        if db.existsPermission invite.documentId requester.id then .ok (.granted, db)
        else do
          let db ← db.insertPermission
            { documentId := invite.documentId, user := requester,
              level := .viewer, grantedAt := now }
          return (.granted, db)
      else do
        match ← findByDocumentAndRequester db invite.documentId requester with
        | some existing => return (.pending existing, db)
        | none =>
            let request : AccessRequest :=
              { id := db.nextRequestId
                documentId := invite.documentId
                requester := requester
                createdAt := now }
            let db ← db.insertAccessRequest request
            return (.pending request, db)

/-- `processRequest`: an approval inserts a permission row, and the request is
deleted either way. -/
def processRequest (requestId : Nat) (processor : User) (approve : Bool)
    (grantedLevel : Option PermissionLevel) : Except ServiceError (Unit × Database) :=
  match db.accessRequests.find? fun row => row.id == requestId with
  | none => .error (.notFound "Request not found")
  | some request =>
      match db.documents request.documentId with
      | none => .error .constraintViolation
      | some doc =>
          if doc.owner.id ≠ processor.id then
            .error (.appException "Only owner can process requests" 403)
          else do
            let permission : DocumentPermission :=
              { documentId := request.documentId
                user := request.requester
                level := grantedLevel.getD .viewer
                grantedAt := now }
            let db ← (if approve then db.insertPermission permission else .ok db)
            return ((), { db with
              accessRequests := db.accessRequests.filter fun row => row.id != requestId })

/-- `Character.toLowerCase(Character.toUpperCase(c))`, as `equalsIgnoreCase`
compares the letters of the word below: the dotted and dotless i fold together. -/
def foldCase (c : Char) : Char :=
  if c = 'ı' ∨ c = 'İ' then 'i' else c.toLower

/-- The level the controller passes to `processRequest`: `EDITOR` for that word
in any case, `VIEWER` for everything else. -/
def requestedLevel (level : Option String) : PermissionLevel :=
  match level with
  | some level => if level.toList.map foldCase = "editor".toList then .editor else .viewer
  | none => .viewer

end CollabEditor.Backend.SharingService
