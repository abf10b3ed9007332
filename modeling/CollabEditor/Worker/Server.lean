import CollabEditor.Worker.DocumentManager

/-! # The HTTP endpoints of the state worker

The backend is the only client. Both endpoints take the document id as the text
in the path.
-/

namespace CollabEditor.Worker

open Backend (DocumentId)

/-- The responses of the two endpoints. -/
inductive Response
  | error (status : Nat) (error : String)
  /-- `{ status: "ok", documentId }`. -/
  | initialized (documentId : DocumentId)
  | snapshot (response : WorkerSyncResponse)

namespace Server

variable {Doc Raw : Type} (lib : Libraries Doc Raw)

/-- The init endpoint up to the call of `initializeDocument`: its arguments, or
the response to a request it refuses. -/
def init (documentId : String) (content : Option String) (userId : Rat) (username : String)
    (clientId : Nat) : Except Response InitializeRequest :=
  match lib.number documentId with
  | none => .error (.error 400 "invalid_document_id")
  | some documentId =>
      match content with
      | none => .error (.error 400 "content_is_required")
      | some content => .ok
          { documentId := documentId
            content := content
            userId := userId
            username := username
            clientId := clientId }

/-- The sync endpoint. -/
def sync (manager : Manager Doc) (documentId : String) : Response :=
  match lib.number documentId with
  | none => .error 400 "invalid_document_id"
  | some documentId =>
      match manager.syncDocument lib documentId with
      | none => .error 404 "document_not_found"
      | some snapshot => .snapshot snapshot

end Server

end CollabEditor.Worker
