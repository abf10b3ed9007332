import CollabEditor.Backend.LockService
import CollabEditor.Foundation.Horner
import CollabEditor.Foundation.Json

/-! # Starting a collaborative session

The backend asks the document's worker to start a session, and then takes the
collaborative lock. The worker's state and the database are passed along; what a worker
answers, and what it does, is a parameter. It may use the backend's own endpoints
meanwhile, to persist a session that it replaces.
-/

namespace CollabEditor.Backend

open Foundation

/-- The UTF-16 code units of a text. -/
def codeUnits (text : List Char) : List Int :=
  text.flatMap fun c =>
    if c.toNat < 0x10000 then [(c.toNat : Int)]
    else [((0xD800 + (c.toNat - 0x10000) / 0x400 : Nat) : Int),
      ((0xDC00 + (c.toNat - 0x10000) % 0x400 : Nat) : Int)]

/-- `String.hashCode`. -/
def hashCode (text : String) : Int :=
  (horner 31 (codeUnits text.toList)).bmod (2 ^ 32)

/-- `Character.isWhitespace`. -/
def isWhitespace (c : Char) : Bool :=
  let code := c.toNat
  (9 ≤ code && code ≤ 13) || (28 ≤ code && code ≤ 32) || code = 0x1680 ||
    (0x2000 ≤ code && code ≤ 0x200A && code ≠ 0x2007) || code = 0x2028 || code = 0x2029 ||
    code = 0x205F || code = 0x3000

/-- `RouterProperties.Worker`. -/
structure RouterWorker where
  baseUrl : Option String
deriving DecidableEq, Repr

structure RouterProperties where
  workerBearerToken : Option String
  workers : List RouterWorker
deriving DecidableEq, Repr

structure InitializeDocumentRequest where
  content : Option String
  userId : UserId
  username : String
deriving DecidableEq, Repr

/-- A PUT request to a worker. The path names the document, and the endpoint. -/
structure WorkerRequest (Body : Type) where
  baseUrl : String
  documentId : String
  authorization : String
  body : Body
deriving DecidableEq, Repr

structure ProxyResponse where
  statusCode : Nat
  body : Option (List UInt8)
deriving DecidableEq, Repr

structure ResponseEntity where
  statusCode : Nat
  body : List UInt8
deriving DecidableEq, Repr

def ProxyResponse.toResponseEntity (response : ProxyResponse) : ResponseEntity where
  statusCode := response.statusCode
  body := response.body.getD []

/-- `HttpStatusCode.is2xxSuccessful`. -/
def ResponseEntity.is2xxSuccessful (response : ResponseEntity) : Bool :=
  200 ≤ response.statusCode && response.statusCode < 300

/-- Jackson. `readTree` is `none` when it throws. -/
structure ObjectMapper where
  readTree : List UInt8 → Option Json
  writeValueAsBytes : Json → List UInt8

namespace WorkerRoutingService

def workerForDocument (router : RouterProperties) (documentId : String) :
    Except ServiceError RouterWorker :=
  match router.workers[(hashCode documentId % router.workers.length).toNat]? with
  | none => .error .illegalState
  | some worker => .ok worker

/-- A single worker gets all documents. -/
theorem workerForDocument_single {router : RouterProperties} {worker : RouterWorker}
    (hworkers : router.workers = [worker]) (documentId : String) :
    workerForDocument router documentId = .ok worker := by
  have hindex : hashCode documentId % (1 : Nat) = 0 := Int.emod_one _
  rw [workerForDocument, hworkers, List.length_singleton, hindex]
  rfl

end WorkerRoutingService

namespace WorkerHttpClient

def workerBearerHeader (router : RouterProperties) : Except ServiceError String :=
  match router.workerBearerToken with
  | none => .error .illegalState
  | some token =>
      if token.toList.all isWhitespace then .error .illegalState else .ok ("Bearer " ++ token)

/-- The request that `put` sends, or what it throws before. -/
def request {Body : Type} (router : RouterProperties) (documentId : String) (body : Body) :
    Except ServiceError (WorkerRequest Body) := do
  let worker ← WorkerRoutingService.workerForDocument router documentId
  match worker.baseUrl with
  | none => throw .illegalArgument
  | some baseUrl =>
      let authorization ← workerBearerHeader router
      return {
        baseUrl := baseUrl
        documentId := documentId
        authorization := authorization
        body := body }

end WorkerHttpClient

namespace DocumentWorkerProxyService

def documentNotFound : ResponseEntity where
  statusCode := 404
  body := "\x7b\"error\":\"document_not_found\"\x7d".toUTF8.toList

def failedToBuildResponse : ResponseEntity where
  statusCode := 500
  body := "\x7b\"error\":\"failed_to_build_response\"\x7d".toUTF8.toList

/-- `ObjectNode.put`. -/
def putField (key : String) (value : Json) (fields : List (String × Json)) :
    List (String × Json) :=
  if fields.any fun field => field.1 == key then
    fields.map fun field => if field.1 = key then (key, value) else field
  else fields ++ [(key, value)]

/-- The worker's answer with the content; `none` when the answer cannot be read. -/
def finalBytes (mapper : ObjectMapper) (workerBody : List UInt8) (content : Option String) :
    Option (List UInt8) := do
  let workerJson ← if workerBody = [] then some none else (mapper.readTree workerBody).map some
  let fields := match workerJson with
    | some (.object fields) => fields
    | _ => []
  return mapper.writeValueAsBytes (.object (putField "content" (content.elim .null .string) fields))

variable {Worker : Type} (mapper : ObjectMapper) (router : RouterProperties)

/-- `initializeDocument`: its result, the database and the worker's state. A call of the
worker that is rejected has no response, and its exception is not caught. -/
def initializeDocument
    (call : WorkerRequest InitializeDocumentRequest → Database × Worker →
      Option ProxyResponse × Database × Worker)
    (db : Database) (now : Instant) (worker : Worker) (documentId : DocumentId) (user : User) :
    Except ServiceError ResponseEntity × Database × Worker :=
  match db.documents documentId with
  | none => (.ok documentNotFound, db, worker)
  | some document =>
      let requestBody : InitializeDocumentRequest := ⟨document.content, user.id, user.username⟩
      match WorkerHttpClient.request router (toString documentId) requestBody with
      | .error error => (.error error, db, worker)
      | .ok request =>
          match call request (db, worker) with
          | (none, db, worker) => (.error .illegalState, db, worker)
          | (some response, db, worker) =>
              match finalBytes mapper response.toResponseEntity.body document.content with
              | none => (.ok failedToBuildResponse, db, worker)
              | some bytes =>
                  match LockService.acquireCollaborativeLock db now documentId with
                  | .error _ => (.ok failedToBuildResponse, db, worker)
                  | .ok (_, db) => (.ok ⟨response.statusCode, bytes⟩, db, worker)

/-- `syncDocument`; the id is the text in the path. -/
def syncDocument (call : WorkerRequest Unit → Worker → Option ProxyResponse × Worker)
    (worker : Worker) (documentId : String) : Except ServiceError ResponseEntity × Worker :=
  match WorkerHttpClient.request router documentId () with
  | .error error => (.error error, worker)
  | .ok request =>
      match call request worker with
      | (none, worker) => (.error .illegalState, worker)
      | (some response, worker) => (.ok response.toResponseEntity, worker)

end DocumentWorkerProxyService

end CollabEditor.Backend
