import CollabEditor.Backend.Library

/-! # The list on the library page

The page loads its list once, and then applies to it what it has done itself. The list outlives
the page, since it belongs to a service of the application; an answer does not, and a request
that the page has left behind may still be served. The query names no order: each time, the
database returns the rows in an order of its own.
-/

namespace CollabEditor.Platform

open Foundation Backend

/-- What the page asks `DocumentService` for. -/
inductive ListRequest
  | loadLibrary
  | createDocument (title : String)
  | deleteDocument (documentId : Int)
deriving DecidableEq, Repr

/-- What the `tap` of a request sees of the answer. -/
inductive ListAnswer
  | loaded (docs : List DocumentSummaryDto)
  | created (newDoc : DocumentSummaryDto)
  | deleted (documentId : Int)
  | failed
deriving DecidableEq, Repr

/-- `documentsState` after the answer. -/
def ListAnswer.tap (docs : List DocumentSummaryDto) : ListAnswer → List DocumentSummaryDto
  | .loaded fresh => fresh
  | .created newDoc => newDoc :: docs
  | .deleted documentId => docs.filter fun doc => doc.documentId != documentId
  | .failed => docs

/-- A list and a permutation of it are changed alike. -/
theorem ListAnswer.tap_perm {docs others : List DocumentSummaryDto} (h : docs.Perm others)
    (answer : ListAnswer) : (answer.tap docs).Perm (answer.tap others) := by
  cases answer with
  | loaded fresh => exact .refl _
  | created newDoc => exact h.cons newDoc
  | deleted documentId => exact h.filter _
  | failed => exact h

/-- The body has no permission; the page sets it. -/
def ownCard (dto : DocumentResponseDto) : DocumentSummaryDto where
  documentId := dto.documentId
  title := dto.title
  ownerId := dto.ownerId
  ownerUsername := dto.ownerUsername
  lastModified := dto.lastModified
  version := dto.version
  myPermission := .owner

namespace ListRequest

variable (state : State) (user : User)

/-- The transaction of a request; the library is only read. -/
def transaction : ListRequest → Option Request
  | .loadLibrary => none
  | .createDocument title => some (.create (some title) (some ""))
  | .deleteDocument documentId => some (.delete documentId)

/-- The state once the request has been served. -/
def serve (request : ListRequest) : State :=
  { state with
    db := match request.transaction with
      | none => state.db
      | some transaction => committed state.db (transaction.serve state.db state.now user) }

/-- The answer, with the rows of the library as the query returns them. -/
def answer (docs : List DocumentSummaryDto) : ListRequest → ListAnswer
  | .loadLibrary => .loaded docs
  | .createDocument title =>
      match (Request.create (some title) (some "")).serve state.db state.now user with
      | .ok (.document dto, _) => .created (ownCard dto)
      | _ => .failed
  | .deleteDocument documentId =>
      match (Request.delete documentId).serve state.db state.now user with
      | .ok _ => .deleted documentId
      | .error _ => .failed

theorem serve_state (request : ListRequest) :
    request.serve state user = state ∨
      ∃ transaction, Backend.system.step state (.user user transaction) =
        some (request.serve state user) := by
  cases request with
  | loadLibrary => exact .inl rfl
  | createDocument title => exact .inr ⟨_, rfl⟩
  | deleteDocument documentId => exact .inr ⟨_, rfl⟩

end ListRequest

/-- A tab with the library, and the backend behind it. -/
structure LibraryTab where
  state : State
  user : User
  /-- `documentsState`. -/
  documents : List DocumentSummaryDto
  /-- The page is there. -/
  opened : Bool
  /-- The requests of the page that are on their way, and the answers. -/
  requests : List ListRequest
  answers : List ListAnswer
  /-- The requests that the page had not seen answered when it went. -/
  aborted : List ListRequest
  /-- The page's first request has been served, a record. -/
  fetched : Bool

namespace LibraryTab

variable (tab : LibraryTab)

def ownedDocuments : List DocumentSummaryDto :=
  tab.documents.filter fun doc => doc.myPermission == .owner

/-- What `GET /api/docs` would answer now. -/
def library : List DocumentSummaryDto :=
  DocumentService.listAccessibleDocumentsWithPermissionLevel tab.state.db tab.user

inductive Event
  | openPage
  | createDocument (title : String)
  | deleteDocument (documentId : Int)
  /-- The backend serves a request, with the rows of the library in this order. -/
  | serve (index : Nat) (docs : List DocumentSummaryDto)
  /-- The backend serves a request that nobody waits for any more. -/
  | serveAborted (index : Nat)
  | deliver (index : Nat)
  | loseRequest (index : Nat)
  | loseAnswer (index : Nat)
  /-- The subscriptions end with the page. -/
  | destroyPage
  /-- Whatever else happens at the backend. -/
  | backend (event : Backend.Event)

/-- The page sends a request. -/
def send (request : ListRequest) : Option LibraryTab :=
  if tab.opened then some { tab with requests := tab.requests ++ [request] } else none

/-- The backend serves the request. -/
def afterServe (request : ListRequest) (docs : List DocumentSummaryDto) : LibraryTab :=
  { tab with
    state := request.serve tab.state tab.user
    answers := tab.answers ++ [request.answer tab.state tab.user docs]
    fetched := tab.fetched || request = .loadLibrary }

def step : Event → Option LibraryTab
  | .openPage =>
      if tab.opened then none
      else some { tab with opened := true, requests := [.loadLibrary] }
  | .createDocument title => tab.send (.createDocument title)
  | .deleteDocument documentId => tab.send (.deleteDocument documentId)
  | .serve index docs =>
      if docs.Perm tab.library then
        (tab.requests[index]?).map fun request =>
          { tab.afterServe request docs with requests := tab.requests.eraseIdx index }
      else none
  | .serveAborted index => (tab.aborted[index]?).map fun request =>
      { tab with
        state := request.serve tab.state tab.user
        aborted := tab.aborted.eraseIdx index }
  | .deliver index => (tab.answers[index]?).map fun answer =>
      { tab with
        documents := answer.tap tab.documents
        answers := tab.answers.eraseIdx index }
  | .loseRequest index => some { tab with requests := tab.requests.eraseIdx index }
  | .loseAnswer index => some { tab with answers := tab.answers.eraseIdx index }
  | .destroyPage =>
      if tab.opened then
        some { tab with
          opened := false
          requests := []
          answers := []
          aborted := tab.aborted ++ tab.requests
          fetched := false }
      else none
  | .backend event => (Backend.system.step tab.state event).map fun state =>
      { tab with state := state }

def system : TransitionSystem LibraryTab Event where
  init tab := Backend.system.init tab.state ∧ tab.documents = [] ∧ tab.opened = false ∧
    tab.requests = [] ∧ tab.answers = [] ∧ tab.aborted = [] ∧ tab.fetched = false
  step := step

/-- The user's library is the same but for the order. -/
def SameLibrary (state : State) : Prop :=
  (DocumentService.listAccessibleDocumentsWithPermissionLevel state.db tab.user).Perm tab.library

instance (state : State) : Decidable (tab.SameLibrary state) :=
  inferInstanceAs (Decidable (List.Perm _ _))

/-- The answers arrive in the order in which they were given, and once the page's first request
has been served nothing else changes the library of the user. -/
def InStep (tab : LibraryTab) : Event → Prop
  | .deliver index => index = 0
  | .loseAnswer _ => False
  | .serveAborted index => tab.fetched = true →
      ∀ request ∈ tab.aborted[index]?, tab.SameLibrary (request.serve tab.state tab.user)
  | .backend event => tab.fetched = true →
      ∀ state ∈ Backend.system.step tab.state event, tab.SameLibrary state
  | .openPage | .createDocument _ | .deleteDocument _ | .serve .. | .loseRequest _
  | .destroyPage => True

instance (tab : LibraryTab) : (event : Event) → Decidable (tab.InStep event)
  | .deliver index => inferInstanceAs (Decidable (index = 0))
  | .loseAnswer _ => isFalse id
  | .serveAborted index => inferInstanceAs (Decidable (_ →
      ∀ request ∈ tab.aborted[index]?, tab.SameLibrary (request.serve tab.state tab.user)))
  | .backend event => inferInstanceAs (Decidable (_ →
      ∀ state ∈ Backend.system.step tab.state event, tab.SameLibrary state))
  | .openPage | .createDocument _ | .deleteDocument _ | .serve .. | .loseRequest _
  | .destroyPage => isTrue trivial

end LibraryTab

/-! ## What the requests do to the library -/

section Transactions

variable {db next : Database} {now : Instant} {user : User} {reply : Reply}

/-- The library gains the card that the page puts on its list. -/
theorem create_library (hdb : db.WellFormed) {title content : Option String}
    (hok : (Request.create title content).serve db now user = .ok (reply, next)) :
    ∃ dto, reply = .document dto ∧
      (findPermittedDocuments next user.id).Perm
        (ownCard dto :: findPermittedDocuments db user.id) := by
  simp only [Request.serve, Except.bind_eq_ok_iff, Except.pure_eq_ok_iff, Prod.mk.injEq,
    Prod.exists] at hok
  obtain ⟨id, created, hcreate, doc, hdoc, rfl, rfl⟩ := hok
  refine ⟨doc.toDto id, rfl, .of_eq ?_⟩
  unfold DocumentService.create at hcreate
  cases title with
  | none => simp at hcreate
  | some title =>
      simp only [Option.elim_some, Except.bind_eq_ok_iff, Except.pure_eq_ok_iff, Prod.mk.injEq,
        Database.insertPermission_eq_ok_iff] at hcreate
      obtain ⟨_, -, inserted, ⟨-, -, rfl⟩, rfl, rfl⟩ := hcreate
      simp only [DocumentService.getById, Database.updateDocument_documents,
        Function.update_self, Except.ok.injEq] at hdoc
      subst hdoc
      have hold : ∀ row ∈ db.documentPermissions, row.documentId ≠ db.nextDocumentId :=
        fun row hrow => Int.ne_of_lt (hdb.permission_id row hrow)
      simp only [findPermittedDocuments, List.filter_cons, beq_self_eq_true, if_true,
        List.filterMap_cons, Database.updateDocument_documents, Function.update_self,
        Option.map_some, List.cons.injEq]
      refine ⟨rfl, List.filterMap_congr fun row hrow => ?_⟩
      rw [Function.update_of_ne (hold row (List.mem_of_mem_filter hrow))]

/-- The rows of a deleted document are gone. -/
theorem delete_library {documentId : Int}
    (hok : (Request.delete documentId).serve db now user = .ok (reply, next)) (userId : UserId) :
    findPermittedDocuments next userId =
      (findPermittedDocuments db userId).filter fun doc => doc.documentId != documentId := by
  simp only [Request.serve, Except.bind_eq_ok_iff, Except.pure_eq_ok_iff, Prod.mk.injEq,
    Prod.exists] at hok
  obtain ⟨done, written, hdelete, -, rfl⟩ := hok
  unfold DocumentService.deleteDocument at hdelete
  split at hdelete
  next => cases hdelete
  next doc hdoc =>
    split at hdelete
    next => cases hdelete
    next howner =>
      cases hdelete
      simp only [findPermittedDocuments, List.filter_filterMap, List.filterMap_filter]
      refine List.filterMap_congr fun row _ => ?_
      by_cases hid : row.documentId = documentId
      · subst hid
        cases db.documents row.documentId <;> cases row.user.id == userId <;> simp [Option.filter]
      · rw [Function.update_of_ne hid]
        cases db.documents row.documentId <;> cases row.user.id == userId <;>
          simp [Option.filter, hid]

/-- Whoever owns a document can delete it. -/
theorem delete_isOk_iff {documentId : Int} :
    ((Request.delete documentId).serve db now user).isOk = true ↔
      ∃ doc, db.documents documentId = some doc ∧ doc.owner.id = user.id := by
  simp only [Request.serve, DocumentService.deleteDocument]
  cases hdoc : db.documents documentId with
  | none => simp [Except.isOk, Except.toBool, bind, Except.bind]
  | some doc =>
      by_cases howner : doc.owner.id = user.id <;>
        simp [howner, Except.isOk, Except.toBool, bind, Except.bind, pure, Except.pure]

end Transactions

/-! ## Runs -/

namespace LibraryTab

variable {tab next : LibraryTab}

/-- An answer tells what its request has done to the library. -/
theorem afterServe_library (hdb : tab.state.db.WellFormed) (request : ListRequest)
    {docs : List DocumentSummaryDto} (hdocs : docs.Perm tab.library) :
    ((request.answer tab.state tab.user docs).tap tab.library).Perm
      (tab.afterServe request docs).library := by
  cases request with
  | loadLibrary => exact hdocs
  | createDocument title =>
      simp only [afterServe, ListRequest.serve, ListRequest.transaction, ListRequest.answer,
        library]
      cases hserve : (Request.create (some title) (some "")).serve tab.state.db tab.state.now
          tab.user with
      | error error => exact .refl _
      | ok result =>
          obtain ⟨reply, written⟩ := result
          obtain ⟨dto, rfl, hlibrary⟩ := create_library hdb hserve
          exact hlibrary.symm
  | deleteDocument documentId =>
      simp only [afterServe, ListRequest.serve, ListRequest.transaction, ListRequest.answer,
        library]
      cases hserve : (Request.delete documentId).serve tab.state.db tab.state.now tab.user with
      | error error => exact .refl _
      | ok result => exact .of_eq (delete_library hserve tab.user.id).symm

/-- With the answers that are still to come the list is the library. -/
def Follows (tab : LibraryTab) : Prop :=
  tab.fetched = true → (tab.answers.foldl ListAnswer.tap tab.documents).Perm tab.library

/-- A page that is not there waits for nothing. -/
structure Sound (tab : LibraryTab) : Prop where
  state : Backend.system.Reachable tab.state
  closed : tab.opened = false → tab.fetched = false ∧ tab.requests = []
  follows : tab.Follows

/-- A request is served. -/
theorem Follows.serve (h : tab.Follows) (hdb : tab.state.db.WellFormed)
    (request : ListRequest) {docs : List DocumentSummaryDto} (hdocs : docs.Perm tab.library) :
    (tab.afterServe request docs).Follows := by
  intro hfetched
  refine List.Perm.trans ?_ (afterServe_library hdb request hdocs)
  change ((tab.answers ++ [request.answer tab.state tab.user docs]).foldl ListAnswer.tap
    tab.documents).Perm _
  rw [List.foldl_append, List.foldl_cons, List.foldl_nil]
  cases request with
  | loadLibrary => exact .refl _
  | createDocument | deleteDocument =>
      exact ListAnswer.tap_perm (h (by simpa [afterServe] using hfetched)) _

theorem Sound.serve_state (h : tab.Sound) (request : ListRequest) :
    Backend.system.Reachable (request.serve tab.state tab.user) := by
  rcases request.serve_state tab.state tab.user with hsame | ⟨transaction, hserved⟩
  · rw [hsame]
    exact h.state
  · exact h.state.step trivial hserved

theorem Sound.step (h : tab.Sound) {event : Event} (hguard : tab.InStep event)
    (hstep : tab.step event = some next) : next.Sound := by
  cases event with
  | openPage =>
      obtain ⟨hclosed, hnext⟩ := Option.ite_none_left_eq_some.mp hstep
      cases hnext
      exact ⟨h.state, nofun, h.follows⟩
  | createDocument | deleteDocument =>
      obtain ⟨hopened, hnext⟩ := Option.ite_none_right_eq_some.mp hstep
      cases hnext
      exact ⟨h.state, fun hclosed => absurd (hopened.symm.trans hclosed) nofun, h.follows⟩
  | serve index docs =>
      obtain ⟨hdocs, hserved⟩ := Option.ite_none_right_eq_some.mp hstep
      obtain ⟨request, hrequest, rfl⟩ := Option.map_eq_some_iff.mp hserved
      have hdb := (reachable_wellFormed h.state).1
      refine ⟨h.serve_state request, fun hclosed => ?_, h.follows.serve hdb request hdocs⟩
      rw [(h.closed hclosed).2] at hrequest
      cases hrequest
  | serveAborted index =>
      obtain ⟨request, hrequest, rfl⟩ := Option.map_eq_some_iff.mp hstep
      refine ⟨h.serve_state request, h.closed, fun hfetched => ?_⟩
      exact (h.follows hfetched).trans (hguard hfetched request hrequest).symm
  | deliver index =>
      obtain ⟨answer, hanswer, rfl⟩ := Option.map_eq_some_iff.mp hstep
      cases (hguard : index = 0)
      refine ⟨h.state, h.closed, fun hfetched => List.Perm.trans ?_ (h.follows hfetched)⟩
      change ((tab.answers.eraseIdx 0).foldl ListAnswer.tap (answer.tap tab.documents)).Perm _
      cases hanswers : tab.answers with
      | nil =>
          rw [hanswers] at hanswer
          cases hanswer
      | cons first rest =>
          rw [hanswers] at hanswer
          cases hanswer
          exact .refl _
  | loseRequest index =>
      cases hstep
      refine ⟨h.state, fun hclosed => ⟨(h.closed hclosed).1, ?_⟩, h.follows⟩
      change tab.requests.eraseIdx index = []
      rw [(h.closed hclosed).2, List.eraseIdx_nil]
  | loseAnswer index => exact absurd hguard id
  | destroyPage =>
      obtain ⟨-, hnext⟩ := Option.ite_none_right_eq_some.mp hstep
      cases hnext
      exact ⟨h.state, fun _ => ⟨rfl, rfl⟩, nofun⟩
  | backend event =>
      obtain ⟨state, hserved, rfl⟩ := Option.map_eq_some_iff.mp hstep
      refine ⟨h.state.step trivial hserved, h.closed, fun hfetched => ?_⟩
      exact (h.follows hfetched).trans (hguard hfetched state hserved).symm

theorem reachable_sound (hreach : system.ReachableUnder InStep tab) : tab.Sound := by
  refine hreach.invariant system Sound ?_ fun _ _ _ _ h hguard hstep => h.step hguard hstep
  rintro tab ⟨hinit, -, -, hrequests, -, -, hfetched⟩
  refine ⟨.init hinit, fun _ => ⟨hfetched, hrequests⟩, fun h => ?_⟩
  rw [hfetched] at h
  cases h

end LibraryTab

/-- When the answers arrive in order and only the page changes the user's library: once the
page's first request has been served, its list and the answers that are still to come make up the
library, in whatever order; and when there are none, the documents that can be deleted from the
list are those that the backend lets the user delete. -/
theorem listed_as_stored {tab : LibraryTab}
    (hreach : LibraryTab.system.ReachableUnder LibraryTab.InStep tab)
    (hfetched : tab.fetched = true) :
    (tab.answers.foldl ListAnswer.tap tab.documents).Perm tab.library ∧
      (tab.answers = [] → ∀ documentId,
        (∃ doc ∈ tab.ownedDocuments, doc.documentId = documentId) ↔
          ((Request.delete documentId).serve tab.state.db tab.state.now tab.user).isOk =
            true) := by
  have hsound := LibraryTab.reachable_sound hreach
  have hfollows := hsound.follows hfetched
  refine ⟨hfollows, fun hnone documentId => ?_⟩
  rw [hnone, List.foldl_nil] at hfollows
  have hdb := reachable_consistent hsound.state
  have hagrees := hdb.libraryAgrees tab.user
  rw [delete_isOk_iff, LibraryTab.ownedDocuments]
  constructor
  · rintro ⟨entry, hentry, rfl⟩
    obtain ⟨hlisted, hlevel⟩ := List.mem_filter.mp hentry
    have hmem := hfollows.mem_iff.mp hlisted
    have howner := (hagrees.owner entry hmem).mp (by simpa using hlevel)
    obtain ⟨row, hrow, huser, doc, hdoc, rfl⟩ := mem_findPermittedDocuments.mp hmem
    exact ⟨doc, hdoc, howner⟩
  · rintro ⟨doc, hdoc, howner⟩
    obtain ⟨entry, hentry, rfl⟩ := hagrees.owned documentId doc hdoc howner
    refine ⟨entry, List.mem_filter.mpr ⟨hfollows.mem_iff.mpr hentry, ?_⟩, rfl⟩
    obtain ⟨row, hrow, huser, found, hfound, rfl⟩ := mem_findPermittedDocuments.mp hentry
    cases hfound.symm.trans hdoc
    exact beq_iff_eq.mpr ((hagrees.owner _ hentry).mpr howner)

/-- The card of a document of the owner that has not been written since. -/
def ownersCard (documentId : Int) (title : String) : DocumentSummaryDto :=
  ⟨documentId, title, 1, "owner", 0, 0, .owner⟩

/-- The page goes before its second document is created, the next page is answered with the
older document first, and it deletes that one. -/
def ownersList : List LibraryTab.Event :=
  [.openPage, .serve 0 [], .deliver 0, .createDocument "notes", .serve 0 [], .deliver 0,
    .createDocument "plans", .destroyPage, .openPage, .serveAborted 0,
    .serve 0 [ownersCard 1 "notes", ownersCard 2 "plans"], .deliver 0, .deleteDocument 1,
    .serve 0 [ownersCard 2 "plans", ownersCard 1 "notes"]]

theorem listed_as_stored_owner : ∃ tab : LibraryTab,
    LibraryTab.system.ReachableUnder LibraryTab.InStep tab ∧
      tab.documents = [ownersCard 1 "notes", ownersCard 2 "plans"] ∧
      tab.library = [ownersCard 2 "plans"] := by
  obtain ⟨tab, hreach, hcheck⟩ := LibraryTab.system.exists_reachable_of_exec
    (.init ⟨⟨rfl, by decide, by decide⟩, rfl, rfl, rfl, rfl, rfl, rfl⟩ :
      LibraryTab.system.ReachableUnder LibraryTab.InStep
        ⟨⟨Database.empty, 0⟩, ⟨1, "owner"⟩, [], false, [], [], [], false⟩)
    ownersList (fun tab => decide (tab.fetched = true ∧
      tab.documents = [ownersCard 1 "notes", ownersCard 2 "plans"] ∧
      tab.answers = [.deleted 1])) (by decide +kernel)
  obtain ⟨hfetched, hdocuments, hanswers⟩ := of_decide_eq_true hcheck
  have hlibrary := (listed_as_stored hreach hfetched).1
  rw [hdocuments, hanswers] at hlibrary
  exact ⟨tab, hreach, hdocuments, (List.singleton_perm.mp hlibrary).symm⟩

end CollabEditor.Platform
