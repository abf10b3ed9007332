import CollabEditor.Backend.AccessRequests

/-! # The library and the request lists

What the list queries return is read off the same rows the services check. A user sees in a
list what the other endpoints let that user do.
-/

namespace CollabEditor.Backend

open Foundation Database

/-- `DocumentSummaryDto`. -/
structure DocumentSummaryDto where
  documentId : DocumentId
  title : String
  ownerId : UserId
  ownerUsername : String
  lastModified : Instant
  version : Int32
  myPermission : PermissionLevel
deriving DecidableEq, Repr

/-- `AccessRequestDto`. -/
structure AccessRequestDto where
  id : Nat
  documentTitle : String
  ownerUsername : String
  requesterUsername : String
deriving DecidableEq, Repr

/-- The row a query selects for a permission and its document. -/
def DocumentPermission.toSummary (row : DocumentPermission) (doc : Document) :
    DocumentSummaryDto where
  documentId := row.documentId
  title := doc.title
  ownerId := doc.owner.id
  ownerUsername := doc.owner.username
  lastModified := doc.lastModified
  version := doc.version
  myPermission := row.level

@[simp] theorem DocumentPermission.toSummary_documentId (row : DocumentPermission)
    (doc : Document) : (row.toSummary doc).documentId = row.documentId := rfl

@[simp] theorem DocumentPermission.toSummary_myPermission (row : DocumentPermission)
    (doc : Document) : (row.toSummary doc).myPermission = row.level := rfl

/-- The row a query selects for a request and its document. -/
def AccessRequest.toDto (request : AccessRequest) (doc : Document) : AccessRequestDto where
  id := request.id
  documentTitle := doc.title
  ownerUsername := doc.owner.username
  requesterUsername := request.requester.username

/-- The content is what the library leaves out. -/
def DocumentService.Summary.withoutContent (summary : DocumentService.Summary) :
    DocumentSummaryDto where
  documentId := summary.documentId
  title := summary.title
  ownerId := summary.ownerId
  ownerUsername := summary.ownerUsername
  lastModified := summary.lastModified
  version := summary.version
  myPermission := summary.myPermission

section Queries

variable (db : Database)

/-- `findPermittedDocuments`: permissions joined with their documents. -/
def findPermittedDocuments (userId : UserId) : List DocumentSummaryDto :=
  (db.documentPermissions.filter fun row => row.user.id == userId).filterMap fun row =>
    (db.documents row.documentId).map row.toSummary

/-- `findRequestsForDocumentOwner`. -/
def findRequestsForDocumentOwner (owner : User) : List AccessRequestDto :=
  db.accessRequests.filterMap fun request =>
    ((db.documents request.documentId).filter fun doc => doc.owner.id == owner.id).map
      request.toDto

/-- `findRequestsByRequesterWithDetails`. -/
def findRequestsByRequesterWithDetails (requester : User) : List AccessRequestDto :=
  (db.accessRequests.filter fun request => request.requester.id == requester.id).filterMap
    fun request => (db.documents request.documentId).map request.toDto

/-- `listAccessibleDocumentsWithPermissionLevel`, the body of `GET /api/docs`. -/
def DocumentService.listAccessibleDocumentsWithPermissionLevel (currentUser : User) :
    List DocumentSummaryDto :=
  findPermittedDocuments db currentUser.id

/-- `listPendingRequestsForDocumentOwner`, the body of `GET /requests/for-my-docs`. -/
def SharingService.listPendingRequestsForDocumentOwner (owner : User) : List AccessRequestDto :=
  findRequestsForDocumentOwner db owner

/-- `listPendingRequestsByRequesterWithDetails`, the body of `GET /requests/made-by-me`. -/
def SharingService.listPendingRequestsByRequesterWithDetails (requester : User) :
    List AccessRequestDto :=
  findRequestsByRequesterWithDetails db requester

variable {db}

theorem mem_findPermittedDocuments {userId : UserId} {entry : DocumentSummaryDto} :
    entry ∈ findPermittedDocuments db userId ↔
      ∃ row ∈ db.documentPermissions, row.user.id = userId ∧
        ∃ doc, db.documents row.documentId = some doc ∧ row.toSummary doc = entry := by
  simp [findPermittedDocuments, and_assoc]

theorem mem_findRequestsForDocumentOwner {owner : User} {entry : AccessRequestDto} :
    entry ∈ findRequestsForDocumentOwner db owner ↔
      ∃ request ∈ db.accessRequests, ∃ doc, db.documents request.documentId = some doc ∧
        doc.owner.id = owner.id ∧ request.toDto doc = entry := by
  simp [findRequestsForDocumentOwner, and_assoc]

theorem mem_findRequestsByRequesterWithDetails {requester : User} {entry : AccessRequestDto} :
    entry ∈ findRequestsByRequesterWithDetails db requester ↔
      ∃ request ∈ db.accessRequests, request.requester.id = requester.id ∧
        ∃ doc, db.documents request.documentId = some doc ∧ request.toDto doc = entry := by
  simp [findRequestsByRequesterWithDetails, and_assoc]

end Queries

/-! ## The library -/

/-- The library of a user and the other endpoints say the same about that user's documents. -/
structure Database.LibraryAgrees (db : Database) (user : User) : Prop where
  /-- One card for each document. -/
  nodup : ((DocumentService.listAccessibleDocumentsWithPermissionLevel db user).map
    DocumentSummaryDto.documentId).Nodup
  /-- A card is what `GET /api/docs/{id}` answers, without the content. -/
  read : ∀ id entry, (entry ∈ DocumentService.listAccessibleDocumentsWithPermissionLevel db user ∧
      entry.documentId = id) ↔
    ∃ summary, DocumentService.getDocumentSummaryWithContent db id user.id = some summary ∧
      summary.withoutContent = entry
  /-- The level on it is that of a ticket. -/
  ticket : ∀ entry ∈ DocumentService.listAccessibleDocumentsWithPermissionLevel db user,
    WebSocketTicketService.resolvePermission db entry.documentId user.id = some entry.myPermission
  /-- It is `OWNER` on the own documents, all of which are there. -/
  owner : ∀ entry ∈ DocumentService.listAccessibleDocumentsWithPermissionLevel db user,
    entry.myPermission = .owner ↔ entry.ownerId = user.id
  owned : ∀ id doc, db.documents id = some doc → doc.owner.id = user.id →
    ∃ entry ∈ DocumentService.listAccessibleDocumentsWithPermissionLevel db user,
      entry.documentId = id
  /-- It is not `VIEWER` exactly where a save passes the check of the rights. -/
  edit : ∀ id doc, db.documents id = some doc →
    (DocumentService.canUserEdit db id doc user = true ↔
      ∃ entry ∈ DocumentService.listAccessibleDocumentsWithPermissionLevel db user,
        entry.documentId = id ∧ entry.myPermission ≠ .viewer)

namespace Database.Consistent

variable {db : Database}

theorem library_nodup (hdb : db.Consistent) (userId : UserId) :
    ((findPermittedDocuments db userId).map DocumentSummaryDto.documentId).Nodup := by
  have hdocuments : (findPermittedDocuments db userId).map DocumentSummaryDto.documentId =
      ((db.documentPermissions.filter fun row => row.user.id == userId).filter fun row =>
        (db.documents row.documentId).isSome).map DocumentPermission.documentId := by
    unfold findPermittedDocuments
    generalize db.documentPermissions.filter _ = rows
    induction rows with
    | nil => rfl
    | cons row rest ih =>
        cases hdoc : db.documents row.documentId with
        | none => simp [hdoc, ih]
        | some doc => simp [hdoc, ih, DocumentPermission.toSummary]
  rw [hdocuments, List.Nodup, List.pairwise_map, List.filter_filter]
  refine (List.Pairwise.filter _ hdb.unique).imp_of_mem fun hfirst hsecond hpair hsame => ?_
  simp only [List.mem_filter, Bool.and_eq_true, beq_iff_eq] at hfirst hsecond
  exact hpair ⟨hsame, hfirst.2.2.trans hsecond.2.2.symm⟩

/-- The permission row behind a card. -/
theorem mem_library_iff (hdb : db.Consistent) {userId : UserId} {entry : DocumentSummaryDto} :
    entry ∈ findPermittedDocuments db userId ↔
      ∃ row doc, db.findPermission entry.documentId userId = some row ∧
        db.documents entry.documentId = some doc ∧ row.toSummary doc = entry := by
  rw [mem_findPermittedDocuments]
  constructor
  · rintro ⟨row, hrow, huser, doc, hdoc, rfl⟩
    exact ⟨row, doc, hdb.findPermission_eq_some_iff.mpr ⟨hrow, rfl, huser⟩, hdoc, rfl⟩
  · rintro ⟨row, doc, hrow, hdoc, hentry⟩
    obtain ⟨hmem, hdocument, huser⟩ := hdb.findPermission_eq_some_iff.mp hrow
    exact ⟨row, hmem, huser, doc, hdocument.symm ▸ hdoc, hentry⟩

theorem libraryAgrees (hdb : db.Consistent) (user : User) : db.LibraryAgrees user where
  nodup := hdb.library_nodup user.id
  read id entry := by
    rw [DocumentService.listAccessibleDocumentsWithPermissionLevel, hdb.mem_library_iff]
    constructor
    · rintro ⟨⟨row, doc, hrow, hdoc, rfl⟩, rfl⟩
      rw [DocumentPermission.toSummary_documentId] at hrow hdoc
      refine ⟨⟨row.documentId, doc.title, doc.content, doc.owner.id, doc.owner.username,
        doc.lastModified, doc.version, row.level⟩, ?_, rfl⟩
      simp [DocumentService.getDocumentSummaryWithContent, hrow, hdoc]
    · rintro ⟨summary, hread, rfl⟩
      unfold DocumentService.getDocumentSummaryWithContent at hread
      split at hread
      next row doc hrow hdoc =>
        cases hread
        have hdocument := (hdb.findPermission_eq_some_iff.mp hrow).2.1
        subst hdocument
        exact ⟨⟨row, doc, hrow, hdoc, rfl⟩, rfl⟩
      next => cases hread
  ticket entry hentry := by
    obtain ⟨row, doc, hrow, -, rfl⟩ := hdb.mem_library_iff.mp hentry
    rw [WebSocketTicketService.resolvePermission, hrow]
    rfl
  owner entry hentry := by
    obtain ⟨row, doc, hrow, hdoc, rfl⟩ := hdb.mem_library_iff.mp hentry
    obtain ⟨hmem, -, huser⟩ := hdb.findPermission_eq_some_iff.mp hrow
    constructor
    · intro hlevel
      obtain ⟨found, hfound, howner⟩ := hdb.owner row hmem hlevel
      cases hdoc.symm.trans hfound
      exact howner.trans huser
    · intro howner
      obtain ⟨found, hfound, hdocument, hfoundUser, hlevel⟩ := hdb.owned _ doc hdoc
      rw [← hdb.row_eq hfound hmem hdocument (hfoundUser.trans (howner.trans huser.symm))]
      exact hlevel
  owned id doc hdoc howner := by
    obtain ⟨row, hrow, hdocument, huser, -⟩ := hdb.owned id doc hdoc
    subst hdocument
    exact ⟨_, mem_findPermittedDocuments.mpr ⟨row, hrow, huser.trans howner, doc, hdoc, rfl⟩, rfl⟩
  edit id doc hdoc := by
    rw [hdb.canUserEdit_iff hdoc]
    constructor
    · rintro ⟨level, hlevel, hcan⟩
      obtain ⟨row, hrow, rfl⟩ := Option.map_eq_some_iff.mp hlevel
      have hdocument := (hdb.findPermission_eq_some_iff.mp hrow).2.1
      subst hdocument
      refine ⟨row.toSummary doc, hdb.mem_library_iff.mpr ⟨row, doc, hrow, hdoc, rfl⟩, rfl, ?_⟩
      rcases hcan with hcan | hcan <;> simp [hcan]
    · rintro ⟨entry, hentry, rfl, hlevel⟩
      obtain ⟨row, found, hrow, -, rfl⟩ := hdb.mem_library_iff.mp hentry
      refine ⟨row.level, by rw [WebSocketTicketService.resolvePermission, hrow]; rfl, ?_⟩
      rw [DocumentPermission.toSummary_myPermission] at hlevel
      cases hcase : row.level <;> simp_all

end Database.Consistent

/-- In every reachable state a library agrees with the endpoints. -/
theorem library_agrees {state : State} (hreach : system.Reachable state) (user : User) :
    state.db.LibraryAgrees user :=
  (reachable_consistent hreach).libraryAgrees user

theorem library_agrees_guest : ∃ state, system.Reachable state ∧
    state.db.LibraryAgrees ⟨2, "guest"⟩ ∧
    decide (DocumentService.listAccessibleDocumentsWithPermissionLevel state.db ⟨2, "guest"⟩ =
      [⟨1, "notes", 1, "owner", 0, 0, .viewer⟩]) = true := by
  obtain ⟨state, hreach, hcheck⟩ := system.exists_reachable_of_exec
    (.init ⟨rfl, by decide, by decide⟩ : system.Reachable ⟨Database.empty, 0⟩)
    [.user ⟨1, "owner"⟩ (.create (some "notes") none),
      .user ⟨1, "owner"⟩ (.create (some "drafts") none),
      .user ⟨1, "owner"⟩ (.createInvite 1 true none "invite"),
      .user ⟨2, "guest"⟩ (.useInvite "invite")]
    (fun state => decide (DocumentService.listAccessibleDocumentsWithPermissionLevel state.db
      ⟨2, "guest"⟩ = [⟨1, "notes", 1, "owner", 0, 0, .viewer⟩])) (by decide +kernel)
  exact ⟨state, hreach, library_agrees hreach _, hcheck⟩

/-! ## The request lists -/

/-- The card a permission row adds to the library of its user. -/
def cards (db : Database) (row : DocumentPermission) : List DocumentSummaryDto :=
  ((db.documents row.documentId).map row.toSummary).toList

/-- The request lists show what can be decided, and a decision changes what it says. -/
structure Database.RequestListsAgree (db : Database) (now : Instant) : Prop where
  /-- A pending request is in the list of the owner and in that of the requester. -/
  listed : ∀ request ∈ db.accessRequests, ∃ doc, db.documents request.documentId = some doc ∧
    request.toDto doc ∈ SharingService.listPendingRequestsForDocumentOwner db doc.owner ∧
    request.toDto doc ∈
      SharingService.listPendingRequestsByRequesterWithDetails db request.requester
  nodup : ∀ user, ((SharingService.listPendingRequestsForDocumentOwner db user).map
    AccessRequestDto.id).Nodup
  /-- A user can reject exactly what is in the list of that user. -/
  reject : ∀ user requestId level,
    (∃ next, (Request.processRequest requestId false level).serve db now user =
      .ok (.status "ok", next)) ↔
    ∃ entry ∈ SharingService.listPendingRequestsForDocumentOwner db user, entry.id = requestId
  /-- And approve it as long as the requester does not have the document. -/
  approve : ∀ user requestId level,
    (∃ next, (Request.processRequest requestId true level).serve db now user =
      .ok (.status "ok", next)) ↔
    ∃ request ∈ db.accessRequests, request.id = requestId ∧
      (∃ entry ∈ SharingService.listPendingRequestsForDocumentOwner db user,
        entry.id = requestId) ∧
      ∀ card ∈ DocumentService.listAccessibleDocumentsWithPermissionLevel db request.requester,
        card.documentId ≠ request.documentId
  /-- A decided request is gone from all lists, and nothing else is. An approval adds one card to
  the library of the requester. -/
  decided : ∀ user requestId approve level reply next,
    (Request.processRequest requestId approve level).serve db now user = .ok (reply, next) →
    (∀ other, SharingService.listPendingRequestsForDocumentOwner next other =
      (SharingService.listPendingRequestsForDocumentOwner db other).filter (·.id != requestId)) ∧
    (∀ other, SharingService.listPendingRequestsByRequesterWithDetails next other =
      (SharingService.listPendingRequestsByRequesterWithDetails db other).filter
        (·.id != requestId)) ∧
    ∃ request ∈ db.accessRequests, request.id = requestId ∧ ∀ other,
      (DocumentService.listAccessibleDocumentsWithPermissionLevel next other).Perm
        ((if approve ∧ other.id = request.requester.id then
          cards db ⟨request.documentId, request.requester,
            SharingService.requestedLevel level, now⟩ else []) ++
        DocumentService.listAccessibleDocumentsWithPermissionLevel db other)

section Lists

variable {db next : Database} {now : Instant}

/-- Deleting a request takes it out of both lists. -/
theorem requestLists_filter {requestId : Nat} (hdocuments : next.documents = db.documents)
    (hrequests : next.accessRequests =
      db.accessRequests.filter fun row => row.id != requestId) (other : User) :
    findRequestsForDocumentOwner next other =
      (findRequestsForDocumentOwner db other).filter (·.id != requestId) ∧
    findRequestsByRequesterWithDetails next other =
      (findRequestsByRequesterWithDetails db other).filter (·.id != requestId) := by
  unfold findRequestsForDocumentOwner findRequestsByRequesterWithDetails
  rw [hdocuments, hrequests]
  constructor
  · refine Foundation.List.filterMap_filter_of_agree (fun request entry hentry => ?_) _
    obtain ⟨doc, -, rfl⟩ := Option.map_eq_some_iff.mp hentry
    rfl
  · rw [List.filter_comm]
    refine Foundation.List.filterMap_filter_of_agree (fun request entry hentry => ?_) _
    obtain ⟨doc, -, rfl⟩ := Option.map_eq_some_iff.mp hentry
    rfl

/-- A permission row adds its card to the library of its user. -/
theorem library_cons {row : DocumentPermission} (hdocuments : next.documents = db.documents)
    (hpermissions : next.documentPermissions = row :: db.documentPermissions) (userId : UserId) :
    findPermittedDocuments next userId =
      (if userId = row.user.id then cards db row else []) ++ findPermittedDocuments db userId := by
  unfold findPermittedDocuments cards
  rw [hdocuments, hpermissions]
  by_cases huser : row.user.id = userId
  · subst huser
    cases hdoc : db.documents row.documentId <;> simp [hdoc]
  · simp [huser, Ne.symm huser]

theorem library_eq (hdocuments : next.documents = db.documents)
    (hpermissions : next.documentPermissions = db.documentPermissions) (userId : UserId) :
    findPermittedDocuments next userId = findPermittedDocuments db userId := by
  unfold findPermittedDocuments
  rw [hdocuments, hpermissions]

/-- The request behind an entry of the owner's list. -/
theorem mem_ownerList_iff {user : User} {requestId : Nat} :
    (∃ entry ∈ findRequestsForDocumentOwner db user, entry.id = requestId) ↔
      ∃ request ∈ db.accessRequests, request.id = requestId ∧
        ∃ doc, db.documents request.documentId = some doc ∧ doc.owner.id = user.id := by
  constructor
  · rintro ⟨entry, hentry, rfl⟩
    obtain ⟨request, hrequest, doc, hdoc, howner, rfl⟩ :=
      mem_findRequestsForDocumentOwner.mp hentry
    exact ⟨request, hrequest, rfl, doc, hdoc, howner⟩
  · rintro ⟨request, hrequest, rfl, doc, hdoc, howner⟩
    exact ⟨_, mem_findRequestsForDocumentOwner.mpr ⟨request, hrequest, doc, hdoc, howner, rfl⟩,
      rfl⟩

/-- A decision that is not refused is one of the owner on a pending request. -/
theorem processRequest_inv {user : User} {requestId : Nat} {approve : Bool}
    {level : Option String} {reply : Reply}
    (hserve : (Request.processRequest requestId approve level).serve db now user =
      .ok (reply, next)) :
    ∃ request ∈ db.accessRequests, request.id = requestId ∧
      ∃ doc, db.documents request.documentId = some doc ∧ doc.owner.id = user.id := by
  simp only [Request.serve, Except.bind_eq_ok_iff, Prod.exists] at hserve
  obtain ⟨_, written, hprocess, -⟩ := hserve
  unfold SharingService.processRequest at hprocess
  split at hprocess
  next => cases hprocess
  next request hfind =>
    split at hprocess
    next => cases hprocess
    next doc hdoc =>
      split at hprocess
      next => cases hprocess
      next howner =>
        have hid : request.id = requestId := by simpa using List.find?_some hfind
        exact ⟨request, List.mem_of_find?_eq_some hfind, hid, doc, hdoc, not_not.mp howner⟩

end Lists

namespace Database.Consistent

variable {db : Database}

theorem ownerList_nodup (hdb : db.Consistent) (user : User) :
    ((findRequestsForDocumentOwner db user).map AccessRequestDto.id).Nodup := by
  rw [List.Nodup, List.pairwise_map]
  refine List.Pairwise.filterMap _ (fun first second hne entry hentry other hother => ?_)
    hdb.request_id
  obtain ⟨doc, -, rfl⟩ := Option.map_eq_some_iff.mp hentry
  obtain ⟨otherDoc, -, rfl⟩ := Option.map_eq_some_iff.mp hother
  exact hne

/-- What a decision writes. -/
theorem processRequest_writes (hdb : db.Consistent) {now : Instant} {user : User}
    {requestId : Nat} {approve : Bool} {level : Option String} {reply : Reply} {next : Database}
    (hserve : (Request.processRequest requestId approve level).serve db now user =
      .ok (reply, next)) :
    ∃ request ∈ db.accessRequests, request.id = requestId ∧ next.documents = db.documents ∧
      next.accessRequests = (db.accessRequests.filter fun row => row.id != requestId) ∧
      next.documentPermissions =
        if approve = true then ⟨request.documentId, request.requester,
          SharingService.requestedLevel level, now⟩ :: db.documentPermissions
        else db.documentPermissions := by
  obtain ⟨request, hrequest, rfl, doc, hdoc, howner⟩ := processRequest_inv hserve
  rw [hdb.processRequest_eq hrequest hdoc howner.symm] at hserve
  refine ⟨request, hrequest, rfl, ?_⟩
  cases approve with
  | false =>
      cases hserve
      exact ⟨rfl, rfl, rfl⟩
  | true =>
      rw [if_pos rfl] at hserve
      cases hgranted : db.insertPermission ⟨request.documentId, request.requester,
          SharingService.requestedLevel level, now⟩ with
      | error error =>
          rw [hgranted] at hserve
          cases hserve
      | ok granted =>
          rw [hgranted] at hserve
          cases hserve
          obtain ⟨-, -, rfl⟩ := (db.insertPermission_eq_ok_iff _ granted).mp hgranted
          exact ⟨rfl, rfl, rfl⟩

theorem requestListsAgree (hdb : db.Consistent) (now : Instant) : db.RequestListsAgree now where
  listed request hrequest := by
    obtain ⟨doc, hdoc⟩ := Option.isSome_iff_exists.mp (hdb.request_document request hrequest)
    exact ⟨doc, hdoc,
      mem_findRequestsForDocumentOwner.mpr ⟨request, hrequest, doc, hdoc, rfl, rfl⟩,
      mem_findRequestsByRequesterWithDetails.mpr ⟨request, hrequest, rfl, doc, hdoc, rfl⟩⟩
  nodup := hdb.ownerList_nodup
  reject user requestId level := by
    refine Iff.trans ?_ mem_ownerList_iff.symm
    constructor
    · rintro ⟨next, hserve⟩
      exact processRequest_inv hserve
    · rintro ⟨request, hrequest, rfl, doc, hdoc, howner⟩
      exact ⟨_, hdb.processRequest_eq hrequest hdoc howner.symm false level⟩
  approve user requestId level := by
    constructor
    · rintro ⟨next, hserve⟩
      obtain ⟨request, hrequest, rfl, doc, hdoc, howner⟩ := processRequest_inv hserve
      refine ⟨request, hrequest, rfl, mem_ownerList_iff.mpr ⟨request, hrequest, rfl, doc, hdoc,
        howner⟩, fun card hcard hdocument => ?_⟩
      obtain ⟨row, -, hrow, -, -⟩ := hdb.mem_library_iff.mp hcard
      rw [hdb.processRequest_eq hrequest hdoc howner.symm, if_pos rfl] at hserve
      cases hgranted : db.insertPermission ⟨request.documentId, request.requester,
          SharingService.requestedLevel level, now⟩ with
      | error error =>
          rw [hgranted] at hserve
          cases hserve
      | ok granted =>
          have hfresh := ((db.insertPermission_eq_ok_iff _ granted).mp hgranted).2.1
          rw [hdocument] at hrow
          simp [existsPermission, hrow] at hfresh
    · rintro ⟨request, hrequest, rfl, hentry, hfresh⟩
      obtain ⟨other, hother, hid, doc, hdoc, howner⟩ := mem_ownerList_iff.mp hentry
      have hsame : other = request := by
        have hfind := hdb.find_request hother
        rw [hid, hdb.find_request hrequest] at hfind
        exact (Option.some.inj hfind).symm
      subst hsame
      have hnone : db.existsPermission other.documentId other.requester.id = false := by
        by_contra hexists
        rw [Bool.not_eq_false, existsPermission, Option.isSome_iff_exists] at hexists
        obtain ⟨row, hrow⟩ := hexists
        have hdocument := (hdb.findPermission_eq_some_iff.mp hrow).2.1
        refine hfresh (row.toSummary doc) (hdb.mem_library_iff.mpr ⟨row, doc, ?_, ?_, rfl⟩)
          hdocument
        · rw [DocumentPermission.toSummary_documentId, hdocument]
          exact hrow
        · rw [DocumentPermission.toSummary_documentId, hdocument]
          exact hdoc
      rw [hdb.processRequest_eq hrequest hdoc howner.symm, if_pos rfl,
        (db.insertPermission_eq_ok_iff _ _).mpr ⟨by simp [hdoc], hnone, rfl⟩]
      exact ⟨_, rfl⟩
  decided user requestId approve level reply next hserve := by
    obtain ⟨request, hrequest, hid, hdocuments, hrequests, hpermissions⟩ :=
      hdb.processRequest_writes hserve
    refine ⟨fun other => (requestLists_filter hdocuments hrequests other).1,
      fun other => (requestLists_filter hdocuments hrequests other).2, request, hrequest, hid,
      fun other => .of_eq ?_⟩
    unfold DocumentService.listAccessibleDocumentsWithPermissionLevel
    cases approve with
    | false => simp [library_eq hdocuments hpermissions]
    | true => simp [library_cons hdocuments hpermissions]

end Database.Consistent

/-- In every reachable state the request lists agree with the decisions. -/
theorem request_lists_agree {state : State} (hreach : system.Reachable state) (now : Instant) :
    state.db.RequestListsAgree now :=
  (reachable_consistent hreach).requestListsAgree now

theorem request_lists_agree_pending : ∃ state, system.Reachable state ∧
    state.db.RequestListsAgree 0 ∧
    decide (SharingService.listPendingRequestsForDocumentOwner state.db ⟨1, "owner"⟩ =
      [⟨1, "notes", "owner", "guest"⟩]) = true := by
  obtain ⟨state, hreach, hcheck⟩ := system.exists_reachable_of_exec
    (.init ⟨rfl, by decide, by decide⟩ : system.Reachable ⟨Database.empty, 0⟩)
    [.user ⟨1, "owner"⟩ (.create (some "notes") none),
      .user ⟨1, "owner"⟩ (.createInvite 1 false none "invite"),
      .user ⟨2, "guest"⟩ (.useInvite "invite")]
    (fun state => decide (SharingService.listPendingRequestsForDocumentOwner state.db
      ⟨1, "owner"⟩ = [⟨1, "notes", "owner", "guest"⟩])) (by decide +kernel)
  exact ⟨state, hreach, request_lists_agree hreach 0, hcheck⟩

end CollabEditor.Backend
