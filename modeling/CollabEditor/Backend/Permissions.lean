import Mathlib.Data.List.Pairwise
import CollabEditor.Foundation.List
import CollabEditor.Backend.Integrity
import CollabEditor.Backend.WebSocketTicketService

/-! # Permissions, invites and access requests

The owner of a document is stored in its row and as a permission row of level
`OWNER`. The two agree, and nothing refers to a deleted document.
-/

namespace CollabEditor.Backend

open Foundation Database

/-! ## What a request does to the sharing tables -/

/-- The documents that exist and their owners are the same. -/
def SameOwners (db next : Database) : Prop :=
  ∀ id, (next.documents id).map Document.owner = (db.documents id).map Document.owner

/-- The effect of a committed request on permissions, invites and access requests. -/
inductive SharingEffect (db : Database) (now : Instant) (user : User) :
    Request → Database → Prop
  | unchanged {request : Request} {next : Database} (howners : SameOwners db next)
      (hpermissions : next.documentPermissions = db.documentPermissions)
      (hinvites : next.invites = db.invites) (hrequests : next.accessRequests = db.accessRequests)
      (hid : next.nextRequestId = db.nextRequestId) : SharingEffect db now user request next
  | create {title content : Option String} {next : Database} (doc : Document)
      (howner : doc.owner = user)
      (hdocuments : next.documents =
        Function.update db.documents (db.nextDocumentId : DocumentId) (some doc))
      (hpermissions : next.documentPermissions =
        ⟨db.nextDocumentId, user, .owner, now⟩ :: db.documentPermissions)
      (hinvites : next.invites = db.invites) (hrequests : next.accessRequests = db.accessRequests)
      (hid : next.nextRequestId = db.nextRequestId) :
      SharingEffect db now user (.create title content) next
  | delete {id : DocumentId} {next : Database}
      (hdocuments : next.documents = Function.update db.documents id none)
      (hpermissions : next.documentPermissions =
        db.documentPermissions.filter fun row => row.documentId != id)
      (hinvites : next.invites = db.invites.filter fun row => row.documentId != id)
      (hrequests : next.accessRequests =
        db.accessRequests.filter fun row => row.documentId != id)
      (hid : next.nextRequestId = db.nextRequestId) :
      SharingEffect db now user (.delete id) next
  | invite {docId : DocumentId} {autoApprove : Bool} {expiresInSeconds : Option Int}
      {token : String} (invite : Invite) (hdocument : (db.documents invite.documentId).isSome) :
      SharingEffect db now user (.createInvite docId autoApprove expiresInSeconds token)
        { db with invites := invite :: db.invites }
  /-- An approving invite grants `VIEWER`. -/
  | letIn {token : String} (invite : Invite)
      (hinvite : (db.invites.find? fun row => row.token == token) = some invite)
      (hlive : invite.expiresAt.any (· < now) = false) (hauto : invite.autoApprove = true)
      (hdocument : (db.documents invite.documentId).isSome)
      (hfresh : db.existsPermission invite.documentId user.id = false) :
      SharingEffect db now user (.useInvite token)
        { db with documentPermissions :=
            ⟨invite.documentId, user, .viewer, now⟩ :: db.documentPermissions }
  /-- Any other invite leaves a request. -/
  | ask {token : String} (invite : Invite)
      (hinvite : (db.invites.find? fun row => row.token == token) = some invite)
      (hlive : invite.expiresAt.any (· < now) = false) (hauto : invite.autoApprove = false)
      (hdocument : (db.documents invite.documentId).isSome)
      (hfresh : ∀ row ∈ db.accessRequests,
        ¬(row.documentId = invite.documentId ∧ row.requester.id = user.id)) :
      SharingEffect db now user (.useInvite token)
        { db with
          accessRequests :=
            ⟨db.nextRequestId, invite.documentId, user, now⟩ :: db.accessRequests
          nextRequestId := db.nextRequestId + 1 }
  | approve {requestId : Nat} {level : Option String} (request : AccessRequest)
      (hrequest : (db.accessRequests.find? fun row => row.id == requestId) = some request)
      (hdocument : (db.documents request.documentId).isSome)
      (hfresh : db.existsPermission request.documentId request.requester.id = false) :
      SharingEffect db now user (.processRequest requestId true level)
        { db with
          documentPermissions := ⟨request.documentId, request.requester,
            SharingService.requestedLevel level, now⟩ :: db.documentPermissions
          accessRequests := db.accessRequests.filter fun row => row.id != requestId }
  | reject {requestId : Nat} {level : Option String} :
      SharingEffect db now user (.processRequest requestId false level)
        { db with accessRequests := db.accessRequests.filter fun row => row.id != requestId }

/-- A rewritten document has the same owner. -/
theorem SameOwners.updateDocument {db : Database} {id : DocumentId} {doc written : Document}
    (hdoc : db.documents id = some doc) (howner : written.owner = doc.owner) :
    SameOwners db (db.updateDocument id written) := by
  intro other
  by_cases heq : other = id
  · subst heq
    simp [hdoc, howner]
  · simp [heq]

theorem LockEffect.sharing {db next : Database} {now : Instant} {user actor : User}
    {document : DocumentId} {request : Request} (heffect : LockEffect db next now document actor) :
    SharingEffect db now user request next := by
  obtain ⟨row, -, rfl⟩ := heffect
  exact .unchanged (fun _ => rfl) rfl rfl rfl rfl

namespace SharingService

variable {db next : Database} {now : Instant} {user : User}

theorem findByDocumentAndRequester_none {docId : DocumentId}
    (hnone : findByDocumentAndRequester db docId user = .ok none) :
    ∀ row ∈ db.accessRequests, ¬(row.documentId = docId ∧ row.requester.id = user.id) := by
  unfold findByDocumentAndRequester at hnone
  split at hnone
  next hempty =>
    intro row hrow hpair
    have hmem := List.filter_eq_nil_iff.mp hempty row hrow
    simp [hpair.1, hpair.2] at hmem
  next => cases hnone
  next => cases hnone

theorem useInvite_sharing {token : String} {result : InviteResult}
    (hok : useInvite db now token user = .ok (result, next)) :
    SharingEffect db now user (.useInvite token) next := by
  cases useInvite_cases hok with
  | unchanged => exact .unchanged (fun _ => rfl) rfl rfl rfl rfl
  | letIn invite hinvite hlive hauto hdocument hfresh =>
      exact .letIn invite hinvite hlive hauto hdocument hfresh
  | ask invite hinvite hlive hauto hdocument hfresh =>
      exact .ask invite hinvite hlive hauto hdocument (findByDocumentAndRequester_none hfresh)

theorem processRequest_sharing {requestId : Nat} {approve : Bool} {level : Option String}
    (hok : processRequest db now requestId user approve (some (requestedLevel level)) =
      .ok ((), next)) :
    SharingEffect db now user (.processRequest requestId approve level) next := by
  cases processRequest_cases hok with
  | reject => exact .reject
  | approve request hrequest hdocument hfresh => exact .approve request hrequest hdocument hfresh

end SharingService

/-- Every committed request has one of the effects. -/
theorem Request.serve_sharing {db next : Database} {now : Instant} {user : User}
    {request : Request} {reply : Reply} (hok : request.serve db now user = .ok (reply, next)) :
    SharingEffect db now user request next := by
  cases request with
  | create title content =>
      simp only [serve, Except.bind_eq_ok_iff, Except.pure_eq_ok_iff, Prod.mk.injEq,
        Prod.exists] at hok
      obtain ⟨id, created, hcreate, doc, -, -, rfl⟩ := hok
      unfold DocumentService.create at hcreate
      cases title with
      | none => simp at hcreate
      | some title =>
          simp only [Option.elim_some, Except.bind_eq_ok_iff, Except.pure_eq_ok_iff,
            Prod.mk.injEq, insertPermission_eq_ok_iff] at hcreate
          obtain ⟨_, -, inserted, ⟨-, -, rfl⟩, rfl, rfl⟩ := hcreate
          exact .create _ rfl rfl rfl rfl rfl rfl
  | read id =>
      simp only [serve, Except.ok.injEq, Prod.mk.injEq] at hok
      obtain ⟨-, rfl⟩ := hok
      exact .unchanged (fun _ => rfl) rfl rfl rfl rfl
  | save id content =>
      simp only [serve, Except.bind_eq_ok_iff, Except.pure_eq_ok_iff, Prod.mk.injEq,
        Prod.exists] at hok
      obtain ⟨saved, written, hsave, -, rfl⟩ := hok
      obtain ⟨doc, lock, hdoc, -, -, -, -, rfl⟩ := DocumentService.saveDocument_ok hsave
      exact .unchanged (.updateDocument hdoc (by simp)) rfl rfl rfl rfl
  | acquireLock id lockType ttlSeconds =>
      simp only [serve, Except.bind_eq_ok_iff, Except.pure_eq_ok_iff, Prod.mk.injEq,
        Prod.exists] at hok
      obtain ⟨doc, -, requestedType, -, lock, written, hacquire, -, rfl⟩ := hok
      exact (LockService.acquireLock_effect hacquire).sharing
  | switchToCollaborative id ttlSeconds =>
      simp only [serve, Except.bind_eq_ok_iff, Except.pure_eq_ok_iff, Prod.mk.injEq,
        Prod.exists] at hok
      obtain ⟨doc, -, lock, written, hswitch, -, rfl⟩ := hok
      exact (LockService.switchExclusiveToCollaborative_effect hswitch).sharing
  | releaseLock id =>
      simp only [serve, Except.bind_eq_ok_iff, Except.pure_eq_ok_iff, Prod.mk.injEq,
        Prod.exists] at hok
      obtain ⟨doc, -, _, written, hrelease, -, rfl⟩ := hok
      exact (LockService.releaseLock_effect hrelease).sharing
  | refreshLock id ttlSeconds =>
      simp only [serve, Except.bind_eq_ok_iff, Except.pure_eq_ok_iff, Prod.mk.injEq,
        Prod.exists] at hok
      obtain ⟨doc, -, lock, written, hrefresh, -, rfl⟩ := hok
      exact (LockService.refreshLock_effect hrefresh).sharing
  | getLock id =>
      simp only [serve, Except.bind_eq_ok_iff, Except.pure_eq_ok_iff, Prod.mk.injEq] at hok
      obtain ⟨doc, -, -, rfl⟩ := hok
      exact (LockEffect.refl db now id user).sharing
  | delete id =>
      simp only [serve, Except.bind_eq_ok_iff, Except.pure_eq_ok_iff, Prod.mk.injEq,
        Prod.exists] at hok
      obtain ⟨_, written, hdelete, -, rfl⟩ := hok
      unfold DocumentService.deleteDocument at hdelete
      cases hdoc : db.documents id with
      | none => simp [hdoc] at hdelete
      | some doc =>
          simp only [hdoc] at hdelete
          split at hdelete
          next => simp at hdelete
          next =>
            simp only [Except.ok.injEq, Prod.mk.injEq, true_and] at hdelete
            subst hdelete
            exact .delete rfl rfl rfl rfl rfl
  | createInvite docId autoApprove expiresInSeconds token =>
      simp only [serve, Except.bind_eq_ok_iff, Except.pure_eq_ok_iff, Prod.mk.injEq,
        Prod.exists] at hok
      obtain ⟨doc, hdoc, expiresAt, -, invite, written, hinvite, -, rfl⟩ := hok
      have hdocument := DocumentService.getById_ok hdoc
      unfold SharingService.createInvite at hinvite
      split at hinvite
      next => simp at hinvite
      next =>
        split at hinvite
        next => simp at hinvite
        next =>
          simp only [Except.ok.injEq, Prod.mk.injEq] at hinvite
          obtain ⟨rfl, rfl⟩ := hinvite
          exact .invite _ hdocument
  | useInvite token =>
      simp only [serve, Except.bind_eq_ok_iff, Except.pure_eq_ok_iff, Prod.mk.injEq,
        Prod.exists] at hok
      obtain ⟨result, written, huse, -, rfl⟩ := hok
      exact SharingService.useInvite_sharing huse
  | processRequest requestId approve level =>
      simp only [serve, Except.bind_eq_ok_iff, Except.pure_eq_ok_iff, Prod.mk.injEq,
        Prod.exists] at hok
      obtain ⟨_, written, hprocess, -, rfl⟩ := hok
      exact SharingService.processRequest_sharing hprocess

/-! ## The invariant -/

/-- The permission rows of a pair. -/
def Database.permissionsOf (db : Database) (documentId : DocumentId) (userId : UserId) :
    List DocumentPermission :=
  db.documentPermissions.filter fun row => row.documentId == documentId && row.user.id == userId

/-- Ownership is stored twice alike, every pair has one row at most, and rows refer
to documents that exist. -/
structure Database.Consistent (db : Database) : Prop where
  owned : ∀ id doc, db.documents id = some doc → ∃ row ∈ db.documentPermissions,
    row.documentId = id ∧ row.user.id = doc.owner.id ∧ row.level = .owner
  owner : ∀ row ∈ db.documentPermissions, row.level = .owner →
    ∃ doc, db.documents row.documentId = some doc ∧ doc.owner.id = row.user.id
  unique : db.documentPermissions.Pairwise fun first second =>
    ¬(first.documentId = second.documentId ∧ first.user.id = second.user.id)
  permission_document : ∀ row ∈ db.documentPermissions, (db.documents row.documentId).isSome
  invite_document : ∀ row ∈ db.invites, (db.documents row.documentId).isSome
  request_document : ∀ row ∈ db.accessRequests, (db.documents row.documentId).isSome
  request_bound : ∀ row ∈ db.accessRequests, row.id < db.nextRequestId
  request_id : db.accessRequests.Pairwise fun first second => first.id ≠ second.id
  request_pair : db.accessRequests.Pairwise fun first second =>
    ¬(first.documentId = second.documentId ∧ first.requester.id = second.requester.id)

theorem SameOwners.isSome {db next : Database} (hsame : SameOwners db next) {id : DocumentId}
    (hdoc : (db.documents id).isSome) : (next.documents id).isSome := by
  have howner := congrArg Option.isSome (hsame id)
  rw [Option.isSome_map, Option.isSome_map] at howner
  rw [howner]
  exact hdoc

/-- A row that is not found is not there. -/
theorem Database.not_existsPermission {db : Database} {documentId : DocumentId} {userId : UserId}
    (hnone : db.existsPermission documentId userId = false) :
    ∀ row ∈ db.documentPermissions, ¬(row.documentId = documentId ∧ row.user.id = userId) := by
  intro row hrow hpair
  rw [existsPermission, findPermission, Option.isSome_eq_false_iff, Option.isNone_iff_eq_none,
    List.find?_eq_none] at hnone
  exact hnone row hrow (by simp [hpair.1, hpair.2])

namespace Database.Consistent

variable {db next : Database} {now : Instant} {user : User}

theorem empty : Database.empty.Consistent := by
  constructor <;> simp [Database.empty]

/-- Two rows of one pair are one row. -/
theorem row_eq (hdb : db.Consistent) {first second : DocumentPermission}
    (hfirst : first ∈ db.documentPermissions) (hsecond : second ∈ db.documentPermissions)
    (hdocument : first.documentId = second.documentId) (huser : first.user.id = second.user.id) :
    first = second := by
  by_contra hne
  have hsymmetric : Std.Symm fun first second : DocumentPermission =>
      ¬(first.documentId = second.documentId ∧ first.user.id = second.user.id) :=
    ⟨fun _ _ hpair hswap => hpair ⟨hswap.1.symm, hswap.2.symm⟩⟩
  exact hdb.unique.forall hfirst hsecond hne ⟨hdocument, huser⟩

theorem findPermission_eq_some_iff (hdb : db.Consistent) {documentId : DocumentId}
    {userId : UserId} {row : DocumentPermission} :
    db.findPermission documentId userId = some row ↔
      row ∈ db.documentPermissions ∧ row.documentId = documentId ∧ row.user.id = userId := by
  constructor
  · intro hfind
    have hmem := List.mem_of_find?_eq_some hfind
    have hpair := List.find?_some hfind
    simp only [Bool.and_eq_true, beq_iff_eq] at hpair
    exact ⟨hmem, hpair⟩
  · rintro ⟨hmem, hdocument, huser⟩
    cases hfind : db.findPermission documentId userId with
    | none =>
        have hnone : db.existsPermission documentId userId = false := by
          simp [existsPermission, hfind]
        exact absurd ⟨hdocument, huser⟩ (db.not_existsPermission hnone row hmem)
    | some found =>
        have hfound := List.mem_of_find?_eq_some hfind
        have hpair := List.find?_some hfind
        simp only [Bool.and_eq_true, beq_iff_eq] at hpair
        rw [hdb.row_eq hfound hmem (hpair.1.trans hdocument.symm) (hpair.2.trans huser.symm)]

/-- Documents keep their owners, and permissions and requests at most disappear. -/
theorem shrink (hdb : db.Consistent) (howners : SameOwners db next)
    (hpermissions : next.documentPermissions = db.documentPermissions)
    (hinvites : next.invites = db.invites)
    (hrequests : next.accessRequests.Sublist db.accessRequests)
    (hid : next.nextRequestId = db.nextRequestId) : next.Consistent where
  owned id doc hdoc := by
    have howner := howners id
    rw [hdoc, Option.map_some, eq_comm, Option.map_eq_some_iff] at howner
    obtain ⟨old, hold, howner⟩ := howner
    rw [hpermissions, ← howner]
    exact hdb.owned id old hold
  owner row hrow hlevel := by
    obtain ⟨doc, hdoc, howner⟩ := hdb.owner row (hpermissions ▸ hrow) hlevel
    have hsame := howners row.documentId
    rw [hdoc, Option.map_some, Option.map_eq_some_iff] at hsame
    obtain ⟨new, hnew, hsame⟩ := hsame
    exact ⟨new, hnew, by rw [hsame, howner]⟩
  unique := hpermissions ▸ hdb.unique
  permission_document row hrow := howners.isSome (hdb.permission_document row (hpermissions ▸ hrow))
  invite_document row hrow := howners.isSome (hdb.invite_document row (hinvites ▸ hrow))
  request_document row hrow := howners.isSome (hdb.request_document row (hrequests.subset hrow))
  request_bound row hrow := hid ▸ hdb.request_bound row (hrequests.subset hrow)
  request_id := hdb.request_id.sublist hrequests
  request_pair := hdb.request_pair.sublist hrequests

/-- A new permission row of a new pair, which makes nobody an owner. -/
theorem grant (hdb : db.Consistent) {row : DocumentPermission}
    (hdocument : (db.documents row.documentId).isSome)
    (hfresh : db.existsPermission row.documentId row.user.id = false) (hlevel : row.level ≠ .owner) :
    { db with documentPermissions := row :: db.documentPermissions }.Consistent where
  owned id doc hdoc := by
    obtain ⟨found, hfound, hfacts⟩ := hdb.owned id doc hdoc
    exact ⟨found, List.mem_cons_of_mem _ hfound, hfacts⟩
  owner found hfound howner := by
    rcases List.mem_cons.mp hfound with rfl | hfound
    · exact absurd howner hlevel
    · exact hdb.owner found hfound howner
  unique := by
    refine List.pairwise_cons.mpr ⟨fun other hother hpair => ?_, hdb.unique⟩
    exact db.not_existsPermission hfresh other hother ⟨hpair.1.symm, hpair.2.symm⟩
  permission_document found hfound := by
    rcases List.mem_cons.mp hfound with rfl | hfound
    · exact hdocument
    · exact hdb.permission_document found hfound
  invite_document := hdb.invite_document
  request_document := hdb.request_document
  request_bound := hdb.request_bound
  request_id := hdb.request_id
  request_pair := hdb.request_pair

/-- The requested level is never `OWNER`. -/
theorem requestedLevel_ne_owner (level : Option String) :
    SharingService.requestedLevel level ≠ .owner := by
  unfold SharingService.requestedLevel
  split
  next => split <;> decide
  next => decide

/-- A new document under an unused id. -/
theorem create (hdb : db.Consistent) {id : DocumentId} {doc : Document}
    (hnew : db.documents id = none)
    (hdocuments : next.documents = Function.update db.documents id (some doc))
    (hpermissions : next.documentPermissions =
      ⟨id, doc.owner, .owner, now⟩ :: db.documentPermissions)
    (hinvites : next.invites = db.invites) (hrequests : next.accessRequests = db.accessRequests)
    (hid : next.nextRequestId = db.nextRequestId) : next.Consistent := by
  have hold : ∀ other, (db.documents other).isSome → next.documents other = db.documents other := by
    rintro other hother
    have hne : other ≠ id := by
      rintro rfl
      simp [hnew] at hother
    rw [hdocuments, Function.update_of_ne hne]
  refine ⟨?_, ?_, ?_, ?_, ?_, ?_, ?_, hrequests ▸ hdb.request_id, hrequests ▸ hdb.request_pair⟩
  · intro other found hfound
    rw [hpermissions]
    by_cases heq : other = id
    · subst heq
      rw [hdocuments, Function.update_self, Option.some.injEq] at hfound
      subst hfound
      exact ⟨_, List.mem_cons_self, rfl, rfl, rfl⟩
    · rw [hdocuments, Function.update_of_ne heq] at hfound
      obtain ⟨row, hrow, hfacts⟩ := hdb.owned other found hfound
      exact ⟨row, List.mem_cons_of_mem _ hrow, hfacts⟩
  · intro row hrow hlevel
    rw [hpermissions, List.mem_cons] at hrow
    rcases hrow with rfl | hrow
    · exact ⟨doc, by rw [hdocuments, Function.update_self], rfl⟩
    · rw [hold _ (hdb.permission_document row hrow)]
      exact hdb.owner row hrow hlevel
  · rw [hpermissions]
    refine List.pairwise_cons.mpr ⟨fun other hother hpair => ?_, hdb.unique⟩
    have hexists := hdb.permission_document other hother
    rw [← hpair.1, hnew] at hexists
    cases hexists
  · intro row hrow
    rw [hpermissions, List.mem_cons] at hrow
    rcases hrow with rfl | hrow
    · simp [hdocuments]
    · rw [hold _ (hdb.permission_document row hrow)]
      exact hdb.permission_document row hrow
  · intro row hrow
    rw [hinvites] at hrow
    rw [hold _ (hdb.invite_document row hrow)]
    exact hdb.invite_document row hrow
  · intro row hrow
    rw [hrequests] at hrow
    rw [hold _ (hdb.request_document row hrow)]
    exact hdb.request_document row hrow
  · rw [hrequests, hid]
    exact hdb.request_bound

/-- A document goes with all rows that refer to it. -/
theorem delete (hdb : db.Consistent) {id : DocumentId}
    (hdocuments : next.documents = Function.update db.documents id none)
    (hpermissions : next.documentPermissions =
      db.documentPermissions.filter fun row => row.documentId != id)
    (hinvites : next.invites = db.invites.filter fun row => row.documentId != id)
    (hrequests : next.accessRequests = db.accessRequests.filter fun row => row.documentId != id)
    (hid : next.nextRequestId = db.nextRequestId) : next.Consistent := by
  have hold : ∀ other, other ≠ id → next.documents other = db.documents other := by
    intro other hne
    rw [hdocuments, Function.update_of_ne hne]
  refine ⟨?_, ?_, hpermissions ▸ hdb.unique.filter _, ?_, ?_, ?_, ?_,
    hrequests ▸ hdb.request_id.filter _, hrequests ▸ hdb.request_pair.filter _⟩
  · intro other found hfound
    have hne : other ≠ id := by
      rintro rfl
      simp [hdocuments] at hfound
    rw [hold other hne] at hfound
    obtain ⟨row, hrow, hdocument, hfacts⟩ := hdb.owned other found hfound
    exact ⟨row, by simp [hpermissions, hrow, hdocument, hne], hdocument, hfacts⟩
  · intro row hrow hlevel
    rw [hpermissions, List.mem_filter, bne_iff_ne] at hrow
    rw [hold _ hrow.2]
    exact hdb.owner row hrow.1 hlevel
  · intro row hrow
    rw [hpermissions, List.mem_filter, bne_iff_ne] at hrow
    rw [hold _ hrow.2]
    exact hdb.permission_document row hrow.1
  · intro row hrow
    rw [hinvites, List.mem_filter, bne_iff_ne] at hrow
    rw [hold _ hrow.2]
    exact hdb.invite_document row hrow.1
  · intro row hrow
    rw [hrequests, List.mem_filter, bne_iff_ne] at hrow
    rw [hold _ hrow.2]
    exact hdb.request_document row hrow.1
  · intro row hrow
    rw [hrequests] at hrow
    exact hid ▸ hdb.request_bound row (List.mem_filter.mp hrow).1

/-- A new request of a new pair. -/
theorem ask (hdb : db.Consistent) {documentId : DocumentId}
    (hdocument : (db.documents documentId).isSome)
    (hfresh : ∀ row ∈ db.accessRequests,
      ¬(row.documentId = documentId ∧ row.requester.id = user.id)) :
    { db with
      accessRequests := ⟨db.nextRequestId, documentId, user, now⟩ :: db.accessRequests
      nextRequestId := db.nextRequestId + 1 }.Consistent := by
  refine ⟨hdb.owned, hdb.owner, hdb.unique, hdb.permission_document, hdb.invite_document,
    ?_, ?_, ?_, ?_⟩
  · intro row hrow
    rcases List.mem_cons.mp hrow with rfl | hrow
    · exact hdocument
    · exact hdb.request_document row hrow
  · intro row hrow
    rcases List.mem_cons.mp hrow with rfl | hrow
    · exact Nat.lt_succ_self _
    · exact Nat.lt_succ_of_lt (hdb.request_bound row hrow)
  · refine List.pairwise_cons.mpr ⟨fun other hother => ?_, hdb.request_id⟩
    exact Nat.ne_of_gt (hdb.request_bound other hother)
  · refine List.pairwise_cons.mpr ⟨fun other hother hpair => ?_, hdb.request_pair⟩
    exact hfresh other hother ⟨hpair.1.symm, hpair.2.symm⟩

theorem request (hdb : db.Consistent) (hformed : db.WellFormed) {request : Request}
    (heffect : SharingEffect db now user request next) : next.Consistent := by
  cases heffect with
  | unchanged howners hpermissions hinvites hrequests hid =>
      exact hdb.shrink howners hpermissions hinvites (hrequests ▸ List.Sublist.refl _) hid
  | create doc howner hdocuments hpermissions hinvites hrequests hid =>
      subst howner
      refine hdb.create ?_ hdocuments hpermissions hinvites hrequests hid
      rw [← Option.not_isSome_iff_eq_none]
      intro hsome
      have hbound := hformed.document_id _ hsome
      lia
  | delete hdocuments hpermissions hinvites hrequests hid =>
      exact hdb.delete hdocuments hpermissions hinvites hrequests hid
  | invite invite hdocument =>
      refine ⟨hdb.owned, hdb.owner, hdb.unique, hdb.permission_document, ?_, hdb.request_document,
        hdb.request_bound, hdb.request_id, hdb.request_pair⟩
      intro row hrow
      rcases List.mem_cons.mp hrow with rfl | hrow
      · exact hdocument
      · exact hdb.invite_document row hrow
  | letIn invite hinvite hlive hauto hdocument hfresh =>
      exact hdb.grant hdocument hfresh nofun
  | ask invite hinvite hlive hauto hdocument hfresh => exact hdb.ask hdocument hfresh
  | @approve _ level request hrequest hdocument hfresh =>
      have hgranted : Consistent { db with documentPermissions := ⟨request.documentId,
          request.requester, SharingService.requestedLevel level, now⟩ :: db.documentPermissions } :=
        hdb.grant hdocument hfresh (requestedLevel_ne_owner level)
      exact hgranted.shrink (fun _ => rfl) rfl rfl List.filter_sublist rfl
  | reject => exact hdb.shrink (fun _ => rfl) rfl rfl List.filter_sublist rfl

theorem worker (hdb : db.Consistent) {operation : WorkerOperation}
    (heffect : WorkerEffect db now operation next) : next.Consistent := by
  cases heffect with
  | periodic doc expiresAt hdoc =>
      exact hdb.shrink (.updateDocument hdoc rfl) rfl rfl (List.Sublist.refl _) rfl
  | @final id _ doc hdoc =>
      have hreleased : (db.setLock id none).Consistent :=
        hdb.shrink (fun _ => rfl) rfl rfl (List.Sublist.refl _) rfl
      exact hreleased.shrink (.updateDocument hdoc (by simp)) rfl rfl (List.Sublist.refl _) rfl
  | release => exact hdb.shrink (fun _ => rfl) rfl rfl (List.Sublist.refl _) rfl
  | acquireNew => exact hdb.shrink (fun _ => rfl) rfl rfl (List.Sublist.refl _) rfl
  | acquireExtend => exact hdb.shrink (fun _ => rfl) rfl rfl (List.Sublist.refl _) rfl

end Database.Consistent

theorem reachable_consistent {guard : State → Event → Prop} {state : State}
    (hreach : system.ReachableUnder guard state) : state.db.Consistent := by
  refine hreach.invariant system (fun state => state.db.Consistent) ?_ ?_
  · rintro state ⟨hdb, -⟩
    rw [hdb]
    exact Database.Consistent.empty
  · rintro state event next hbefore hdb - hstep
    have hformed := (reachable_wellFormed (hbefore.reachable system)).1
    cases step_cases hstep with
    | request user request reply next hok => exact hdb.request hformed (Request.serve_sharing hok)
    | operation operation next hok => exact hdb.worker (WorkerOperation.serve_effect hok)
    | refuse | fail | advance => exact hdb

/-! ## Ownership and levels -/

/-- What the services can rely on. -/
structure Database.PermissionsAgree (db : Database) : Prop where
  /-- One row of level `OWNER`, that of the owner. -/
  one_owner : ∀ id doc, db.documents id = some doc → ∃ row,
    (db.documentPermissions.filter fun row => row.documentId == id && row.level == .owner) = [row] ∧
      row.user.id = doc.owner.id
  one_row : ∀ documentId userId, (db.permissionsOf documentId userId).length ≤ 1
  references : (∀ row ∈ db.documentPermissions, (db.documents row.documentId).isSome) ∧
    (∀ row ∈ db.invites, (db.documents row.documentId).isSome) ∧
    (∀ row ∈ db.accessRequests, (db.documents row.documentId).isSome) ∧
    ∀ id, (db.documentLocks id).isSome → (db.documents id).isSome
  /-- `useInvite` changes no row that is there. -/
  useInvite : ∀ now user token reply next,
    (Request.useInvite token).serve db now user = .ok (reply, next) →
    ∀ documentId userId row, db.findPermission documentId userId = some row →
      next.findPermission documentId userId = some row
  /-- Editors are those whose ticket says so. -/
  canUserEdit : ∀ id doc user, db.documents id = some doc →
    (DocumentService.canUserEdit db id doc user = true ↔
      ∃ level, WebSocketTicketService.resolvePermission db id user.id = some level ∧
        (level = .owner ∨ level = .editor))

namespace Database.Consistent

variable {db : Database}

theorem one_row (hdb : db.Consistent) (documentId : DocumentId) (userId : UserId) :
    (db.permissionsOf documentId userId).length ≤ 1 := by
  refine Foundation.List.filter_length_le_one hdb.unique ?_
  intro first _ second _ hfirst hsecond hdistinct
  simp only [Bool.and_eq_true, beq_iff_eq] at hfirst hsecond
  exact hdistinct ⟨hfirst.1.trans hsecond.1.symm, hfirst.2.trans hsecond.2.symm⟩

theorem one_owner (hdb : db.Consistent) {id : DocumentId} {doc : Document}
    (hdoc : db.documents id = some doc) : ∃ row,
    (db.documentPermissions.filter fun row => row.documentId == id && row.level == .owner) = [row] ∧
      row.user.id = doc.owner.id := by
  obtain ⟨row, hrow, hdocument, huser, hlevel⟩ := hdb.owned id doc hdoc
  refine ⟨row, ?_, huser⟩
  refine Foundation.List.filter_eq_singleton hdb.unique ?_ hrow (by simp [hdocument, hlevel])
  intro first hfirst second hsecond hfirstOwner hsecondOwner hdistinct
  simp only [Bool.and_eq_true, beq_iff_eq] at hfirstOwner hsecondOwner
  have hsame : ∀ other ∈ db.documentPermissions, other.documentId = id → other.level = .owner →
      other.user.id = doc.owner.id := by
    rintro other hother rfl howner
    obtain ⟨found, hfound, huser⟩ := hdb.owner other hother howner
    cases hdoc.symm.trans hfound
    exact huser.symm
  have hfirstUser := hsame first hfirst hfirstOwner.1 hfirstOwner.2
  have hsecondUser := hsame second hsecond hsecondOwner.1 hsecondOwner.2
  exact hdistinct ⟨hfirstOwner.1.trans hsecondOwner.1.symm, hfirstUser.trans hsecondUser.symm⟩

theorem useInvite (hdb : db.Consistent) (hformed : db.WellFormed) {now : Instant} {user : User}
    {token : String} {reply : Reply} {next : Database}
    (hserve : (Request.useInvite token).serve db now user = .ok (reply, next))
    {documentId : DocumentId} {userId : UserId} {row : DocumentPermission}
    (hrow : db.findPermission documentId userId = some row) :
    next.findPermission documentId userId = some row := by
  have hnext := hdb.request hformed (Request.serve_sharing hserve)
  obtain ⟨hmem, hpair⟩ := hdb.findPermission_eq_some_iff.mp hrow
  refine hnext.findPermission_eq_some_iff.mpr ⟨?_, hpair⟩
  cases Request.serve_sharing hserve with
  | unchanged howners hpermissions hinvites hrequests hid => rw [hpermissions]; exact hmem
  | letIn => exact List.mem_cons_of_mem _ hmem
  | ask => exact hmem

theorem canUserEdit_iff (hdb : db.Consistent) {id : DocumentId} {doc : Document} {user : User}
    (hdoc : db.documents id = some doc) :
    DocumentService.canUserEdit db id doc user = true ↔
      ∃ level, WebSocketTicketService.resolvePermission db id user.id = some level ∧
        (level = .owner ∨ level = .editor) := by
  unfold DocumentService.canUserEdit WebSocketTicketService.resolvePermission
  split
  next howner =>
    -- the owner has a row, and its level is `OWNER`
    obtain ⟨row, hrow, hdocument, huser, hlevel⟩ := hdb.owned id doc hdoc
    have hfind := hdb.findPermission_eq_some_iff.mpr ⟨hrow, hdocument, huser.trans howner⟩
    simp [hfind, hlevel]
  next howner =>
    cases hfind : db.findPermission id user.id with
    | none => simp
    | some row =>
        obtain ⟨hrow, hdocument, huser⟩ := hdb.findPermission_eq_some_iff.mp hfind
        -- nobody else has a row of level `OWNER`
        have hlevel : row.level ≠ .owner := by
          intro hlevel
          obtain ⟨found, hfound, hsame⟩ := hdb.owner row hrow hlevel
          rw [hdocument, hdoc, Option.some.injEq] at hfound
          subst hfound
          exact howner (hsame.trans huser)
        simp [hlevel]

end Database.Consistent

/-- Ownership and permission rows agree in every reachable state. -/
theorem permissions_agree {state : State} (hreach : system.Reachable state) :
    state.db.PermissionsAgree := by
  have hdb := reachable_consistent hreach
  have hformed := (reachable_wellFormed hreach).1
  refine ⟨fun id doc hdoc => hdb.one_owner hdoc, hdb.one_row,
    ⟨hdb.permission_document, hdb.invite_document, hdb.request_document, ?_⟩, ?_, ?_⟩
  · intro id hlock
    obtain ⟨lock, hlock⟩ := Option.isSome_iff_exists.mp hlock
    exact hformed.lock_document id lock hlock
  · intro now user token reply next hserve documentId userId row hrow
    exact hdb.useInvite hformed hserve hrow
  · exact fun id doc user hdoc => hdb.canUserEdit_iff hdoc

theorem permissions_agree_shared : ∃ state, system.Reachable state ∧
    state.db.PermissionsAgree ∧ (state.db.findPermission 1 2).any (·.level = .editor) = true := by
  obtain ⟨state, hreach, hcheck⟩ := system.exists_reachable_of_exec
    (.init ⟨rfl, by decide, by decide⟩ : system.Reachable ⟨Database.empty, 0⟩)
    [.user ⟨1, "owner"⟩ (.create (some "notes") none),
      .user ⟨1, "owner"⟩ (.createInvite 1 false none "invite"),
      .user ⟨2, "editor"⟩ (.useInvite "invite"),
      .user ⟨1, "owner"⟩ (.processRequest 1 true (some "Editor"))]
    (fun state => (state.db.findPermission 1 2).any (·.level = .editor)) (by decide)
  exact ⟨state, hreach, permissions_agree hreach, hcheck⟩

end CollabEditor.Backend
