import CollabEditor.Backend.Permissions

/-! # Deciding access requests

An approval inserts a permission row without looking for one. It fails exactly
when the requester has got a row in the meantime, or had one all along.
-/

namespace CollabEditor.Backend

open Foundation Database

/-- The owner can approve and reject the request. Both delete it, and an approval
leaves the requester one permission row. -/
def Database.CanBeDecided (db : Database) (now : Instant) (request : AccessRequest) : Prop :=
  ∀ doc owner, db.documents request.documentId = some doc → owner.id = doc.owner.id →
    ∀ approve level, ∃ next,
      (Request.processRequest request.id approve level).serve db now owner =
        .ok (.status "ok", next) ∧
      (∀ row ∈ next.accessRequests, row.id ≠ request.id) ∧
      (approve = true → ∃ row, next.permissionsOf request.documentId request.requester.id = [row] ∧
        row.level = SharingService.requestedLevel level)

namespace Database.Consistent

variable {db : Database}

theorem find_request (hdb : db.Consistent) {request : AccessRequest}
    (hrequest : request ∈ db.accessRequests) :
    (db.accessRequests.find? fun row => row.id == request.id) = some request := by
  cases hfind : db.accessRequests.find? fun row => row.id == request.id with
  | none =>
      rw [List.find?_eq_none] at hfind
      exact absurd (beq_self_eq_true request.id) (hfind request hrequest)
  | some found =>
      have hfound := List.mem_of_find?_eq_some hfind
      have hid : found.id = request.id := by simpa using List.find?_some hfind
      by_contra hne
      have hsymmetric : Std.Symm fun first second : AccessRequest => first.id ≠ second.id :=
        ⟨fun _ _ => Ne.symm⟩
      exact hdb.request_id.forall hfound hrequest (fun heq => hne (congrArg some heq)) hid

/-- The transaction the owner runs. -/
theorem processRequest_eq (hdb : db.Consistent) {now : Instant} {request : AccessRequest}
    (hrequest : request ∈ db.accessRequests) {doc : Document}
    (hdoc : db.documents request.documentId = some doc) {owner : User}
    (howner : owner.id = doc.owner.id) (approve : Bool) (level : Option String) :
    (Request.processRequest request.id approve level).serve db now owner =
      ((if approve then db.insertPermission ⟨request.documentId, request.requester,
          SharingService.requestedLevel level, now⟩ else .ok db).map fun granted =>
        (.status "ok", { granted with
          accessRequests := granted.accessRequests.filter fun row => row.id != request.id })) := by
  have hsame : ¬doc.owner.id ≠ owner.id := not_not.mpr howner.symm
  simp only [Request.serve, SharingService.processRequest, hdb.find_request hrequest, hdoc,
    if_neg hsame, Option.getD_some]
  cases hgranted : (if approve = true then db.insertPermission ⟨request.documentId,
      request.requester, SharingService.requestedLevel level, now⟩ else Except.ok db) with
  | error => rfl
  | ok granted => rfl

/-- A request can be decided exactly when its requester has no permission row. -/
theorem canBeDecided_iff (hdb : db.Consistent) {now : Instant} {request : AccessRequest}
    (hrequest : request ∈ db.accessRequests) :
    db.CanBeDecided now request ↔
      db.existsPermission request.documentId request.requester.id = false := by
  obtain ⟨doc, hdoc⟩ := Option.isSome_iff_exists.mp (hdb.request_document request hrequest)
  constructor
  · intro hdecided
    obtain ⟨next, hserve, -, -⟩ := hdecided doc doc.owner hdoc rfl true none
    rw [hdb.processRequest_eq hrequest hdoc rfl] at hserve
    cases hgranted : db.insertPermission ⟨request.documentId, request.requester,
        SharingService.requestedLevel none, now⟩ with
    | error =>
        rw [if_pos rfl, hgranted] at hserve
        cases hserve
    | ok granted => exact ((db.insertPermission_eq_ok_iff _ granted).mp hgranted).2.1
  · intro hfresh found owner hfound howner approve level
    rw [hdb.processRequest_eq hrequest hfound howner]
    cases approve with
    | false => exact ⟨_, rfl, fun row hrow => by simpa using (List.mem_filter.mp hrow).2, nofun⟩
    | true =>
        have hgranted := (db.insertPermission_eq_ok_iff ⟨request.documentId, request.requester,
          SharingService.requestedLevel level, now⟩ _).mpr
            ⟨hdb.request_document request hrequest, hfresh, rfl⟩
        rw [if_pos rfl, hgranted]
        refine ⟨_, rfl, fun row hrow => by simpa using (List.mem_filter.mp hrow).2, fun _ => ?_⟩
        have hothers : db.permissionsOf request.documentId request.requester.id = [] := by
          refine List.filter_eq_nil_iff.mpr fun row hrow hpair => ?_
          simp only [Bool.and_eq_true, beq_iff_eq] at hpair
          exact db.not_existsPermission hfresh row hrow hpair
        unfold Database.permissionsOf at hothers ⊢
        exact ⟨⟨request.documentId, request.requester, SharingService.requestedLevel level, now⟩,
          by simp [hothers], rfl⟩

end Database.Consistent

/-! ## Runs in which every request stays decidable -/

/-- A user who uses an invite to ask for access has no permission row, and one who
is let in by an invite has not asked. -/
def AsksOrEnters (state : State) : Event → Prop
  | .user user (.useInvite token) =>
      ∀ invite ∈ state.db.invites.find? fun row => row.token == token,
        invite.expiresAt.any (· < state.now) = false →
          if invite.autoApprove then ∀ row ∈ state.db.accessRequests,
            ¬(row.documentId = invite.documentId ∧ row.requester.id = user.id)
          else state.db.existsPermission invite.documentId user.id = false
  | _ => True

instance (state : State) : (event : Event) → Decidable (AsksOrEnters state event)
  | .user user (.useInvite token) => inferInstanceAs (Decidable
      (∀ invite ∈ state.db.invites.find? fun row => row.token == token,
        invite.expiresAt.any (· < state.now) = false →
          if invite.autoApprove then ∀ row ∈ state.db.accessRequests,
            ¬(row.documentId = invite.documentId ∧ row.requester.id = user.id)
          else state.db.existsPermission invite.documentId user.id = false))
  | .user _ (.create ..) | .user _ (.read ..) | .user _ (.save ..) | .user _ (.acquireLock ..)
  | .user _ (.switchToCollaborative ..) | .user _ (.releaseLock ..) | .user _ (.refreshLock ..)
  | .user _ (.getLock ..) | .user _ (.delete ..) | .user _ (.createInvite ..)
  | .user _ (.processRequest ..) | .worker _ | .advance _ => .isTrue trivial

/-- No requester has a permission row. -/
def Database.Undecided (db : Database) : Prop :=
  ∀ request ∈ db.accessRequests,
    db.existsPermission request.documentId request.requester.id = false

/-- Fewer rows leave fewer requesters with a permission. -/
theorem Database.Undecided.shrink {db next : Database} (h : db.Undecided)
    (hpermissions : ∀ row ∈ next.documentPermissions, row ∈ db.documentPermissions)
    (hrequests : ∀ row ∈ next.accessRequests, row ∈ db.accessRequests) : next.Undecided := by
  intro request hrequest
  have hnone := db.not_existsPermission (h request (hrequests request hrequest))
  rw [existsPermission, findPermission, Option.isSome_eq_false_iff, Option.isNone_iff_eq_none,
    List.find?_eq_none]
  intro row hrow hpair
  simp only [Bool.and_eq_true, beq_iff_eq] at hpair
  exact hnone row (hpermissions row hrow) hpair

/-- A new permission row of a pair that has not asked. -/
theorem Database.Undecided.grant {db : Database} (h : db.Undecided) {row : DocumentPermission}
    (hasked : ∀ request ∈ db.accessRequests,
      ¬(request.documentId = row.documentId ∧ request.requester.id = row.user.id)) :
    { db with documentPermissions := row :: db.documentPermissions }.Undecided := by
  intro request hrequest
  have hpair := hasked request hrequest
  have hnone := h request hrequest
  rw [existsPermission, findPermission, Option.isSome_eq_false_iff] at hnone ⊢
  rw [List.find?_cons_of_neg]
  · exact hnone
  · simp only [Bool.and_eq_true, beq_iff_eq]
    exact fun hsame => hpair ⟨hsame.1.symm, hsame.2.symm⟩

theorem Database.Undecided.request {db next : Database} (h : db.Undecided)
    (hdb : db.Consistent) (hformed : db.WellFormed) {now : Instant} {user : User}
    {request : Request} (hguard : AsksOrEnters ⟨db, now⟩ (.user user request))
    (heffect : SharingEffect db now user request next) : next.Undecided := by
  cases heffect with
  | unchanged howners hpermissions hinvites hrequests hid =>
      exact h.shrink (hpermissions ▸ fun _ => id) (hrequests ▸ fun _ => id)
  | create doc howner hdocuments hpermissions hinvites hrequests hid =>
      -- nobody has asked for access to the new document
      have hasked : ∀ row ∈ db.accessRequests,
          ¬(row.documentId = db.nextDocumentId ∧ row.requester.id = user.id) := by
        intro row hrow hpair
        have hbound := hformed.document_id _ (hdb.request_document row hrow)
        rw [hpair.1] at hbound
        lia
      have hgranted : Undecided { db with documentPermissions :=
          ⟨db.nextDocumentId, user, .owner, now⟩ :: db.documentPermissions } := h.grant hasked
      exact hgranted.shrink (hpermissions ▸ fun _ => id) (hrequests ▸ fun _ => id)
  | delete hdocuments hpermissions hinvites hrequests hid =>
      refine h.shrink ?_ ?_
      · exact hpermissions ▸ fun row hrow => (List.mem_filter.mp hrow).1
      · exact hrequests ▸ fun row hrow => (List.mem_filter.mp hrow).1
  | invite invite hdocument => exact h.shrink (fun _ => id) (fun _ => id)
  | letIn invite hinvite hlive hauto hdocument hfresh =>
      have hasked := hguard invite hinvite hlive
      rw [if_pos hauto] at hasked
      exact h.grant hasked
  | ask invite hinvite hlive hauto hdocument hfresh =>
      have hnone := hguard invite hinvite hlive
      rw [if_neg (by simp [hauto])] at hnone
      intro row hrow
      rcases List.mem_cons.mp hrow with rfl | hrow
      · exact hnone
      · exact h row hrow
  | @approve requestId level request hrequest hdocument hfresh =>
      -- the pair has no other request
      have hmem := List.mem_of_find?_eq_some hrequest
      have hid : request.id = requestId := by simpa using List.find?_some hrequest
      have hrest : Undecided { db with
          accessRequests := db.accessRequests.filter fun row => row.id != requestId } :=
        h.shrink (fun _ => id) fun row hrow => (List.mem_filter.mp hrow).1
      refine Undecided.grant hrest ?_
      intro other hother hpair
      obtain ⟨hother, hne⟩ := List.mem_filter.mp hother
      have hsymmetric : Std.Symm fun first second : AccessRequest =>
          ¬(first.documentId = second.documentId ∧ first.requester.id = second.requester.id) :=
        ⟨fun _ _ hpair hswap => hpair ⟨hswap.1.symm, hswap.2.symm⟩⟩
      refine hdb.request_pair.forall hother hmem ?_ hpair
      rintro rfl
      simp [hid] at hne
  | reject => exact h.shrink (fun _ => id) fun row hrow => (List.mem_filter.mp hrow).1

theorem Database.Undecided.worker {db next : Database} (h : db.Undecided) {now : Instant}
    {operation : WorkerOperation} (heffect : WorkerEffect db now operation next) :
    next.Undecided := by
  cases heffect with
  | periodic | final | release | acquireNew | acquireExtend =>
      exact h.shrink (fun _ => id) (fun _ => id)

/-- In every run in which nobody with a permission row asks, and nobody who has
asked is let in by an invite, every pending request can be decided. -/
theorem pending_requests_decidable {state : State}
    (hreach : system.ReachableUnder AsksOrEnters state) :
    ∀ request ∈ state.db.accessRequests, state.db.CanBeDecided state.now request := by
  have hdb := reachable_consistent hreach
  have hundecided : state.db.Undecided := by
    refine hreach.invariant system (fun state => state.db.Undecided) ?_ ?_
    · rintro state ⟨hdb, -⟩
      simp [hdb, Database.Undecided, Database.empty]
    · rintro state event next hbefore h hguard hstep
      have hformed := (reachable_wellFormed (hbefore.reachable system)).1
      have hconsistent := reachable_consistent hbefore
      cases step_cases hstep with
      | request user request reply next hok =>
          exact h.request hconsistent hformed hguard (Request.serve_sharing hok)
      | operation operation next hok => exact h.worker (WorkerOperation.serve_effect hok)
      | refuse | fail | advance => exact h
  exact fun request hrequest => (hdb.canBeDecided_iff hrequest).mpr (hundecided request hrequest)

theorem pending_requests_decidable_guest : ∃ state, system.ReachableUnder AsksOrEnters state ∧
    ∃ request ∈ state.db.accessRequests, state.db.CanBeDecided state.now request := by
  obtain ⟨state, hreach, hcheck⟩ := system.exists_reachable_of_exec
    (.init ⟨rfl, by decide, by decide⟩ : system.ReachableUnder AsksOrEnters ⟨Database.empty, 0⟩)
    [.user ⟨1, "owner"⟩ (.create (some "notes") none),
      .user ⟨1, "owner"⟩ (.createInvite 1 false none "invite"),
      .user ⟨2, "guest"⟩ (.useInvite "invite")]
    (fun state => state.db.accessRequests = [⟨1, 1, ⟨2, "guest"⟩, 0⟩]) (by decide)
  have hrequests := of_decide_eq_true hcheck
  have hmem : ⟨1, 1, ⟨2, "guest"⟩, 0⟩ ∈ state.db.accessRequests := by simp [hrequests]
  exact ⟨state, hreach, _, hmem, pending_requests_decidable hreach _ hmem⟩

/-- An owner who tries out an invite that asks can never decide the request. -/
theorem owner_request_is_stuck : ¬ ∀ state, system.Reachable state →
    ∀ request ∈ state.db.accessRequests, state.db.CanBeDecided state.now request := by
  intro hclaim
  obtain ⟨state, hreach, hcheck⟩ := system.exists_reachable_of_exec
    (.init ⟨rfl, by decide, by decide⟩ : system.Reachable ⟨Database.empty, 0⟩)
    [.user ⟨1, "owner"⟩ (.create (some "notes") none),
      .user ⟨1, "owner"⟩ (.createInvite 1 false none "invite"),
      .user ⟨1, "owner"⟩ (.useInvite "invite")]
    (fun state => state.db.accessRequests = [⟨1, 1, ⟨1, "owner"⟩, 0⟩] ∧
      state.db.existsPermission 1 1 = true) (by decide)
  obtain ⟨hrequests, hpermission⟩ := of_decide_eq_true hcheck
  have hmem : ⟨1, 1, ⟨1, "owner"⟩, 0⟩ ∈ state.db.accessRequests := by simp [hrequests]
  have hnone := ((reachable_consistent hreach).canBeDecided_iff hmem).mp (hclaim state hreach _ hmem)
  exact absurd (hnone.symm.trans hpermission) (by decide)

end CollabEditor.Backend
