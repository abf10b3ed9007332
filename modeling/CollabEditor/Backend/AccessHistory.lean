import CollabEditor.Foundation.History
import CollabEditor.Backend.Library

/-! # Where a permission comes from, and how long it stays

Nobody but the owner lets a user in, and nobody can take a permission back or change its level:
the services only insert permission rows, until the document goes.
-/

namespace CollabEditor.Backend

open Foundation Database

/-- The steps of a run, each with the state it left. -/
abbrev Past := List (State × Event)

/-- The request of a user, which the services have not refused. -/
def Committed (entry : State × Event) (request : User × Request) : Prop :=
  entry.2 = .user request.1 request.2 ∧
    ∃ result, request.2.serve entry.1.db entry.1.now request.1 = .ok result

/-- The requests were sent in this order, by these users, and all of them committed. -/
def Did (history : Past) (requests : List (User × Request)) : Prop :=
  ∃ entries, entries.Sublist history ∧ List.Forall₂ Committed entries requests

theorem Did.nil (history : Past) : Did history [] :=
  ⟨[], List.nil_sublist history, .nil⟩

theorem Did.grow {history : Past} {requests : List (User × Request)}
    (hdid : Did history requests) (entry : State × Event) : Did (history ++ [entry]) requests := by
  obtain ⟨entries, hsub, hcommitted⟩ := hdid
  exact ⟨entries, hsub.trans (List.sublist_append_left history [entry]), hcommitted⟩

/-- A committed request comes after what was done before. -/
theorem Did.snoc {history : Past} {requests : List (User × Request)}
    (hdid : Did history requests) {state : State} {user : User} {request : Request}
    {result : Reply × Database} (hserve : request.serve state.db state.now user = .ok result) :
    Did (history ++ [(state, .user user request)]) (requests ++ [(user, request)]) := by
  obtain ⟨entries, hsub, hcommitted⟩ := hdid
  exact ⟨entries ++ [(state, .user user request)], hsub.append_right _,
    List.rel_append hcommitted (.cons ⟨rfl, result, hserve⟩ .nil)⟩

/-- The owner made the invite. -/
def Invited (history : Past) (owner : UserId) (invite : Invite) : Prop :=
  ∃ creator expires, creator.id = owner ∧ Did history
    [(creator, .createInvite invite.documentId invite.autoApprove expires invite.token)]

/-- The requester used an invite of the owner that does not approve by itself. -/
def Asked (history : Past) (owner : UserId) (request : AccessRequest) : Prop :=
  ∃ creator expires token, creator.id = owner ∧ Did history
    [(creator, .createInvite request.documentId false expires token),
      (request.requester, .useInvite token)]

/-- The approved request is that of the user for the document. -/
def Approves (row : DocumentPermission) (approver : User) (requestId : Nat)
    (level : Option String) (entry : State × Event) : Prop :=
  entry.2 = .user approver (.processRequest requestId true level) ∧
    ∃ request ∈ entry.1.db.accessRequests, request.id = requestId ∧
      request.documentId = row.documentId ∧ request.requester = row.user

/-- The two ways to the permission of somebody else's document. -/
inductive LetIn (history : Past) (owner : UserId) (row : DocumentPermission) : Prop
  | byInvite (creator : User) (expires : Option Int) (token : String)
      (howner : creator.id = owner) (hlevel : row.level = .viewer)
      (hdid : Did history
        [(creator, .createInvite row.documentId true expires token), (row.user, .useInvite token)])
  | byApproval (creator approver : User) (expires : Option Int) (token : String)
      (requestId : Nat) (level : Option String) (hcreator : creator.id = owner)
      (happrover : approver.id = owner) (hlevel : row.level = SharingService.requestedLevel level)
      (happroved : ∃ entry ∈ history, Approves row approver requestId level entry)
      (hdid : Did history
        [(creator, .createInvite row.documentId false expires token), (row.user, .useInvite token),
          (approver, .processRequest requestId true level)])

theorem Invited.grow {history : Past} {owner : UserId} {invite : Invite}
    (h : Invited history owner invite) (entry : State × Event) :
    Invited (history ++ [entry]) owner invite := by
  obtain ⟨creator, expires, hcreator, hdid⟩ := h
  exact ⟨creator, expires, hcreator, hdid.grow entry⟩

theorem Asked.grow {history : Past} {owner : UserId} {request : AccessRequest}
    (h : Asked history owner request) (entry : State × Event) :
    Asked (history ++ [entry]) owner request := by
  obtain ⟨creator, expires, token, hcreator, hdid⟩ := h
  exact ⟨creator, expires, token, hcreator, hdid.grow entry⟩

theorem LetIn.grow {history : Past} {owner : UserId} {row : DocumentPermission}
    (h : LetIn history owner row) (entry : State × Event) :
    LetIn (history ++ [entry]) owner row := by
  cases h with
  | byInvite creator expires token howner hlevel hdid =>
      exact .byInvite creator expires token howner hlevel (hdid.grow entry)
  | byApproval creator approver expires token requestId level hcreator happrover hlevel happroved
        hdid =>
      obtain ⟨approval, hmem, happroves⟩ := happroved
      exact .byApproval creator approver expires token requestId level hcreator happrover hlevel
        ⟨approval, List.mem_append_left _ hmem, happroves⟩ (hdid.grow entry)

/-- Every row of the sharing tables is explained by what the owner and the guest did. -/
structure Database.Explained (db : Database) (history : Past) : Prop where
  invite : ∀ invite ∈ db.invites, ∀ doc, db.documents invite.documentId = some doc →
    Invited history doc.owner.id invite
  request : ∀ request ∈ db.accessRequests, ∀ doc, db.documents request.documentId = some doc →
    Asked history doc.owner.id request
  permission : ∀ row ∈ db.documentPermissions, row.level ≠ .owner →
    ∀ doc, db.documents row.documentId = some doc → LetIn history doc.owner.id row

/-- The documents that were there have the same owners as long as they are there. -/
def KeepsOwners (db next : Database) : Prop :=
  ∀ id doc, (db.documents id).isSome → next.documents id = some doc →
    ∃ old, db.documents id = some old ∧ old.owner = doc.owner

theorem SameOwners.keeps {db next : Database} (hsame : SameOwners db next) :
    KeepsOwners db next := by
  intro id doc hold hdoc
  obtain ⟨old, hold⟩ := Option.isSome_iff_exists.mp hold
  have howner := hsame id
  rw [hold, hdoc] at howner
  exact ⟨old, hold, (Option.some.inj howner).symm⟩

/-- What a worker operation leaves alone. -/
structure KeepsSharing (db next : Database) : Prop where
  owners : SameOwners db next
  permissions : next.documentPermissions = db.documentPermissions
  invites : next.invites = db.invites
  requests : next.accessRequests = db.accessRequests
  nextDocumentId : next.nextDocumentId = db.nextDocumentId

theorem WorkerEffect.keepsSharing {db next : Database} {now : Instant}
    {operation : WorkerOperation} (heffect : WorkerEffect db now operation next) :
    KeepsSharing db next := by
  cases heffect with
  | periodic doc expiresAt hdoc => exact ⟨.updateDocument hdoc rfl, rfl, rfl, rfl, rfl⟩
  | @final id _ doc hdoc =>
      have hreleased : (db.setLock id none).documents id = some doc := hdoc
      exact ⟨.updateDocument hreleased (by simp), rfl, rfl, rfl, rfl⟩
  | release | acquireNew | acquireExtend => exact ⟨fun _ => rfl, rfl, rfl, rfl, rfl⟩

namespace Database.Explained

variable {db next : Database} {history : Past}

theorem empty : Database.empty.Explained [] := by
  constructor <;> simp [Database.empty]

/-- Rows that were there stay explained. -/
theorem old_invite (h : db.Explained history) (hdb : db.Consistent)
    (howners : KeepsOwners db next) (entry : State × Event) {invite : Invite}
    (hinvite : invite ∈ db.invites) {doc : Document}
    (hdoc : next.documents invite.documentId = some doc) :
    Invited (history ++ [entry]) doc.owner.id invite := by
  obtain ⟨old, hold, howner⟩ := howners _ doc (hdb.invite_document invite hinvite) hdoc
  exact howner ▸ (h.invite invite hinvite old hold).grow entry

theorem old_request (h : db.Explained history) (hdb : db.Consistent)
    (howners : KeepsOwners db next) (entry : State × Event) {request : AccessRequest}
    (hrequest : request ∈ db.accessRequests) {doc : Document}
    (hdoc : next.documents request.documentId = some doc) :
    Asked (history ++ [entry]) doc.owner.id request := by
  obtain ⟨old, hold, howner⟩ := howners _ doc (hdb.request_document request hrequest) hdoc
  exact howner ▸ (h.request request hrequest old hold).grow entry

theorem old_permission (h : db.Explained history) (hdb : db.Consistent)
    (howners : KeepsOwners db next) (entry : State × Event) {row : DocumentPermission}
    (hrow : row ∈ db.documentPermissions) (hlevel : row.level ≠ .owner) {doc : Document}
    (hdoc : next.documents row.documentId = some doc) :
    LetIn (history ++ [entry]) doc.owner.id row := by
  obtain ⟨old, hold, howner⟩ := howners _ doc (hdb.permission_document row hrow) hdoc
  exact howner ▸ (h.permission row hrow hlevel old hold).grow entry

/-- A step that adds no row but one of level `OWNER`. -/
theorem keep (h : db.Explained history) (hdb : db.Consistent) (entry : State × Event)
    (howners : KeepsOwners db next) (hinvites : ∀ invite ∈ next.invites, invite ∈ db.invites)
    (hrequests : ∀ request ∈ next.accessRequests, request ∈ db.accessRequests)
    (hpermissions : ∀ row ∈ next.documentPermissions,
      row.level ≠ .owner → row ∈ db.documentPermissions) :
    next.Explained (history ++ [entry]) where
  invite invite hinvite _ hdoc := h.old_invite hdb howners entry (hinvites invite hinvite) hdoc
  request request hrequest _ hdoc :=
    h.old_request hdb howners entry (hrequests request hrequest) hdoc
  permission row hrow hlevel _ hdoc :=
    h.old_permission hdb howners entry (hpermissions row hrow hlevel) hlevel hdoc

variable {state : State} {user : User} {reply : Reply}

/-- An invite is made by the owner. -/
theorem createInvite (h : state.db.Explained history) (hdb : state.db.Consistent)
    {docId : DocumentId} {autoApprove : Bool} {expires : Option Int} {token : String}
    (hserve : (Request.createInvite docId autoApprove expires token).serve state.db state.now user =
      .ok (reply, next)) :
    next.Explained (history ++
      [(state, .user user (.createInvite docId autoApprove expires token))]) := by
  have hdid := (Did.nil history).snoc hserve
  simp only [Request.serve, Except.bind_eq_ok_iff, Except.pure_eq_ok_iff, Prod.mk.injEq,
    Prod.exists] at hserve
  obtain ⟨found, hfound, expiresAt, -, made, written, hmade, -, rfl⟩ := hserve
  have hdocument : state.db.documents docId = some found := by
    unfold DocumentService.getById at hfound
    split at hfound
    next other hother =>
      cases hfound
      exact hother
    next => cases hfound
  unfold SharingService.createInvite at hmade
  split at hmade
  next => cases hmade
  next howner =>
    split at hmade
    next => cases hmade
    next =>
      cases hmade
      have hkept : KeepsOwners state.db state.db := SameOwners.keeps fun _ => rfl
      refine ⟨fun invite hinvite doc hdoc => ?_, fun request hrequest doc hdoc =>
        h.old_request hdb hkept _ hrequest hdoc, fun row hrow hlevel doc hdoc =>
        h.old_permission hdb hkept _ hrow hlevel hdoc⟩
      rcases List.mem_cons.mp hinvite with rfl | hinvite
      · cases hdocument.symm.trans hdoc
        exact ⟨user, expires, (not_not.mp howner).symm, hdid⟩
      · exact h.old_invite hdb hkept _ hinvite hdoc

/-- An approving invite lets in, any other leaves a request. -/
theorem useInvite (h : state.db.Explained history) (hdb : state.db.Consistent) {token : String}
    (hserve : (Request.useInvite token).serve state.db state.now user = .ok (reply, next)) :
    next.Explained (history ++ [(state, .user user (.useInvite token))]) := by
  have hkept : KeepsOwners state.db state.db := SameOwners.keeps fun _ => rfl
  -- the invite that is found was made under this token
  have hmade : ∀ invite, (state.db.invites.find? fun row => row.token == token) = some invite →
      ∀ doc, state.db.documents invite.documentId = some doc →
        ∃ creator expires, creator.id = doc.owner.id ∧
          Did (history ++ [(state, .user user (.useInvite token))])
            [(creator, .createInvite invite.documentId invite.autoApprove expires token),
              (user, .useInvite token)] := by
    intro invite hfind doc hdoc
    have htoken : invite.token = token := by simpa using List.find?_some hfind
    obtain ⟨creator, expires, hcreator, hdid⟩ :=
      h.invite invite (List.mem_of_find?_eq_some hfind) doc hdoc
    subst htoken
    exact ⟨creator, expires, hcreator, hdid.snoc hserve⟩
  cases Request.serve_sharing hserve with
  | unchanged howners hpermissions hinvites hrequests hid =>
      exact h.keep hdb _ howners.keeps (fun _ hmem => hinvites ▸ hmem)
        (fun _ hmem => hrequests ▸ hmem) fun _ hmem _ => hpermissions ▸ hmem
  | letIn invite hfind hlive hauto hdocument hfresh =>
      refine ⟨fun invite hinvite doc hdoc => h.old_invite hdb hkept _ hinvite hdoc,
        fun request hrequest doc hdoc => h.old_request hdb hkept _ hrequest hdoc,
        fun row hrow hlevel doc hdoc => ?_⟩
      rcases List.mem_cons.mp hrow with rfl | hrow
      · obtain ⟨creator, expires, hcreator, hdid⟩ := hmade invite hfind doc hdoc
        rw [hauto] at hdid
        exact .byInvite creator expires token hcreator rfl hdid
      · exact h.old_permission hdb hkept _ hrow hlevel hdoc
  | ask invite hfind hlive hauto hdocument hfresh =>
      refine ⟨fun invite hinvite doc hdoc => h.old_invite hdb hkept _ hinvite hdoc,
        fun request hrequest doc hdoc => ?_,
        fun row hrow hlevel doc hdoc => h.old_permission hdb hkept _ hrow hlevel hdoc⟩
      rcases List.mem_cons.mp hrequest with rfl | hrequest
      · obtain ⟨creator, expires, hcreator, hdid⟩ := hmade invite hfind doc hdoc
        rw [hauto] at hdid
        exact ⟨creator, expires, token, hcreator, hdid⟩
      · exact h.old_request hdb hkept _ hrequest hdoc

/-- An approval lets the requester in. -/
theorem processRequest (h : state.db.Explained history) (hdb : state.db.Consistent)
    {requestId : Nat} {approve : Bool} {level : Option String}
    (hserve : (Request.processRequest requestId approve level).serve state.db state.now user =
      .ok (reply, next)) :
    next.Explained
      (history ++ [(state, .user user (.processRequest requestId approve level))]) := by
  have hkept : KeepsOwners state.db state.db := SameOwners.keeps fun _ => rfl
  obtain ⟨decided, hdecided, hid, found, hfound, howner⟩ := processRequest_inv hserve
  cases Request.serve_sharing hserve with
  | unchanged howners hpermissions hinvites hrequests hid =>
      exact h.keep hdb _ howners.keeps (fun _ hmem => hinvites ▸ hmem)
        (fun _ hmem => hrequests ▸ hmem) fun _ hmem _ => hpermissions ▸ hmem
  | approve request hfind hdocument hfresh =>
      have hsame : decided = request := by
        have hsearch := hdb.find_request hdecided
        rw [hid, hfind] at hsearch
        exact (Option.some.inj hsearch).symm
      subst hsame
      refine ⟨fun invite hinvite doc hdoc => h.old_invite hdb hkept _ hinvite hdoc,
        fun request hrequest doc hdoc => h.old_request hdb hkept _ (List.mem_filter.mp hrequest).1
          hdoc, fun row hrow hlevel doc hdoc => ?_⟩
      rcases List.mem_cons.mp hrow with rfl | hrow
      · have hsame := Option.some.inj (hfound.symm.trans hdoc)
        subst hsame
        obtain ⟨creator, expires, token, hcreator, hdid⟩ :=
          h.request decided hdecided found hfound
        exact .byApproval creator user expires token requestId level hcreator howner.symm rfl
          ⟨_, List.mem_append_right _ List.mem_cons_self, rfl, decided, hdecided, hid, rfl, rfl⟩
          (hdid.snoc hserve)
      · exact h.old_permission hdb hkept _ hrow hlevel hdoc
  | reject =>
      exact h.keep hdb _ hkept (fun _ hmem => hmem) (fun _ hmem => (List.mem_filter.mp hmem).1)
        fun _ hmem _ => hmem

theorem serve (h : state.db.Explained history) (hdb : state.db.Consistent)
    (hformed : state.db.WellFormed) {request : Request}
    (hserve : request.serve state.db state.now user = .ok (reply, next)) :
    next.Explained (history ++ [(state, .user user request)]) := by
  have heffect := Request.serve_sharing hserve
  cases request with
  | createInvite => exact h.createInvite hdb hserve
  | useInvite => exact h.useInvite hdb hserve
  | processRequest => exact h.processRequest hdb hserve
  | create =>
      cases heffect with
      | unchanged howners hpermissions hinvites hrequests hid =>
          exact h.keep hdb _ howners.keeps (fun _ hmem => hinvites ▸ hmem)
            (fun _ hmem => hrequests ▸ hmem) fun _ hmem _ => hpermissions ▸ hmem
      | create doc howner hdocuments hpermissions hinvites hrequests hid =>
          refine h.keep hdb _ ?_ (fun _ hmem => hinvites ▸ hmem) (fun _ hmem => hrequests ▸ hmem) ?_
          · intro id found hold hfound
            have hbound := hformed.document_id id hold
            rw [hdocuments, Function.update_of_ne (by lia)] at hfound
            exact ⟨found, hfound, rfl⟩
          · intro row hrow hlevel
            rw [hpermissions, List.mem_cons] at hrow
            exact hrow.resolve_left fun hnew => hlevel (by rw [hnew])
  | delete =>
      cases heffect with
      | unchanged howners hpermissions hinvites hrequests hid =>
          exact h.keep hdb _ howners.keeps (fun _ hmem => hinvites ▸ hmem)
            (fun _ hmem => hrequests ▸ hmem) fun _ hmem _ => hpermissions ▸ hmem
      | delete hdocuments hpermissions hinvites hrequests hid =>
          rename_i deleted
          refine h.keep hdb _ ?_ (fun _ hmem => ?_) (fun _ hmem => ?_) fun _ hmem _ => ?_
          · intro id found hold hfound
            by_cases heq : id = deleted
            · subst heq
              rw [hdocuments, Function.update_self] at hfound
              cases hfound
            · rw [hdocuments, Function.update_of_ne heq] at hfound
              exact ⟨found, hfound, rfl⟩
          · rw [hinvites] at hmem
            exact (List.mem_filter.mp hmem).1
          · rw [hrequests] at hmem
            exact (List.mem_filter.mp hmem).1
          · rw [hpermissions] at hmem
            exact (List.mem_filter.mp hmem).1
  | read | save | acquireLock | switchToCollaborative | releaseLock | refreshLock | getLock =>
      cases heffect with
      | unchanged howners hpermissions hinvites hrequests hid =>
          exact h.keep hdb _ howners.keeps (fun _ hmem => hinvites ▸ hmem)
            (fun _ hmem => hrequests ▸ hmem) fun _ hmem _ => hpermissions ▸ hmem

end Database.Explained

/-- After every run all rows are explained by the run. -/
theorem explained {history : Past} {state : State}
    (hreach : system.ReachableBy history state) : state.db.Explained history := by
  refine hreach.invariant (fun history state => state.db.Explained history) ?_ ?_
  · rintro state ⟨hdb, -⟩
    rw [hdb]
    exact Database.Explained.empty
  · intro history state event next hbefore h hstep
    have hdb := reachable_consistent hbefore.reachable
    have hformed := (reachable_wellFormed hbefore.reachable).1
    have hsame : KeepsOwners state.db state.db := SameOwners.keeps fun _ => rfl
    cases step_cases hstep with
    | request user request reply next hok => exact h.serve hdb hformed hok
    | operation operation next hok =>
        have hkeeps := (WorkerOperation.serve_effect hok).keepsSharing
        exact h.keep hdb _ hkeeps.owners.keeps (fun _ hmem => hkeeps.invites ▸ hmem)
          (fun _ hmem => hkeeps.requests ▸ hmem) fun _ hmem _ => hkeeps.permissions ▸ hmem
    | refuse | fail | advance =>
        exact h.keep hdb _ hsame (fun _ hmem => hmem) (fun _ hmem => hmem) fun _ hmem _ => hmem

/-- Whoever has a permission on somebody else's document used an invite that its owner had made,
and if that invite does not approve by itself the owner approved afterwards, at this level. -/
theorem permission_history {history : Past} {state : State}
    (hreach : system.ReachableBy history state) {row : DocumentPermission}
    (hrow : row ∈ state.db.documentPermissions) (hlevel : row.level ≠ .owner) :
    ∃ doc, state.db.documents row.documentId = some doc ∧ LetIn history doc.owner.id row := by
  have hdb := reachable_consistent hreach.reachable
  obtain ⟨doc, hdoc⟩ := Option.isSome_iff_exists.mp (hdb.permission_document row hrow)
  exact ⟨doc, hdoc, (explained hreach).permission row hrow hlevel doc hdoc⟩

theorem permission_history_editor : ∃ history state, system.ReachableBy history state ∧
    ∃ doc, state.db.documents 1 = some doc ∧
      LetIn history doc.owner.id ⟨1, ⟨2, "guest"⟩, .editor, 0⟩ := by
  obtain ⟨state, hreach, hcheck⟩ := system.exists_reachable_of_exec
    (.init ⟨rfl, by decide, by decide⟩ : system.Reachable ⟨Database.empty, 0⟩)
    [.user ⟨1, "owner"⟩ (.create (some "notes") none),
      .user ⟨1, "owner"⟩ (.createInvite 1 false none "invite"),
      .user ⟨2, "guest"⟩ (.useInvite "invite"),
      .user ⟨1, "owner"⟩ (.processRequest 1 true (some "editor"))]
    (fun state => decide (⟨1, ⟨2, "guest"⟩, .editor, 0⟩ ∈ state.db.documentPermissions))
    (by decide +kernel)
  obtain ⟨history, hhistory⟩ := hreach.exists_history
  exact ⟨history, state, hhistory,
    permission_history hhistory (of_decide_eq_true hcheck) (by decide)⟩

/-! ## A permission is for good -/

/-- As long as the document is there, the user has this permission row. -/
def Keeps (documentId : DocumentId) (row : DocumentPermission) (state : State) : Prop :=
  documentId < state.db.nextDocumentId ∧
    ((state.db.documents documentId).isSome → row ∈ state.db.documentPermissions)

/-- Rows go with their document only, and no document comes back under an old id. -/
theorem step_keeps {state next : State} {event : Event} {documentId : DocumentId}
    {row : DocumentPermission} (hdocument : row.documentId = documentId)
    (hkeeps : Keeps documentId row state) (hstep : step state event = some next) :
    Keeps documentId row next := by
  obtain ⟨hbound, hrow⟩ := hkeeps
  cases step_cases hstep with
  | request user request reply next hok =>
      cases Request.serve_effect hok with
      | unchanged htarget hdocuments hlocks hpermissions hid =>
          refine ⟨hid ▸ hbound, fun hdoc => ?_⟩
          rw [hpermissions]
          exact hrow (hdocuments ▸ hdoc)
      | create doc howner hdocuments hlocks hpermissions hid =>
          refine ⟨by rw [hid]; lia, fun hdoc => ?_⟩
          rw [hdocuments, Function.update_of_ne (by lia)] at hdoc
          rw [hpermissions]
          exact List.mem_cons_of_mem _ (hrow hdoc)
      | save doc lock hdoc =>
          refine ⟨hbound, fun hafter => hrow ?_⟩
          by_cases heq : documentId = ‹DocumentId›
          · subst heq
            simp [hdoc]
          · simpa [heq] using hafter
      | lock htarget hdoc heffect =>
          obtain ⟨lock, -, rfl⟩ := heffect
          exact ⟨hbound, hrow⟩
      | @delete id _ doc hdoc howner hdocuments hlocks hpermissions hid =>
          refine ⟨hid ▸ hbound, fun hafter => ?_⟩
          by_cases heq : documentId = id
          · subst heq
            simp [hdocuments] at hafter
          · rw [hdocuments, Function.update_of_ne heq] at hafter
            simp [hpermissions, hrow hafter, hdocument, heq]
      | grant granted htarget hdoc hfresh hdocuments hlocks hpermissions hid =>
          refine ⟨hid ▸ hbound, fun hafter => ?_⟩
          rw [hpermissions]
          exact List.mem_cons_of_mem _ (hrow (hdocuments ▸ hafter))
  | operation operation next hok =>
      have hkept := (WorkerOperation.serve_effect hok).keepsSharing
      refine ⟨hkept.nextDocumentId ▸ hbound, fun hafter => ?_⟩
      have hsome := congrArg Option.isSome (hkept.owners documentId)
      rw [Option.isSome_map, Option.isSome_map] at hsome
      change row ∈ next.documentPermissions
      rw [hkept.permissions]
      exact hrow (hsome ▸ hafter)
  | refuse | fail | advance => exact ⟨hbound, hrow⟩

/-- A permission row stays as it was granted until its document is deleted: nobody takes it back,
and a viewer never becomes an editor. -/
theorem permission_kept {state later : State} (hreach : system.Reachable state)
    (hlater : system.Leads state later) {documentId : DocumentId} {userId : UserId}
    {row : DocumentPermission} (hrow : state.db.findPermission documentId userId = some row)
    (hdoc : (later.db.documents documentId).isSome) :
    later.db.findPermission documentId userId = some row := by
  have hdb := reachable_consistent hreach
  obtain ⟨hmem, hdocument, huser⟩ := hdb.findPermission_eq_some_iff.mp hrow
  have hbound := (reachable_wellFormed hreach).1.permission_id row hmem
  have hkeeps : Keeps documentId row later := by
    refine hlater.keeps (Keeps documentId row) hreach ⟨hdocument ▸ hbound, fun _ => hmem⟩ ?_
    exact fun _ _ _ _ hkeeps hstep => step_keeps hdocument hkeeps hstep
  have hlaterDb := reachable_consistent (TransitionSystem.Leads.reachable hlater hreach)
  exact hlaterDb.findPermission_eq_some_iff.mpr ⟨hkeeps.2 hdoc, hdocument, huser⟩

theorem permission_kept_viewer : ∃ state later, system.Reachable state ∧
    system.Leads state later ∧ later.db.accessRequests = [] ∧
    later.db.findPermission 1 2 = some ⟨1, ⟨2, "guest"⟩, .viewer, 0⟩ := by
  let start : List Event := [.user ⟨1, "owner"⟩ (.create (some "notes") none),
    .user ⟨1, "owner"⟩ (.createInvite 1 true none "open"),
    .user ⟨1, "owner"⟩ (.createInvite 1 false none "asking"),
    .user ⟨2, "guest"⟩ (.useInvite "open")]
  -- the viewer asks for more, and the approval fails
  let rest : List Event := [.user ⟨2, "guest"⟩ (.useInvite "asking"),
    .user ⟨1, "owner"⟩ (.processRequest 1 true (some "editor")),
    .user ⟨1, "owner"⟩ (.processRequest 1 false none)]
  let guard : State → Event → Prop := fun _ _ => True
  have hinit : system.Reachable ⟨Database.empty, 0⟩ := .init ⟨rfl, by decide, by decide⟩
  have hstart : ((system.exec guard ⟨Database.empty, 0⟩ start).bind fun state =>
      (system.exec guard state rest).map fun later =>
        decide (state.db.findPermission 1 2 = some ⟨1, ⟨2, "guest"⟩, .viewer, 0⟩ ∧
          (later.db.documents 1).isSome ∧ later.db.accessRequests = [])) = some true := by
    decide +kernel
  obtain ⟨state, hstate, hrest⟩ := Option.bind_eq_some_iff.mp hstart
  obtain ⟨later, hlater, hcheck⟩ := Option.map_eq_some_iff.mp hrest
  obtain ⟨hrow, hdoc, hrequests⟩ := of_decide_eq_true hcheck
  have hreach := TransitionSystem.ReachableUnder.exec system hinit hstate
  have hleads : system.Leads state later := .exec hlater
  exact ⟨state, later, hreach, hleads, hrequests, permission_kept hreach hleads hrow hdoc⟩

end CollabEditor.Backend
