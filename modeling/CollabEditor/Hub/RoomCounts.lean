import CollabEditor.Hub.Recipients
import Mathlib.Algebra.BigOperators.Group.Finset.Basic
import Mathlib.Algebra.BigOperators.Ring.Finset
import Mathlib.Algebra.Ring.Int.Defs

/-! # What the envelopes of a room add up to

Each connection adds one while it is in its room, so the announcements of a room add up to
the number of its clients, in whatever order they are counted.
-/

namespace CollabEditor.Hub

open Backend (DocumentId)

variable {Bytes : Type} {codec : Codec Bytes}

/-- The tags of the messages. -/
def tags (messages : List (Message Bytes)) : List Tag :=
  messages.filterMap Message.tag

/-- Envelopes that have been received in order have been received once. -/
theorem nodup_tags {messages : List (Message Bytes)}
    (horder : ∀ sender, (numbersFrom sender messages).Pairwise (· < ·)) :
    (tags messages).Nodup := by
  induction messages with
  | nil => exact List.nodup_nil
  | cons message rest ih =>
      have hsplit : ∀ sender, numbersFrom sender (message :: rest) =
          numbersFrom sender [message] ++ numbersFrom sender rest :=
        fun sender => numbersFrom_append sender [message] rest
      have hrest : (tags rest).Nodup := ih fun sender =>
        (List.pairwise_append.mp (hsplit sender ▸ horder sender)).2.1
      unfold tags
      cases htag : message.tag with
      | none =>
          rw [List.filterMap_cons_none htag]
          exact hrest
      | some tag =>
          rw [List.filterMap_cons_some htag, List.nodup_cons]
          refine ⟨fun hagain => ?_, hrest⟩
          obtain ⟨other, hother, hsame⟩ := List.mem_filterMap.mp hagain
          have hfirst : tag.number ∈ numbersFrom tag.sender [message] := by
            simp [numbersFrom, htag]
          have hsecond : tag.number ∈ numbersFrom tag.sender rest :=
            List.mem_filterMap.mpr ⟨other, hother, by simp [hsame]⟩
          exact ((List.pairwise_append.mp (hsplit tag.sender ▸ horder tag.sender)).2.2 _ hfirst _
            hsecond).false

namespace Cluster

variable {cluster : Cluster Bytes}

/-- What the envelope with the tag changes about the number of clients in its room. -/
def changeOf (cluster : Cluster Bytes) (tag : Tag) : Int :=
  match cluster.connections tag.sender with
  | some sender => (sender.sent[tag.number]?).elim 0 Envelope.change
  | none => 0

theorem Sent.changeOf {tag : Tag} {sender : Connection Bytes} {envelope : Envelope}
    (h : cluster.Sent tag sender envelope) : cluster.changeOf tag = envelope.change := by
  simp [Cluster.changeOf, h.1, h.2]

/-- The envelopes that a client has sent to the room of the document. -/
def tagsFrom (cluster : Cluster Bytes) (documentId : DocumentId) (id : ConnId) : Finset Tag :=
  match cluster.connections id with
  | some sender =>
      if sender.client.documentId = documentId then
        (Finset.range sender.sent.length).image (Tag.mk id)
      else ∅
  | none => ∅

/-- The envelopes of the room of a document. -/
def tagsOf (cluster : Cluster Bytes) (clients : Finset ConnId) (documentId : DocumentId) :
    Finset Tag :=
  clients.biUnion (cluster.tagsFrom documentId)

theorem mem_tagsFrom {documentId : DocumentId} {id : ConnId} {tag : Tag} :
    tag ∈ cluster.tagsFrom documentId id ↔ tag.sender = id ∧ ∃ sender envelope,
      cluster.Sent tag sender envelope ∧ sender.client.documentId = documentId := by
  unfold tagsFrom Sent
  constructor
  · intro hmember
    split at hmember
    next sender hsender =>
      split at hmember
      next hdocument =>
        obtain ⟨number, hnumber, rfl⟩ := Finset.mem_image.mp hmember
        have hbound := Finset.mem_range.mp hnumber
        exact ⟨rfl, sender, sender.sent[number], ⟨hsender, List.getElem?_eq_getElem hbound⟩,
          hdocument⟩
      next => exact absurd hmember (Finset.notMem_empty tag)
    next => exact absurd hmember (Finset.notMem_empty tag)
  · rintro ⟨rfl, sender, envelope, ⟨hsender, hsent⟩, hdocument⟩
    simp only [hsender, hdocument, if_true]
    exact Finset.mem_image.mpr
      ⟨tag.number, Finset.mem_range.mpr (List.getElem?_eq_some_iff.mp hsent).1, rfl⟩

theorem mem_tagsOf {clients : Finset ConnId} {documentId : DocumentId} {tag : Tag} :
    tag ∈ cluster.tagsOf clients documentId ↔ tag.sender ∈ clients ∧ ∃ sender envelope,
      cluster.Sent tag sender envelope ∧ sender.client.documentId = documentId := by
  simp only [tagsOf, Finset.mem_biUnion, mem_tagsFrom]
  constructor
  · rintro ⟨id, hid, rfl, hsent⟩
    exact ⟨hid, hsent⟩
  · exact fun ⟨hid, hsent⟩ => ⟨tag.sender, hid, rfl, hsent⟩

theorem sum_range_getElem? (envelopes : List Envelope) :
    ∑ number ∈ Finset.range envelopes.length, (envelopes[number]?).elim 0 Envelope.change =
      (envelopes.map Envelope.change).sum := by
  induction envelopes with
  | nil => rfl
  | cons first rest ih =>
      rw [List.length_cons, Finset.sum_range_succ', List.map_cons, List.sum_cons, ← ih, add_comm]
      rfl

/-- What a client has announced adds up to one while it is in the room. -/
theorem Announcing.sum_tagsFrom (h : cluster.Announcing) (documentId : DocumentId) (id : ConnId) :
    ∑ tag ∈ cluster.tagsFrom documentId id, cluster.changeOf tag =
      if cluster.inRoom documentId id = true then 1 else 0 := by
  by_cases hroom : cluster.inRoom documentId id = true
  · obtain ⟨sender, hsender, hdocument, hseated⟩ := h.inRoom_iff.mp hroom
    have hsum := (h.connection id sender hsender).sum
    rw [hseated, if_pos rfl] at hsum
    rw [if_pos hroom, ← hsum, ← sum_range_getElem?]
    simp only [tagsFrom, hsender, hdocument, if_true]
    rw [Finset.sum_image fun _ _ _ _ heq => congrArg Tag.number heq]
    exact Finset.sum_congr rfl fun number _ => by simp [changeOf, hsender]
  · rw [if_neg hroom]
    cases hsender : cluster.connections id with
    | none =>
        simp only [tagsFrom, hsender]
        exact Finset.sum_empty
    | some sender =>
        by_cases hdocument : sender.client.documentId = documentId
        · have hgone : sender.stage.seated ≠ true :=
            fun hseated => hroom (h.inRoom_iff.mpr ⟨sender, hsender, hdocument, hseated⟩)
          have hsum := (h.connection id sender hsender).sum
          rw [if_neg hgone] at hsum
          rw [← hsum, ← sum_range_getElem?]
          simp only [tagsFrom, hsender, hdocument, if_true]
          rw [Finset.sum_image fun _ _ _ _ heq => congrArg Tag.number heq]
          exact Finset.sum_congr rfl fun number _ => by simp [changeOf, hsender]
        · simp only [tagsFrom, hsender, hdocument, if_false]
          exact Finset.sum_empty

/-- The envelopes of a room add up to the number of its clients. -/
theorem Announcing.sum_tagsOf (h : cluster.Announcing) (clients : Finset ConnId)
    (documentId : DocumentId) :
    ∑ tag ∈ cluster.tagsOf clients documentId, cluster.changeOf tag =
      ((clients.filter fun id => cluster.inRoom documentId id = true).card : Int) := by
  have hdisjoint : (clients : Set ConnId).PairwiseDisjoint (cluster.tagsFrom documentId) := by
    intro first _ second _ hne
    refine Finset.disjoint_left.mpr fun tag hfirst hsecond => hne ?_
    exact (mem_tagsFrom.mp hfirst).1.symm.trans (mem_tagsFrom.mp hsecond).1
  rw [tagsOf, Finset.sum_biUnion hdisjoint, Finset.card_filter, Nat.cast_sum]
  refine Finset.sum_congr rfl fun id _ => ?_
  rw [h.sum_tagsFrom documentId id]
  split <;> rfl

/-- All envelopes are messages and edits of their senders, or announcements. -/
def Authored (cluster : Cluster Bytes) : Prop :=
  ∀ tag sender envelope, cluster.Sent tag sender envelope →
    sender.client.Owns envelope ∨ sender.client.Announces envelope

theorem empty_authored : (empty : Cluster Bytes).Authored := by
  rintro tag sender envelope ⟨hsender, -⟩
  cases hsender

theorem Authored.step (h : cluster.Authored) (hlayout : cluster.Layout codec)
    {event : Event Bytes} {after : Cluster Bytes}
    (hstep : Cluster.step codec cluster event = some after) : after.Authored := by
  intro tag new envelope hsent
  rcases hsent.before hlayout hstep with ⟨old, hold, hclient⟩ | ⟨hstart, -⟩
  · rw [hclient]
    exact h tag old envelope hold
  · have hclient : ∀ old, cluster.connections tag.sender = some old →
        new.client = old.client := by
      intro old hold
      obtain ⟨found, hfound, hkept, -⟩ := step_sent hlayout hstep tag.sender old hold
      cases hsent.1.symm.trans hfound
      exact hkept
    cases hstart with
    | frame _ connection frame now handled hconnection hread =>
        rw [hclient connection hconnection]
        exact .inl (connection.client.stamp_owns hread)
    | join _ connection subscribed now hconnection =>
        rw [hclient connection hconnection]
        exact .inr ⟨now, .inl rfl⟩
    | leave _ connection choice accepted now hconnection =>
        rw [hclient connection hconnection]
        exact .inr ⟨now, .inr rfl⟩

/-- What some of the envelopes of a room add up to. -/
def total (cluster : Cluster Bytes) (clients : Finset ConnId) (documentId : DocumentId)
    (given : Tag → Bool) : Int :=
  ∑ tag ∈ (cluster.tagsOf clients documentId).filter fun tag => given tag = true,
    cluster.changeOf tag

/-- Clients who have sent none of them do not count. -/
theorem total_subset {before later : Finset ConnId} (hsubset : before ⊆ later)
    (documentId : DocumentId) {given : Tag → Bool}
    (hgiven : ∀ tag, given tag = true → tag.sender ∈ before) :
    cluster.total later documentId given = cluster.total before documentId given := by
  refine Finset.sum_congr ?_ fun _ _ => rfl
  ext tag
  simp only [Finset.mem_filter, mem_tagsOf]
  constructor
  · rintro ⟨⟨-, hsent⟩, htag⟩
    exact ⟨⟨hgiven tag htag, hsent⟩, htag⟩
  · rintro ⟨⟨hmember, hsent⟩, htag⟩
    exact ⟨⟨hsubset hmember, hsent⟩, htag⟩

/-- Later envelopes do not count. -/
theorem total_step (hlayout : cluster.Layout codec) {event : Event Bytes} {after : Cluster Bytes}
    (hstep : step codec cluster event = some after) (clients : Finset ConnId)
    (documentId : DocumentId) {given : Tag → Bool}
    (hgiven : ∀ tag, given tag = true → ∃ sender envelope, cluster.Sent tag sender envelope) :
    after.total clients documentId given = cluster.total clients documentId given := by
  have hsame : ((after.tagsOf clients documentId).filter fun tag => given tag = true) =
      (cluster.tagsOf clients documentId).filter fun tag => given tag = true := by
    ext tag
    simp only [Finset.mem_filter, mem_tagsOf]
    constructor
    · rintro ⟨⟨hmember, new, envelope, hnew, hdocument⟩, htag⟩
      obtain ⟨sender, sent, hsent⟩ := hgiven tag htag
      obtain ⟨found, hfound, hclient⟩ := hsent.step hlayout hstep
      cases hnew.1.symm.trans hfound.1
      exact ⟨⟨hmember, sender, sent, hsent, by rw [← hclient, hdocument]⟩, htag⟩
    · rintro ⟨⟨hmember, sender, envelope, hsent, hdocument⟩, htag⟩
      obtain ⟨new, hnew, hclient⟩ := hsent.step hlayout hstep
      exact ⟨⟨hmember, new, envelope, hnew, by rw [hclient, hdocument]⟩, htag⟩
  rw [total, total, hsame]
  refine Finset.sum_congr rfl fun tag htag => ?_
  obtain ⟨sender, envelope, hsent, -⟩ := (mem_tagsOf.mp (Finset.mem_filter.mp htag).1).2
  obtain ⟨new, hnew, -⟩ := hsent.step hlayout hstep
  rw [hnew.changeOf, hsent.changeOf]

/-- The room is past offering only envelopes that have been sent. -/
theorem sent_of_passed (hlayout : cluster.Layout codec) {client : ConnId} {tag : Tag}
    (hpassed : cluster.passed client tag = true) :
    ∃ sender envelope, cluster.Sent tag sender envelope := by
  obtain ⟨target, sender, -, hsender, hcase⟩ := passed_iff.mp hpassed
  have hbound : tag.number < sender.sent.length := by
    rcases hcase with ⟨-, -, hnumber⟩ | ⟨-, i, s, index, entry, -, -, -, hentry, rfl⟩
    · exact hnumber.trans_le (sender.view.offered_le client)
    · obtain ⟨v, hv, hnumber, -⟩ := hlayout.entry _ entry (List.mem_of_getElem? hentry)
      cases (view_eq hsender).symm.trans hv
      exact hnumber.trans_le sender.view.published_le
  exact ⟨sender, sender.sent[tag.number], hsender, List.getElem?_eq_getElem hbound⟩

end Cluster

end CollabEditor.Hub
