import MultipartUpload.Proofs.Memory.Grant
import MultipartUpload.Proofs.Memory.Underway
import MultipartUpload.Proofs.Upload.Conversation
import MultipartUpload.Proofs.Upload.Replay

/-!
# Shipments to the in-memory service

What the parts of an upload come to in a store that replays the requests for them. Accepted parts
are in the upload, and the first of them was sent again at most once, so the upload was hidden from
one request at most. When no failure is queued and the upload is hidden no longer than that, every
part is accepted.
-/

namespace MultipartUpload

/-- The record of the part that a shipment brings. -/
def Shipment.record (shipment : Shipment) : StoredPart :=
  .ofData shipment.slot.number shipment.part.data

/-- An upload that is not hidden any more. -/
def StoredUpload.seen (upload : StoredUpload) : StoredUpload :=
  { upload with hiddenFor := 0 }

theorem StoredUpload.seen_of_hiddenFor_eq_zero {upload : StoredUpload} (h : upload.hiddenFor = 0) :
    upload.seen = upload := by
  rw [seen, ← h]

/-- A part that is not accepted brings its upload one request closer to being seen, if at all. -/
theorem StoredUpload.Receives.of_error {upload next : StoredUpload} {number : ℕ} {part : Part}
    {e : ServiceError} (h : upload.Receives number part (.error e) next) :
    next.seen = upload.seen ∧ upload.hiddenFor ≤ next.hiddenFor + 1 := by
  cases h with
  | refused => exact ⟨rfl, Nat.le_succ _⟩
  | hidden =>
    refine ⟨rfl, ?_⟩
    simp only
    omega

theorem Store.clear_replays {store after : Store} {exchanges : List Exchange}
    (hclear : store.faults.Clear) (hreplays : Store.service.Replays store exchanges after) :
    after.faults.Clear :=
  hreplays.keeps (p := fun state ↦ state.faults.Clear)
    (fun _ _ _ hstate ↦ clear_answer hstate _) hclear

namespace Store.Underway

variable {before store after : Store} {container key id : String} {upload : StoredUpload}
  {options : UploadOptions} {shipments : List Shipment} {shipment : Shipment}

/-- An upload stays underway while its parts are brought. -/
theorem bring (h : before.Underway id upload store)
    (hreplays : Store.service.Replays store
      (shipments.flatMap (Shipment.exchanges (Request.bring container key id options))) after) :
    ∃ changed, upload.Continues changed ∧ before.Underway id changed after := by
  refine hreplays.keeps (p := fun state ↦ ∃ changed, upload.Continues changed ∧
    before.Underway id changed state) ?_ ⟨upload, .refl upload, h⟩
  rintro exchange hmem state ⟨current, hcontinues, hcurrent⟩
  obtain ⟨shipment, -, hrequest⟩ := Shipment.request_of_mem hmem
  obtain ⟨changed, hreceives, hchanged⟩ :=
    hcurrent.receives container key shipment.slot.number shipment.part options
  rw [hrequest]
  exact ⟨changed, hcontinues.trans hreceives.continues, hchanged⟩

/-! ## Accepted parts -/

theorem accept_at_once (h : before.Underway id upload store) {number : ℕ} {part : Part}
    {checksum : String}
    (hreply : (store.answer (.bring container key id options number part)).1 = .ok checksum) :
    checksum = ETag.ofData part.data ∧ upload.hiddenFor = 0 ∧
      before.Underway id (upload.putPart (.ofData number part.data))
        (store.answer (.bring container key id options number part)).2 := by
  obtain ⟨changed, hreceives, hchanged⟩ := h.receives container key number part options
  change upload.Receives number part
    (store.answer (.bring container key id options number part)).1 changed at hreceives
  rw [hreply] at hreceives
  cases hreceives with
  | stored hseen => exact ⟨rfl, hseen, hchanged⟩

/-- A shipment that was accepted is in the upload, and the upload was hidden from one request at
most. -/
theorem accept (h : before.Underway id upload store) {checksum : String}
    (haccepted : shipment.Accepted checksum)
    (hreplays : Store.service.Replays store
      (shipment.exchanges (Request.bring container key id options)) after) :
    checksum = shipment.record.etag ∧ upload.hiddenFor ≤ 1 ∧
      before.Underway id (upload.seen.putPart shipment.record) after := by
  have hreply : shipment.attempt.reply = .ok checksum := haccepted
  rcases hdelay : shipment.attempt.delay? with - | e
  · simp only [Shipment.exchanges, Attempt.exchanges, Attempt.replies, hdelay, hreply,
      Option.toList_none, List.map_nil, List.nil_append, List.map_cons, Service.replays_cons,
      Service.replays_nil, service_answer] at hreplays
    obtain ⟨hfirst, rfl⟩ := hreplays
    obtain ⟨hchecksum, hseen, hafter⟩ := h.accept_at_once hfirst
    rw [StoredUpload.seen_of_hiddenFor_eq_zero hseen]
    exact ⟨hchecksum, by omega, hafter⟩
  · simp only [Shipment.exchanges, Attempt.exchanges, Attempt.replies, hdelay, hreply,
      Option.toList_some, List.map_cons, List.map_nil, List.cons_append, List.nil_append,
      Service.replays_cons, Service.replays_nil, service_answer] at hreplays
    obtain ⟨hfirst, hsecond, rfl⟩ := hreplays
    obtain ⟨changed, hreceives, hchanged⟩ :=
      h.receives container key shipment.slot.number shipment.part options
    change upload.Receives _ _ (store.answer (.bring container key id options
      shipment.slot.number shipment.part)).1 changed at hreceives
    rw [hfirst] at hreceives
    obtain ⟨hsame, hhidden⟩ := hreceives.of_error
    obtain ⟨hchecksum, hseen, hafter⟩ := hchanged.accept_at_once hsecond
    rw [← hsame, StoredUpload.seen_of_hiddenFor_eq_zero hseen]
    exact ⟨hchecksum, by omega, hafter⟩

/-- Shipments that were accepted are in the upload under their numbers. -/
theorem acceptAll (h : before.Underway id upload store)
    (haccepted : ∀ shipment ∈ shipments, ∃ checksum, shipment.Accepted checksum)
    (hreplays : Store.service.Replays store
      (shipments.flatMap (Shipment.exchanges (Request.bring container key id options))) after) :
    (∀ shipment ∈ shipments, shipment.Accepted shipment.record.etag) ∧
      (shipments ≠ [] → upload.hiddenFor ≤ 1) ∧
      ∃ hiddenFor, before.Underway id
        { upload with
          parts := upload.parts.insertMany
            (shipments.map fun shipment ↦ (shipment.slot.number, shipment.record))
          hiddenFor } after := by
  induction shipments generalizing store upload with
  | nil =>
    obtain rfl := Service.replays_nil.mp hreplays
    exact ⟨by simp, by simp, upload.hiddenFor, h⟩
  | cons shipment shipments ih =>
    obtain ⟨checksum, hchecksum⟩ := haccepted shipment List.mem_cons_self
    rw [List.flatMap_cons] at hreplays
    obtain ⟨middle, hfirst, hrest⟩ := Service.replays_append.mp hreplays
    obtain ⟨rfl, hhidden, hmiddle⟩ := h.accept hchecksum hfirst
    obtain ⟨hall, -, hiddenFor, hafter⟩ :=
      ih hmiddle (fun next hnext ↦ haccepted next (List.mem_cons_of_mem _ hnext)) hrest
    refine ⟨?_, fun _ ↦ hhidden, hiddenFor, ?_⟩
    · rintro sent (_ | ⟨_, hsent⟩)
      · exact hchecksum
      · exact hall sent hsent
    · rw [List.map_cons, Std.ExtTreeMap.insertMany_cons]
      exact hafter

/-! ## Parts that must be accepted -/

variable {number : ℕ} (part : Part)

theorem bring_of_clear_seen (h : before.Underway id upload store) (hclear : store.faults.Clear)
    (hcontainer : upload.container ∈ before.containers)
    (hnumber : 1 ≤ number ∧ number ≤ Limits.maxPartCount.toNat) (hseen : upload.hiddenFor = 0) :
    (store.answer (.bring upload.container upload.key id {} number part)).1 =
      .ok (ETag.ofData part.data) := by
  rw [← h.containers] at hcontainer
  rw [Request.bring, answer_uploadPart_of_clear hclear hcontainer hnumber h.upload?_eq_some,
    if_pos hseen]

theorem bring_of_clear_hidden (h : before.Underway id upload store) (hclear : store.faults.Clear)
    (hcontainer : upload.container ∈ before.containers)
    (hnumber : 1 ≤ number ∧ number ≤ Limits.maxPartCount.toNat) (hhidden : upload.hiddenFor ≠ 0) :
    (store.answer (.bring upload.container upload.key id {} number part)).1 =
        .error (.keyNotFound upload.container upload.key (some id)) ∧
      before.Underway id { upload with hiddenFor := upload.hiddenFor - 1 }
        (store.answer (.bring upload.container upload.key id {} number part)).2 := by
  rw [← h.containers] at hcontainer
  rw [Request.bring, answer_uploadPart_of_clear hclear hcontainer hnumber h.upload?_eq_some,
    if_neg hhidden]
  exact ⟨rfl, (h.met _ (by simp [Request.operation])).setUpload _⟩

/-- A part is accepted at the second request at the latest, if its upload is not hidden longer. -/
theorem accepted_of_clear (h : before.Underway id upload store) (hclear : store.faults.Clear)
    (hcontainer : upload.container ∈ before.containers)
    (hnumber : 1 ≤ shipment.slot.number ∧ shipment.slot.number ≤ Limits.maxPartCount.toNat)
    (hhidden : upload.hiddenFor ≤ 1)
    (hreplays : Store.service.Replays store
      (shipment.exchanges (Request.bring upload.container upload.key id {})) after) :
    ∃ checksum, shipment.Accepted checksum := by
  rcases hdelay : shipment.attempt.delay? with - | e
  · simp only [Shipment.exchanges, Attempt.exchanges, Attempt.replies, hdelay, Option.toList_none,
      List.map_nil, List.nil_append, List.map_cons, Service.replays_cons, service_answer]
      at hreplays
    by_cases hseen : upload.hiddenFor = 0
    · rw [h.bring_of_clear_seen _ hclear hcontainer hnumber hseen] at hreplays
      exact ⟨_, hreplays.1.symm⟩
    · rw [(h.bring_of_clear_hidden _ hclear hcontainer hnumber hseen).1] at hreplays
      exact absurd rfl (shipment.attempt.settled hdelay _ hreplays.1.symm)
  · simp only [Shipment.exchanges, Attempt.exchanges, Attempt.replies, hdelay, Option.toList_some,
      List.map_cons, List.map_nil, List.cons_append, List.nil_append, Service.replays_cons,
      service_answer] at hreplays
    obtain ⟨hfirst, hsecond, -⟩ := hreplays
    by_cases hseen : upload.hiddenFor = 0
    · rw [h.bring_of_clear_seen _ hclear hcontainer hnumber hseen] at hfirst
      cases hfirst
    · obtain ⟨-, hnext⟩ :=
        h.bring_of_clear_hidden shipment.part hclear hcontainer hnumber hseen
      have hsecond' := hnext.bring_of_clear_seen shipment.part (clear_answer hclear _)
        hcontainer hnumber (by simp only; omega)
      exact ⟨_, hsecond.symm.trans hsecond'⟩

end Store.Underway

/-- When no failure is queued, all parts that a stream offers are accepted. -/
theorem Sending.ok_of_offers {stream : PartStream} {planned index : ℕ} {slots : List Slot}
    {shipments : List Shipment} {result : Except UploadError Unit} {before store after : Store}
    {id : String} {upload : StoredUpload}
    (h : Sending stream planned slots index shipments result) (hoffers : stream.Offers slots index)
    (hnumbers : ∀ slot ∈ slots, 1 ≤ slot.number ∧ slot.number ≤ Limits.maxPartCount.toNat)
    (hunderway : before.Underway id upload store) (hclear : store.faults.Clear)
    (hcontainer : upload.container ∈ before.containers) (hhidden : upload.hiddenFor ≤ 1)
    (hreplays : Store.service.Replays store (shipments.flatMap
      (Shipment.exchanges (Request.bring upload.container upload.key id {}))) after) :
    result = .ok () := by
  induction h generalizing store upload with
  | finished => rfl
  | surplus hitem =>
    rw [PartStream.Offers, hitem] at hoffers
    cases hoffers
  | shortfall hend =>
    obtain ⟨⟨part, hitem, -⟩, -⟩ := hoffers
    rw [hend] at hitem
    cases hitem
  | @unread slots index failure hitem =>
    cases slots with
    | nil =>
      rw [PartStream.Offers, hitem] at hoffers
      cases hoffers
    | cons slot slots =>
      obtain ⟨⟨part, hoffered, -⟩, -⟩ := hoffers
      rw [hitem] at hoffered
      cases hoffered
  | misfit hitem hcheck =>
    obtain ⟨⟨part, hoffered, hfits⟩, -⟩ := hoffers
    rw [hitem] at hoffered
    cases hoffered
    rw [hcheck] at hfits
    cases hfits
  | refused shipment hitem hreply =>
    rw [List.flatMap_singleton] at hreplays
    obtain ⟨checksum, haccepted⟩ := hunderway.accepted_of_clear hclear hcontainer
      (hnumbers _ List.mem_cons_self) hhidden hreplays
    rw [Shipment.Accepted, hreply] at haccepted
    cases haccepted
  | accepted shipment hitem hreply _ ih =>
    rw [List.flatMap_cons] at hreplays
    obtain ⟨middle, hfirst, hrest⟩ := Service.replays_append.mp hreplays
    obtain ⟨-, -, hmiddle⟩ := hunderway.accept hreply hfirst
    exact ih hoffers.2 (fun slot hslot ↦ hnumbers slot (List.mem_cons_of_mem _ hslot)) hmiddle
      (Store.clear_replays hclear hfirst) hcontainer (Nat.zero_le 1) hrest

end MultipartUpload
