import MultipartUpload.Proofs.Memory.Manifest
import MultipartUpload.Proofs.Memory.Shipping
import MultipartUpload.Proofs.Upload.Coverage

/-!
# Assembly of objects from parts

The manifest of an upload lists its parts in ascending order with the checksums that the service
gave them, so a completion collects all of them. With the standard slicer they join to the bytes
that the payload provides. When no failure is queued, such an upload is always completed.
-/

namespace MultipartUpload

/-- The parts that shipments brought, as a table of an upload. -/
def shippedParts (shipments : List Shipment) : Std.ExtTreeMap ℕ StoredPart :=
  (∅ : Std.ExtTreeMap ℕ StoredPart).insertMany
    (shipments.map fun shipment ↦ (shipment.slot.number, shipment.record))

namespace Sending

variable {stream : PartStream} {plan : Plan} {shipments : List Shipment}

/-- The manifest of an upload lists the parts that were shipped, in their order. -/
theorem toList_manifest (hplan : plan.Covers)
    (h : Sending stream plan.partCount plan.slots 0 shipments (.ok ()))
    (haccepted : ∀ shipment ∈ shipments, shipment.Accepted shipment.record.etag) :
    (shipments.foldl Shipment.enter ∅).toList =
      (shipments.map Shipment.record).map fun part ↦ (part.number, part.etag) := by
  rw [Shipment.foldl_enter haccepted, toList_insertMany_of_ascending, List.map_map]
  · rfl
  · rw [List.pairwise_map]
    exact h.ascending hplan

theorem getElem?_shippedParts (hplan : plan.Covers)
    (h : Sending stream plan.partCount plan.slots 0 shipments (.ok ())) {part : StoredPart}
    (hmem : part ∈ shipments.map Shipment.record) :
    (shippedParts shipments)[part.number]? = some part := by
  obtain ⟨shipment, hshipment, rfl⟩ := List.mem_map.mp hmem
  refine Std.ExtTreeMap.getElem?_insertMany_list_of_mem (Std.compare_eq_iff_eq.mpr rfl) ?_
    (List.mem_map_of_mem hshipment)
  rw [List.pairwise_map]
  exact (h.ascending hplan).imp fun hlt ↦ by simpa using hlt.ne

/-- All parts that were shipped are collected for their manifest. -/
theorem collect (hplan : plan.Covers)
    (h : Sending stream plan.partCount plan.slots 0 shipments (.ok ()))
    (haccepted : ∀ shipment ∈ shipments, shipment.Accepted shipment.record.etag)
    (upload : StoredUpload) (hupload : upload.parts = shippedParts shipments) :
    upload.collect (shipments.foldl Shipment.enter ∅).toList =
      .ok (shipments.map Shipment.record) := by
  rw [h.toList_manifest hplan haccepted]
  apply StoredUpload.collect_map
  intro part hmem
  rw [hupload]
  exact h.getElem?_shippedParts hplan hmem

theorem manifest_not_isEmpty (hplan : plan.Covers)
    (h : Sending stream plan.partCount plan.slots 0 shipments (.ok ()))
    (haccepted : ∀ shipment ∈ shipments, shipment.Accepted shipment.record.etag) :
    ¬(shipments.foldl Shipment.enter ∅).isEmpty := by
  intro hempty
  have hlist := h.toList_manifest hplan haccepted
  have hcount := h.length_eq hplan
  rw [Std.ExtTreeMap.isEmpty_iff.mp hempty] at hlist
  have hlengths := congrArg List.length hlist
  simp only [List.length_map, Std.ExtTreeMap.length_toList, Std.ExtTreeMap.size_empty] at hlengths
  exact hplan.partCount_pos.ne (hlengths.trans hcount)

end Sending

/-! ## Uploads in parts -/

section

variable {before store after : Store} {id : String} {upload : StoredUpload} {payload : Payload}
  {plan : Plan} {exchanges : List Exchange} {result : Except UploadError String}

/-- An upload that is completed was hidden from one request at most, and assembles the bytes that
its payload provides. -/
theorem Transfer.delivers {identifier : String} (hplan : plan.Covers)
    (hlength : payload.length? = some plan.totalLength)
    (h : Transfer (Slicer.standard payload plan.chunkSize) plan upload.container upload.key id {}
      exchanges (.ok identifier))
    (hunderway : before.Underway id upload store) (hempty : upload.parts = ∅)
    (hreplays : Store.service.Replays store exchanges after) :
    upload.hiddenFor ≤ 1 ∧ ∃ parts : List StoredPart,
      parts.length = plan.partCount ∧ payload.Provides (parts.flatMap StoredPart.data) ∧
      identifier = (upload.assemble parts).etag ∧
      after.containers = (before.place upload.container (upload.assemble parts)).containers := by
  generalize hresult : Except.ok identifier = result at h
  cases h with
  | incomplete | aborted => cases hresult
  | @completed shipments hsent identifier =>
    cases hresult
    obtain ⟨middle, hbring, hcomplete⟩ := Service.replays_append.mp hreplays
    obtain ⟨haccepted, hhidden, hiddenFor, hmiddle⟩ := hunderway.acceptAll hsent.of_ok.2 hbring
    rw [hempty] at hmiddle
    simp only [Service.replays_cons, Service.replays_nil, Store.service_answer] at hcomplete
    obtain ⟨hreply, rfl⟩ := hcomplete
    rcases hmiddle.complete upload.container upload.key (shipments.foldl Shipment.enter ∅) with
      ⟨e, herror, -⟩ | ⟨parts, hparts, hgranted, hcontainers, -⟩
    · rw [hreply] at herror
      cases herror
    · rw [hsent.collect hplan haccepted _ rfl] at hparts
      cases hparts
      rw [hreply] at hgranted
      have hcount := hsent.length_eq hplan
      obtain ⟨data, hread, hdata, hjoined⟩ := hsent.flatMap_data hplan
      refine ⟨hhidden ?_, _, ?_, ⟨data, hread, ?_, ?_⟩, Except.ok.inj hgranted, hcontainers⟩
      · rintro rfl
        exact hplan.partCount_pos.ne hcount
      · rw [List.length_map, hcount]
      · simpa [hlength] using hdata
      · rw [hlength, Option.elim_some, ← hjoined, List.flatMap_map, List.flatMap_map]
        rfl

/-- When no failure is queued, an upload is completed if its payload provides its bytes and it is
hidden from one request at most. -/
theorem Transfer.ok_of_clear {bytes : Bytes} (hplan : plan.Covers)
    (hlength : payload.length? = some plan.totalLength) (hbytes : payload.Provides bytes)
    (h : Transfer (Slicer.standard payload plan.chunkSize) plan upload.container upload.key id {}
      exchanges result)
    (hunderway : before.Underway id upload store) (hempty : upload.parts = ∅)
    (hclear : store.faults.Clear) (hcontainer : upload.container ∈ before.containers)
    (hhidden : upload.hiddenFor ≤ 1) (hreplays : Store.service.Replays store exchanges after) :
    ∃ identifier, result = .ok identifier := by
  obtain ⟨data, hread, hdata, -⟩ := hbytes
  have hoffers := Slicer.standard_offers hplan hread hlength (hdata _ hlength)
  cases h with
  | completed hsent identifier => exact ⟨identifier, rfl⟩
  | @incomplete shipments hsent e reply =>
    obtain ⟨middle, hbring, hend⟩ := Service.replays_append.mp hreplays
    obtain ⟨haccepted, -, hiddenFor, hmiddle⟩ := hunderway.acceptAll hsent.of_ok.2 hbring
    rw [hempty] at hmiddle
    have hgranted := Store.answer_complete_of_clear (Store.clear_replays hclear hbring)
      (by rw [hmiddle.containers]; exact hcontainer) (hsent.manifest_not_isEmpty hplan haccepted)
      hmiddle.upload?_eq_some (hsent.collect hplan haccepted _ rfl)
    rw [← Store.service_answer, (Service.replays_cons.mp hend).1] at hgranted
    cases hgranted
  | aborted hsent reply =>
    obtain ⟨middle, hbring, -⟩ := Service.replays_append.mp hreplays
    have hok := hsent.ok_of_offers hoffers (fun slot ↦ hplan.slot_number_bounds) hunderway hclear
      hcontainer hhidden hbring
    cases hok

end

end MultipartUpload
