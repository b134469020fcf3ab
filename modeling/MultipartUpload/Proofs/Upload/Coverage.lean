import MultipartUpload.Proofs.Slice.Tiling
import MultipartUpload.Proofs.Upload.Conversation
import MultipartUpload.Service.Script

/-!
# Coverage of payloads by uploads

An upload never sends a part other than the plan has it, whatever its slicer offers. When it asks
for completion, the parts that were accepted tile the payload from its first byte to its last, and
with the standard slicer they join to the bytes of the source.
-/

namespace MultipartUpload

/-- The part that an exchange brought to the service, with its number. -/
def Exchange.acceptedPart? : Exchange → Option (ℕ × Part)
  | ⟨.uploadPart _ _ number _ part _, .ok _⟩ => some (number, part)
  | _ => none

/-- The parts that the service accepted, in the order in which they were sent. -/
def acceptedParts (exchanges : List Exchange) : List (ℕ × Part) :=
  exchanges.filterMap Exchange.acceptedPart?

/-! ## Parts of a plan -/

/-- Parts that fit the slots of a plan from some index on tile the rest of the payload. -/
theorem Plan.Covers.tiles {plan : Plan} (hplan : plan.Covers) (parts : List Part) (start : ℕ)
    (hcount : start + parts.length = plan.partCount)
    (hfits : ∀ index (h : index < parts.length),
      parts[index].offset = (plan.slot (start + index)).offset ∧
      parts[index].size = (plan.slot (start + index)).size) :
    Tiles (min (start * plan.chunkSize) plan.totalLength) parts plan.totalLength := by
  induction parts generalizing start with
  | nil =>
    have hstart : start = plan.partCount := by simpa using hcount
    have hreach := hplan.reaches_end
    rw [hstart, mul_comm, min_eq_right hreach]
    exact .nil
  | cons part parts ih =>
    rw [List.length_cons] at hcount
    have hstart : start < plan.partCount := by omega
    obtain ⟨hoffset, hsize⟩ := hfits 0 (by simp)
    simp only [List.getElem_cons_zero, Nat.add_zero] at hoffset hsize
    have hbefore := hplan.slot_start_lt hstart
    have hpos := hplan.slot_size_pos hstart
    have hoffset' : min (start * plan.chunkSize) plan.totalLength = part.offset := by
      rw [min_eq_left hbefore.le, hoffset]
      rfl
    rw [hoffset']
    refine .cons (hsize ▸ hpos) ?_
    have hnext : part.offset + part.size =
        min ((start + 1) * plan.chunkSize) plan.totalLength := by
      rw [hoffset, hsize, Nat.add_mul, Nat.one_mul]
      simp only [slot]
      omega
    rw [hnext]
    apply ih (start + 1) (by omega)
    intro index hindex
    have hfit := hfits (index + 1) (by rw [List.length_cons]; omega)
    rw [Nat.add_assoc, Nat.add_comm 1]
    exact hfit

/-- The standard slicer offers the parts of a plan if the source is as long as the plan says. -/
theorem Slicer.standard_offers {payload : Payload} {plan : Plan} {data : Bytes}
    (hplan : plan.Covers) (hread : payload.source.read = .ok data)
    (hlength : payload.length? = some plan.totalLength) (hdata : plan.totalLength ≤ data.length) :
    (standard payload plan.chunkSize).Offers plan.slots 0 := by
  have hoffers : ∀ count start, start + count = plan.partCount →
      (standard payload plan.chunkSize).Offers ((List.range' start count).map plan.slot) start := by
    intro count
    induction count with
    | zero =>
      intro start hstart
      rw [Nat.add_zero] at hstart
      rw [hstart]
      exact standard_ends hplan hread hlength hdata
    | succ count ih =>
      intro start hstart
      obtain ⟨part, hitem, hfits⟩ := standard_fits hplan hread hlength hdata
        (show start < plan.partCount by omega)
      exact ⟨⟨part, hitem, Slot.check_ok_iff.mpr hfits⟩, ih (start + 1) (by omega)⟩
  rw [hplan.slots_eq, List.range_eq_range']
  exact hoffers plan.partCount 0 (Nat.zero_add _)

/-! ## Parts of an upload -/

theorem Shipment.acceptedParts_exchanges {shipment : Shipment} {checksum : String}
    (h : shipment.Accepted checksum) (container key id : String) (options : UploadOptions) :
    acceptedParts (shipment.exchanges (Request.bring container key id options)) =
      [(shipment.slot.number, shipment.part)] := by
  have hreply : shipment.attempt.reply = .ok checksum := h
  simp only [acceptedParts, exchanges, Attempt.exchanges, Attempt.replies, hreply]
  cases shipment.attempt.delay? <;> rfl

theorem acceptedParts_shipments {shipments : List Shipment}
    (h : ∀ shipment ∈ shipments, ∃ checksum, shipment.Accepted checksum)
    (container key id : String) (options : UploadOptions) :
    acceptedParts
        (shipments.flatMap (Shipment.exchanges (Request.bring container key id options))) =
      shipments.map fun shipment ↦ (shipment.slot.number, shipment.part) := by
  induction shipments with
  | nil => rfl
  | cons shipment shipments ih =>
    obtain ⟨checksum, haccepted⟩ := h shipment (by simp)
    rw [List.flatMap_cons, acceptedParts, List.filterMap_append]
    change acceptedParts _ ++ acceptedParts _ = _
    rw [shipment.acceptedParts_exchanges haccepted,
      ih fun next hnext ↦ h next (List.mem_cons_of_mem _ hnext)]
    rfl

namespace Sending

variable {stream : PartStream} {plan : Plan} {shipments : List Shipment}
  {result : Except UploadError Unit}

theorem tiles (hplan : plan.Covers)
    (h : Sending stream plan.partCount plan.slots 0 shipments (.ok ())) :
    Tiles 0 (shipments.map Shipment.part) plan.totalLength := by
  have hslots := h.of_ok.1
  rw [hplan.slots_eq] at hslots
  have htiles := hplan.tiles (shipments.map Shipment.part) 0 (by simpa using h.length_eq hplan) ?_
  · simpa using htiles
  · intro index hindex
    rw [List.length_map] at hindex
    have hslot : shipments[index].slot = plan.slot index := by
      have hget := List.getElem_of_eq hslots (by simpa using hindex)
      simpa using hget
    rw [List.getElem_map, Nat.zero_add, ← hslot]
    exact Slot.check_ok_iff.mp shipments[index].fits

end Sending

/-- The parts that an upload sends are shipments for the slots of its plan. -/
theorem Transfer.mem_uploadPart {stream : PartStream} {plan : Plan} {container key id : String}
    {options : UploadOptions} {exchanges : List Exchange} {result : Except UploadError String}
    (h : Transfer stream plan container key id options exchanges result)
    {container' key' id' : String} {number : ℕ} {part : Part} {options' : UploadOptions}
    {reply : Reply}
    (hmem : ⟨.uploadPart container' key' number id' part options', reply⟩ ∈ exchanges) :
    ∃ shipment : Shipment, shipment.slot ∈ plan.slots ∧ shipment.slot.number = number ∧
      shipment.part = part := by
  have hshipped : ∀ {shipments : List Shipment} {result : Except UploadError Unit},
      Sending stream plan.partCount plan.slots 0 shipments result →
      (⟨.uploadPart container' key' number id' part options', reply⟩ : Exchange) ∈
        shipments.flatMap (Shipment.exchanges (Request.bring container key id options)) →
      ∃ shipment : Shipment, shipment.slot ∈ plan.slots ∧ shipment.slot.number = number ∧
        shipment.part = part := by
    intro shipments result hsent hparts
    obtain ⟨shipment, hshipment, hrequest⟩ := Shipment.request_of_mem hparts
    cases hrequest
    exact ⟨shipment, hsent.mem_slots hshipment, rfl, rfl⟩
  cases h with
  | completed hsent | incomplete hsent | aborted hsent =>
    rcases List.mem_append.mp hmem with hparts | hend
    · exact hshipped hsent hparts
    · simp at hend

/-- An upload asks for completion only after every slot of its plan was filled. -/
theorem Transfer.mem_complete {stream : PartStream} {plan : Plan} {container key id : String}
    {options : UploadOptions} {exchanges : List Exchange} {result : Except UploadError String}
    (h : Transfer stream plan container key id options exchanges result)
    {container' key' id' : String} {manifest : Manifest} {reply : Reply}
    (hmem : ⟨.complete container' key' id' manifest, reply⟩ ∈ exchanges) :
    ∃ shipments : List Shipment,
      Sending stream plan.partCount plan.slots 0 shipments (.ok ()) ∧
      acceptedParts exchanges =
        shipments.map fun shipment ↦ (shipment.slot.number, shipment.part) := by
  cases h with
  | completed hsent | incomplete hsent =>
    refine ⟨_, hsent, ?_⟩
    rw [acceptedParts, List.filterMap_append]
    change acceptedParts _ ++ [] = _
    rw [List.append_nil, acceptedParts_shipments hsent.of_ok.2]
  | aborted hsent =>
    rcases List.mem_append.mp hmem with hparts | hend
    · obtain ⟨shipment, -, hrequest⟩ := Shipment.request_of_mem hparts
      cases hrequest
    · simp at hend

/-- The standard slicer fills the slots with the bytes of the source. -/
theorem Sending.flatMap_data {payload : Payload} {plan : Plan} {shipments : List Shipment}
    (hplan : plan.Covers)
    (h : Sending (Slicer.standard payload plan.chunkSize) plan.partCount plan.slots 0 shipments
      (.ok ())) :
    ∃ data, payload.source.read = .ok data ∧ plan.totalLength ≤ data.length ∧
      (shipments.map Shipment.part).flatMap Part.data = data.take plan.totalLength := by
  have htiles := h.tiles hplan
  have hpart : ∀ part ∈ shipments.map Shipment.part,
      ∃ data, payload.source.read = .ok data ∧ part.IsSliceOf data := by
    intro part hmem
    obtain ⟨shipment, hshipment, rfl⟩ := List.mem_map.mp hmem
    obtain ⟨index, hindex⟩ := List.mem_iff_getElem?.mp hshipment
    exact Slicer.standard_isSliceOf (h.offered index hindex)
  obtain ⟨data, hread⟩ : ∃ data, payload.source.read = .ok data := by
    -- There is a first part, and it was read from the source.
    rcases hparts : shipments.map Shipment.part with - | ⟨part, parts⟩
    · rw [hparts] at htiles
      have hlength := htiles.sum_sizes
      have hbefore := hplan.before_last
      simp at hlength
      omega
    · obtain ⟨data, hread, -⟩ := hpart part (by rw [hparts]; simp)
      exact ⟨data, hread⟩
  have hslices : ∀ part ∈ shipments.map Shipment.part, part.IsSliceOf data := by
    intro part hmem
    obtain ⟨data', hread', hslice⟩ := hpart part hmem
    rw [hread] at hread'
    cases hread'
    exact hslice
  exact ⟨data, hread, htiles.stop_le hslices (Nat.zero_le _),
    by rw [htiles.flatMap_data hslices]; rfl⟩

/-- Every part that an upload sends has the number, the offset and the size that the plan gives it,
and is not empty. When the upload asks for completion, the parts that were accepted are numbered
from one and tile the payload; those of the standard slicer join to the bytes of the source. -/
theorem uploaded_parts_follow_plan {c : Config} {s : Sizing} (hs : Sizing.ofConfig c = .ok s)
    (slicer : Slicer) (service : Service σ) (container : String) (blob : Blob)
    (config : Option PutConfiguration) (state : σ) {length : ℕ} {plan : Plan}
    (hlength : blob.length? = some length) (hplan : s.plan length = .ok plan)
    (hlarge : s.partSize < length) :
    let exchanges := (Engine.upload ⟨s, slicer⟩ service container blob config state).exchanges
    (∀ container' key number id part options reply,
      ⟨.uploadPart container' key number id part options, reply⟩ ∈ exchanges →
        1 ≤ number ∧ part.offset = (number - 1) * plan.chunkSize ∧
        plan.partSize? number = some part.size ∧ part.data ≠ []) ∧
    ∀ container' key id manifest reply,
      ⟨.complete container' key id manifest, reply⟩ ∈ exchanges →
        (acceptedParts exchanges).map Prod.fst = List.range' 1 plan.partCount ∧
        Tiles 0 ((acceptedParts exchanges).map Prod.snd) length ∧
        ((acceptedParts exchanges).map (·.2.size)).sum = length ∧
        (slicer = .standard → ∃ data, blob.payload.source.read = .ok data ∧
          length ≤ data.length ∧
          (acceptedParts exchanges).flatMap (·.2.data) = data.take length) := by
  intro exchanges
  obtain ⟨hcovers, rfl⟩ := Sizing.covers_of_plan (Sizing.admissible_of_ofConfig hs) hplan hlarge
  have hconversation :=
    Engine.upload_conversation ⟨s, slicer⟩ service container blob config state
  change Conversation _ _ _ _ exchanges _ at hconversation
  generalize exchanges = exchanges at hconversation ⊢
  generalize Delivery.result _ = result at hconversation
  cases hconversation with
  | lengthMissing | tooLarge | whole | refused => simp
  | @begun plan' hplan' _ id exchanges _ htransfer =>
    obtain rfl : plan' = plan := hplan'.unique ⟨_, hlength, hplan⟩
    constructor
    · intro container' key number id' part options reply hmem
      obtain ⟨shipment, hslot, rfl, rfl⟩ := htransfer.mem_uploadPart (by simpa using hmem)
      obtain ⟨hoffset, hsize⟩ := Slot.check_ok_iff.mp shipment.fits
      rw [hcovers.slots_eq] at hslot
      obtain ⟨index, hindex, hslot⟩ := List.mem_map.mp hslot
      rw [List.mem_range] at hindex
      rw [← hslot] at hoffset hsize ⊢
      refine ⟨Nat.succ_pos index, hoffset, ?_, ?_⟩
      · rw [hsize]
        exact hcovers.partSize?_succ hindex
      · have hpos := hcovers.slot_size_pos hindex
        rw [← hsize] at hpos
        exact List.ne_nil_of_length_pos hpos
    · intro container' key id' manifest reply hmem
      obtain ⟨shipments, hsent, haccepted⟩ := htransfer.mem_complete (by simpa using hmem)
      have htiles := hsent.tiles hcovers
      -- The request that begins the upload brings no part.
      rw [show acceptedParts (⟨.initiate container blob.metadata
        (RequestOptions.ofConfiguration config).main, .ok id⟩ :: exchanges) = _ from haccepted]
      simp only [List.map_map, Function.comp_def, List.flatMap_map]
      refine ⟨?_, htiles, ?_, ?_⟩
      · rw [hsent.numbers hcovers, hsent.length_eq hcovers]
      · simpa [Function.comp_def] using htiles.sum_sizes
      · rintro rfl
        simpa [List.flatMap_map] using hsent.flatMap_data hcovers

/-- Seven bytes in parts of four and three, and the completion of both. -/
theorem scripted_parts_follow_plan :
    let engine : Engine := ⟨⟨4, 100, 5 * 2 ^ 30, 10000⟩, .standard⟩
    let blob := Blob.ofName "key" (.ofBytes [1, 2, 3, 4, 5, 6, 7])
    let exchanges :=
      (engine.upload Script.service "box" blob none ({ uploadId := "u" } : Script)).exchanges
    let manifest := ((∅ : Manifest).insert 1 "\"etag-1\"").insert 2 "\"etag-2\""
    Sizing.ofConfig { partSize := 4, minPartSize := 1 } = .ok engine.sizing ∧
    blob.length? = some 7 ∧ engine.sizing.plan 7 = .ok ⟨7, 4, 2⟩ ∧ 4 < 7 ∧
    ⟨.uploadPart "box" "key" 1 "u" ⟨0, [1, 2, 3, 4]⟩ {}, .ok "\"etag-1\""⟩ ∈ exchanges ∧
    ⟨.uploadPart "box" "key" 2 "u" ⟨4, [5, 6, 7]⟩ {}, .ok "\"etag-2\""⟩ ∈ exchanges ∧
    ⟨.complete "box" "key" "u" manifest, .ok "\"final-etag\""⟩ ∈ exchanges ∧
    (∀ container key number id part options reply,
      ⟨.uploadPart container key number id part options, reply⟩ ∈ exchanges →
      1 ≤ number ∧ part.offset = (number - 1) * 4 ∧
      Plan.partSize? ⟨7, 4, 2⟩ number = some part.size ∧ part.data ≠ []) ∧
    (acceptedParts exchanges).map Prod.fst = [1, 2] ∧
    Tiles 0 ((acceptedParts exchanges).map Prod.snd) 7 := by
  intro engine blob exchanges manifest
  have hs : Sizing.ofConfig { partSize := 4, minPartSize := 1 } = .ok engine.sizing := by decide
  have hplan : engine.sizing.plan 7 = .ok ⟨7, 4, 2⟩ := by decide
  have hcompleted : ⟨.complete "box" "key" "u" manifest, .ok "\"final-etag\""⟩ ∈ exchanges := by
    decide +kernel
  obtain ⟨hparts, hcomplete⟩ := uploaded_parts_follow_plan hs .standard Script.service "box" blob
    none ({ uploadId := "u" } : Script) rfl hplan (by decide)
  obtain ⟨hnumbers, htiles, -⟩ := hcomplete _ _ _ _ _ hcompleted
  exact ⟨hs, rfl, hplan, by decide, by decide +kernel, by decide +kernel, hcompleted, hparts,
    hnumbers, htiles⟩

end MultipartUpload
