import MultipartUpload.Proofs.Slice.Shortage
import MultipartUpload.Proofs.Upload.Coverage
import MultipartUpload.Proofs.Upload.Supply
import MultipartUpload.Service.Script

/-!
# Sources that fall short of a plan

The whole chunks of a source that is shorter than its plan fit the first slots, and what follows
them fits no slot. So the upload sends the whole chunks and is given up: for a mismatch if the bytes
are in memory, and for a failure to read if they are in a file. The parts of bytes in memory are
therefore those of the plan if and only if there are enough bytes.
-/

namespace MultipartUpload

namespace Plan

variable {plan : Plan} {data : Bytes}

/-- The whole chunks of some bytes, numbered as the plan numbers its parts. -/
def wholeChunks (plan : Plan) (data : Bytes) : List (ℕ × Part) :=
  (List.range (data.length / plan.chunkSize)).map fun index ↦
    (index + 1, Part.chunk plan.chunkSize data index)

theorem Covers.wholeChunks_lt (hplan : plan.Covers) (hshort : data.length < plan.totalLength) :
    data.length / plan.chunkSize < plan.partCount :=
  Nat.div_lt_of_lt_mul (hshort.trans_le hplan.reaches_end)

/-- Whole chunks fit the slots of a plan that goes beyond them. -/
theorem check_chunk (hshort : data.length < plan.totalLength) {index : ℕ}
    (hindex : index < data.length / plan.chunkSize) :
    (plan.slot index).check (Part.chunk plan.chunkSize data index) = .ok () := by
  have hstop := Part.chunk_stop_le hindex
  rw [Slot.check_ok_iff, Part.size_chunk_of_lt hindex]
  refine ⟨rfl, ?_⟩
  rw [slot, min_eq_left (by omega)]

/-- What remains after the whole chunks is too small for its slot. -/
theorem Covers.size_remainder_lt (hplan : plan.Covers) (hshort : data.length < plan.totalLength) :
    (Part.chunk plan.chunkSize data (data.length / plan.chunkSize)).size <
      (plan.slot (data.length / plan.chunkSize)).size := by
  have hdivision := Nat.div_add_mod' data.length plan.chunkSize
  have hremainder := Nat.mod_lt data.length hplan.chunkSize_pos
  rw [Part.size_chunk, slot, lt_min_iff]
  omega

end Plan

namespace Slicer

variable {plan : Plan} {data : Bytes}

/-- What is supplied by a source that falls short is its whole chunks, if nothing more is sent. -/
theorem supply_of_short {payload : Payload} {ending : Except UploadError Unit}
    (hplan : plan.Covers) (hread : payload.source.read = .ok data)
    (hlength : payload.length? = some plan.totalLength) (hshort : data.length < plan.totalLength)
    (hend : ∀ slots, (standard payload plan.chunkSize).supply plan.partCount
      (plan.slot (data.length / plan.chunkSize) :: slots) (data.length / plan.chunkSize) =
        ⟨[], ending⟩) :
    (standard payload plan.chunkSize).supply plan.partCount plan.slots 0 =
      ⟨plan.wholeChunks data, ending⟩ := by
  -- The slots that the whole chunks fill are followed by at least one more.
  let fitting : List (Slot × Part) := (List.range (data.length / plan.chunkSize)).map fun index ↦
    (plan.slot index, Part.chunk plan.chunkSize data index)
  obtain ⟨rest, hrest⟩ := Nat.exists_eq_add_of_lt (hplan.wholeChunks_lt hshort)
  have hslots : plan.slots = fitting.map Prod.fst ++ plan.slot (data.length / plan.chunkSize) ::
      (List.range' (data.length / plan.chunkSize + 1) rest).map plan.slot := by
    rw [hplan.slots_eq, List.range_eq_range', hrest, Nat.add_assoc, List.range'_append_1.symm]
    simp [fitting, List.range_eq_range', List.range'_succ]
  have hoffers : ∀ index pair, fitting[index]? = some pair →
      (standard payload plan.chunkSize).item? (0 + index) = some (.ok pair.2) ∧
        pair.1.check pair.2 = .ok () := by
    intro index pair hpair
    obtain ⟨hindex, hget⟩ := List.getElem?_eq_some_iff.mp hpair
    rw [List.length_map, List.length_range] at hindex
    simp only [fitting, List.getElem_map, List.getElem_range] at hget
    subst hget
    rw [Nat.zero_add]
    exact ⟨standard_item?_of_short hplan.chunkSize_pos hread hlength hshort hindex,
      Plan.check_chunk hshort hindex⟩
  have hcount : 0 + fitting.length = data.length / plan.chunkSize := by simp [fitting]
  rw [hslots, PartStream.supply_append hoffers, hcount, hend]
  simp [fitting, Plan.wholeChunks, Plan.slot]

/-- A file that falls short supplies its whole chunks, and then it cannot be read on. -/
theorem supply_file_of_short (path : String) (hplan : plan.Covers)
    (hshort : data.length < plan.totalLength) :
    (standard ⟨.file path data, some plan.totalLength⟩ plan.chunkSize).supply plan.partCount
        plan.slots 0 =
      ⟨plan.wholeChunks data, .error (.payload (FileReader.endedEarly path data.length))⟩ := by
  apply supply_of_short hplan rfl rfl hshort
  intro slots
  simp only [PartStream.supply, standard_file_item?_end path hplan.chunkSize_pos hshort]

/-- Memory that falls short supplies its whole chunks, and then it departs from the plan. -/
theorem supply_memory_of_short (hplan : plan.Covers) (hshort : data.length < plan.totalLength) :
    ∃ found, (standard ⟨.memory data, some plan.totalLength⟩ plan.chunkSize).supply plan.partCount
      plan.slots 0 = ⟨plan.wholeChunks data, .error (.mismatch found)⟩ := by
  have hitem := standard_memory_item?_end hplan.chunkSize_pos hshort
  split_ifs at hitem with hdivides
  · refine ⟨.shortfall plan.partCount (data.length / plan.chunkSize),
      supply_of_short hplan rfl rfl hshort fun slots ↦ ?_⟩
    simp only [PartStream.supply, hitem]
  · rcases hcheck : (plan.slot (data.length / plan.chunkSize)).check
      (Part.chunk plan.chunkSize data (data.length / plan.chunkSize)) with found | ⟨⟩
    · refine ⟨found, supply_of_short hplan rfl rfl hshort fun slots ↦ ?_⟩
      simp only [PartStream.supply, hitem, hcheck]
    · have hsize := (Slot.check_ok_iff.mp hcheck).2
      exact absurd hsize (hplan.size_remainder_lt hshort).ne

end Slicer

/-! ## Plans and slices -/

/-- Whether the reads of a payload give the parts of a plan: as many as it has, each at the offset
that the cursor hands out and of the size that the plan gives it. -/
structure Plan.Matches (plan : Plan) (reads : List Part.Read) : Prop where
  count : reads.length = plan.partCount
  part : ∀ index < plan.partCount, ∃ part, reads[index]? = some (.ok part) ∧
    part.offset = (Cursor.advanceOffset^[index] plan.cursor).offset ∧
    plan.partSize? (index + 1) = some part.size

namespace Plan.Covers

variable {plan : Plan} {data : Bytes}

theorem matches_of_le (hplan : plan.Covers) (hdata : plan.totalLength ≤ data.length) :
    plan.Matches (Payload.parts ⟨.memory data, some plan.totalLength⟩ plan.chunkSize) where
  count := by
    rw [Slicer.parts_eq_ofBytes hplan.chunkSize_pos rfl rfl hdata, List.length_map,
      Part.ofBytes_eq_cut hplan.chunkSize_pos, Part.length_cut, List.length_take,
      Nat.min_eq_left hdata, hplan.ceilDiv_eq]
  part := by
    intro index hindex
    have hread : (Payload.mk (.memory data) (some plan.totalLength)).source.read = .ok data := rfl
    obtain ⟨part, hitem, hoffset, hsize⟩ := Slicer.standard_fits hplan hread rfl hdata hindex
    rw [Slicer.standard, PartStream.ofList_item?] at hitem
    refine ⟨part, hitem, ?_, ?_⟩
    · rw [hplan.advanceOffset_cursor hindex, hoffset]
      rfl
    · rw [hplan.partSize?_succ hindex, hsize]

/-- The part after the whole chunks tells that there are not enough bytes. -/
theorem not_matches_of_short (hplan : plan.Covers) (hshort : data.length < plan.totalLength) :
    ¬plan.Matches (Payload.parts ⟨.memory data, some plan.totalLength⟩ plan.chunkSize) := by
  intro hmatches
  have hindex := hplan.wholeChunks_lt hshort
  obtain ⟨part, hread, -, hsize⟩ := hmatches.part _ hindex
  have hitem := Slicer.standard_memory_item?_end hplan.chunkSize_pos hshort
  rw [Slicer.standard, PartStream.ofList_item?, hread] at hitem
  split_ifs at hitem
  cases hitem
  rw [hplan.partSize?_succ hindex] at hsize
  exact absurd (Option.some.inj hsize) (hplan.size_remainder_lt hshort).ne'

end Plan.Covers

/-! ## Uploads that nothing is refused to -/

section

variable {plan : Plan} {data : Bytes} {service : Service σ} {options : UploadOptions}
  {tx : Transaction} (hmanifest : tx.manifest = ∅) {state : σ}
include hmanifest

/-- If the service grants everything, memory that falls short is uploaded up to its last whole
chunk. -/
theorem Engine.transfer_of_short (hplan : plan.Covers) (hshort : data.length < plan.totalLength) :
    let talk := transfer service
      (Slicer.standard ⟨.memory data, some plan.totalLength⟩ plan.chunkSize) plan options tx state
    (∀ exchange ∈ talk.exchanges, ∃ granted, exchange.reply = .ok granted) →
      (∃ found, talk.outcome.result = .error (.mismatch found)) ∧
      ∃ parts reply, talk.exchanges = parts ++ [⟨tx.abortRequest, reply⟩] ∧
        parts.map Exchange.request =
          (plan.wholeChunks data).map fun pair ↦ tx.partRequest pair.1 pair.2 options := by
  intro talk hgranted
  obtain ⟨found, hsupply⟩ := Slicer.supply_memory_of_short hplan hshort
  obtain ⟨hexchanges, -, hresult⟩ :=
    transfer_of_ending_error service (Nat.lt_of_succ_lt hplan.partCount_succ_lt) options hmanifest
      state (congrArg Supply.ending hsupply)
  rw [hsupply] at hexchanges hresult
  rw [hexchanges, List.forall_mem_append] at hgranted
  obtain ⟨hsent, hrequests⟩ := sendAll_requests hgranted.1
  rw [hsent] at hresult
  exact ⟨⟨found, hresult⟩, _, _, hexchanges, hrequests⟩

/-- Memory that is long enough never departs from its plan. -/
theorem Engine.transfer_of_long (hplan : plan.Covers) (hdata : plan.totalLength ≤ data.length) :
    ¬∃ found, (transfer service
      (Slicer.standard ⟨.memory data, some plan.totalLength⟩ plan.chunkSize) plan options tx
        state).outcome.result = .error (.mismatch found) := by
  have hread : (Payload.mk (.memory data) (some plan.totalLength)).source.read = .ok data := rfl
  have hending := PartStream.ending_supply_of_offers plan.partCount
    (Slicer.standard_offers hplan hread rfl hdata)
  rintro ⟨found, hresult⟩
  rcases transfer_result_of_ending_ok service (Nat.lt_of_succ_lt hplan.partCount_succ_lt) options
    hmanifest state hending with ⟨identifier, hok⟩ | ⟨e, hrefused⟩
  · rw [hresult] at hok
    cases hok
  · rw [hresult] at hrefused
    cases hrefused

end

/-- The parts of bytes in memory are those of the plan if and only if there are as many bytes as
declared. If the service grants every request, the upload of such bytes fails for a mismatch if and
only if there are fewer; then it sends the whole chunks that there are, each of them once, and ends
with a single abort. -/
theorem plan_and_slices_agree_iff {c : Config} {s : Sizing} (hs : Sizing.ofConfig c = .ok s)
    (data : Bytes) {length : ℕ} {plan : Plan} (hplan : s.plan length = .ok plan)
    (hlarge : s.partSize < length) (service : Service σ) (container : String)
    (metadata : Metadata) (config : Option PutConfiguration) (state : σ) :
    let payload := (Payload.ofBytes data).withLength length
    let main := (RequestOptions.ofConfiguration config).main
    let talk := Engine.upload { sizing := s } service container ⟨metadata, payload⟩ config state
    (plan.Matches (payload.parts plan.chunkSize) ↔ length ≤ data.length) ∧
    ((∀ exchange ∈ talk.exchanges, ∃ granted, exchange.reply = .ok granted) →
      ((∃ found, talk.outcome.result = .error (.mismatch found)) ↔ data.length < length) ∧
      (data.length < length → ∃ id parts reply,
        talk.exchanges = ⟨.initiate container metadata main, .ok id⟩ ::
          (parts ++ [⟨.abort container metadata.name id, reply⟩]) ∧
        parts.length = data.length / plan.chunkSize ∧
        parts.map Exchange.request = (List.range (data.length / plan.chunkSize)).map fun index ↦
          .uploadPart container metadata.name (index + 1) id
            ⟨index * plan.chunkSize, (data.drop (index * plan.chunkSize)).take plan.chunkSize⟩
            {})) := by
  intro payload main talk
  have hadmissible := Sizing.admissible_of_ofConfig hs
  obtain ⟨hcovers, rfl⟩ := Sizing.covers_of_plan hadmissible hplan hlarge
  constructor
  · constructor
    · intro hmatches
      by_contra hshort
      exact hcovers.not_matches_of_short (not_le.mp hshort) hmatches
    · exact hcovers.matches_of_le
  · intro hgranted
    have hparts : ¬plan.isSingle := by
      rw [Sizing.isSingle_iff hadmissible hplan]
      exact not_le.mpr hlarge
    have hplans : Engine.PlansFor { sizing := s } ⟨metadata, payload⟩ plan := ⟨_, rfl, hplan⟩
    obtain ⟨id, hexchanges, hresult⟩ := Engine.upload_begun hplans hparts hgranted
    change talk.exchanges = _ at hexchanges
    change talk.outcome.result = _ at hresult
    rw [hexchanges, List.forall_mem_cons] at hgranted
    rw [hexchanges, hresult]
    rcases Nat.lt_or_ge data.length plan.totalLength with hshort | hlong
    · obtain ⟨hmismatch, parts, reply, hbegun, hrequests⟩ :=
        Engine.transfer_of_short rfl hcovers hshort hgranted.2
      refine ⟨iff_of_true hmismatch hshort, fun _ ↦ ⟨id, parts, reply, ?_, ?_, ?_⟩⟩
      · exact congrArg (⟨.initiate container metadata main, .ok id⟩ :: ·) hbegun
      · simpa [Plan.wholeChunks] using congrArg List.length hrequests
      · rw [hrequests, Plan.wholeChunks, List.map_map]
        rfl
    · have hlong' := not_lt.mpr hlong
      exact ⟨iff_of_false (Engine.transfer_of_long rfl hcovers hlong) hlong', (absurd · hlong')⟩

/-- Nine bytes that are declared to be twelve: two parts are sent, and the third one is too
small. -/
theorem scripted_shortfall_is_a_mismatch :
    let data : Bytes := [1, 2, 3, 4, 5, 6, 7, 8, 9]
    let talk := Engine.upload { sizing := ⟨4, 100, 5 * 2 ^ 30, 10000⟩ } Script.service "box"
      ⟨{ name := "key" }, (Payload.ofBytes data).withLength 12⟩ none ({ uploadId := "u" } : Script)
    Sizing.ofConfig { partSize := 4, minPartSize := 1 } = .ok ⟨4, 100, 5 * 2 ^ 30, 10000⟩ ∧
    Sizing.plan ⟨4, 100, 5 * 2 ^ 30, 10000⟩ 12 = .ok ⟨12, 4, 3⟩ ∧ 4 < 12 ∧
    (∀ exchange ∈ talk.exchanges, ∃ granted, exchange.reply = .ok granted) ∧
    (∃ found, talk.outcome.result = .error (.mismatch found)) ∧
    talk.exchanges.length = 4 := by
  intro data talk
  have hs : Sizing.ofConfig { partSize := 4, minPartSize := 1 } =
      .ok ⟨4, 100, 5 * 2 ^ 30, 10000⟩ := by decide
  have hplan : Sizing.plan ⟨4, 100, 5 * 2 ^ 30, 10000⟩ 12 = .ok ⟨12, 4, 3⟩ := by decide
  have hlarge : 4 < 12 := by decide
  have hgranted : ∀ exchange ∈ talk.exchanges, ∃ granted, exchange.reply = .ok granted := by
    intro exchange hmem
    have hok : exchange.reply.toOption.isSome :=
      (by decide +kernel : ∀ exchange ∈ talk.exchanges, exchange.reply.toOption.isSome) exchange
        hmem
    cases hreply : exchange.reply with
    | error e => simp [hreply, Except.toOption] at hok
    | ok granted => exact ⟨granted, rfl⟩
  have hagree := (plan_and_slices_agree_iff hs data hplan hlarge Script.service "box"
    { name := "key" } none ({ uploadId := "u" } : Script)).2 hgranted
  obtain ⟨id, parts, reply, hexchanges, hcount, -⟩ := hagree.2 (by decide)
  refine ⟨hs, hplan, hlarge, hgranted, hagree.1.mpr (by decide), ?_⟩
  change talk.exchanges = _ at hexchanges
  simp [hexchanges, hcount, data]

end MultipartUpload
