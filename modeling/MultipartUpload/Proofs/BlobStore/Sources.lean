import MultipartUpload.Proofs.BlobStore.Delivery
import MultipartUpload.Proofs.BlobStore.Panic
import MultipartUpload.Proofs.Upload.Shortfall

/-!
# Sources in files and in memory

It makes no difference to a service whether bytes come from a file or from memory: the requests are
the same, and so is the state that they leave. It makes a difference to the caller only if there are
fewer bytes than declared and nothing was refused before that showed, and then only in the error.
-/

namespace MultipartUpload

namespace Blob

variable (metadata : Metadata) (path : String) (data : Bytes) (length : ℕ)

/-- A blob in a file, with its length declared. -/
def inFile : Blob :=
  ⟨metadata, (Payload.ofFile path data).withLength length⟩

/-- A blob in memory, with its length declared anew. -/
def inMemory : Blob :=
  ⟨metadata, (Payload.ofBytes data).withLength length⟩

@[simp]
theorem name_inFile : (inFile metadata path data length).name = metadata.name := rfl

@[simp]
theorem length?_inFile : (inFile metadata path data length).length? = some length := rfl

@[simp]
theorem name_inMemory : (inMemory metadata data length).name = metadata.name := rfl

@[simp]
theorem length?_inMemory : (inMemory metadata data length).length? = some length := rfl

end Blob

/-- What two uploads of the same bytes, from a file and from memory, have in common. -/
structure Interchangeable (container key path : String) (data : Bytes) (length : ℕ)
    (file memory : Talk σ Delivery) : Prop where
  exchanges : file.exchanges = memory.exchanges
  state : file.state = memory.state
  succeeds : ∀ identifier,
    file.outcome.result = .ok identifier ↔ memory.outcome.result = .ok identifier
  /-- The errors differ only if the bytes fall short and nothing was refused before the abort. -/
  differs : file.outcome.result ≠ memory.outcome.result →
    data.length < length ∧
    file.outcome.result = .error (.payload (FileReader.endedEarly path data.length)) ∧
    (∃ found, memory.outcome.result = .error (.mismatch found)) ∧
    ∃ sent id reply, file.exchanges = sent ++ [⟨.abort container key id, reply⟩] ∧
      GrantedInTheEnd sent

namespace Interchangeable

variable {container key path : String} {data : Bytes} {length : ℕ} {file memory : Talk σ Delivery}

theorem of_eq (hexchanges : file.exchanges = memory.exchanges) (hstate : file.state = memory.state)
    (hresult : file.outcome.result = memory.outcome.result) :
    Interchangeable container key path data length file memory where
  exchanges := hexchanges
  state := hstate
  succeeds identifier := by rw [hresult]
  differs h := absurd hresult h

/-- Uploads that go on alike after the same request was granted are alike. -/
theorem after {file' memory' : Talk σ Delivery}
    (h : Interchangeable container key path data length file memory) {request : Request}
    {granted : String}
    (hfile : file'.exchanges = ⟨request, .ok granted⟩ :: file.exchanges ∧
      file'.state = file.state ∧ file'.outcome.result = file.outcome.result)
    (hmemory : memory'.exchanges = ⟨request, .ok granted⟩ :: memory.exchanges ∧
      memory'.state = memory.state ∧ memory'.outcome.result = memory.outcome.result) :
    Interchangeable container key path data length file' memory' := by
  obtain ⟨hexchanges, hstate, hresult⟩ := hfile
  obtain ⟨hexchanges', hstate', hresult'⟩ := hmemory
  constructor
  · rw [hexchanges, hexchanges', h.exchanges]
  · rw [hstate, hstate', h.state]
  · rw [hresult, hresult']
    exact h.succeeds
  · rw [hresult, hresult', hexchanges]
    intro hne
    obtain ⟨hshort, hpayload, hmismatch, sent, id, reply, hsent, hgranted⟩ := h.differs hne
    refine ⟨hshort, hpayload, hmismatch, ⟨request, .ok granted⟩ :: sent, id, reply, ?_, ?_⟩
    · rw [hsent, List.cons_append]
    · exact .granted request granted hgranted

end Interchangeable

variable {plan : Plan} {data : Bytes}

/-- The standard slicer cuts a file and memory alike if there are enough bytes. -/
theorem Slicer.standard_file_eq_memory (path : String) {chunkSize length : ℕ}
    (hchunk : 0 < chunkSize) (hdata : length ≤ data.length) :
    standard ⟨.file path data, some length⟩ chunkSize =
      standard ⟨.memory data, some length⟩ chunkSize := by
  rw [standard, standard, parts_eq_ofBytes hchunk rfl rfl hdata,
    parts_eq_ofBytes hchunk rfl rfl hdata]

namespace Engine

/-- Sources that fall short are sent alike, and their uploads are aborted alike. -/
theorem transfer_interchangeable (path : String) (hplan : plan.Covers)
    (hshort : data.length < plan.totalLength) (service : Service σ) (options : UploadOptions)
    {tx : Transaction} (hmanifest : tx.manifest = ∅) (state : σ) :
    Interchangeable tx.container tx.key path data plan.totalLength
      (transfer service (Slicer.standard ⟨.file path data, some plan.totalLength⟩ plan.chunkSize)
        plan options tx state)
      (transfer service (Slicer.standard ⟨.memory data, some plan.totalLength⟩ plan.chunkSize)
        plan options tx state) := by
  have hfile := Slicer.supply_file_of_short path hplan hshort
  obtain ⟨found, hmemory⟩ := Slicer.supply_memory_of_short hplan hshort
  have hcount := Nat.lt_of_succ_lt hplan.partCount_succ_lt
  obtain ⟨hexchanges, hstate, hresult⟩ := transfer_of_ending_error service hcount options hmanifest
    state (congrArg Supply.ending hfile)
  obtain ⟨hexchanges', hstate', hresult'⟩ := transfer_of_ending_error service hcount options
    hmanifest state (congrArg Supply.ending hmemory)
  rw [hfile] at hexchanges hstate hresult
  rw [hmemory] at hexchanges' hstate' hresult'
  refine ⟨hexchanges.trans hexchanges'.symm, hstate.trans hstate'.symm, ?_, ?_⟩
  · intro identifier
    rw [hresult, hresult']
    simp
  · intro hne
    rw [hresult, hresult'] at hne ⊢
    rcases hsent : (sendAll service options (plan.wholeChunks data) (tx.advance .uploadingParts)
      state).outcome.2 with e | ⟨⟩
    · exact absurd (by simp [hsent, UploadError.unlessRefused]) hne
    · exact ⟨hshort, rfl, ⟨found, rfl⟩, _, tx.uploadId, _, hexchanges,
        sendAll_grantedInTheEnd hsent⟩

/-- The uploads of the same bytes from a file and from memory are alike. -/
theorem upload_interchangeable {s : Sizing} (hs : s.Admissible) {length : ℕ}
    (hplan : s.plan length = .ok plan) (hparts : ¬plan.isSingle) (metadata : Metadata)
    (path : String) (data : Bytes) (service : Service σ) (container : String)
    (config : Option PutConfiguration) (state : σ) :
    Interchangeable container metadata.name path data length
      (upload { sizing := s } service container (.inFile metadata path data length) config state)
      (upload { sizing := s } service container (.inMemory metadata data length) config state) := by
  have hlarge := not_le.mp (mt (Sizing.isSingle_iff hs hplan).mpr hparts)
  obtain ⟨hcovers, rfl⟩ := Sizing.covers_of_plan hs hplan hlarge
  let file := Blob.inFile metadata path data plan.totalLength
  let memory := Blob.inMemory metadata data plan.totalLength
  let options := RequestOptions.ofConfiguration config
  have hfile : PlansFor { sizing := s } file plan := ⟨_, rfl, hplan⟩
  have hmemory : PlansFor { sizing := s } memory plan := ⟨_, rfl, hplan⟩
  rw [upload_of_parts hfile hparts, upload_of_parts hmemory hparts]
  rcases Nat.lt_or_ge data.length plan.totalLength with hshort | hlong
  · rcases hreply : (service.answer (.initiate container metadata options.main) state).1 with e | id
    · obtain ⟨hexchanges, hstate, hresult⟩ :=
        uploadParts_of_refused { sizing := s } file plan options hreply
      obtain ⟨hexchanges', hstate', hresult'⟩ :=
        uploadParts_of_refused { sizing := s } memory plan options hreply
      exact .of_eq (hexchanges.trans hexchanges'.symm) (hstate.trans hstate'.symm)
        (hresult.trans hresult'.symm)
    · exact (transfer_interchangeable path hcovers hshort service options.part
        (show (Transaction.begin { container, key := metadata.name } id).manifest = ∅ from rfl)
        _).after
        (uploadParts_of_begun { sizing := s } file plan options hreply)
        (uploadParts_of_begun { sizing := s } memory plan options hreply)
  · have hstream := Slicer.standard_file_eq_memory path hcovers.chunkSize_pos hlong
    have htalk : uploadParts { sizing := s } service container file options plan state =
        uploadParts { sizing := s } service container memory options plan state := by
      unfold uploadParts
      simp only [file, memory, Blob.inFile, Blob.inMemory, Payload.ofFile, Payload.ofBytes,
        Payload.withLength]
      rw [hstream]
      rfl
    exact .of_eq (congrArg Talk.exchanges htalk) (congrArg Talk.state htalk)
      (congrArg (·.outcome.result) htalk)

end Engine

/-! ## The in-memory service -/

/-- Whole blobs of the same metadata are told apart by their bodies only. -/
theorem Store.answer_putObject_congr (first second : Blob)
    (hmetadata : first.metadata = second.metadata)
    (hbody : body first.payload = body second.payload) (container : String)
    (options : UploadOptions) (store : Store) :
    store.answer (.putObject container first options) =
      store.answer (.putObject container second options) := by
  obtain ⟨metadata, payload⟩ := first
  obtain ⟨metadata', payload'⟩ := second
  cases hmetadata
  have hput : ∀ headers (store : Store), store.putObject container ⟨metadata, payload⟩ headers =
      store.putObject container ⟨metadata, payload'⟩ headers := by
    intro headers store
    simp only [putObject, hbody]
  simp only [answer, perform, hput]
  rfl

section

variable (metadata : Metadata) (path : String) (data : Bytes) (length : ℕ) (container : String)

theorem Engine.putWhole_inFile_state (options : UploadOptions) (store : Store) :
    (putWhole Store.service container (.inFile metadata path data length) options store).state =
      (putWhole Store.service container (.inMemory metadata data length) options store).state := by
  have hanswer := Store.answer_putObject_congr (.inFile metadata path data length)
    (.inMemory metadata data length) rfl rfl container options store
  simp only [putWhole, Talk.map_state, Service.ask_state, Store.service_answer, hanswer]

/-- The bytes of a blob leave the same store behind whether they are in a file or in memory. -/
theorem BlobStore.putBlob_inFile_state {s : Sizing} (hs : s.Admissible)
    (config : Option PutConfiguration) (store : Store) :
    (putBlob ⟨{ sizing := s }⟩ Store.service container (.inFile metadata path data length) config
        store).state =
      (putBlob ⟨{ sizing := s }⟩ Store.service container (.inMemory metadata data length) config
        store).state := by
  simp only [putBlob, Blob.name_inFile, Blob.name_inMemory]
  rcases ObjectKey.ofString metadata.name with e | key
  · rfl
  · simp only
    split
    · rcases hplan : s.plan length with e | plan
      · simp only [Engine.upload, Blob.length?_inFile, Blob.length?_inMemory, hplan,
          Talk.silent_state]
      · by_cases hsingle : plan.isSingle
        · simp only [Engine.upload, Blob.length?_inFile, Blob.length?_inMemory, hplan, hsingle,
            if_true]
          exact Engine.putWhole_inFile_state metadata path data length container _ store
        · exact (Engine.upload_interchangeable hs hplan hsingle metadata path data Store.service
            container config store).state
    · exact Engine.putWhole_inFile_state metadata path data length container _ store

end

end MultipartUpload
