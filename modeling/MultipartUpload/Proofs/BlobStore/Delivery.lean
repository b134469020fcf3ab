import MultipartUpload.BlobStore
import MultipartUpload.Proofs.Memory.Assembly

/-!
# Delivery of blobs

When the in-memory service has no failure queued, a blob is put exactly if its name and its
container are in order, its options can be sent, and its source brings the bytes it declares. In
parts it is put if it can be planned too and the service sees the upload at the second request. The
object is the same either way: it has the bytes, the metadata and the options it was put with.
-/

namespace MultipartUpload

/-! ## Objects -/

/-- What an object has from the blob that it was put for. -/
structure StoredObject.Delivers (object : StoredObject) (blob : Blob) (options : StoredOptions)
    (identifier : String) : Prop where
  key : object.key = blob.name
  etag : object.etag = identifier
  data : blob.payload.Provides object.data
  size : object.size = object.data.length
  metadata : object.metadata = blob.metadata
  options : object.options = options

/-- When putting a blob with some options succeeds, and with what object. -/
structure Delivered (store : Store) (container : String) (blob : Blob) (options : UploadOptions)
    (possible : Prop) (partsCount? : Option ℕ) (result : Except UploadError String)
    (after : Store) : Prop where
  succeeds : (∃ identifier, result = .ok identifier) ↔
    container ∈ store.containers ∧ (∃ headers, options.headers store.headerTag = .ok headers) ∧
      (∃ bytes, blob.payload.Provides bytes) ∧ possible
  object : ∀ identifier, result = .ok identifier →
    ∃ object, after.containers = (store.place container object).containers ∧
      object.Delivers blob options.stored identifier ∧ object.partsCount? = partsCount?

namespace Delivered

variable {store after : Store} {container : String} {blob : Blob} {options : UploadOptions}
  {possible : Prop} {partsCount? : Option ℕ} {result : Except UploadError String}

/-- What is not possible fails. -/
theorem of_error (e : UploadError) (h : ¬possible) :
    Delivered store container blob options possible partsCount? (.error e) after where
  succeeds := by simp [h]
  object := nofun

theorem congr {possible' : Prop}
    (h : Delivered store container blob options possible partsCount? result after)
    (hpossible : possible ↔ possible') :
    Delivered store container blob options possible' partsCount? result after where
  succeeds := by rw [h.succeeds, hpossible]
  object := h.object

/-- The object is found under its key. -/
theorem object?_eq_some
    (h : Delivered store container blob options possible partsCount? result after)
    {object : StoredObject} (hkey : object.key = blob.name)
    (hcontainers : after.containers = (store.place container object).containers)
    {identifier : String} (hresult : result = .ok identifier) :
    after.object? container blob.name = some object := by
  have hcontainer : container ∈ store.containers := (h.succeeds.mp ⟨identifier, hresult⟩).1
  rw [Store.object?_congr hcontainers, Store.object?_place hcontainer, if_pos ⟨rfl, hkey⟩]

end Delivered

variable {store : Store} {container : String} {blob : Blob}

theorem mapError_eq_ok {ε ε' α : Type} {f : ε → ε'} {reply : Except ε α} {granted : α} :
    reply.mapError f = .ok granted ↔ reply = .ok granted := by
  cases reply <;> simp [Except.mapError]

theorem Engine.putWhole_delivered (hclear : store.faults.Clear) (container : String) (blob : Blob)
    (options : UploadOptions) :
    let talk := putWhole Store.service container blob options store
    Delivered store container blob options True none talk.outcome.result talk.state := by
  simp only [putWhole, Talk.map_outcome, Talk.map_state, Service.ask_outcome, Service.ask_state,
    Store.service_answer]
  constructor
  · simp only [mapError_eq_ok]
    constructor
    · rintro ⟨identifier, hgranted⟩
      obtain ⟨hcontainer, bytes, hbytes, -⟩ := Store.putObject_of_ok hgranted
      exact ⟨hcontainer, Store.headers_of_answer_ok hgranted, ⟨bytes, hbytes⟩, trivial⟩
    · rintro ⟨hcontainer, ⟨headers, hheaders⟩, ⟨bytes, hbytes⟩, -⟩
      exact ⟨_, Store.answer_putObject_of_clear hclear hcontainer hheaders hbytes⟩
  · intro identifier hresult
    obtain ⟨-, bytes, hbytes, rfl, hobject⟩ := Store.putObject_of_ok (mapError_eq_ok.mp hresult)
    exact ⟨_, hobject, ⟨rfl, rfl, hbytes, rfl, rfl, rfl⟩, rfl⟩

/-- A blob that is planned in parts is put if its upload is hidden from one request at most. -/
theorem Conversation.delivered {engine : Engine} {options : RequestOptions}
    {exchanges : List Exchange} {result : Except UploadError String} {after : Store} {plan : Plan}
    (h : Conversation engine container blob options exchanges result)
    (hslicer : engine.slicer = .standard) (hoptions : options.part = {})
    (hplan : engine.PlansFor blob plan) (hparts : ¬plan.isSingle) (hcovers : plan.Covers)
    (hlength : blob.payload.length? = some plan.totalLength) (hclear : store.faults.Clear)
    (hreplays : Store.service.Replays store exchanges after) :
    Delivered store container blob options.main (store.lag ≤ 1) (some plan.partCount) result
      after := by
  rcases h.of_parts hplan hparts with ⟨e, rfl, rfl⟩ | ⟨id, rest, rfl, htransfer⟩
  · have hreply := (Service.replays_cons.mp hreplays).1
    rw [Store.service_answer] at hreply
    constructor
    · simp only [reduceCtorEq, exists_false, false_iff]
      rintro ⟨hcontainer, ⟨headers, hheaders⟩, -, -⟩
      rw [Store.answer_initiate_of_clear hclear hcontainer hheaders] at hreply
      cases hreply
    · exact nofun
  · obtain ⟨hreply, hrest⟩ := Service.replays_cons.mp hreplays
    rw [Store.service_answer] at hreply hrest
    obtain ⟨rfl, hcontainer, hunderway⟩ := Store.underway_of_initiate hreply
    rw [hslicer, hoptions] at htransfer
    constructor
    · constructor
      · rintro ⟨identifier, rfl⟩
        obtain ⟨hlag, parts, -, hbytes, -⟩ :=
          Transfer.delivers hcovers hlength htransfer hunderway rfl hrest
        exact ⟨hcontainer, Store.headers_of_answer_ok hreply, ⟨_, hbytes⟩, hlag⟩
      · rintro ⟨-, -, ⟨bytes, hbytes⟩, hlag⟩
        exact Transfer.ok_of_clear hcovers hlength hbytes htransfer hunderway rfl
          (Store.clear_answer hclear _) hcontainer hlag hrest
    · rintro identifier rfl
      obtain ⟨-, parts, hcount, hbytes, hetag, hcontainers⟩ :=
        Transfer.delivers hcovers hlength htransfer hunderway rfl hrest
      exact ⟨_, hcontainers, ⟨rfl, hetag.symm, hbytes, rfl, rfl, rfl⟩, congrArg some hcount⟩

/-- The number of parts in which a blob is uploaded, if it is cut. -/
def Engine.partsCount? (engine : Engine) (blob : Blob) : Option ℕ :=
  blob.length?.bind fun length ↦
    match engine.sizing.plan length with
    | .ok plan => if plan.isSingle then none else some plan.partCount
    | .error _ => none

/-- A blob is uploaded if its length is declared and can be planned, and it fits into one part or is
hidden from one request at most. -/
theorem Engine.upload_delivered {s : Sizing} (hs : s.Admissible) (hclear : store.faults.Clear)
    (container : String) (blob : Blob) (config : Option PutConfiguration) :
    let engine : Engine := { sizing := s }
    let talk := engine.upload Store.service container blob config store
    Delivered store container blob (RequestOptions.ofConfiguration config).main
      (∃ length, blob.length? = some length ∧ length ≤ s.maxObjectSize ∧
        (length ≤ s.partSize ∨ store.lag ≤ 1))
      (engine.partsCount? blob) talk.outcome.result talk.state := by
  intro engine talk
  have hconversation := engine.upload_conversation Store.service container blob config store
  have hreplays := heldWith_upload Store.service store engine container blob config
  rcases hlength : blob.length? with - | length
  · have htalk : talk = .silent { result := .error (.missingLength blob.name) } store := by
      simp only [talk, upload, hlength]
    rw [htalk]
    exact .of_error _ (by simp)
  · rcases Nat.lt_or_ge s.maxObjectSize length with htooLarge | hmax
    · have htalk : talk =
          .silent { result := .error (.tooLarge ⟨length, s.maxObjectSize⟩) } store := by
        simp only [talk, engine, upload, hlength, Sizing.plan_of_maxObjectSize_lt hs htooLarge]
      rw [htalk]
      apply Delivered.of_error
      rintro ⟨length', hlength', hmax, -⟩
      cases hlength'
      omega
    · obtain ⟨plan, hplan⟩ := (Sizing.plan_isOk_iff hs).mpr hmax
      by_cases hsingle : plan.isSingle
      · have hsmall := (Sizing.isSingle_iff hs hplan).mp hsingle
        have htalk : talk = putWhole Store.service container blob
            (RequestOptions.ofConfiguration config).main store := by
          simp only [talk, engine, upload, hlength, hplan, hsingle, if_true]
        have hcount : engine.partsCount? blob = none := by
          simp [partsCount?, engine, hlength, hplan, hsingle]
        rw [htalk, hcount]
        apply (putWhole_delivered hclear container blob _).congr
        simp [hmax, hsmall]
      · have hlarge := not_le.mp (mt (Sizing.isSingle_iff hs hplan).mpr hsingle)
        obtain ⟨hcovers, rfl⟩ := Sizing.covers_of_plan hs hplan hlarge
        have hcount : engine.partsCount? blob = some plan.partCount := by
          simp [partsCount?, engine, hlength, hplan, hsingle]
        rw [hcount]
        apply (hconversation.delivered rfl (RequestOptions.part_ofConfiguration config)
          ⟨_, hlength, hplan⟩ hsingle hcovers hlength hclear hreplays).congr
        simp [hmax, not_le.mpr hlarge]

theorem ObjectKey.ofString_isOk_iff {s : String} : (∃ key, ofString s = .ok key) ↔
    1 ≤ s.utf8ByteSize ∧ s.utf8ByteSize ≤ maxBytes := by
  unfold ofString
  split_ifs with hempty hlong
  · simp [hempty]
  · simp [hlong]
  · have hsize : s.utf8ByteSize ≠ 0 := fun h ↦ hempty (String.utf8ByteSize_eq_zero_iff.mp h)
    simp only [Except.ok.injEq, exists_eq', true_iff]
    omega

/-- The options that an object has from a put configuration. -/
def PutConfiguration.stored? (config : Option PutConfiguration) : StoredOptions :=
  config.elim {} fun config ↦
    ⟨config.encryption.map (·.algorithm), config.acl, config.storageClass⟩

theorem RequestOptions.stored_main (config : Option PutConfiguration) :
    (ofConfiguration config).main.stored = PutConfiguration.stored? config := by
  cases config with
  | none => rfl
  | some config =>
    rw [main_ofConfiguration_some]
    rfl

/-- When no failure is queued, a blob is put exactly if its key has a length in bounds, its
container exists, its options can be sent and its source brings the bytes it declares, and, if it
may be cut, it declares a length that can be planned and it fits into one part or is hidden from one
request at most. Its object has the bytes of the source up to the declared length, and no other
object changes. -/
theorem put_succeeds_iff_deliverable {c : Config} {blobs : BlobStore}
    (hblobs : BlobStore.ofConfig c = .ok blobs) {store : Store} (hclear : store.faults.Clear)
    (container : String) (blob : Blob) (config : Option PutConfiguration) :
    let talk := blobs.putBlob Store.service container blob config store
    ((∃ identifier, talk.outcome.result = .ok identifier) ↔
      (1 ≤ blob.name.utf8ByteSize ∧ blob.name.utf8ByteSize ≤ 1024) ∧
      container ∈ store.containers ∧
      (∃ headers, (RequestOptions.ofConfiguration config).main.headers store.headerTag =
        .ok headers) ∧
      (∃ bytes, blob.payload.Provides bytes) ∧
      (config.any (·.multipart) → ∃ length, blob.length? = some length ∧
        length ≤ c.maxObjectSize ∧ (length ≤ c.partSize.toNat ∨ store.lag ≤ 1))) ∧
    ∀ identifier, talk.outcome.result = .ok identifier →
      ∃ object, talk.state.object? container blob.name = some object ∧
        talk.state.containers = (store.place container object).containers ∧
        object.Delivers blob (PutConfiguration.stored? config) identifier ∧
        object.partsCount? =
          if config.any (·.multipart) then blobs.engine.partsCount? blob else none := by
  intro talk
  obtain ⟨hs, rfl⟩ := BlobStore.eq_of_ofConfig hblobs
  rw [← RequestOptions.stored_main]
  by_cases hname : 1 ≤ blob.name.utf8ByteSize ∧ blob.name.utf8ByteSize ≤ 1024
  · obtain ⟨key, hkey⟩ := ObjectKey.ofString_isOk_iff.mpr hname
    have hdelivered : Delivered store container blob (RequestOptions.ofConfiguration config).main
        (config.any (·.multipart) → ∃ length, blob.length? = some length ∧
          length ≤ c.maxObjectSize ∧ (length ≤ c.partSize.toNat ∨ store.lag ≤ 1))
        (if config.any (·.multipart) then Engine.partsCount? { sizing := .ofLimits c } blob
          else none)
        talk.outcome.result talk.state := by
      by_cases hmultipart : config.any (·.multipart)
      · simp only [talk, BlobStore.putBlob, hkey, hmultipart, if_true]
        exact (Engine.upload_delivered (Sizing.admissible_of_ofConfig hs) hclear container blob
          config).congr (true_imp_iff.symm)
      · simp only [talk, BlobStore.putBlob, hkey, hmultipart]
        exact (Engine.putWhole_delivered hclear container blob _).congr (by simp)
    simp only [hname, true_and]
    refine ⟨hdelivered.succeeds, fun identifier hresult ↦ ?_⟩
    obtain ⟨object, hcontainers, hdelivers, hcount⟩ := hdelivered.object identifier hresult
    have hobject := hdelivered.object?_eq_some hdelivers.key hcontainers hresult
    exact ⟨object, hobject, hcontainers, hdelivers, hcount⟩
  · rcases hkey : ObjectKey.ofString blob.name with e | key
    · simp [talk, BlobStore.putBlob, hkey, hname]
    · exact absurd (ObjectKey.ofString_isOk_iff.mp ⟨key, hkey⟩) hname

/-- Seven bytes in two parts, the first of which is sent twice. -/
theorem hidden_upload_is_delivered :
    let c : Config := { partSize := 4, minPartSize := 1 }
    let store : Store := { Store.empty c 1 (.labelled "u") with containers := .ofList [("box", ∅)] }
    BlobStore.ofConfig c = .ok ⟨{ sizing := .ofLimits c }⟩ ∧ store.faults.Clear ∧
      ∃ identifier, (BlobStore.putBlob ⟨{ sizing := .ofLimits c }⟩ Store.service "box"
        (.ofName "key" (.ofBytes [1, 2, 3, 4, 5, 6, 7])) (some (.generic true))
        store).outcome.result = .ok identifier := by
  intro c store
  have hvalid : c.validate = .ok () := by decide
  have hblobs : BlobStore.ofConfig c = .ok ⟨{ sizing := .ofLimits c }⟩ := by
    simp only [BlobStore.ofConfig, Engine.ofConfig, Sizing.ofConfig, hvalid]
  have hclear : store.faults.Clear := ⟨rfl, fun _ ↦ rfl, rfl, rfl⟩
  refine ⟨hblobs, hclear, (put_succeeds_iff_deliverable hblobs hclear "box"
    (.ofName "key" (.ofBytes [1, 2, 3, 4, 5, 6, 7])) (some (.generic true))).1.mpr ?_⟩
  refine ⟨by decide, by decide, ⟨∅, rfl⟩, ⟨[1, 2, 3, 4, 5, 6, 7], _, rfl, ?_, rfl⟩, fun _ ↦ ?_⟩
  · rintro length ⟨⟩
    decide
  · exact ⟨7, rfl, by decide, .inr (by decide)⟩

end MultipartUpload
