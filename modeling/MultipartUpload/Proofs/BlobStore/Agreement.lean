import MultipartUpload.Proofs.BlobStore.Cleanup
import MultipartUpload.Proofs.BlobStore.Delivery

/-!
# Agreement of whole and partwise uploads

It makes no difference to a blob of declared length whether it may be cut into parts. As long as no
failure is queued and the service sees an upload at the second request, both ways to put it succeed
or both fail. The objects they store have the same bytes, metadata and options, and a failure of
either changes nothing. Only the put in parts can panic, and then it leaves the upload it began.
-/

namespace MultipartUpload

/-- The same configuration, except that it asks for an upload in parts. -/
def PutConfiguration.inParts : Option PutConfiguration → PutConfiguration
  | none => .generic true
  | some config => { config with multipart := true }

theorem PutConfiguration.multipart_inParts (config : Option PutConfiguration) :
    (inParts config).multipart = true := by
  cases config <;> rfl

theorem RequestOptions.main_inParts (config : Option PutConfiguration) :
    (ofConfiguration (some (.inParts config))).main = (ofConfiguration config).main := by
  rw [main_ofConfiguration_some]
  cases config with
  | none => rfl
  | some config => exact (main_ofConfiguration_some config).symm

/-! ## Objects -/

/-- Whether two objects are the same, except for their tags and the numbers of their parts. -/
structure StoredObject.Resembles (first second : StoredObject) : Prop where
  key : first.key = second.key
  size : first.size = second.size
  data : first.data = second.data
  metadata : first.metadata = second.metadata
  options : first.options = second.options

/-- A payload provides its bytes in one way only. -/
theorem Payload.Provides.unique {payload : Payload} {first second : Bytes}
    (hfirst : payload.Provides first) (hsecond : payload.Provides second) : first = second := by
  obtain ⟨data, hread, -, rfl⟩ := hfirst
  obtain ⟨data', hread', -, rfl⟩ := hsecond
  rw [hread] at hread'
  cases hread'
  rfl

theorem StoredObject.Delivers.resembles {first second : StoredObject} {blob : Blob}
    {options : StoredOptions} {identifier identifier' : String}
    (hfirst : first.Delivers blob options identifier)
    (hsecond : second.Delivers blob options identifier') : first.Resembles second where
  key := hfirst.key.trans hsecond.key.symm
  size := by rw [hfirst.size, hsecond.size, hfirst.data.unique hsecond.data]
  data := hfirst.data.unique hsecond.data
  metadata := hfirst.metadata.trans hsecond.metadata.symm
  options := hfirst.options.trans hsecond.options.symm

/-! ## Two ways to put a blob -/

/-- What two attempts to put a blob in one store have in common. -/
structure Agrees (store : Store) (container key : String) (first second : Talk Store Delivery) :
    Prop where
  succeeds : (∃ identifier, first.outcome.result = .ok identifier) ↔
    ∃ identifier, second.outcome.result = .ok identifier
  objects : ∀ identifier, first.outcome.result = .ok identifier →
    ∃ object object', first.state.object? container key = some object ∧
      second.state.object? container key = some object' ∧ object.Resembles object'
  /-- A failure changes neither objects nor uploads in progress. -/
  unchanged : ∀ e, first.outcome.result = .error e →
    (first.state.containers = store.containers ∧ first.state.uploads = store.uploads) ∧
    second.state.containers = store.containers ∧ second.state.uploads = store.uploads

variable {store : Store} {container : String} {blob : Blob} {options : UploadOptions}
  {partsCount? : Option ℕ} {result : Except UploadError String} {after : Store}

theorem Delivered.exists_object {possible : Prop}
    (h : Delivered store container blob options possible partsCount? result after)
    {identifier : String} (hresult : result = .ok identifier) :
    ∃ object, after.object? container blob.name = some object ∧
      object.Delivers blob options.stored identifier := by
  obtain ⟨object, hcontainers, hdelivers, -⟩ := h.object identifier hresult
  exact ⟨object, h.object?_eq_some hdelivers.key hcontainers hresult, hdelivers⟩

theorem LeavesNoTrace.unchanged {key : String} {exchanges : List Exchange}
    (h : LeavesNoTrace store container key exchanges result after)
    (habort : store.faults.abort = none) {e : UploadError} (hresult : result = .error e) :
    after.containers = store.containers ∧ after.uploads = store.uploads := by
  refine ⟨h.containers e hresult, h.settled ?_⟩
  rintro ⟨-, -, hsome⟩
  rw [habort] at hsome
  cases hsome

/-- Attempts that fail without a request agree. -/
theorem Agrees.of_silent (store : Store) (container key : String) (e : UploadError) :
    Agrees store container key (.silent { result := .error e } store)
      (.silent { result := .error e } store) where
  succeeds := Iff.rfl
  objects identifier hresult := by cases hresult
  unchanged _ _ := ⟨⟨rfl, rfl⟩, rfl, rfl⟩

/-- Attempts that succeed under the same conditions agree. -/
theorem Delivered.agrees {first second : Talk Store Delivery} {partsCount' : Option ℕ}
    (hfirst : Delivered store container blob options True partsCount? first.outcome.result
      first.state)
    (hsecond : Delivered store container blob options True partsCount' second.outcome.result
      second.state)
    (hclean : LeavesNoTrace store container blob.name first.exchanges first.outcome.result
      first.state)
    (hclean' : LeavesNoTrace store container blob.name second.exchanges second.outcome.result
      second.state)
    (habort : store.faults.abort = none) : Agrees store container blob.name first second := by
  have hiff : (∃ identifier, first.outcome.result = .ok identifier) ↔
      ∃ identifier, second.outcome.result = .ok identifier :=
    hfirst.succeeds.trans hsecond.succeeds.symm
  refine ⟨hiff, ?_, ?_⟩
  · intro identifier hresult
    obtain ⟨identifier', hresult'⟩ := hiff.mp ⟨identifier, hresult⟩
    obtain ⟨object, hobject, hdelivers⟩ := hfirst.exists_object hresult
    obtain ⟨object', hobject', hdelivers'⟩ := hsecond.exists_object hresult'
    exact ⟨object, object', hobject, hobject', hdelivers.resembles hdelivers'⟩
  · intro e hresult
    refine ⟨hclean.unchanged habort hresult, ?_⟩
    rcases hresult' : second.outcome.result with e' | identifier
    · exact hclean'.unchanged habort hresult'
    · obtain ⟨identifier', hok⟩ := hiff.mpr ⟨identifier, hresult'⟩
      rw [hresult] at hok
      cases hok

/-- A blob that fits into one part is put whole, whatever its configuration says. -/
theorem Engine.upload_of_le {engine : Engine} {length : ℕ} (hlength : blob.length? = some length)
    (hsmall : length ≤ engine.sizing.partSize) (service : Service σ) (container : String)
    (config : Option PutConfiguration) (state : σ) :
    engine.upload service container blob config state =
      putWhole service container blob (RequestOptions.ofConfiguration config).main state := by
  have hsingle : Plan.isSingle ⟨length, engine.sizing.partSize, 0⟩ = true := rfl
  simp only [upload, hlength, Sizing.plan_of_le hsmall, hsingle, if_true]

theorem BlobStore.putBlob_agrees {c : Config} {blobs : BlobStore}
    (hblobs : BlobStore.ofConfig c = .ok blobs) {store : Store} (hstore : store.Reachable)
    (hclear : store.faults.Clear) (hlag : store.lag ≤ 1) (container : String) {blob : Blob}
    {length : ℕ} (hlength : blob.length? = some length) (hmax : length ≤ c.maxObjectSize)
    {config : Option PutConfiguration} (hconfig : ¬config.any (·.multipart)) :
    let whole := blobs.putBlob Store.service container blob config store
    let parts := blobs.putBlob Store.service container blob (some (.inParts config)) store
    Agrees store container blob.name whole parts ∧
    (length ≤ c.partSize.toNat → whole.state.object? container blob.name =
      parts.state.object? container blob.name) := by
  intro whole parts
  have hclean := blobs.putBlob_leavesNoTrace hstore.nextId_not_mem container blob config
  have hclean' := blobs.putBlob_leavesNoTrace hstore.nextId_not_mem container blob
    (some (.inParts config))
  obtain ⟨hs, rfl⟩ := BlobStore.eq_of_ofConfig hblobs
  rcases hname : ObjectKey.ofString blob.name with e | key
  · have hwhole : whole = .silent { result := .error (.name e) } store := by
      simp only [whole, BlobStore.putBlob, hname]
    have hparts : parts = .silent { result := .error (.name e) } store := by
      simp only [parts, BlobStore.putBlob, hname]
    rw [hwhole, hparts]
    exact ⟨.of_silent store container blob.name (.name e), fun _ ↦ rfl⟩
  · have hwhole : whole = Engine.putWhole Store.service container blob
        (RequestOptions.ofConfiguration config).main store := by
      simp only [whole, BlobStore.putBlob, hname, hconfig]
      rfl
    have hparts : parts = Engine.upload { sizing := .ofLimits c } Store.service container blob
        (some (.inParts config)) store := by
      simp only [parts, BlobStore.putBlob, hname, Option.any_some,
        PutConfiguration.multipart_inParts, if_true]
    constructor
    · have hdelivered := Engine.putWhole_delivered hclear container blob
        (RequestOptions.ofConfiguration config).main
      have hdelivered' := Engine.upload_delivered (Sizing.admissible_of_ofConfig hs) hclear
        container blob (some (.inParts config))
      simp only [← hwhole] at hdelivered
      simp only [← hparts, RequestOptions.main_inParts] at hdelivered'
      apply hdelivered.agrees (hdelivered'.congr ?_) hclean hclean' hclear.abort
      exact iff_true_intro ⟨length, hlength, hmax, .inr hlag⟩
    · intro hsmall
      rw [hwhole, hparts, Engine.upload_of_le hlength hsmall, RequestOptions.main_inParts]

/-- When no failure is queued and an upload is hidden from one request at most, putting a blob of a
declared length that can be planned as a whole returns. If putting it in parts returns too, both
succeed or both fail. The objects differ only in their tags and the numbers of their parts, and not
at all if the blob fits into one part. A failure changes no object and no upload in progress. The
put in parts panics if it has begun an upload and memory cannot be reserved for the first part of
its file, and then it leaves the upload. This does not happen if the greatest parts are below
2 ^ 63 bytes. -/
theorem parts_agree_with_whole {c : Config} {blobs : BlobStore}
    (hblobs : BlobStore.ofConfig c = .ok blobs) {store : Store} (hstore : store.Reachable)
    (hclear : store.faults.Clear) (hlag : store.lag ≤ 1) (container : String) {blob : Blob}
    {length : ℕ} (hlength : blob.length? = some length) (hmax : length ≤ c.maxObjectSize)
    {config : Option PutConfiguration} (hconfig : ¬config.any (·.multipart)) :
    let whole := blobs.putBlob Store.service container blob config store
    let parts := blobs.putBlob Store.service container blob (some (.inParts config)) store
    let reading := blobs.executePut Store.service container blob (some (.inParts config)) store
    blobs.executePut Store.service container blob config store = whole.map .returned ∧
    (reading.outcome ≠ .panicked → reading = parts.map .returned ∧
      Agrees store container blob.name whole parts ∧
      (length ≤ c.partSize.toNat → whole.state.object? container blob.name =
        parts.state.object? container blob.name)) ∧
    (reading.outcome = .panicked ↔ blobs.Overflows blob (some (.inParts config)) ∧ ∃ id,
      (store.answer (.initiate container blob.metadata
        (RequestOptions.ofConfiguration config).main)).1 = .ok id) ∧
    (reading.outcome = .panicked →
      LeavesUpload store container blob.name reading.exchanges reading.state) ∧
    (c.maxPartSize.toNat ≤ maxReservation → reading.outcome ≠ .panicked) := by
  intro whole parts reading
  have hstandard : blobs.reading = blobs := by
    obtain ⟨-, rfl⟩ := BlobStore.eq_of_ofConfig hblobs
    rfl
  refine ⟨?_, fun hreturns ↦ ?_, ?_,
    BlobStore.leavesUpload_of_panicked hstore.nextId_not_mem container,
    blobs.executePut_ne_panicked Store.service container store hblobs⟩
  · have hfits : ¬blobs.Overflows blob config := fun hoverflows ↦ hconfig hoverflows.2.1
    have hwhole := blobs.executePut_of_fits Store.service container store hfits
    rwa [hstandard] at hwhole
  · cases houtcome : reading.outcome with
    | panicked => exact absurd houtcome hreturns
    | returned delivery =>
      have hparts := blobs.executePut_of_returned Store.service container store houtcome
      rw [hstandard] at hparts
      exact ⟨hparts, BlobStore.putBlob_agrees hblobs hstore hclear hlag container hlength hmax
        hconfig⟩
  · rw [← RequestOptions.main_inParts config]
    exact blobs.executePut_eq_panicked_iff Store.service container store

/-- Seven bytes, as a whole and in two parts, the first of which is sent twice. -/
theorem hidden_upload_agrees_with_whole :
    let c : Config := { partSize := 4, minPartSize := 1 }
    let store := (Store.empty c 1 (.labelled "u")).act (.createContainer "box")
    let blob := Blob.ofName "key" (.ofBytes [1, 2, 3, 4, 5, 6, 7])
    let blobs : BlobStore := ⟨{ sizing := .ofLimits c }⟩
    let whole := blobs.putBlob Store.service "box" blob none store
    let parts := blobs.putBlob Store.service "box" blob (some (.generic true)) store
    BlobStore.ofConfig c = .ok blobs ∧ store.Reachable ∧ store.faults.Clear ∧ store.lag = 1 ∧
    blob.length? = some 7 ∧ 7 ≤ c.maxObjectSize ∧
    blobs.executePut Store.service "box" blob none store = whole.map .returned ∧
    blobs.executePut Store.service "box" blob (some (.generic true)) store =
      parts.map .returned ∧
    whole.outcome.result = .ok "\"498001217bc632cb158588224d7d23c4\"" ∧
    parts.outcome.result = .ok "\"99bc04c3ef3d0092098e92581db73c67-2\"" ∧
    Agrees store "box" "key" whole parts := by
  intro c store blob blobs whole parts
  have hblobs : BlobStore.ofConfig c = .ok blobs := BlobStore.ofConfig_of_validate (by decide)
  have hstore : store.Reachable := .step (.empty c 1 (.labelled "u")) (.createContainer "box")
  have hclear : store.faults.Clear := ⟨rfl, fun _ ↦ rfl, rfl, rfl⟩
  have hlag : store.lag = 1 := rfl
  have hlength : blob.length? = some 7 := rfl
  have hmax : 7 ≤ c.maxObjectSize := by decide
  have hconfig : ¬(none : Option PutConfiguration).any (·.multipart) := Bool.false_ne_true
  obtain ⟨hwhole, hreturns, -, -, hfits⟩ :=
    parts_agree_with_whole hblobs hstore hclear hlag.le "box" hlength hmax hconfig
  obtain ⟨hparts, hagrees, -⟩ := hreturns (hfits (by decide +kernel))
  exact ⟨hblobs, hstore, hclear, hlag, hlength, hmax, hwhole, hparts, by decide +kernel,
    by decide +kernel, hagrees⟩

/-- A file of three bytes is declared to be longer than memory can be. As a whole it is found to be
too short, and in parts it is not, and an upload remains. -/
theorem panic_disagrees_with_whole :
    let c : Config :=
      { partSize := 9223372036854775808, maxPartSize := 9223372036854775808 }
    let store := (Store.empty c 0 (.labelled "u")).act (.createContainer "box")
    let payload := (Payload.ofFile "file" [97, 98, 99]).withLength (2 ^ 63 + 1)
    let blob := Blob.ofName "key" payload
    let blobs : BlobStore := ⟨{ sizing := .ofLimits c }⟩
    let whole := blobs.putBlob Store.service "box" blob none store
    let parts := blobs.executePut Store.service "box" blob (some (.generic true)) store
    BlobStore.ofConfig c = .ok blobs ∧ store.Reachable ∧ store.faults.Clear ∧ store.lag = 0 ∧
      2 ^ 63 + 1 ≤ c.maxObjectSize ∧
      blobs.executePut Store.service "box" blob none store = whole.map .returned ∧
      (∃ e, whole.outcome.result = .error e) ∧
      whole.state.containers = store.containers ∧ whole.state.uploads = store.uploads ∧
      parts.outcome = .panicked ∧ parts.state.inProgress "box" = ["u1"] := by
  intro c store payload blob blobs whole parts
  have hblobs : BlobStore.ofConfig c = .ok blobs :=
    BlobStore.ofConfig_of_validate (by decide +kernel)
  have hstore : store.Reachable := .step (.empty c 0 (.labelled "u")) (.createContainer "box")
  have hplan : blobs.engine.sizing.plan (2 ^ 63 + 1) = .ok ⟨2 ^ 63 + 1, 2 ^ 63, 2⟩ := by
    decide +kernel
  have hoverflows : blobs.Overflows blob (some (.generic true)) :=
    ⟨⟨_, rfl⟩, rfl, _, _, rfl, hplan, by decide, by decide +kernel⟩
  have hpanics : parts.outcome = .panicked :=
    (blobs.executePut_eq_panicked_iff Store.service "box" store).mpr
      ⟨hoverflows, "u1", by decide +kernel⟩
  exact ⟨hblobs, hstore, ⟨rfl, fun _ ↦ rfl, rfl, rfl⟩, rfl, by decide +kernel, rfl, ⟨_, rfl⟩, rfl,
    rfl, hpanics, by decide +kernel⟩

end MultipartUpload
