import MultipartUpload.Proofs.BlobStore.Delivery
import MultipartUpload.Proofs.Text.Strip

/-!
# Directory markers

Slashes at the end of the name of a directory make no difference. Its marker goes up with one
request, on which no failure is queued, whatever the sizes of parts are. Placing it again puts an
equal object in its place.
-/

namespace MultipartUpload

/-- The object that the marker of a directory is stored as. -/
def DirectoryOptions.marker (options : DirectoryOptions) (key : String) : StoredObject where
  key := key
  etag := ETag.ofData []
  size := 0
  metadata := { name := key, contentType := some "application/x-directory" }
  options := ⟨if options = .encryption true then some "AES256" else none, .privateAccess, .standard⟩
  partsCount? := none
  data := []

/-- A name without the slashes at its end. -/
def BlobStore.bareName (name : String) : String :=
  String.ofList (Text.dropEnd (· == '/') name.toList)

/-- A number of slashes. -/
def BlobStore.slashes (count : ℕ) : String :=
  Text.stretch '/' count

/-! ## Options -/

namespace DirectoryOptions

theorem stored?_putConfiguration? (options : DirectoryOptions) (key : String) :
    PutConfiguration.stored? options.putConfiguration? = (options.marker key).options := by
  rcases options with - | - | - <;> rfl

end DirectoryOptions

/-! ## Names -/

namespace BlobStore

theorem directoryKey_eq (name : String) : directoryKey name = bareName name ++ "/" := by
  rw [directoryKey, String.ofList_append, bareName]

/-- A name is its bare name with slashes behind, and the bare name does not end in a slash. -/
theorem bareName_spec (name : String) : (∃ count, name = bareName name ++ slashes count) ∧
    (bareName name).toList.getLast? ≠ some '/' := by
  obtain ⟨⟨back, hback, hname⟩, hlast⟩ := Text.dropEnd_spec (· == '/') name.toList
  constructor
  · refine ⟨back.length, ?_⟩
    rw [bareName, slashes, ← Text.ofList_eq_stretch hback, ← String.ofList_append, ← hname,
      String.ofList_toList]
  · intro hslash
    rw [bareName, String.toList_ofList] at hslash
    exact absurd (hlast '/' hslash) (by decide)

theorem directoryMarker_append_slashes (name : String) (count : ℕ) :
    directoryMarker (name ++ slashes count) = directoryMarker name := by
  rw [directoryMarker, directoryMarker, directoryKey, directoryKey, slashes, String.toList_append,
    Text.dropEnd_append fun c ↦ Text.beq_of_mem_stretch]

theorem utf8ByteSize_directoryKey (name : String) :
    (directoryKey name).utf8ByteSize = (bareName name).utf8ByteSize + 1 := by
  rw [directoryKey_eq, String.utf8ByteSize_append]
  rfl

end BlobStore

/-! ## Placing again -/

namespace Store

variable {store : Store} {container : String} {blob : Blob} {options : UploadOptions}

/-- Of two objects with one key, the second takes the place of the first. -/
theorem place_place {first second : StoredObject} (hkey : first.key = second.key) :
    (store.place container first).place container second = store.place container second := by
  simp only [place, modify_modify, hkey, insert_insert_self]

/-- A whole blob that is put again gets the same reply, and no object changes. -/
theorem answer_putObject_again {data : Bytes} (hdata : body blob.payload = .ok data) :
    let request := Request.putObject container blob options
    let first := store.answer request
    let second := first.2.answer request
    second.1 = first.1 ∧ second.2.containers = first.2.containers := by
  intro request first second
  rcases hheaders : options.headers store.headerTag with e | headers
  · have hfirst : first = (.error (.rejected "InvalidArgument" e.message), store) :=
      answer_putObject_of_error hheaders
    have hsecond : second = first := by
      simp only [second, hfirst]
      exact hfirst
    rw [hsecond]
    exact ⟨rfl, rfl⟩
  · have hfirst : first = _ := answer_putObject hheaders hdata
    have htag : first.2.headerTag = store.headerTag := by
      rw [hfirst]
      split_ifs <;> rfl
    have hsecond : second = _ := answer_putObject (htag ▸ hheaders) hdata
    by_cases hcontainer : container ∈ store.containers
    · rw [if_pos hcontainer] at hfirst
      have hstays : container ∈ first.2.containers := by
        rw [hfirst]
        exact Std.ExtTreeMap.mem_modify.mpr hcontainer
      rw [if_pos hstays] at hsecond
      rw [hsecond, hfirst]
      let object := StoredObject.ofData blob.metadata options.stored data
      have hplaced : ((store.place container object).place container object).containers =
          (store.place container object).containers := congrArg Store.containers (place_place rfl)
      exact ⟨rfl, hplaced⟩
    · rw [if_neg hcontainer] at hfirst
      have hstays : container ∉ first.2.containers := by
        rw [hfirst]
        exact hcontainer
      rw [if_neg hstays] at hsecond
      rw [hsecond, hfirst]
      exact ⟨rfl, rfl⟩

end Store

namespace BlobStore

variable {σ : Type} {blobs : BlobStore} {service : Service σ} {container name : String}
  {options : DirectoryOptions} {state : σ}

/-- The request that puts the marker of a directory. -/
def directoryRequest (container name : String) (options : DirectoryOptions) : Request :=
  .putObject container (directoryMarker name)
    (RequestOptions.ofConfiguration options.putConfiguration?).main

theorem createDirectory_of_long (h : 1024 ≤ (bareName name).utf8ByteSize) :
    blobs.createDirectory service container name options state =
      .silent { result := .error (.name ⟨.keyLength, bareName name ++ "/"⟩) } state := by
  have hname : (directoryMarker name).name = directoryKey name := rfl
  have hsize := utf8ByteSize_directoryKey name
  have hempty : directoryKey name ≠ "" := by
    intro hempty
    rw [hempty] at hsize
    cases hsize
  have hlong : ObjectKey.maxBytes < (directoryKey name).utf8ByteSize := by
    rw [hsize, ObjectKey.maxBytes]
    omega
  rw [createDirectory, putBlob, hname, ObjectKey.ofString, if_neg hempty, if_pos hlong,
    directoryKey_eq]

theorem createDirectory_of_short (h : (bareName name).utf8ByteSize < 1024) :
    blobs.createDirectory service container name options state =
      (service.ask (directoryRequest container name options) state).map fun reply ↦
        { result := reply.mapError .service } := by
  have hname : (directoryMarker name).name = directoryKey name := rfl
  have hsize := utf8ByteSize_directoryKey name
  obtain ⟨key, hkey⟩ : ∃ key, ObjectKey.ofString (directoryKey name) = .ok key := by
    rw [ObjectKey.ofString_isOk_iff, hsize, ObjectKey.maxBytes]
    omega
  simp only [createDirectory, putBlob, hname, hkey, options.not_multipart]
  rfl

theorem createDirectory_exchanges (blobs : BlobStore) (service : Service σ)
    (container name : String) (options : DirectoryOptions) (state : σ) :
    let exchanges := (blobs.createDirectory service container name options state).exchanges
    exchanges = [] ∨ ∃ reply, exchanges = [⟨directoryRequest container name options, reply⟩] := by
  rcases Nat.lt_or_ge (bareName name).utf8ByteSize 1024 with hshort | hlong
  · rw [createDirectory_of_short hshort]
    exact .inr ⟨_, rfl⟩
  · rw [createDirectory_of_long hlong]
    exact .inl rfl

theorem createDirectory_eq_name_error_iff :
    (∃ e, (blobs.createDirectory service container name options state).outcome.result =
      .error (.name e)) ↔ 1024 ≤ (bareName name).utf8ByteSize := by
  rcases Nat.lt_or_ge (bareName name).utf8ByteSize 1024 with hshort | hlong
  · rw [createDirectory_of_short hshort]
    rcases hreply : (service.answer (directoryRequest container name options) state).1
      with e | identifier <;> simp [hreply, Except.mapError, hshort]
  · rw [createDirectory_of_long hlong]
    simp [hlong]

/-- A marker is never cut into parts, so the engines of blob stores make no difference. -/
theorem createDirectory_congr (other : BlobStore) :
    other.createDirectory service container name options state =
      blobs.createDirectory service container name options state := by
  rcases Nat.lt_or_ge (bareName name).utf8ByteSize 1024 with hshort | hlong
  · rw [createDirectory_of_short hshort, createDirectory_of_short hshort]
  · rw [createDirectory_of_long hlong, createDirectory_of_long hlong]

/-- The marker is stored with the options of its directory. -/
theorem ofData_directoryMarker (name : String) (options : DirectoryOptions) :
    StoredObject.ofData (directoryMarker name).metadata
      (RequestOptions.ofConfiguration options.putConfiguration?).main.stored [] =
        options.marker (bareName name ++ "/") := by
  rw [RequestOptions.stored_main, options.stored?_putConfiguration? (bareName name ++ "/"),
    ← directoryKey_eq]
  rfl

/-- Putting the marker succeeds if its container exists and its options can be sent. -/
theorem answer_directoryRequest (store : Store) (container name : String)
    (options : DirectoryOptions) :
    let marker := options.marker (bareName name ++ "/")
    let answer := store.answer (directoryRequest container name options)
    ((∃ identifier, answer.1 = .ok identifier) ↔ container ∈ store.containers ∧
      ∃ headers, (directoryRequest container name options).options.headers store.headerTag =
        .ok headers) ∧
    ∀ identifier, answer.1 = .ok identifier → identifier = marker.etag ∧
      ∃ received, answer.2 =
        { store.place container marker with log := store.log.push received } := by
  intro marker answer
  rcases hheaders : (directoryRequest container name options).options.headers store.headerTag
    with e | headers
  · have hanswer : answer = _ := Store.answer_putObject_of_error hheaders
    simp [hanswer]
  · have hdata : Store.body (directoryMarker name).payload = .ok [] := rfl
    have hanswer : answer = _ := Store.answer_putObject hheaders hdata
    rw [ofData_directoryMarker] at hanswer
    rw [hanswer]
    split_ifs with hcontainer
    · simp [hcontainer, marker, DirectoryOptions.marker]
    · simp [hcontainer]

section

variable {store : Store}

theorem createDirectory_isOk_iff (h : (bareName name).utf8ByteSize < 1024) :
    (∃ identifier, (blobs.createDirectory Store.service container name options
      store).outcome.result = .ok identifier) ↔ container ∈ store.containers ∧
        ∃ headers, (directoryRequest container name options).options.headers store.headerTag =
          .ok headers := by
  rw [createDirectory_of_short h, ← (answer_directoryRequest store container name options).1]
  simp only [Talk.map_outcome, Service.ask_outcome, Store.service_answer, mapError_eq_ok]

/-- What a store is like when a directory has been created. -/
theorem createDirectory_of_ok {identifier : String}
    (h : (blobs.createDirectory Store.service container name options store).outcome.result =
      .ok identifier) :
    let marker := options.marker (bareName name ++ "/")
    let after := (blobs.createDirectory Store.service container name options store).state
    identifier = marker.etag ∧ after.object? container marker.key = some marker ∧
      ∃ received, after = { store.place container marker with
        log := store.log.push received } := by
  intro marker after
  have hshort : (bareName name).utf8ByteSize < 1024 := by
    by_contra hlong
    rw [createDirectory_of_long (not_lt.mp hlong)] at h
    cases h
  have hafter : after = (store.answer (directoryRequest container name options)).2 := by
    simp only [after, createDirectory_of_short hshort]
    rfl
  simp only [createDirectory_of_short hshort, Talk.map_outcome, Service.ask_outcome,
    Store.service_answer, mapError_eq_ok] at h
  obtain ⟨hsucceeds, hplaces⟩ := answer_directoryRequest store container name options
  obtain ⟨hcontainer, -⟩ := hsucceeds.mp ⟨identifier, h⟩
  obtain ⟨hetag, received, hreceived⟩ := hplaces identifier h
  refine ⟨hetag, ?_, received, hafter.trans hreceived⟩
  have hplaced : after.containers = (store.place container marker).containers := by
    rw [hafter, hreceived]
  rw [Store.object?_congr hplaced, Store.object?_place hcontainer, if_pos ⟨rfl, rfl⟩]

/-- A directory that is created again changes no object. -/
theorem createDirectory_again (blobs : BlobStore) (store : Store) (container name : String)
    (options : DirectoryOptions) :
    let create := blobs.createDirectory Store.service container name options
    (create (create store).state).state.containers = (create store).state.containers := by
  intro create
  rcases Nat.lt_or_ge (bareName name).utf8ByteSize 1024 with hshort | hlong
  · simp only [create, createDirectory_of_short hshort]
    exact (Store.answer_putObject_again rfl).2
  · simp only [create, createDirectory_of_long hlong]
    rfl

end

end BlobStore

/-- Creating a directory is one request at most, which puts an empty marker under the name of the
directory with a single slash behind it. How many slashes the name ends in makes no difference, nor
do the sizes of parts and the failures that are queued, and creating the directory again changes no
object. -/
theorem directories_are_single_markers (blobs : BlobStore) (store : Store)
    (container name : String) (options : DirectoryOptions) :
    let bare := BlobStore.bareName name
    let marker := options.marker (bare ++ "/")
    let request := BlobStore.directoryRequest container name options
    let create (name : String) (store : Store) :=
      blobs.createDirectory Store.service container name options store
    let talk := create name store
    ((∃ count, name = bare ++ BlobStore.slashes count) ∧ bare.toList.getLast? ≠ some '/') ∧
    (talk.exchanges = [] ∨ ∃ reply, talk.exchanges = [⟨request, reply⟩]) ∧
    ((∃ e, talk.outcome.result = .error (.name e)) ↔ 1024 ≤ bare.utf8ByteSize) ∧
    (1024 ≤ bare.utf8ByteSize →
      talk = .silent { result := .error (.name ⟨.keyLength, bare ++ "/"⟩) } store) ∧
    (bare.utf8ByteSize < 1024 → ((∃ identifier, talk.outcome.result = .ok identifier) ↔
      container ∈ store.containers ∧
        ∃ headers, request.options.headers store.headerTag = .ok headers)) ∧
    (∀ identifier, talk.outcome.result = .ok identifier → identifier = marker.etag ∧
      talk.state.object? container (bare ++ "/") = some marker ∧
      ∃ received, talk.state =
        { store.place container marker with log := store.log.push received }) ∧
    (∀ count, create (name ++ BlobStore.slashes count) store = talk) ∧
    (∀ other : BlobStore,
      other.createDirectory Store.service container name options store = talk) ∧
    (create name talk.state).state.containers = talk.state.containers := by
  dsimp only
  refine ⟨BlobStore.bareName_spec name, ?_, ?_, ?_, ?_, ?_, ?_, ?_, ?_⟩
  · exact BlobStore.createDirectory_exchanges blobs Store.service container name options store
  · exact BlobStore.createDirectory_eq_name_error_iff
  · exact BlobStore.createDirectory_of_long
  · exact BlobStore.createDirectory_isOk_iff
  · exact fun identifier ↦ BlobStore.createDirectory_of_ok
  · intro count
    simp only [BlobStore.createDirectory, BlobStore.directoryMarker_append_slashes]
  · exact BlobStore.createDirectory_congr
  · exact BlobStore.createDirectory_again blobs store container name options

/-- One of the slashes is left, and a failure that is queued for uploads does not matter. -/
theorem encrypted_directory_is_stored :
    let store : Store := { Store.empty {} 0 (.labelled "u") with containers := .ofList [("box", ∅)] }
    let blobs : BlobStore := ⟨{ sizing := .ofLimits {} }⟩
    let talk := blobs.createDirectory Store.service "box" "photos//" (.encryption true)
      (store.failInitiate (.rejected "SlowDown" "slow down"))
    talk.state.object? "box" "photos/" =
      some ((DirectoryOptions.encryption true).marker "photos/") := by
  intro store blobs talk
  have hbare : BlobStore.bareName "photos//" = "photos" := by decide
  obtain ⟨-, -, -, -, hsucceeds, hplaced, -⟩ := directories_are_single_markers blobs
    (store.failInitiate (.rejected "SlowDown" "slow down")) "box" "photos//" (.encryption true)
  rw [hbare] at hsucceeds hplaced
  obtain ⟨identifier, hidentifier⟩ := (hsucceeds (by decide)).mpr
    ⟨by decide, UploadOptions.headers_isOk_iff.mpr (by decide +kernel)⟩
  exact (hplaced identifier hidentifier).2.1

end MultipartUpload
