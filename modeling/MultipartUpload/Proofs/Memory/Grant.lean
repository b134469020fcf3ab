import MultipartUpload.Proofs.Memory.Answer

/-!
# Requests that are granted

When no failure is queued, a store grants exactly what it should: an upload or an object in a
container that exists, with options that can be sent, a part of an upload that is seen, and a
completion that lists parts with the checksums they have.
-/

namespace MultipartUpload

/-- No failure is queued. -/
structure Faults.Clear (faults : Faults) : Prop where
  initiate : faults.initiate = none
  parts : ∀ number, faults.queue number = []
  complete : faults.complete = none
  abort : faults.abort = none

theorem Faults.Clear.waiting?_eq_none {faults : Faults} (h : faults.Clear) (request : Request) :
    faults.waiting? request = none := by
  cases request with
  | initiate => exact h.initiate
  | uploadPart _ _ number => simp only [waiting?, h.parts number, List.head?_nil]
  | complete => exact h.complete
  | abort => exact h.abort
  | putObject => rfl

/-- Whether the bytes that a payload brings are these: all of them, or as many as it declares. -/
def Payload.Provides (payload : Payload) (bytes : Bytes) : Prop :=
  ∃ data, payload.source.read = .ok data ∧ (∀ length ∈ payload.length?, length ≤ data.length) ∧
    bytes = payload.length?.elim data data.take

namespace Store

variable {store next : Store} {request : Request} {reply : Reply} {container key id : String}
  {options : UploadOptions}

theorem body_eq_ok {payload : Payload} {bytes : Bytes} :
    body payload = .ok bytes ↔ payload.Provides bytes := by
  unfold body Payload.Provides
  rcases hread : payload.source.read with ⟨path, failure⟩ | data
  · simp
  · rcases payload.length? with - | length
    · simp [eq_comm]
    · simp only [Option.elim_some, Option.mem_some_iff, forall_eq', Except.ok.injEq,
        exists_eq_left']
      split_ifs with hshort
      · simp [hshort]
      · simp [not_lt.mp hshort, eq_comm]

/-- An object that is placed is found under its key, and all others stay. -/
theorem object?_place {object : StoredObject} (hcontainer : container ∈ store.containers)
    (container' key : String) : (store.place container object).object? container' key =
      if container = container' ∧ object.key = key then some object
      else store.object? container' key := by
  obtain ⟨objects, hobjects⟩ :=
    Option.isSome_iff_exists.mp (Std.ExtTreeMap.mem_iff_isSome_getElem?.mp hcontainer)
  by_cases hsame : container = container'
  · subst hsame
    simp [object?, place, Std.ExtTreeMap.getElem?_modify_self, hobjects,
      Std.ExtTreeMap.getElem?_insert]
  · simp [object?, place, Std.ExtTreeMap.getElem?_modify, hsame]

theorem object?_congr (h : next.containers = store.containers) (container key : String) :
    next.object? container key = store.object? container key := by
  rw [object?, object?, h]

/-! ## Answers -/

/-- Failures that are not queued stay away. -/
theorem clear_answer (hclear : store.faults.Clear) (request : Request) :
    (store.answer request).2.faults.Clear := by
  rw [(store.answer_effect request).faults, met_faults_of_none (hclear.waiting?_eq_none request)]
  exact hclear

/-- What is granted was sent with headers. -/
theorem headers_of_answer_ok {granted : String} (h : (store.answer request).1 = .ok granted) :
    ∃ headers, request.options.headers store.headerTag = .ok headers := by
  rcases hheaders : request.options.headers store.headerTag with e | headers
  · simp only [answer, Request.received_eq_error hheaders] at h
    cases h
  · exact ⟨headers, rfl⟩

/-- A whole blob that is stored has the bytes that its payload provides. -/
theorem putObject_of_ok {blob : Blob} {granted : String}
    (h : (store.answer (.putObject container blob options)).1 = .ok granted) :
    container ∈ store.containers ∧ ∃ bytes, blob.payload.Provides bytes ∧
      granted = ETag.ofData bytes ∧
      (store.answer (.putObject container blob options)).2.containers =
        (store.place container (.ofData blob.metadata options.stored bytes)).containers := by
  have heffect := store.answer_effect (.putObject container blob options)
  rw [h] at heffect
  generalize hreply : Except.ok granted = reply at heffect
  generalize (store.answer (.putObject container blob options)).2 = next at heffect ⊢
  cases heffect with
  | refused => cases hreply
  | put hcontainer hdata =>
    cases hreply
    rw [met_containers] at hcontainer
    exact ⟨hcontainer, _, body_eq_ok.mp hdata, rfl, by simp only [place, met_containers]⟩

/-- A completion is granted if no failure waits for it and all that it lists is there. -/
theorem answer_complete_of_none {manifest : Manifest} {upload : StoredUpload}
    {parts : List StoredPart} (hfault : store.faults.complete = none)
    (hcontainer : container ∈ store.containers) (hmanifest : ¬manifest.isEmpty)
    (hupload : store.upload? container key id = some upload)
    (hparts : upload.collect manifest.toList = .ok parts) :
    let request := Request.complete container key id manifest
    store.answer request = (.ok (upload.assemble parts).etag,
      ((store.met request).removeUpload id).place container (upload.assemble parts)) := by
  intro request
  have hheaders : request.options.headers store.headerTag = .ok ∅ := rfl
  rw [answer_of_none hheaders hfault]
  simp [request, perform, complete, hcontainer, hmanifest, hupload, hparts]

/-- No failure is queued for a whole blob, so that it is only logged when it arrives. -/
theorem met_putObject {blob : Blob} {headers : Headers}
    (h : options.headers store.headerTag = .ok headers) :
    store.met (.putObject container blob options) = { store with
      log := store.log.push ⟨.putObject, container, blob.name, none, headers⟩ } := by
  have hreceived : (Request.putObject container blob options).received store.headerTag =
      .ok ⟨.putObject, container, blob.name, none, headers⟩ := Request.received_eq_ok h
  simp only [met, hreceived, receive, Faults.take]

theorem answer_putObject_of_error {blob : Blob} {e : Header.Error}
    (h : options.headers store.headerTag = .error e) :
    store.answer (.putObject container blob options) =
      (.error (.rejected "InvalidArgument" e.message), store) := by
  have hreceived : (Request.putObject container blob options).received store.headerTag =
      .error e := Request.received_eq_error h
  simp only [answer, hreceived]

/-- A whole blob whose bytes are read is stored if its container exists. -/
theorem answer_putObject {blob : Blob} {headers : Headers} {data : Bytes}
    (hheaders : options.headers store.headerTag = .ok headers)
    (hdata : body blob.payload = .ok data) :
    store.answer (.putObject container blob options) =
      if container ∈ store.containers then (.ok (ETag.ofData data),
        { store.place container (.ofData blob.metadata options.stored data) with
          log := store.log.push ⟨.putObject, container, blob.name, none, headers⟩ })
      else (.error (noSuchContainer container), { store with
        log := store.log.push ⟨.putObject, container, blob.name, none, headers⟩ }) := by
  have harrives : (Request.putObject container blob options).options.headers store.headerTag =
      .ok headers := hheaders
  rw [answer_of_none harrives rfl, met_putObject hheaders]
  simp only [perform, putObject, StoredOptions.ofHeaders_headers hheaders, hdata]
  split_ifs <;> rfl

variable (hclear : store.faults.Clear)
include hclear

theorem answer_of_clear (request : Request) {headers : Headers}
    (hheaders : request.options.headers store.headerTag = .ok headers) :
    store.answer request = (store.met request).perform headers request :=
  answer_of_none hheaders (hclear.waiting?_eq_none request)

theorem answer_initiate_of_clear {metadata : Metadata} {headers : Headers}
    (hcontainer : container ∈ store.containers)
    (hheaders : options.headers store.headerTag = .ok headers) :
    (store.answer (.initiate container metadata options)).1 = .ok store.nextId := by
  rw [answer_of_clear hclear (.initiate container metadata options) hheaders]
  simp [perform, initiate, hcontainer, StoredOptions.ofHeaders_headers hheaders]

theorem answer_uploadPart_of_clear {number : ℕ} {part : Part} {upload : StoredUpload}
    (hcontainer : container ∈ store.containers)
    (hnumber : 1 ≤ number ∧ number ≤ Limits.maxPartCount.toNat)
    (hupload : store.upload? container key id = some upload) :
    let request := Request.uploadPart container key number id part {}
    store.answer request =
      if upload.hiddenFor = 0 then
        (.ok (ETag.ofData part.data),
          (store.met request).setUpload id (upload.putPart (.ofData number part.data)))
      else
        (.error (.keyNotFound container key (some id)),
          (store.met request).setUpload id { upload with hiddenFor := upload.hiddenFor - 1 }) := by
  have hrefusal : store.partRefusal? container number ∅ = none :=
    partRefusal?_eq_none_iff.mpr ⟨rfl, rfl, hnumber, hcontainer⟩
  exact answer_uploadPart rfl (hclear.parts number) hrefusal hupload

theorem answer_complete_of_clear {manifest : Manifest} {upload : StoredUpload}
    {parts : List StoredPart} (hcontainer : container ∈ store.containers)
    (hmanifest : ¬manifest.isEmpty) (hupload : store.upload? container key id = some upload)
    (hparts : upload.collect manifest.toList = .ok parts) :
    (store.answer (.complete container key id manifest)).1 = .ok (upload.assemble parts).etag := by
  rw [answer_complete_of_none hclear.complete hcontainer hmanifest hupload hparts]

theorem answer_putObject_of_clear {blob : Blob} {headers : Headers} {bytes : Bytes}
    (hcontainer : container ∈ store.containers)
    (hheaders : options.headers store.headerTag = .ok headers)
    (hbytes : blob.payload.Provides bytes) :
    (store.answer (.putObject container blob options)).1 = .ok (ETag.ofData bytes) := by
  rw [answer_of_clear hclear (.putObject container blob options) hheaders]
  simp [perform, putObject, hcontainer, StoredOptions.ofHeaders_headers hheaders,
    body_eq_ok.mpr hbytes, StoredObject.ofData]

end Store

end MultipartUpload
