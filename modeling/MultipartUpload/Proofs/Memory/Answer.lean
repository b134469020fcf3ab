import MultipartUpload.Memory.Service
import MultipartUpload.Proofs.Options.RoundTrip

/-!
# Answers of the in-memory service

What one request can do to the containers and the uploads of a store. A request is met first: it is
logged, and the failure waiting for it is taken. Then it is refused, and changes nothing, or it has
one of a few effects. The only refusal that changes something is that of a part whose upload is
still hidden.
-/

namespace MultipartUpload

/-- The failure waiting for a request. -/
def Faults.waiting? (faults : Faults) : Request → Option ServiceError
  | .initiate .. => faults.initiate
  | .uploadPart _ _ number .. => (faults.queue number).head?
  | .complete .. => faults.complete
  | .abort .. => faults.abort
  | .putObject .. => none

namespace Request

variable {request : Request} {tag : String}

theorem received_eq_ok {headers : Headers} (h : request.options.headers tag = .ok headers) :
    request.received tag =
      .ok ⟨request.operation, request.container, request.key, request.number?, headers⟩ := by
  rw [received, h]
  rfl

theorem received_eq_error {e : Header.Error} (h : request.options.headers tag = .error e) :
    request.received tag = .error e := by
  rw [received, h]
  rfl

/-- A request that arrives does so with its headers. -/
theorem eq_of_received {received : ReceivedRequest} (h : request.received tag = .ok received) :
    ∃ headers, received =
      ⟨request.operation, request.container, request.key, request.number?, headers⟩ := by
  rcases hheaders : request.options.headers tag with e | headers
  · rw [received_eq_error hheaders] at h
    cases h
  · rw [received_eq_ok hheaders] at h
    exact ⟨headers, (Except.ok.inj h).symm⟩

end Request

namespace Faults

variable {faults : Faults} {request : Request} {received : ReceivedRequest} {tag : String}

theorem take_fst (h : request.received tag = .ok received) :
    (faults.take received).1 = faults.waiting? request := by
  obtain ⟨headers, rfl⟩ := Request.eq_of_received h
  cases request with
  | initiate | complete | abort | putObject => rfl
  | uploadPart container key number id part options =>
    simp only [take, Request.operation, Request.number?, Option.getD_some, waiting?]
    split <;> simp [*]

/-- Where no failure waits, none is taken away. -/
theorem take_snd_of_none (h : (faults.take received).1 = none) :
    (faults.take received).2 = faults := by
  obtain ⟨initiate, parts, complete, abort⟩ := faults
  cases hoperation : received.operation with
  | initiate | complete | abort | putObject => simp_all [take]
  | uploadPart =>
    simp only [take, hoperation] at h ⊢
    split at h <;> simp_all

/-- Only a request that aborts an upload takes the failure of the next abort. -/
theorem take_snd_abort (h : received.operation ≠ .abort) :
    (faults.take received).2.abort = faults.abort := by
  unfold take
  split <;> simp_all
  split <;> rfl

end Faults

namespace Store

@[simp]
theorem service_answer (request : Request) (store : Store) :
    service.answer request store = store.answer request := rfl

theorem upload?_eq_some {store : Store} {container key id : String} {upload : StoredUpload} :
    store.upload? container key id = some upload ↔
      store.uploads[id]? = some upload ∧ upload.container = container ∧ upload.key = key := by
  simp [upload?, Option.filter_eq_some_iff]

theorem mem_uploads_of_upload? {store : Store} {container key id : String} {upload : StoredUpload}
    (h : store.upload? container key id = some upload) : id ∈ store.uploads := by
  rw [Std.ExtTreeMap.mem_iff_isSome_getElem?, (upload?_eq_some.mp h).1]
  rfl

/-! ## Meeting a request -/

/-- The store when a request has arrived: it is logged, and the failure waiting for it is taken. A
request whose headers cannot be written never arrives. -/
def met (store : Store) (request : Request) : Store :=
  match request.received store.headerTag with
  | .error _ => store
  | .ok received => (store.receive received).2

variable {store : Store} {request : Request}

@[simp]
theorem met_headerTag : (store.met request).headerTag = store.headerTag := by
  unfold met
  split <;> rfl

@[simp]
theorem met_lag : (store.met request).lag = store.lag := by
  unfold met
  split <;> rfl

@[simp]
theorem met_containers : (store.met request).containers = store.containers := by
  unfold met
  split <;> rfl

@[simp]
theorem met_uploads : (store.met request).uploads = store.uploads := by
  unfold met
  split <;> rfl

@[simp]
theorem met_spelling : (store.met request).spelling = store.spelling := by
  unfold met
  split <;> rfl

@[simp]
theorem met_issued : (store.met request).issued = store.issued := by
  unfold met
  split <;> rfl

@[simp]
theorem met_nextId : (store.met request).nextId = store.nextId := by
  simp [nextId]

@[simp]
theorem met_upload? (container key id : String) :
    (store.met request).upload? container key id = store.upload? container key id := by
  simp [upload?]

theorem met_faults_of_none (h : store.faults.waiting? request = none) :
    (store.met request).faults = store.faults := by
  unfold met
  split
  · rfl
  · rename_i received hreceived
    rw [← Faults.take_fst hreceived] at h
    exact Faults.take_snd_of_none h

theorem met_faults_abort (h : request.operation ≠ .abort) :
    (store.met request).faults.abort = store.faults.abort := by
  unfold met
  split
  · rfl
  · rename_i received hreceived
    obtain ⟨headers, rfl⟩ := Request.eq_of_received hreceived
    exact Faults.take_snd_abort h

/-- A request that arrives and meets no failure is carried out. -/
theorem answer_of_none {headers : Headers}
    (hheaders : request.options.headers store.headerTag = .ok headers)
    (h : store.faults.waiting? request = none) :
    store.answer request = (store.met request).perform headers request := by
  have hreceived := Request.received_eq_ok hheaders
  rw [← Faults.take_fst hreceived] at h
  simp only [answer, met, hreceived, receive, h]

/-- A request that arrives and meets a failure changes nothing else. -/
theorem answer_of_some {headers : Headers} {e : ServiceError}
    (hheaders : request.options.headers store.headerTag = .ok headers)
    (h : store.faults.waiting? request = some e) :
    store.answer request = (.error e, store.met request) := by
  have hreceived := Request.received_eq_ok hheaders
  rw [← Faults.take_fst hreceived] at h
  simp only [answer, met, hreceived, receive, h]

/-! ## Parts -/

theorem partRefusal?_eq_none_iff {container : String} {number : ℕ} {headers : Headers} :
    store.partRefusal? container number headers = none ↔
      headers.find? store.headerTag UploadOptions.encryptionHeader = none ∧
        headers.find? store.headerTag UploadOptions.aclHeader = none ∧
          (1 ≤ number ∧ number ≤ Limits.maxPartCount.toNat) ∧ container ∈ store.containers := by
  unfold partRefusal?
  cases hencryption : headers.find? store.headerTag UploadOptions.encryptionHeader with
  | some value => simp [hencryption]
  | none =>
    cases hacl : headers.find? store.headerTag UploadOptions.aclHeader with
    | some value => simp [hencryption, hacl]
    | none =>
      simp only [List.find?_cons, List.find?_nil, hencryption, hacl, Option.isSome_none, true_and]
      split_ifs with hnumber hcontainer
      · simp only [false_iff]
        omega
      · simp only [hcontainer, and_true, true_iff]
        omega
      · simp only [hcontainer, and_false]

@[simp]
theorem met_partRefusal? (container : String) (number : ℕ) (headers : Headers) :
    (store.met request).partRefusal? container number headers =
      store.partRefusal? container number headers := by
  simp only [partRefusal?, met_headerTag, met_containers]

/-- A part that arrives, meets no failure and is not refused is stored if its upload is seen. -/
theorem answer_uploadPart {container key id : String} {number : ℕ} {part : Part}
    {options : UploadOptions} {headers : Headers} {upload : StoredUpload}
    (hheaders : options.headers store.headerTag = .ok headers)
    (hfault : store.faults.queue number = [])
    (hrefusal : store.partRefusal? container number headers = none)
    (hupload : store.upload? container key id = some upload) :
    let request : Request := .uploadPart container key number id part options
    store.answer request =
      if upload.hiddenFor = 0 then (.ok (ETag.ofData part.data),
        (store.met request).setUpload id (upload.putPart (.ofData number part.data)))
      else (.error (.keyNotFound container key (some id)),
        (store.met request).setUpload id { upload with hiddenFor := upload.hiddenFor - 1 }) := by
  intro request
  have harrives : request.options.headers store.headerTag = .ok headers := hheaders
  have hnone : store.faults.waiting? request = none := by
    rw [Faults.waiting?, hfault, List.head?_nil]
  rw [answer_of_none harrives hnone]
  change (store.met request).uploadPart container key number id part.data headers = _
  simp only [uploadPart, met_partRefusal?, hrefusal, met_upload?, hupload]

/-! ## Effects -/

/-- What a request can do to a store that has met it, and the reply to it. -/
inductive Effect (store : Store) : Request → Reply → Store → Prop where
  | refused {request : Request} (e : ServiceError) : Effect store request (.error e) store
  | begun {container metadata} {options : UploadOptions}
      (hcontainer : container ∈ store.containers) :
      Effect store (.initiate container metadata options) (.ok store.nextId)
        (store.begin container metadata options.stored)
  | hidden {container key number id part options upload}
      (hupload : store.upload? container key id = some upload) (hhidden : upload.hiddenFor ≠ 0) :
      Effect store (.uploadPart container key number id part options)
        (.error (.keyNotFound container key (some id)))
        (store.setUpload id { upload with hiddenFor := upload.hiddenFor - 1 })
  | stored {container key number id part options upload}
      (hcontainer : container ∈ store.containers)
      (hnumber : 1 ≤ number ∧ number ≤ Limits.maxPartCount.toNat)
      (hupload : store.upload? container key id = some upload) (hseen : upload.hiddenFor = 0) :
      Effect store (.uploadPart container key number id part options) (.ok (ETag.ofData part.data))
        (store.setUpload id (upload.putPart (.ofData number part.data)))
  | completed {container key id manifest upload parts} (hcontainer : container ∈ store.containers)
      (hmanifest : ¬manifest.isEmpty) (hupload : store.upload? container key id = some upload)
      (hparts : upload.collect manifest.toList = .ok parts) :
      Effect store (.complete container key id manifest) (.ok (upload.assemble parts).etag)
        ((store.removeUpload id).place container (upload.assemble parts))
  | aborted {container key id upload} (hupload : store.upload? container key id = some upload) :
      Effect store (.abort container key id) (.ok "") (store.removeUpload id)
  | put {container blob data} {options : UploadOptions} (hcontainer : container ∈ store.containers)
      (hdata : body blob.payload = .ok data) :
      Effect store (.putObject container blob options) (.ok (ETag.ofData data))
        (store.place container (.ofData blob.metadata options.stored data))

/-- The answer to a request changes the failures only in that it takes one. -/
theorem Effect.faults {reply : Reply} {next : Store} (h : Effect store request reply next) :
    next.faults = store.faults := by
  cases h <;> rfl

theorem uploadPart_effect (store : Store) (container key : String) (number : ℕ) (id : String)
    (part : Part) (options : UploadOptions) (headers : Headers) :
    Effect store (.uploadPart container key number id part options)
      (store.uploadPart container key number id part.data headers).1
      (store.uploadPart container key number id part.data headers).2 := by
  unfold uploadPart
  split
  · exact .refused _
  · rename_i hrefusal
    obtain ⟨-, -, hnumber, hcontainer⟩ := partRefusal?_eq_none_iff.mp hrefusal
    split
    · exact .refused _
    · rename_i upload hupload
      split
      · exact .stored hcontainer hnumber hupload ‹_›
      · exact .hidden hupload ‹_›

/-- A request that is carried out has one of the effects. -/
theorem perform_effect {headers : Headers}
    (hheaders : request.options.headers store.headerTag = .ok headers) :
    Effect store request (store.perform headers request).1 (store.perform headers request).2 := by
  cases request with
  | initiate container metadata options =>
    simp only [perform, initiate, StoredOptions.ofHeaders_headers hheaders]
    split_ifs with hcontainer
    · exact .begun hcontainer
    · exact .refused _
  | uploadPart container key number id part options =>
    exact store.uploadPart_effect container key number id part options headers
  | complete container key id manifest =>
    simp only [perform, complete]
    split_ifs with hcontainer hmanifest
    · exact .refused _
    · split
      · exact .refused _
      · rename_i upload hupload
        split
        · exact .refused _
        · exact .completed hcontainer hmanifest hupload ‹_›
    · exact .refused _
  | abort container key id =>
    simp only [perform, abort]
    split
    · exact .refused _
    · exact .aborted ‹_›
  | putObject container blob options =>
    simp only [perform, putObject, StoredOptions.ofHeaders_headers hheaders]
    split_ifs with hcontainer
    · split
      · exact .refused _
      · exact .put hcontainer ‹_›
    · exact .refused _

/-- Every answer has one of the effects. -/
theorem answer_effect (store : Store) (request : Request) :
    Effect (store.met request) request (store.answer request).1 (store.answer request).2 := by
  rcases hheaders : request.options.headers store.headerTag with e | headers
  · simp only [answer, met, Request.received_eq_error hheaders]
    exact .refused _
  · rcases hfault : store.faults.waiting? request with - | e
    · rw [answer_of_none hheaders hfault]
      exact perform_effect (by rwa [met_headerTag])
    · rw [answer_of_some hheaders hfault]
      exact .refused e

end Store

end MultipartUpload
