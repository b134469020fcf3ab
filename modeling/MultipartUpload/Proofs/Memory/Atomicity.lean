import MultipartUpload.Proofs.Memory.Reachable

/-!
# Failed requests

A request that fails changes no container, no object and no upload in progress, with one exception:
a part that was sent to an upload while it is hidden brings the upload one request closer to being
seen. What else is left of a failed request is its entry in the log, and if it met a failure that
was queued for it, this failure is its answer and is queued no more. A request whose headers cannot
be written leaves nothing at all.
-/

namespace MultipartUpload

/-- The failure that is taken from the queue for a request, and what is queued after that. -/
inductive Faults.Yields (faults : Faults) : Request → ServiceError → Faults → Prop where
  | initiate {container metadata options e} (h : faults.initiate = some e) :
      Yields faults (.initiate container metadata options) e { faults with initiate := none }
  | uploadPart {container key number id part options e rest}
      (h : faults.queue number = e :: rest) :
      Yields faults (.uploadPart container key number id part options) e
        { faults with parts := faults.parts.insert number rest }
  | complete {container key id manifest e} (h : faults.complete = some e) :
      Yields faults (.complete container key id manifest) e { faults with complete := none }
  | abort {container key id e} (h : faults.abort = some e) :
      Yields faults (.abort container key id) e { faults with abort := none }

/-- There is at most one failure that a request can meet. -/
theorem Faults.Yields.unique {faults first second : Faults} {request : Request}
    {e e' : ServiceError} (hfirst : faults.Yields request e first)
    (hsecond : faults.Yields request e' second) : e = e' ∧ first = second := by
  cases hfirst with
  | initiate h | uploadPart h | complete h | abort h =>
    cases hsecond with
    | _ h' =>
      rw [h] at h'
      cases h'
      exact ⟨rfl, rfl⟩

namespace Store

/-- Whether a request is for a part of an upload in progress that is still hidden from it. There is
nothing else that the request could fail with. -/
inductive Hides (store : Store) : Request → String → StoredUpload → Prop where
  | intro {container key number id part options upload} {headers : Headers}
      (hheaders : UploadOptions.headers options store.headerTag = .ok headers)
      (hfault : store.faults.queue number = [])
      (hrefusal : store.partRefusal? container number headers = none)
      (hupload : store.upload? container key id = some upload)
      (hhidden : upload.hiddenFor ≠ 0) :
      Hides store (.uploadPart container key number id part options) id upload

variable {store : Store} {request : Request} {headers : Headers} {e : ServiceError}

/-! ## Arrival -/

/-- Meeting a request touches nothing but the failures and the log. -/
theorem met_eq (store : Store) (request : Request) : store.met request =
    { store with faults := (store.met request).faults, log := (store.met request).log } := by
  unfold met
  split <;> rfl

theorem met_log (h : request.options.headers store.headerTag = .ok headers) :
    (store.met request).log = store.log.push
      ⟨request.operation, request.container, request.key, request.number?, headers⟩ := by
  simp only [met, Request.received_eq_ok h, receive]

theorem yields_of_waiting? (hheaders : request.options.headers store.headerTag = .ok headers)
    (h : store.faults.waiting? request = some e) :
    store.faults.Yields request e (store.met request).faults := by
  simp only [met, Request.received_eq_ok hheaders, receive, Faults.take]
  cases request with
  | initiate => exact .initiate h
  | complete => exact .complete h
  | abort => exact .abort h
  | putObject => cases h
  | uploadPart container key number =>
    simp only [Request.operation, Request.number?, Option.getD_some]
    simp only [Faults.waiting?] at h
    split
    · simp_all
    · rename_i fault rest hqueue
      rw [hqueue] at h
      cases h
      exact .uploadPart hqueue

theorem waiting?_of_yields {faults : Faults} (h : store.faults.Yields request e faults) :
    store.faults.waiting? request = some e := by
  cases h with
  | initiate h | complete h | abort h => exact h
  | uploadPart h => rw [Faults.waiting?, h, List.head?_cons]

/-! ## Refusal -/

theorem initiate_of_error {container : String} {metadata : Metadata}
    (h : (store.initiate container metadata headers).1 = .error e) :
    (store.initiate container metadata headers).2 = store := by
  unfold initiate at h ⊢
  split
  · rfl
  · rename_i hcontainer
    rw [if_neg hcontainer] at h
    rcases hoptions : StoredOptions.ofHeaders store.headerTag headers with fault | options
    · rfl
    · rw [hoptions] at h
      cases h

theorem complete_of_error {container key id : String} {manifest : Manifest}
    (h : (store.complete container key id manifest).1 = .error e) :
    (store.complete container key id manifest).2 = store := by
  unfold complete at h ⊢
  split
  · rfl
  · rename_i hcontainer
    rw [if_neg hcontainer] at h
    split
    · rfl
    · rename_i hmanifest
      rw [if_neg hmanifest] at h
      rcases hupload : store.upload? container key id with - | upload
      · rfl
      · simp only [hupload] at h ⊢
        rcases hparts : upload.collect manifest.toList with fault | parts
        · rfl
        · rw [hparts] at h
          cases h

theorem abort_of_error {container key id : String}
    (h : (store.abort container key id).1 = .error e) :
    (store.abort container key id).2 = store := by
  unfold abort at h ⊢
  rcases hupload : store.upload? container key id with - | upload
  · rfl
  · rw [hupload] at h
    cases h

theorem putObject_of_error {container : String} {blob : Blob}
    (h : (store.putObject container blob headers).1 = .error e) :
    (store.putObject container blob headers).2 = store := by
  unfold putObject at h ⊢
  split
  · rfl
  · rename_i hcontainer
    rw [if_neg hcontainer] at h
    rcases hoptions : StoredOptions.ofHeaders store.headerTag headers with fault | options
    · rfl
    · simp only [hoptions] at h ⊢
      rcases hdata : body blob.payload with fault | data
      · rfl
      · rw [hdata] at h
        cases h

/-- A part that is not stored leaves the store as it was, unless it is hidden. -/
theorem uploadPart_of_error {container key id : String} {number : ℕ} {data : Bytes}
    (hhidden : ∀ upload, store.partRefusal? container number headers = none →
      store.upload? container key id = some upload → upload.hiddenFor = 0)
    (h : (store.uploadPart container key number id data headers).1 = .error e) :
    (store.uploadPart container key number id data headers).2 = store := by
  unfold uploadPart at h ⊢
  split
  · rfl
  · rename_i hrefusal
    split
    · rfl
    · rename_i upload hupload
      simp only [hrefusal, hupload, hhidden upload hrefusal hupload, if_true] at h
      cases h

/-- A part that is hidden is answered as if there were no upload. -/
theorem Hides.answer {id : String} {upload : StoredUpload} (h : store.Hides request id upload) :
    store.answer request = (.error (.keyNotFound request.container request.key (some id)),
      (store.met request).setUpload id { upload with hiddenFor := upload.hiddenFor - 1 }) := by
  cases h with
  | intro hheaders hfault hrefusal hupload hhidden =>
    rw [answer_uploadPart hheaders hfault hrefusal hupload, if_neg hhidden]
    rfl

/-! ## Failure -/

/-- What a request that fails leaves of a store. -/
structure FailsAtomically (store : Store) (request : Request) (e : ServiceError) (next : Store) :
    Prop where
  /-- No container changes, and no object in one. -/
  containers : next.containers = store.containers
  uploads : (∀ id upload, ¬store.Hides request id upload) → next.uploads = store.uploads
  /-- The one upload that can change has its parts still, and is hidden for one request less. -/
  hidden : ∀ id upload, store.Hides request id upload →
    e = .keyNotFound request.container request.key (some id) ∧
      next.uploads = store.uploads.insert id { upload with hiddenFor := upload.hiddenFor - 1 }
  /-- A request that cannot be sent changes nothing. -/
  unsent : ∀ fault, request.options.headers store.headerTag = .error fault → next = store
  logged : ∀ headers, request.options.headers store.headerTag = .ok headers →
    next.log = store.log.push
      ⟨request.operation, request.container, request.key, request.number?, headers⟩
  /-- A failure that is queued for a request that arrives is the answer, and is taken. Nothing else
  but the log changes. -/
  injected : ∀ headers fault faults, request.options.headers store.headerTag = .ok headers →
    store.faults.Yields request fault faults →
      fault = e ∧ next = { store with faults, log := next.log }
  /-- No other failure is taken. -/
  spared : (∀ fault faults, ¬store.faults.Yields request fault faults) →
    next.faults = store.faults
  /-- Identifiers that were issued and what a store starts with stay. -/
  rest : next =
    { store with uploads := next.uploads, faults := next.faults, log := next.log }

theorem Hides.headers_eq_ok {id : String} {upload : StoredUpload}
    (h : store.Hides request id upload) :
    ∃ headers, request.options.headers store.headerTag = .ok headers := by
  cases h with
  | intro hheaders => exact ⟨_, hheaders⟩

theorem Hides.waiting?_eq_none {id : String} {upload : StoredUpload}
    (h : store.Hides request id upload) : store.faults.waiting? request = none := by
  cases h with
  | intro _ hfault => rw [Faults.waiting?, hfault, List.head?_nil]

/-- A request that fails changes nothing when it is carried out, unless an upload is hidden. -/
theorem perform_of_error (hheaders : request.options.headers store.headerTag = .ok headers)
    (hfault : store.faults.waiting? request = none)
    (hhides : ∀ id upload, ¬store.Hides request id upload)
    (h : ((store.met request).perform headers request).1 = .error e) :
    ((store.met request).perform headers request).2 = store.met request := by
  cases request with
  | initiate => exact initiate_of_error h
  | complete => exact complete_of_error h
  | abort => exact abort_of_error h
  | putObject => exact putObject_of_error h
  | uploadPart container key number id part options =>
    apply uploadPart_of_error _ h
    intro upload hrefusal hupload
    rw [met_partRefusal?] at hrefusal
    rw [met_upload?] at hupload
    by_contra hhidden
    exact hhides id upload (.intro hheaders (List.head?_eq_none_iff.mp hfault) hrefusal hupload
      hhidden)

theorem Hides.unique {id id' : String} {upload upload' : StoredUpload}
    (h : store.Hides request id upload) (h' : store.Hides request id' upload') :
    id = id' ∧ upload = upload' := by
  cases h with
  | intro _ _ _ hupload =>
    cases h' with
    | intro _ _ _ hupload' =>
      rw [hupload] at hupload'
      exact ⟨rfl, Option.some.inj hupload'⟩

theorem failsAtomically_unsent {fault : Header.Error}
    (h : request.options.headers store.headerTag = .error fault) :
    FailsAtomically store request e store where
  containers := rfl
  uploads _ := rfl
  hidden id upload hhides := by
    obtain ⟨headers, hheaders⟩ := hhides.headers_eq_ok
    rw [h] at hheaders
    cases hheaders
  unsent _ _ := rfl
  logged headers hheaders := by
    rw [h] at hheaders
    cases hheaders
  injected headers _ _ hheaders := by
    rw [h] at hheaders
    cases hheaders
  spared _ := rfl
  rest := rfl

theorem failsAtomically_injected (hheaders : request.options.headers store.headerTag = .ok headers)
    (h : store.faults.waiting? request = some e) :
    FailsAtomically store request e (store.met request) where
  containers := met_containers
  uploads _ := met_uploads
  hidden id upload hhides := by
    rw [hhides.waiting?_eq_none] at h
    cases h
  unsent fault hfault := by
    rw [hheaders] at hfault
    cases hfault
  logged headers' hheaders' := met_log hheaders'
  injected headers' fault faults _ hyields := by
    obtain ⟨rfl, rfl⟩ := hyields.unique (yields_of_waiting? hheaders h)
    exact ⟨rfl, store.met_eq request⟩
  spared hnone := absurd (yields_of_waiting? hheaders h) (hnone _ _)
  rest := by rw [met_uploads, ← met_eq]

/-- A request that arrives and meets no failure. -/
theorem failsAtomically_arrived (hheaders : request.options.headers store.headerTag = .ok headers)
    (h : store.faults.waiting? request = none) {next : Store}
    (hnext : next = { store.met request with uploads := next.uploads })
    (huploads : (∀ id upload, ¬store.Hides request id upload) → next.uploads = store.uploads)
    (hhidden : ∀ id upload, store.Hides request id upload →
      e = .keyNotFound request.container request.key (some id) ∧
        next.uploads = store.uploads.insert id { upload with hiddenFor := upload.hiddenFor - 1 }) :
    FailsAtomically store request e next where
  containers := by rw [hnext, met_containers]
  uploads := huploads
  hidden := hhidden
  unsent fault hfault := by
    rw [hheaders] at hfault
    cases hfault
  logged headers' hheaders' := by rw [hnext, met_log hheaders']
  injected _ fault faults _ hyields := by
    rw [waiting?_of_yields hyields] at h
    cases h
  spared _ := by rw [hnext, met_faults_of_none h]
  rest := by
    rw [hnext, met_eq]

end Store

/-- A request that fails leaves containers, objects and uploads in progress as they were, except
that an upload that is hidden from a request for one of its parts is hidden for exactly one request
less. The log grows by the request, unless its headers cannot be written: then nothing changes. A
failure that was queued for the request is its answer and is taken, and then nothing but the log
changes. No other failure is taken. -/
theorem failed_requests_are_atomic {store : Store} {request : Request} {e : ServiceError}
    (h : (store.answer request).1 = .error e) :
    store.FailsAtomically request e (store.answer request).2 := by
  rcases hheaders : request.options.headers store.headerTag with fault | headers
  · have hanswer : (store.answer request).2 = store := by
      simp only [Store.answer, Request.received_eq_error hheaders]
    rw [hanswer]
    exact Store.failsAtomically_unsent hheaders
  · rcases hfault : store.faults.waiting? request with - | fault
    · by_cases hhides : ∃ id upload, store.Hides request id upload
      · obtain ⟨id, upload, hhides⟩ := hhides
        rw [hhides.answer] at h ⊢
        cases h
        apply Store.failsAtomically_arrived hheaders hfault rfl
        · exact fun hnone ↦ absurd hhides (hnone id upload)
        · intro id' upload' hhides'
          obtain ⟨rfl, rfl⟩ := hhides.unique hhides'
          exact ⟨rfl, by rw [Store.setUpload, Store.met_uploads]⟩
      · push Not at hhides
        rw [Store.answer_of_none hheaders hfault] at h ⊢
        rw [Store.perform_of_error hheaders hfault hhides h]
        apply Store.failsAtomically_arrived hheaders hfault rfl
        · exact fun _ ↦ Store.met_uploads
        · exact fun id upload hhides' ↦ absurd hhides' (hhides id upload)
    · rw [Store.answer_of_some hheaders hfault] at h ⊢
      cases h
      exact Store.failsAtomically_injected hheaders hfault

/-- An upload that is hidden from two requests is hidden from one after a request for its first
part. The failure that is queued for its second part stays. -/
theorem hidden_upload_comes_closer :
    let refusal := ServiceError.rejected "InternalError" "try again later"
    let upload := StoredUpload.start "u1" "box" { name := "key" } {} 2
    let store := (((Store.empty {} 2 (.labelled "u")).act (.createContainer "box")).act
      (.failPart 2 refusal)).act (.request (.initiate "box" { name := "key" } {}))
    let request : Request := .uploadPart "box" "key" 1 "u1" ⟨0, [1, 2]⟩ {}
    let answered := store.answer request
    store.Reachable ∧ answered.1 = .error (.keyNotFound "box" "key" (some "u1")) ∧
    store.Hides request "u1" upload ∧
    answered.2.uploads = store.uploads.insert "u1" { upload with hiddenFor := 1 } ∧
    answered.2.faults = store.faults ∧ store.faults.queue 2 = [refusal] := by
  intro refusal upload store request answered
  have hstore : store.Reachable :=
    .step (.step (.step (.empty {} 2 (.labelled "u")) (.createContainer "box"))
      (.failPart 2 refusal)) (.request (.initiate "box" { name := "key" } {}))
  have hanswer : answered.1 = .error (.keyNotFound "box" "key" (some "u1")) := by decide
  have hhides : store.Hides request "u1" upload :=
    .intro rfl (by decide) (by decide) (by decide) (by decide)
  have hatomic := failed_requests_are_atomic hanswer
  refine ⟨hstore, hanswer, hhides, (hatomic.hidden "u1" upload hhides).2, ?_, by decide⟩
  apply hatomic.spared
  intro fault faults hyields
  have hfault := Store.waiting?_of_yields hyields
  rw [hhides.waiting?_eq_none] at hfault
  cases hfault

end MultipartUpload
