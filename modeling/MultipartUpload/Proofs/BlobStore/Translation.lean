import MultipartUpload.BlobStore
import MultipartUpload.Proofs.Memory.Reachable
import MultipartUpload.Proofs.Options.Obtainable
import MultipartUpload.Proofs.Upload.Conversation
import MultipartUpload.Proofs.Upload.Replay

/-!
# Options of requests

Where a put configuration ends up. The request that begins an upload or puts a whole blob carries
all options of the configuration, and a request for a part carries none, also when it is made again.
A part without options is sent without headers, so what the in-memory service can have against it is
its number, its container or its upload, or a failure that was queued.
-/

namespace MultipartUpload

/-- Whether a request carries the options that are meant for the object, if it makes the object or
begins to, and the defaults if it brings a part. -/
def Request.Carries (main : UploadOptions) : Request → Prop
  | .initiate _ _ options => options = main
  | .putObject _ _ options => options = main
  | .uploadPart _ _ _ _ _ options => options = {}
  | .complete .. | .abort .. => True

theorem RequestOptions.main_ofConfiguration (config : Option PutConfiguration) :
    (ofConfiguration config).main =
      config.elim {} fun config ↦ ⟨config.encryption, config.acl, config.storageClass⟩ := by
  cases config with
  | none => rfl
  | some config => exact main_ofConfiguration_some config

/-- The generic dialect carries nothing but the defaults. -/
theorem RequestOptions.main_of_generic {config : Option PutConfiguration}
    (h : ∀ given ∈ config, given.dialect = .generic) : (ofConfiguration config).main = {} := by
  cases config with
  | none => rfl
  | some config =>
    have hdialect : config.dialect = .generic := h config rfl
    simp only [ofConfiguration, hdialect, Dialect.supportsEncryption, Bool.false_eq_true, if_false]
    rfl

/-! ## Conversations -/

section

variable {engine : Engine} {stream : PartStream} {plan : Plan} {container key id : String}
  {blob : Blob} {main : UploadOptions} {options : RequestOptions} {exchanges : List Exchange}
  {result : Except UploadError String}

theorem Transfer.carries (h : Transfer stream plan container key id {} exchanges result)
    {exchange : Exchange} (hmem : exchange ∈ exchanges) : exchange.request.Carries main := by
  cases h with
  | completed | incomplete | aborted =>
    rcases List.mem_append.mp hmem with hparts | hend
    · obtain ⟨shipment, -, hrequest⟩ := Shipment.request_of_mem hparts
      rw [hrequest]
      rfl
    · simp only [List.mem_cons, List.not_mem_nil, or_false] at hend
      rcases hend with rfl | rfl <;> trivial

theorem Conversation.carries (h : Conversation engine container blob options exchanges result)
    (hpart : options.part = {}) {exchange : Exchange} (hmem : exchange ∈ exchanges) :
    exchange.request.Carries options.main := by
  cases h with
  | lengthMissing | tooLarge => cases hmem
  | whole | refused =>
    obtain rfl := List.mem_singleton.mp hmem
    rfl
  | begun _ _ _ htransfer =>
    rw [hpart] at htransfer
    rcases List.mem_cons.mp hmem with rfl | hmem
    · rfl
    · exact htransfer.carries hmem

end

section

variable (service : Service σ) (container : String) (blob : Blob)
  (config : Option PutConfiguration) (state : σ) {exchange : Exchange}

theorem Engine.upload_carries (engine : Engine)
    (h : exchange ∈ (engine.upload service container blob config state).exchanges) :
    exchange.request.Carries (RequestOptions.ofConfiguration config).main :=
  (engine.upload_conversation service container blob config state).carries
    (RequestOptions.part_ofConfiguration config) h

theorem BlobStore.putBlob_carries (blobs : BlobStore)
    (h : exchange ∈ (blobs.putBlob service container blob config state).exchanges) :
    exchange.request.Carries (RequestOptions.ofConfiguration config).main := by
  unfold putBlob at h
  split at h
  · cases h
  · split at h
    · exact blobs.engine.upload_carries service container blob config state h
    · obtain rfl := List.mem_singleton.mp h
      rfl

end

/-! ## Parts at the in-memory service -/

/-- The answers to a part that are not about headers. -/
inductive Store.PartAnswer (queued : List ServiceError) (container key : String) (number : ℕ)
    (id : String) (part : Part) : Reply → Prop where
  | stored : PartAnswer queued container key number id part (.ok (ETag.ofData part.data))
  | queued {e} (h : e ∈ queued) : PartAnswer queued container key number id part (.error e)
  | number (h : number = 0 ∨ Limits.maxPartCount.toNat < number) :
      PartAnswer queued container key number id part (.error (.rejected "InvalidArgument"
        s!"part number must be between 1 and {Limits.maxPartCount}"))
  | container : PartAnswer queued container key number id part (.error (noSuchContainer container))
  | unseen : PartAnswer queued container key number id part
      (.error (.keyNotFound container key (some id)))

theorem Store.PartAnswer.mono {queued queued' : List ServiceError} {container key id : String}
    {number : ℕ} {part : Part} {reply : Reply} (hsub : queued ⊆ queued')
    (h : PartAnswer queued container key number id part reply) :
    PartAnswer queued' container key number id part reply := by
  cases h with
  | stored => exact .stored
  | queued h => exact .queued (hsub h)
  | number h => exact .number h
  | container => exact .container
  | unseen => exact .unseen

/-- A request takes failures from a queue and never adds any. -/
theorem Faults.queue_take_subset (faults : Faults) (received : ReceivedRequest) (number : ℕ) :
    (faults.take received).2.queue number ⊆ faults.queue number := by
  intro e h
  unfold take at h
  split at h
  · exact h
  · exact h
  · exact h
  · exact h
  · simp only at h
    split at h
    · exact h
    · rename_i fault rest hqueue
      simp only [queue, Std.ExtTreeMap.getD_insert] at h hqueue ⊢
      split_ifs at h with hnumber
      · rw [Std.compare_eq_iff_eq] at hnumber
        rw [← hnumber, hqueue]
        exact List.mem_cons_of_mem _ h
      · exact h

namespace Store

theorem queue_answer_subset (store : Store) (request : Request) (number : ℕ) :
    (store.answer request).2.faults.queue number ⊆ store.faults.queue number := by
  rw [(store.answer_effect request).faults, met]
  split
  · exact List.Subset.refl _
  · exact Faults.queue_take_subset _ _ number

/-- Without headers, a part is refused for its number or its container only. -/
theorem partRefusal?_empty (store : Store) (container : String) (number : ℕ) :
    store.partRefusal? container number ∅ =
      if number = 0 ∨ Limits.maxPartCount.toNat < number then
        some (.rejected "InvalidArgument"
          s!"part number must be between 1 and {Limits.maxPartCount}")
      else if container ∉ store.containers then some (noSuchContainer container)
      else none := by
  simp [partRefusal?, Headers.find?]

/-- A part without options is not refused for its headers. -/
theorem answer_part (store : Store) (container key : String) (number : ℕ) (id : String)
    (part : Part) : PartAnswer (store.faults.queue number) container key number id part
      (store.answer (.uploadPart container key number id part {})).1 := by
  let request : Request := .uploadPart container key number id part {}
  have hheaders : request.options.headers store.headerTag = .ok ∅ := rfl
  change PartAnswer _ _ _ _ _ _ (store.answer request).1
  rcases hfault : store.faults.waiting? request with - | e
  · rw [answer_of_none hheaders hfault]
    change PartAnswer _ _ _ _ _ _
      ((store.met request).uploadPart container key number id part.data ∅).1
    rw [uploadPart, partRefusal?_empty]
    split_ifs with hnumber hcontainer
    · exact .number hnumber
    · simp only
      split
      · exact .unseen
      · split_ifs
        · exact .stored
        · exact .unseen
    · exact .container
  · rw [answer_of_some hheaders hfault]
    exact .queued (List.mem_of_mem_head? hfault)

end Store

/-- What the in-memory service says to the parts of an upload is not about their headers. -/
theorem Engine.upload_partAnswer (engine : Engine) (container : String) (blob : Blob)
    (config : Option PutConfiguration) (store : Store) {container' key id : String} {number : ℕ}
    {part : Part} {options : UploadOptions} {reply : Reply}
    (h : ⟨.uploadPart container' key number id part options, reply⟩ ∈
      (engine.upload Store.service container blob config store).exchanges) :
    Store.PartAnswer (store.faults.queue number) container' key number id part reply := by
  have hcarries : options = {} := engine.upload_carries Store.service container blob config store h
  subst hcarries
  have hreplays : Store.service.Replays store _ _ :=
    heldWith_upload Store.service store engine container blob config
  obtain ⟨middle, hqueue, hreply⟩ := hreplays.exists_answer
    (p := fun state ↦ state.faults.queue number ⊆ store.faults.queue number)
    (fun request state hstate ↦
      List.Subset.trans (state.queue_answer_subset request number) hstate)
    (List.Subset.refl _) h
  have hanswer : (middle.answer (.uploadPart container' key number id part {})).1 = reply := hreply
  rw [← hanswer]
  exact (middle.answer_part container' key number id part).mono hqueue

/-- The options of a put configuration are those of all requests that begin an upload or put a whole
blob, whether or not it asks for multipart, and no part carries any. -/
theorem options_reach_every_request (blobs : BlobStore) (service : Service σ) (container : String)
    (blob : Blob) (config : Option PutConfiguration) (state : σ) (store : Store) :
    PutConfiguration.Obtainable config ∧
    ((RequestOptions.ofConfiguration config).main =
      config.elim {} fun config ↦ ⟨config.encryption, config.acl, config.storageClass⟩) ∧
    ((∀ given ∈ config, given.dialect = .generic) →
      (RequestOptions.ofConfiguration config).main = {}) ∧
    (∀ multipart, (RequestOptions.ofConfiguration (config.map ({ · with multipart }))).main =
      (RequestOptions.ofConfiguration config).main) ∧
    (∀ exchange ∈ (blobs.engine.upload service container blob config state).exchanges,
      exchange.request.Carries (RequestOptions.ofConfiguration config).main) ∧
    (∀ exchange ∈ (blobs.putBlob service container blob config state).exchanges,
      exchange.request.Carries (RequestOptions.ofConfiguration config).main) ∧
    (∀ tag, ({} : UploadOptions).headers tag = .ok ∅) ∧
    ∀ container' key number id part options reply,
      ⟨.uploadPart container' key number id part options, reply⟩ ∈
        (blobs.engine.upload Store.service container blob config store).exchanges →
      Store.PartAnswer (store.faults.queue number) container' key number id part reply := by
  refine ⟨PutConfiguration.obtainable config, RequestOptions.main_ofConfiguration config,
    RequestOptions.main_of_generic, ?_, ?_, ?_, fun tag ↦ rfl, ?_⟩
  · intro multipart
    rw [RequestOptions.main_ofConfiguration, RequestOptions.main_ofConfiguration]
    cases config <;> rfl
  · intro exchange hmem
    exact blobs.engine.upload_carries service container blob config state hmem
  · intro exchange hmem
    exact blobs.putBlob_carries service container blob config state hmem
  · intro container' key number id part options reply hmem
    exact blobs.engine.upload_partAnswer container blob config store hmem

/-- Encryption and a storage class are asked for where an upload begins. The first of its parts asks
for neither, and it is hidden but not refused. -/
theorem encrypted_upload_has_plain_parts :
    let config : PutConfiguration :=
      { dialect := .storageClassAware, multipart := true, encryption := some .aes256
        storageClass := .glacier
        carried := by
          constructor <;> simp [Dialect.supportsEncryption, Dialect.supportsStorageClass] }
    let store : Store :=
      { Store.empty {} 1 (.labelled "upload-") with containers := .ofList [("box", ∅)] }
    let talk := Engine.upload { sizing := ⟨4, 100, 5 * 2 ^ 30, 10000⟩ } Store.service "box"
      (.ofName "key" (.ofBytes [1, 2, 3, 4, 5])) (some config) store
    let begun : Exchange :=
      ⟨.initiate "box" { name := "key" } ⟨some .aes256, default, .glacier⟩, .ok "upload-1"⟩
    let hidden : Exchange := ⟨.uploadPart "box" "key" 1 "upload-1" ⟨0, [1, 2, 3, 4]⟩ {},
      .error (.keyNotFound "box" "key" (some "upload-1"))⟩
    begun ∈ talk.exchanges ∧
    begun.request.Carries (RequestOptions.ofConfiguration (some config)).main ∧
    hidden ∈ talk.exchanges ∧
    Store.PartAnswer (store.faults.queue 1) "box" "key" 1 "upload-1" ⟨0, [1, 2, 3, 4]⟩
      hidden.reply := by
  intro config store talk begun hidden
  have hbegun : begun ∈ talk.exchanges := by decide +kernel
  have hhidden : hidden ∈ talk.exchanges := by decide +kernel
  obtain ⟨-, -, -, -, hcarries, -, -, hanswers⟩ :=
    options_reach_every_request ⟨{ sizing := ⟨4, 100, 5 * 2 ^ 30, 10000⟩ }⟩ Store.service "box"
      (.ofName "key" (.ofBytes [1, 2, 3, 4, 5])) (some config) store store
  exact ⟨hbegun, hcarries begun hbegun, hhidden, hanswers _ _ _ _ _ _ _ hhidden⟩

end MultipartUpload
