import MultipartUpload.Proofs.BlobStore.Panic
import MultipartUpload.Proofs.Memory.Reachable
import MultipartUpload.Proofs.Memory.Shipping

/-!
# Cleaning up after failures

A blob that is not put leaves no trace in the in-memory service: containers, objects and uploads in
progress are what they were, whatever failures were queued. The one exception is an upload whose
abort fails too, and then this upload is all that remains. A put that panics, for want of memory to
read the first part of a file, has begun an upload that nobody aborts.
-/

namespace MultipartUpload

/-- Whether a request begins an upload. -/
def Request.begins : Request → Bool
  | .initiate .. => true
  | _ => false

/-- Whether an upload with an identifier was begun. -/
def Began (exchanges : List Exchange) (id : String) : Prop :=
  ∃ exchange ∈ exchanges, exchange.request.begins ∧ exchange.reply = .ok id

/-- What a service looks like after an attempt to put an object with a key. -/
structure LeavesNoTrace (before : Store) (container key : String) (exchanges : List Exchange)
    (result : Except UploadError String) (after : Store) : Prop where
  /-- A failure changes no container and no object. -/
  containers : ∀ e, result = .error e → after.containers = before.containers
  /-- A failure changes no upload that was in progress. -/
  untouched : ∀ e, result = .error e →
    ∀ id ∈ before.uploads, after.uploads[id]? = before.uploads[id]?
  /-- The upload whose abort failed remains. -/
  stranded : ∀ e id, result = .error e → Began exchanges id → before.faults.abort.isSome →
    id ∉ before.uploads ∧ ∃ upload, upload.container = container ∧ upload.key = key ∧
      after.uploads = before.uploads.insert id upload
  /-- In all other cases the uploads in progress are the same. -/
  settled : ¬((∃ e, result = .error e) ∧ (∃ id, Began exchanges id) ∧ before.faults.abort.isSome) →
    after.uploads = before.uploads

/-- What a service looks like after a put that panicked. -/
structure LeavesUpload (before : Store) (container key : String) (exchanges : List Exchange)
    (after : Store) : Prop where
  /-- Beginning the upload is all that was asked. -/
  exchanges : ∃ metadata options,
    exchanges = [⟨.initiate container metadata options, .ok before.nextId⟩]
  containers : after.containers = before.containers
  fresh : before.nextId ∉ before.uploads
  uploads : ∃ upload, upload.container = container ∧ upload.key = key ∧
    after.uploads = before.uploads.insert before.nextId upload

variable {before store after : Store} {container key id : String} {upload : StoredUpload}
  {options : UploadOptions} {exchanges : List Exchange} {result : Except UploadError String}

/-- Where no upload is begun, none is left. -/
theorem LeavesNoTrace.of_not_began (hbegan : ∀ exchange ∈ exchanges, exchange.request.begins →
      ∃ e, exchange.reply = .error e)
    (hcontainers : ∀ e, result = .error e → after.containers = before.containers)
    (huploads : after.uploads = before.uploads) :
    LeavesNoTrace before container key exchanges result after where
  containers := hcontainers
  untouched _ _ _ _ := by rw [huploads]
  stranded _ id _ hid _ := by
    obtain ⟨exchange, hmem, hbegins, hreply⟩ := hid
    obtain ⟨e, herror⟩ := hbegan exchange hmem hbegins
    rw [herror] at hreply
    cases hreply
  settled _ := huploads

/-- An object that is stored leaves no upload. -/
theorem LeavesNoTrace.of_ok (huploads : after.uploads = before.uploads) (identifier : String) :
    LeavesNoTrace before container key exchanges (.ok identifier) after where
  containers _ h := by cases h
  untouched _ h := by cases h
  stranded _ _ h := by cases h
  settled _ := huploads

/-- Where an upload is begun and abandoned, a failure to abort it decides whether it is left. -/
theorem LeavesNoTrace.of_abandoned (hbegan : ∀ other, Began exchanges other ↔ other = id)
    (hfresh : id ∉ before.uploads) (habandoned : before.Abandoned id upload after)
    (hcontainer : upload.container = container) (hkey : upload.key = key) (cause : UploadError) :
    LeavesNoTrace before container key exchanges (.error cause) after where
  containers _ _ := habandoned.containers
  untouched _ _ other hother := by
    have hne : id ≠ other := fun heq ↦ hfresh (heq ▸ hother)
    rcases habort : before.faults.abort with - | e
    · rw [habandoned.settled habort, erase_of_not_mem hfresh]
    · rw [habandoned.stranded (by simp [habort]), Std.ExtTreeMap.getElem?_insert]
      simp [hne]
  stranded _ other _ hother habort := by
    rw [(hbegan other).mp hother]
    exact ⟨hfresh, upload, hcontainer, hkey, habandoned.stranded habort⟩
  settled h := by
    have habort : before.faults.abort = none := by
      apply Option.not_isSome_iff_eq_none.mp
      intro habort
      exact h ⟨⟨cause, rfl⟩, ⟨id, (hbegan id).mpr rfl⟩, habort⟩
    rw [habandoned.settled habort, erase_of_not_mem hfresh]

theorem Store.Underway.abandoned_of_replays (h : before.Underway id upload store) {reply : Reply}
    (hreplays : Store.service.Replays store
      [⟨.abort upload.container upload.key id, reply⟩] after) :
    before.Abandoned id upload after := by
  simp only [Service.replays_cons, Service.replays_nil, service_answer] at hreplays
  obtain ⟨-, rfl⟩ := hreplays
  exact h.abandoned

/-- An upload that has begun is completed, or it fails and is abandoned. -/
theorem Transfer.cleanup {stream : PartStream} {plan : Plan}
    (h : Transfer stream plan upload.container upload.key id options exchanges result)
    (hunderway : before.Underway id upload store)
    (hreplays : Store.service.Replays store exchanges after) :
    (∃ identifier, result = .ok identifier ∧ after.uploads = before.uploads.erase id) ∨
    ∃ e changed, result = .error e ∧ upload.Continues changed ∧
      before.Abandoned id changed after := by
  cases h with
  | completed hsent identifier =>
    obtain ⟨middle, hparts, hcomplete⟩ := Service.replays_append.mp hreplays
    obtain ⟨changed, -, hchanged⟩ := hunderway.bring hparts
    simp only [Service.replays_cons, Service.replays_nil, Store.service_answer] at hcomplete
    obtain ⟨hreply, rfl⟩ := hcomplete
    rcases hchanged.complete upload.container upload.key _ with
      ⟨e, herror, -⟩ | ⟨parts, -, -, -, huploads⟩
    · rw [herror] at hreply
      cases hreply
    · exact .inl ⟨identifier, rfl, huploads⟩
  | incomplete hsent e reply =>
    obtain ⟨middle, hparts, hend⟩ := Service.replays_append.mp hreplays
    obtain ⟨changed, hcontinues, hchanged⟩ := hunderway.bring hparts
    rw [← hcontinues.container, ← hcontinues.key] at hend
    obtain ⟨hreply, habort⟩ := Service.replays_cons.mp hend
    rcases hchanged.complete changed.container changed.key _ with
      ⟨e', -, hrefused⟩ | ⟨parts, -, hgranted, -⟩
    · exact .inr ⟨_, changed, rfl, hcontinues, hrefused.abandoned_of_replays habort⟩
    · rw [Store.service_answer, hgranted] at hreply
      cases hreply
  | aborted hsent reply =>
    obtain ⟨middle, hparts, habort⟩ := Service.replays_append.mp hreplays
    obtain ⟨changed, hcontinues, hchanged⟩ := hunderway.bring hparts
    rw [← hcontinues.container, ← hcontinues.key] at habort
    exact .inr ⟨_, changed, rfl, hcontinues, hchanged.abandoned_of_replays habort⟩

theorem Transfer.not_begins {stream : PartStream} {plan : Plan}
    (h : Transfer stream plan container key id options exchanges result) {exchange : Exchange}
    (hmem : exchange ∈ exchanges) : exchange.request.begins = false := by
  cases h with
  | completed hsent | incomplete hsent | aborted hsent =>
    rcases List.mem_append.mp hmem with hparts | hend
    · obtain ⟨shipment, -, hrequest⟩ := Shipment.request_of_mem hparts
      rw [hrequest]
      rfl
    · simp only [List.mem_cons, List.not_mem_nil, or_false] at hend
      rcases hend with rfl | rfl <;> rfl

/-- Storing a whole blob begins no upload, and a refusal to store it changes nothing. -/
theorem Store.leavesNoTrace_whole {blob : Blob} {reply : Reply}
    (hreplays : Store.service.Replays before [⟨.putObject container blob options, reply⟩] after) :
    LeavesNoTrace before container key [⟨.putObject container blob options, reply⟩]
      (reply.mapError .service) after := by
  simp only [Service.replays_cons, Service.replays_nil, service_answer] at hreplays
  obtain ⟨hreply, rfl⟩ := hreplays
  have heffect := before.answer_effect (.putObject container blob options)
  rw [hreply] at heffect
  generalize (before.answer (.putObject container blob options)).2 = after at heffect ⊢
  cases heffect with
  | refused e => exact .of_not_began (by simp [Request.begins]) (by simp) (by simp)
  | put =>
    exact .of_not_began (by simp [Request.begins]) (by simp [Except.mapError]) (by simp [place])

/-- Every conversation about a blob leaves no trace of a failure. -/
theorem Conversation.leavesNoTrace {engine : Engine} {blob : Blob} {options : RequestOptions}
    (h : Conversation engine container blob options exchanges result)
    (hfresh : before.nextId ∉ before.uploads)
    (hreplays : Store.service.Replays before exchanges after) :
    LeavesNoTrace before container blob.name exchanges result after := by
  cases h with
  | lengthMissing | tooLarge =>
    obtain rfl := Service.replays_nil.mp hreplays
    exact .of_not_began (by simp) (by simp) rfl
  | whole _ _ reply => exact Store.leavesNoTrace_whole hreplays
  | refused _ _ e =>
    simp only [Service.replays_cons, Service.replays_nil, Store.service_answer] at hreplays
    obtain ⟨hreply, rfl⟩ := hreplays
    have heffect := before.answer_effect (.initiate container blob.metadata options.main)
    rw [hreply] at heffect
    generalize (before.answer (.initiate container blob.metadata options.main)).2 = after
      at heffect ⊢
    cases heffect
    exact .of_not_began (by simp) (by simp) (by simp)
  | @begun plan _ _ id exchanges _ htransfer =>
    obtain ⟨hreply, hrest⟩ := Service.replays_cons.mp hreplays
    obtain ⟨rfl, -, hunderway⟩ := Store.underway_of_initiate hreply
    have hbegan : ∀ id, Began (⟨.initiate container blob.metadata options.main,
        .ok before.nextId⟩ :: exchanges) id ↔ id = before.nextId := by
      intro id
      constructor
      · rintro ⟨exchange, hmem, hbegins, hid⟩
        rcases List.mem_cons.mp hmem with rfl | hmem
        · exact (Except.ok.inj hid).symm
        · rw [htransfer.not_begins hmem] at hbegins
          cases hbegins
      · rintro rfl
        exact ⟨_, List.mem_cons_self, rfl, rfl⟩
    rcases Transfer.cleanup (by exact htransfer) hunderway hrest with
      ⟨identifier, rfl, huploads⟩ | ⟨e, changed, rfl, hcontinues, habandoned⟩
    · rw [erase_of_not_mem hfresh] at huploads
      exact .of_ok huploads identifier
    · exact .of_abandoned hbegan hfresh habandoned hcontinues.container hcontinues.key e

theorem BlobStore.putBlob_leavesNoTrace (blobs : BlobStore)
    (hfresh : before.nextId ∉ before.uploads) (container : String) (blob : Blob)
    (config : Option PutConfiguration) :
    let talk := blobs.putBlob Store.service container blob config before
    LeavesNoTrace before container blob.name talk.exchanges talk.outcome.result talk.state := by
  simp only [putBlob]
  split
  · exact .of_not_began (by simp) (by simp) rfl
  · split
    · exact (Engine.upload_conversation blobs.engine Store.service container blob config
        before).leavesNoTrace hfresh (Engine.heldWith_upload _ _ _ _ _ _)
    · exact Store.leavesNoTrace_whole (Engine.heldWith_putWhole _ _ _ _ _)

theorem BlobStore.leavesNoTrace_of_returned {blobs : BlobStore} {blob : Blob}
    {config : Option PutConfiguration} (hfresh : before.nextId ∉ before.uploads)
    (container : String) {delivery : Delivery}
    (h : (blobs.executePut Store.service container blob config before).outcome =
      .returned delivery) :
    let talk := blobs.executePut Store.service container blob config before
    LeavesNoTrace before container blob.name talk.exchanges delivery.result talk.state := by
  have htalk := blobs.executePut_of_returned Store.service container before h
  rw [htalk] at h ⊢
  obtain rfl := Outcome.returned.inj h
  exact blobs.reading.putBlob_leavesNoTrace hfresh container blob config

/-- A put that panics leaves the upload that it began. -/
theorem BlobStore.leavesUpload_of_panicked {blobs : BlobStore} {blob : Blob}
    {config : Option PutConfiguration} (hfresh : before.nextId ∉ before.uploads)
    (container : String)
    (h : (blobs.executePut Store.service container blob config before).outcome = .panicked) :
    let talk := blobs.executePut Store.service container blob config before
    LeavesUpload before container blob.name talk.exchanges talk.state := by
  intro talk
  obtain ⟨hoverflows, id, hreply⟩ := (executePut_eq_panicked_iff blobs Store.service container
    before).mp h
  obtain ⟨rfl, -, hunderway⟩ := Store.underway_of_initiate hreply
  have htalk := blobs.executePut_of_overflows Store.service container before hoverflows
  have hexchanges : talk.exchanges = [⟨.initiate container blob.metadata
      (RequestOptions.ofConfiguration config).main, .ok before.nextId⟩] := by
    rw [← hreply]
    exact congrArg Talk.exchanges htalk
  have hstate : talk.state = _ := congrArg Talk.state htalk
  rw [hexchanges, hstate]
  exact ⟨⟨_, _, rfl⟩, hunderway.containers, hfresh, _, rfl, rfl, hunderway.uploads⟩

/-- A blob or a directory marker that is not put leaves no trace in a service, and one that is put
leaves no upload in progress. This holds of every blob store, whatever its slicer offers, and of
every put that reads a payload and returns. If memory cannot be reserved for the first part that is
read, the put panics as soon as it has begun an upload, and leaves it. This does not happen if the
greatest parts are below 2 ^ 63 bytes. -/
theorem failed_put_leaves_no_trace {store : Store} (hstore : store.Reachable) (blobs : BlobStore)
    (container : String) :
    (∀ (blob : Blob) (config : Option PutConfiguration),
      let talk := blobs.putBlob Store.service container blob config store
      LeavesNoTrace store container blob.name talk.exchanges talk.outcome.result talk.state) ∧
    (∀ (blob : Blob) (config : Option PutConfiguration),
      let talk := blobs.executePut Store.service container blob config store
      (∀ delivery, talk.outcome = .returned delivery →
        LeavesNoTrace store container blob.name talk.exchanges delivery.result talk.state) ∧
      (talk.outcome = .panicked ↔ blobs.Overflows blob config ∧ ∃ id,
        (store.answer (.initiate container blob.metadata
          (RequestOptions.ofConfiguration config).main)).1 = .ok id) ∧
      (talk.outcome = .panicked →
        LeavesUpload store container blob.name talk.exchanges talk.state) ∧
      ∀ c, BlobStore.ofConfig c = .ok blobs → c.maxPartSize.toNat ≤ maxReservation →
        talk.outcome ≠ .panicked) ∧
    ∀ (name : String) (options : DirectoryOptions),
      let talk := blobs.createDirectory Store.service container name options store
      blobs.executePut Store.service container (BlobStore.directoryMarker name)
        options.putConfiguration? store = talk.map .returned ∧
      LeavesNoTrace store container (BlobStore.directoryKey name) talk.exchanges
        talk.outcome.result talk.state := by
  have hfresh := hstore.nextId_not_mem
  refine ⟨?_, ?_, ?_⟩
  · intro blob config
    exact blobs.putBlob_leavesNoTrace hfresh container blob config
  · intro blob config talk
    refine ⟨?_, blobs.executePut_eq_panicked_iff Store.service container store,
      BlobStore.leavesUpload_of_panicked hfresh container,
      fun c ↦ blobs.executePut_ne_panicked Store.service container store⟩
    intro delivery hreturned
    exact BlobStore.leavesNoTrace_of_returned hfresh container hreturned
  · intro name options
    exact ⟨blobs.executePut_directoryMarker Store.service container store name options,
      blobs.putBlob_leavesNoTrace hfresh container (BlobStore.directoryMarker name)
        options.putConfiguration?⟩

/-- The second part is refused, and so is the abort that follows. -/
theorem stranded_upload_remains :
    let refusal := ServiceError.rejected "InternalError" "try again later"
    let store := (((Store.empty {} 0 (.labelled "u")).act (.createContainer "box")).act
      (.failPart 2 refusal)).act (.failAbort refusal)
    let talk := BlobStore.executePut ⟨{ sizing := ⟨4, 100, 5 * 2 ^ 30, 10000⟩ }⟩ Store.service "box"
      (.ofName "key" (.ofBytes [1, 2, 3, 4, 5, 6, 7])) (some (.generic true)) store
    store.Reachable ∧ "u1" ∉ store.uploads ∧
      ∃ upload : StoredUpload, upload.container = "box" ∧ upload.key = "key" ∧
        talk.state.uploads = store.uploads.insert "u1" upload := by
  intro refusal store talk
  have hstore : store.Reachable :=
    .step (.step (.step (.empty {} 0 (.labelled "u")) (.createContainer "box"))
      (.failPart 2 refusal)) (.failAbort refusal)
  have hresult : ∃ delivery, talk.outcome = .returned delivery ∧
      delivery.result = .error (.service refusal) :=
    ⟨_, rfl, by decide +kernel⟩
  obtain ⟨delivery, hreturned, hresult⟩ := hresult
  have hbegan : Began talk.exchanges "u1" := by
    refine ⟨⟨.initiate "box" { name := "key" } {}, .ok "u1"⟩, ?_, rfl, rfl⟩
    decide +kernel
  have hleaves := ((failed_put_leaves_no_trace hstore _ "box").2.1 _ _).1 delivery hreturned
  exact ⟨hstore, hleaves.stranded _ "u1" hresult hbegan (by decide)⟩

/-- A file of three bytes is declared to be longer than memory can be. No abort would fail, and
still the upload remains. -/
theorem panic_leaves_an_upload :
    let c : Config :=
      { partSize := 9223372036854775808, maxPartSize := 9223372036854775808 }
    let store := (Store.empty {} 0 (.labelled "u")).act (.createContainer "box")
    let blobs : BlobStore := ⟨{ sizing := .ofLimits c }⟩
    let payload := (Payload.ofFile "file" [97, 98, 99]).withLength (2 ^ 63 + 1)
    let talk := blobs.executePut Store.service "box" (.ofName "key" payload)
      (some (.generic true)) store
    c.validate = .ok () ∧ store.Reachable ∧ store.faults.abort = none ∧
      talk.outcome = .panicked ∧ store.inProgress "box" = [] ∧
      talk.state.inProgress "box" = ["u1"] := by
  intro c store blobs payload talk
  have hstore : store.Reachable := .step (.empty {} 0 (.labelled "u")) (.createContainer "box")
  have hplan : blobs.engine.sizing.plan (2 ^ 63 + 1) = .ok ⟨2 ^ 63 + 1, 2 ^ 63, 2⟩ := by
    decide +kernel
  have hoverflows : blobs.Overflows (.ofName "key" payload) (some (.generic true)) :=
    ⟨⟨_, rfl⟩, rfl, _, _, rfl, hplan, by decide, by decide +kernel⟩
  have hpanics : talk.outcome = .panicked :=
    (blobs.executePut_eq_panicked_iff Store.service "box" store).mpr
      ⟨hoverflows, "u1", by decide +kernel⟩
  exact ⟨by decide +kernel, hstore, rfl, hpanics, by decide, by decide +kernel⟩

end MultipartUpload
