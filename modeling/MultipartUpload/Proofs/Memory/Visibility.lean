import MultipartUpload.Proofs.Memory.Soundness

/-!
# Visibility of new uploads

A new upload is hidden from as many requests for its parts as the lag says, and from no others. Only
those requests count that nothing but the lag can refuse. Each of them brings the upload one request
closer to being seen, and nothing else that happens to a store does: so the requests that an upload
is still hidden from are what is left of the lag.
-/

namespace MultipartUpload

/-- Whether a computation succeeds with a value of a kind can be decided if the kind can. -/
instance decidableExistsOk {p : α → Prop} [DecidablePred p] :
    (result : Except ε α) → Decidable (∃ value, result = .ok value ∧ p value)
  | .ok value => decidable_of_iff (p value) (by simp)
  | .error _ => isFalse (by simp)

namespace Store

/-! ## Requests that count -/

/-- Whether a part with a number and options is accepted in a container, if only its upload is
seen there. -/
structure Admits (store : Store) (container : String) (number : ℕ) (options : UploadOptions) :
    Prop where
  /-- The options can be sent, and they are such that a part may carry them. -/
  headers : ∃ headers, options.headers store.headerTag = .ok headers ∧
    headers.find? store.headerTag UploadOptions.encryptionHeader = none ∧
    headers.find? store.headerTag UploadOptions.aclHeader = none
  fault : store.faults.queue number = []
  number : 1 ≤ number ∧ number ≤ Limits.maxPartCount.toNat
  container : container ∈ store.containers

instance (store : Store) (container : String) (number : ℕ) (options : UploadOptions) :
    Decidable (store.Admits container number options) :=
  decidable_of_iff (_ ∧ _ ∧ _ ∧ _) ⟨fun ⟨headers, fault, number, container⟩ ↦
    ⟨headers, fault, number, container⟩, fun ⟨headers, fault, number, container⟩ ↦
    ⟨headers, fault, number, container⟩⟩

/-- Whether a request is for a part of an upload that is in progress where the request says, so that
nothing but the lag can refuse it. -/
def Eligible (store : Store) (id : String) : Request → Prop
  | .uploadPart container key number other _ options =>
    other = id ∧ store.Admits container number options ∧ (store.upload? container key id).isSome
  | _ => False

instance (store : Store) (id : String) : DecidablePred (store.Eligible id)
  | .uploadPart .. => inferInstanceAs (Decidable (_ ∧ _ ∧ _))
  | .initiate .. | .complete .. | .abort .. | .putObject .. => isFalse not_false

/-- The eligible requests of a run for an upload, with the replies to them. -/
def eligibleExchanges (id : String) (store : Store) : List Action → List Exchange
  | [] => []
  | action :: rest =>
    (store.exchange? action).toList.filter (fun exchange ↦ store.Eligible id exchange.request) ++
      (store.act action).eligibleExchanges id rest

variable {store next : Store} {container key id other : String} {number : ℕ} {part : Part}
  {options : UploadOptions} {request : Request} {headers : Headers} {upload : StoredUpload}

theorem eligibleExchanges_append (id : String) (store : Store) (first second : List Action) :
    store.eligibleExchanges id (first ++ second) =
      store.eligibleExchanges id first ++ (store.run first).eligibleExchanges id second := by
  induction first generalizing store with
  | nil => rfl
  | cons action rest ih =>
    rw [List.cons_append, eligibleExchanges, eligibleExchanges, ih, List.append_assoc]
    rfl

/-! ## The answer to a request that counts -/

/-- A request counts if it arrives, meets no failure and is not refused, and its upload is there. -/
theorem eligible_uploadPart_iff :
    store.Eligible id (.uploadPart container key number other part options) ↔
      other = id ∧ ∃ headers upload, options.headers store.headerTag = .ok headers ∧
        store.faults.queue number = [] ∧ store.partRefusal? container number headers = none ∧
        store.upload? container key id = some upload := by
  constructor
  · rintro ⟨rfl, ⟨⟨headers, hheaders, hencryption, hacl⟩, hfault, hnumber, hcontainer⟩, hupload⟩
    obtain ⟨upload, hupload⟩ := Option.isSome_iff_exists.mp hupload
    exact ⟨rfl, headers, upload, hheaders, hfault,
      partRefusal?_eq_none_iff.mpr ⟨hencryption, hacl, hnumber, hcontainer⟩, hupload⟩
  · rintro ⟨rfl, headers, upload, hheaders, hfault, hrefusal, hupload⟩
    obtain ⟨hencryption, hacl, hnumber, hcontainer⟩ := partRefusal?_eq_none_iff.mp hrefusal
    exact ⟨rfl, ⟨⟨headers, hheaders, hencryption, hacl⟩, hfault, hnumber, hcontainer⟩,
      Option.isSome_iff_exists.mpr ⟨upload, hupload⟩⟩

/-- A request that counts is answered as if there were no upload while the upload is hidden, and
stores its part once it is seen. -/
theorem answer_of_eligible
    (h : store.Eligible id (.uploadPart container key number id part options))
    (hrecord : store.uploads[id]? = some upload) :
    let request : Request := .uploadPart container key number id part options
    store.answer request =
      if upload.hiddenFor = 0 then (.ok (ETag.ofData part.data),
        (store.met request).setUpload id (upload.putPart (.ofData number part.data)))
      else (.error (.keyNotFound container key (some id)),
        (store.met request).setUpload id { upload with hiddenFor := upload.hiddenFor - 1 }) := by
  intro request
  obtain ⟨-, headers, found, hheaders, hfault, hrefusal, hupload⟩ := eligible_uploadPart_iff.mp h
  obtain rfl : found = upload :=
    Option.some.inj ((upload?_eq_some.mp hupload).1.symm.trans hrecord)
  exact answer_uploadPart hheaders hfault hrefusal hupload

/-- The upload that a request counts for is in progress, and its record is written again. -/
theorem Eligible.exists_record (h : store.Eligible id request) : ∃ upload record,
    store.uploads[id]? = some upload ∧ record.hiddenFor = upload.hiddenFor - 1 ∧
      (store.answer request).2.uploads = store.uploads.insert id record := by
  cases request with
  | initiate | complete | abort | putObject => exact absurd h not_false
  | uploadPart container key number other part options =>
    obtain ⟨rfl, -, upload, -, -, -, hupload⟩ := eligible_uploadPart_iff.mp h
    have hrecord := (upload?_eq_some.mp hupload).1
    rw [answer_of_eligible h hrecord]
    split_ifs with hseen
    · refine ⟨upload, upload.putPart (.ofData number part.data), hrecord, ?_, ?_⟩
      · rw [hseen]
        exact hseen
      · rw [setUpload, met_uploads]
    · exact ⟨upload, _, hrecord, rfl, by rw [setUpload, met_uploads]⟩

/-- A request for a part that does not count for its upload changes no upload. -/
theorem uploads_answer_of_not_eligible
    (h : ¬store.Eligible id (.uploadPart container key number id part options)) :
    (store.answer (.uploadPart container key number id part options)).2.uploads =
      store.uploads := by
  let request : Request := .uploadPart container key number id part options
  change (store.answer request).2.uploads = _
  rcases hheaders : request.options.headers store.headerTag with fault | headers
  · simp only [answer, Request.received_eq_error hheaders]
  · rcases hfault : store.faults.waiting? request with - | e
    · rw [answer_of_none hheaders hfault]
      change ((store.met request).uploadPart container key number id part.data headers).2.uploads =
        store.uploads
      rw [uploadPart, met_partRefusal?, met_upload?]
      split
      · exact met_uploads
      · split
        · exact met_uploads
        · rename_i hrefusal _ upload hupload
          exact absurd (eligible_uploadPart_iff.mpr ⟨rfl, headers, upload, hheaders,
            List.head?_eq_none_iff.mp hfault, hrefusal, hupload⟩) h
    · rw [answer_of_some hheaders hfault]
      exact met_uploads

/-! ## Records under way -/

/-- An exchange that does not count for an upload keeps its record, or ends it, or begins it. -/
theorem getElem?_answer_of_not_eligible (h : ¬store.Eligible id request) :
    (store.answer request).2.uploads[id]? = store.uploads[id]? ∨
      (store.answer request).2.uploads[id]? = none ∨
      store.nextId = id ∧ ∃ upload, (store.answer request).2.uploads[id]? = some upload ∧
        upload.hiddenFor = store.lag := by
  have hkept : ∀ {container key number part options},
      request = .uploadPart container key number id part options →
      (store.answer request).2.uploads[id]? = store.uploads[id]? := by
    rintro container key number part options rfl
    rw [uploads_answer_of_not_eligible h]
  have htouches := (store.answer_effect request).touches id
  rw [met_uploads] at htouches
  generalize store.uploads[id]? = before? at htouches hkept ⊢
  generalize (store.answer request).2.uploads[id]? = after? at htouches hkept ⊢
  generalize (store.answer request).1 = reply at htouches
  cases htouches with
  | unconcerned => exact .inl rfl
  | begun _ hid => exact .inr (.inr ⟨met_nextId.symm.trans hid, _, rfl, met_lag⟩)
  | hidden | stored => exact .inl (hkept rfl)
  | completed | aborted => exact .inr (.inl rfl)

/-- What is left of the lag for an upload after some requests that count. -/
structure Awaits (store : Store) (id : String) (lag count : ℕ) : Prop where
  lag_eq : store.lag = lag
  issued : store.Issued
  hasIssued : 0 < count → store.HasIssued id
  hiddenFor : ∀ {upload : StoredUpload}, store.uploads[id]? = some upload →
    upload.hiddenFor = lag - count

variable {lag count : ℕ}

theorem Awaits.prepares (h : store.Awaits id lag count) (hnext : store.Prepares next) :
    next.Awaits id lag count where
  lag_eq := hnext.lag.trans h.lag_eq
  issued := h.issued.prepares hnext
  hasIssued hcount := (h.hasIssued hcount).prepares hnext
  hiddenFor hrecord := by
    rw [hnext.uploads] at hrecord
    exact h.hiddenFor hrecord

/-- A request that does not count leaves the lag of an upload as it is. -/
theorem Awaits.of_not_eligible (h : store.Awaits id lag count)
    (hrequest : ¬store.Eligible id request) : (store.answer request).2.Awaits id lag count where
  lag_eq := (store.answer_effect request).lag.trans (met_lag.trans h.lag_eq)
  issued := act_issued h.issued (.request request)
  hasIssued hcount := (h.hasIssued hcount).answer request
  hiddenFor {upload} hrecord := by
    rcases getElem?_answer_of_not_eligible hrequest with hsame | hended | ⟨hid, begun, hbegun, hlag⟩
    · rw [hsame] at hrecord
      exact h.hiddenFor hrecord
    · rw [hended] at hrecord
      cases hrecord
    · rw [hbegun] at hrecord
      cases hrecord
      have hzero : count = 0 := by
        by_contra hcount
        exact (h.hasIssued (Nat.pos_of_ne_zero hcount)).ne_nextId hid.symm
      rw [hlag, h.lag_eq, hzero, Nat.sub_zero]

/-- A request that counts brings its upload one request closer to being seen. -/
theorem Awaits.of_eligible (h : store.Awaits id lag count) (hrequest : store.Eligible id request) :
    (store.answer request).2.Awaits id lag (count + 1) := by
  obtain ⟨upload, record, hrecord, hcloser, hnext⟩ := hrequest.exists_record
  constructor
  case lag_eq => exact (store.answer_effect request).lag.trans (met_lag.trans h.lag_eq)
  case issued => exact act_issued h.issued (.request request)
  case hasIssued =>
    have hissued : store.HasIssued id :=
      h.issued id (Std.ExtTreeMap.mem_iff_isSome_getElem?.mpr (by rw [hrecord]; rfl))
    exact fun _ ↦ hissued.answer request
  case hiddenFor =>
    intro after hafter
    rw [hnext, Std.ExtTreeMap.getElem?_insert_self, Option.some.injEq] at hafter
    rw [← hafter, hcloser, h.hiddenFor hrecord, Nat.sub_sub]

theorem Awaits.act (h : store.Awaits id lag count) (action : Action) :
    (store.act action).Awaits id lag (count + (store.eligibleExchanges id [action]).length) := by
  rcases store.act_prepares action with ⟨request, rfl⟩ | ⟨hsilent, hnext⟩
  · by_cases hrequest : store.Eligible id request
    · simpa [eligibleExchanges, exchange?, Store.act, hrequest] using h.of_eligible hrequest
    · simpa [eligibleExchanges, exchange?, Store.act, hrequest] using h.of_not_eligible hrequest
  · simpa [eligibleExchanges, hsilent] using h.prepares hnext

/-- After every run, an upload is still hidden from as many requests as those that counted have left
of the lag. -/
theorem awaits_run (c : Config) (lag : ℕ) (spelling : UploadId.Spelling) (actions : List Action)
    (id : String) : ((empty c lag spelling).run actions).Awaits id lag
      ((empty c lag spelling).eligibleExchanges id actions).length := by
  induction actions using List.reverseRecOn with
  | nil =>
    have hissued := (Reachable.empty c lag spelling).issued
    exact ⟨rfl, hissued, nofun, by simp [run, empty, eligibleExchanges]⟩
  | append_singleton actions action ih =>
    rw [run_append, eligibleExchanges_append, List.length_append]
    exact ih.act action

/-! ## Replies -/

/-- The reply to a request that counts depends on how many counted before it. -/
theorem Awaits.answer (h : store.Awaits id lag count) (hrequest : store.Eligible id request) :
    ∃ container key number part options,
      request = .uploadPart container key number id part options ∧
      (store.answer request).1 = if count < lag then .error (.keyNotFound container key (some id))
        else .ok (ETag.ofData part.data) := by
  obtain ⟨upload, -, hrecord, -⟩ := hrequest.exists_record
  have hhidden := h.hiddenFor hrecord
  cases request with
  | initiate | complete | abort | putObject => exact absurd hrequest not_false
  | uploadPart container key number other part options =>
    obtain rfl := hrequest.1
    refine ⟨container, key, number, part, options, rfl, ?_⟩
    rw [answer_of_eligible hrequest hrecord]
    split_ifs <;> first | rfl | omega

theorem eligibleExchanges_singleton_eq_some {action : Action} {n : ℕ} {exchange : Exchange}
    (h : (store.eligibleExchanges id [action])[n]? = some exchange) :
    n = 0 ∧ store.Eligible id exchange.request ∧
      exchange.reply = (store.answer exchange.request).1 := by
  rcases store.act_prepares action with ⟨request, rfl⟩ | ⟨hsilent, -⟩
  · by_cases hrequest : store.Eligible id request
    · simp only [eligibleExchanges, exchange?, Option.toList_some, List.filter_cons_of_pos,
        hrequest, decide_true, List.filter_nil, List.append_nil, List.getElem?_singleton] at h
      split_ifs at h with hn
      cases h
      exact ⟨hn, hrequest, rfl⟩
    · simp [eligibleExchanges, exchange?, hrequest] at h
  · simp [eligibleExchanges, hsilent] at h

/-- The requests that count are answered according to their place among each other. -/
theorem eligibleExchanges_run (c : Config) (lag : ℕ) (spelling : UploadId.Spelling)
    (actions : List Action) (id : String) {n : ℕ} {exchange : Exchange}
    (h : ((empty c lag spelling).eligibleExchanges id actions)[n]? = some exchange) :
    ∃ container key number part options,
      exchange.request = .uploadPart container key number id part options ∧
      exchange.reply = if n < lag then .error (.keyNotFound container key (some id))
        else .ok (ETag.ofData part.data) := by
  induction actions using List.reverseRecOn with
  | nil => cases h
  | append_singleton actions action ih =>
    rw [eligibleExchanges_append, List.getElem?_append] at h
    split_ifs at h with hbefore
    · exact ih h
    · have hawaits := awaits_run c lag spelling actions id
      obtain ⟨hlast, hrequest, hreply⟩ := eligibleExchanges_singleton_eq_some h
      rw [show n = ((empty c lag spelling).eligibleExchanges id actions).length by omega, hreply]
      exact hawaits.answer hrequest

end Store

/-- In every run, the first requests that count for an upload, as many as the lag says, are answered
as if there were no upload, and leave its parts and all objects as they are. Every later one stores
its part. Nothing else that happens in the run brings the upload closer to being seen. -/
theorem uploads_are_hidden_for_lag (c : Config) (lag : ℕ) (spelling : UploadId.Spelling)
    (actions : List Store.Action) (id : String) :
    let start := Store.empty c lag spelling
    let store := start.run actions
    let count := (start.eligibleExchanges id actions).length
    (∀ n exchange, (start.eligibleExchanges id actions)[n]? = some exchange →
      ∃ container key number part options,
        exchange.request = .uploadPart container key number id part options ∧
        exchange.reply = if n < lag then .error (.keyNotFound container key (some id))
          else .ok (ETag.ofData part.data)) ∧
    (∀ container key number part options,
      let request : Request := .uploadPart container key number id part options
      let answered := store.answer request
      store.Eligible id request → ∃ upload, store.uploads[id]? = some upload ∧
        answered.2.containers = store.containers ∧
        (count < lag → answered.1 = .error (.keyNotFound container key (some id)) ∧
          answered.2.uploads = store.uploads.insert id
            { upload with hiddenFor := upload.hiddenFor - 1 }) ∧
        (lag ≤ count → answered.1 = .ok (ETag.ofData part.data) ∧
          answered.2.uploads = store.uploads.insert id
            (upload.putPart (.ofData number part.data)))) ∧
    (∀ upload, store.uploads[id]? = some upload → upload.hiddenFor = lag - count) ∧
    ∀ action, (∀ request, action = .request request → ¬store.Eligible id request) →
      ∀ before after, store.uploads[id]? = some before →
        (store.act action).uploads[id]? = some after → after.hiddenFor = before.hiddenFor := by
  intro start store count
  have hawaits : store.Awaits id lag count := Store.awaits_run c lag spelling actions id
  refine ⟨fun _ _ ↦ Store.eligibleExchanges_run c lag spelling actions id, ?_,
    fun _ hrecord ↦ hawaits.hiddenFor hrecord, ?_⟩
  · intro container key number part options request answered hrequest
    obtain ⟨upload, -, hrecord, -⟩ := hrequest.exists_record
    have hhidden := hawaits.hiddenFor hrecord
    simp only [answered, request, Store.answer_of_eligible hrequest hrecord]
    refine ⟨upload, hrecord, ?_, fun hfirst ↦ ?_, fun hlater ↦ ?_⟩
    · split_ifs <;> exact Store.met_containers
    · rw [if_neg (by omega), Store.setUpload, Store.met_uploads]
      exact ⟨rfl, rfl⟩
    · rw [if_pos (by omega), Store.setUpload, Store.met_uploads]
      exact ⟨rfl, rfl⟩
  · intro action haction before after hbefore hafter
    rw [hawaits.hiddenFor hbefore]
    rcases store.act_prepares action with ⟨request, rfl⟩ | ⟨-, hnext⟩
    · exact (hawaits.of_not_eligible (haction request rfl)).hiddenFor hafter
    · exact (hawaits.prepares hnext).hiddenFor hafter

/-- Of two requests that count the first one is refused if an upload is hidden from one. A request
that meets a failure, one without a part number and one for another upload do not count. -/
theorem hidden_upload_is_seen_by_second_request :
    let initiate : Request := .initiate "box" { name := "key" } {}
    let bring (number : ℕ) (id : String) : Request :=
      .uploadPart "box" "key" number id ⟨0, [1, 2]⟩ {}
    let start := Store.empty {} 1 (.labelled "u")
    let actions := [.createContainer "box", .request initiate, .request initiate,
      .failPart 1 (.rejected "InternalError" "try again later"), .request (bring 1 "u1"),
      .request (bring 0 "u1"), .request (bring 1 "u2")]
    let store := start.run actions
    let later := start.run (actions ++ [.request (bring 1 "u1")])
    store.Eligible "u1" (bring 1 "u1") ∧ later.Eligible "u1" (bring 1 "u1") ∧
      (store.answer (bring 1 "u1")).1 = .error (.keyNotFound "box" "key" (some "u1")) ∧
      (later.answer (bring 1 "u1")).1 = .ok (ETag.ofData [1, 2]) := by
  intro initiate bring start actions store later
  have hfirst : store.Eligible "u1" (bring 1 "u1") := by decide +kernel
  have hsecond : later.Eligible "u1" (bring 1 "u1") := by decide +kernel
  have hbefore := (uploads_are_hidden_for_lag {} 1 (.labelled "u") actions "u1").2.1
  have hafter := (uploads_are_hidden_for_lag {} 1 (.labelled "u")
    (actions ++ [.request (bring 1 "u1")]) "u1").2.1
  obtain ⟨_, hrefused⟩ := hbefore "box" "key" 1 ⟨0, [1, 2]⟩ {} hfirst
  obtain ⟨_, hstored⟩ := hafter "box" "key" 1 ⟨0, [1, 2]⟩ {} hsecond
  exact ⟨hfirst, hsecond, (hrefused.2.2.1 (by decide +kernel)).1,
    (hstored.2.2.2 (by decide +kernel)).1⟩

end MultipartUpload
