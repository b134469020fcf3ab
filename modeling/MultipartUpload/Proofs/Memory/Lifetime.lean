import MultipartUpload.Proofs.Memory.Isolation
import MultipartUpload.Proofs.Memory.Run
import MultipartUpload.Proofs.Memory.Table

/-!
# Lifetimes of uploads

Of all exchanges of a run, those that concern one upload tell its life: it begins, parts of it are
accepted, and it is completed or aborted. It is in progress from its beginning to its end and never
again. What this rests on is that no identifier is issued twice.
-/

namespace MultipartUpload

namespace Exchange

/-- Whether a request was granted that begins an upload, brings a part of it or ends it. -/
def concerns (id : String) : Exchange → Bool
  | ⟨.initiate .., .ok granted⟩ => granted == id
  | ⟨.uploadPart _ _ _ other _ _, .ok _⟩ => other == id
  | ⟨.complete _ _ other _, .ok _⟩ => other == id
  | ⟨.abort _ _ other, .ok _⟩ => other == id
  | _ => false

/-- Whether an upload was completed or aborted. -/
def ends (id : String) : Exchange → Bool
  | ⟨.complete _ _ other _, .ok _⟩ => other == id
  | ⟨.abort _ _ other, .ok _⟩ => other == id
  | _ => false

variable {exchange : Exchange} {id : String}

theorem concerns_of_ends (h : exchange.ends id) : exchange.concerns id := by
  unfold ends at h
  split at h
  · exact h
  · exact h
  · cases h

theorem concerns_initiate {container : String} {metadata : Metadata} {options : UploadOptions} :
    (Exchange.mk (.initiate container metadata options) (.ok id)).concerns id :=
  beq_self_eq_true id

@[simp]
theorem concerns_of_error (request : Request) (e : ServiceError) :
    (Exchange.mk request (.error e)).concerns id = false := by
  cases request <;> rfl

end Exchange

/-! ## One upload -/

namespace Store

/-- What an exchange does to the record under an identifier. -/
inductive Touches (store : Store) (id : String) :
    Exchange → Option StoredUpload → Option StoredUpload → Prop where
  | unconcerned {exchange record?} (h : exchange.concerns id = false) :
      Touches store id exchange record? record?
  | begun {container metadata record?} {options : UploadOptions}
      (hcontainer : container ∈ store.containers) (hid : store.nextId = id) :
      Touches store id ⟨.initiate container metadata options, .ok id⟩ record?
        (some (.start id container metadata options.stored store.lag))
  | hidden {upload number part options} (e : ServiceError) (hhidden : upload.hiddenFor ≠ 0) :
      Touches store id
        ⟨.uploadPart upload.container upload.key number id part options, .error e⟩
        (some upload) (some { upload with hiddenFor := upload.hiddenFor - 1 })
  | stored {upload number part options}
      (hnumber : 1 ≤ number ∧ number ≤ Limits.maxPartCount.toNat) (hseen : upload.hiddenFor = 0) :
      Touches store id
        ⟨.uploadPart upload.container upload.key number id part options,
          .ok (ETag.ofData part.data)⟩
        (some upload) (some (upload.putPart (.ofData number part.data)))
  | completed {upload manifest granted} :
      Touches store id ⟨.complete upload.container upload.key id manifest, .ok granted⟩
        (some upload) none
  | aborted {upload} :
      Touches store id ⟨.abort upload.container upload.key id, .ok ""⟩ (some upload) none

variable {store next : Store} {request : Request} {reply : Reply}

/-- An upload that an exchange concerns is in progress before it or after it. -/
theorem Touches.isSome_or_isSome {id : String} {exchange : Exchange}
    {before? after? : Option StoredUpload} (h : Touches store id exchange before? after?)
    (hconcerns : exchange.concerns id) : before?.isSome ∨ after?.isSome := by
  cases h with
  | unconcerned hnot =>
    rw [hnot] at hconcerns
    cases hconcerns
  | begun => exact .inr rfl
  | hidden | stored | completed | aborted => exact .inl rfl

/-- A request about an upload is granted only if it names where the upload is in progress. -/
theorem Touches.exists_upload {id granted : String} {before? after? : Option StoredUpload}
    (h : Touches store id ⟨request, .ok granted⟩ before? after?)
    (hid : request.uploadId? = some id) :
    ∃ upload, before? = some upload ∧ request.container = upload.container ∧
      request.key = upload.key := by
  cases h with
  | unconcerned hnot => cases request <;> simp_all [Exchange.concerns, Request.uploadId?]
  | begun => cases hid
  | @stored upload => exact ⟨upload, rfl, rfl, rfl⟩
  | @completed upload => exact ⟨upload, rfl, rfl, rfl⟩
  | @aborted upload => exact ⟨upload, rfl, rfl, rfl⟩

/-- What an effect does to the record of one upload. -/
theorem Effect.touches (h : Effect store request reply next) (id : String) :
    Touches store id ⟨request, reply⟩ store.uploads[id]? next.uploads[id]? := by
  cases h with
  | refused e => exact .unconcerned (Exchange.concerns_of_error request e)
  | begun hcontainer =>
    by_cases hid : store.nextId = id
    · subst hid
      simp only [begin, Std.ExtTreeMap.getElem?_insert_self]
      exact .begun hcontainer rfl
    · simp only [begin, Std.ExtTreeMap.getElem?_insert, Std.compare_eq_iff_eq, hid, if_false]
      exact .unconcerned (by simpa [Exchange.concerns] using hid)
  | @hidden _ _ _ other _ _ upload hupload hhidden =>
    obtain ⟨hrecord, rfl, rfl⟩ := upload?_eq_some.mp hupload
    rcases eq_or_ne other id with rfl | hne
    · simp only [setUpload, Std.ExtTreeMap.getElem?_insert_self, hrecord]
      exact .hidden _ hhidden
    · rw [← (Alike.setUpload_of_ne hne store _).upload]
      exact .unconcerned (Exchange.concerns_of_error _ _)
  | @stored _ _ _ other _ _ upload _ hnumber hupload hseen =>
    obtain ⟨hrecord, rfl, rfl⟩ := upload?_eq_some.mp hupload
    rcases eq_or_ne other id with rfl | hne
    · simp only [setUpload, Std.ExtTreeMap.getElem?_insert_self, hrecord]
      exact .stored hnumber hseen
    · rw [← (Alike.setUpload_of_ne hne store _).upload]
      exact .unconcerned (by simpa [Exchange.concerns] using hne)
  | @completed _ _ other _ upload parts _ _ hupload =>
    obtain ⟨hrecord, rfl, rfl⟩ := upload?_eq_some.mp hupload
    rcases eq_or_ne other id with rfl | hne
    · simp only [place, removeUpload, Std.ExtTreeMap.getElem?_erase_self, hrecord]
      exact .completed
    · rw [← (Alike.place _ upload.container (upload.assemble parts)).upload,
        ← (Alike.removeUpload_of_ne hne store).upload]
      exact .unconcerned (by simpa [Exchange.concerns] using hne)
  | @aborted _ _ other upload hupload =>
    obtain ⟨hrecord, rfl, rfl⟩ := upload?_eq_some.mp hupload
    rcases eq_or_ne other id with rfl | hne
    · simp only [removeUpload, Std.ExtTreeMap.getElem?_erase_self, hrecord]
      exact .aborted
    · rw [← (Alike.removeUpload_of_ne hne store).upload]
      exact .unconcerned (by simpa [Exchange.concerns] using hne)
  | put => exact .unconcerned rfl

end Store

/-- The course of an upload in progress: the exchanges that concern it, and its record after them. -/
inductive Course (id : String) : List Exchange → StoredUpload → Prop where
  | begun (container : String) (metadata : Metadata) (options : UploadOptions) (lag : ℕ) :
      Course id [⟨.initiate container metadata options, .ok id⟩]
        (.start id container metadata options.stored lag)
  | hidden {life upload} (h : Course id life upload) :
      Course id life { upload with hiddenFor := upload.hiddenFor - 1 }
  | stored {life upload} (h : Course id life upload) (number : ℕ) (part : Part)
      (options : UploadOptions) :
      Course id (life ++ [⟨.uploadPart upload.container upload.key number id part options,
          .ok (ETag.ofData part.data)⟩])
        (upload.putPart (.ofData number part.data))

/-- The life of an upload, which may not have begun or may have ended, and its record if it is in
progress. -/
inductive Life (id : String) : List Exchange → Option StoredUpload → Prop where
  | unborn : Life id [] none
  | underway {life upload} (h : Course id life upload) : Life id life (some upload)
  | ended {life upload} (h : Course id life upload) (last : Exchange) (hends : last.ends id)
      (hcontainer : last.request.container = upload.container)
      (hkey : last.request.key = upload.key) : Life id (life ++ [last]) none

namespace Course

variable {id : String} {life : List Exchange} {upload : StoredUpload} {exchange : Exchange}

theorem id_eq (h : Course id life upload) : upload.id = id := by
  induction h with
  | begun => rfl
  | hidden _ ih | stored _ _ _ _ ih => exact ih

theorem key_eq (h : Course id life upload) : upload.key = upload.metadata.name := by
  induction h with
  | begun => rfl
  | hidden _ ih | stored _ _ _ _ ih => exact ih

/-- An upload in progress was begun once, and since then parts of it were accepted. -/
theorem exists_parts (h : Course id life upload) : ∃ options parts,
    life = ⟨.initiate upload.container upload.metadata options, .ok id⟩ :: parts ∧
      options.stored = upload.options ∧
      ∀ exchange ∈ parts, exchange.request.operation = .uploadPart := by
  induction h with
  | begun container metadata options lag => exact ⟨options, [], rfl, rfl, by simp⟩
  | hidden _ ih => exact ih
  | @stored life upload _ number part options' ih =>
    obtain ⟨options, parts, rfl, hoptions, hparts⟩ := ih
    refine ⟨options, _, rfl, hoptions, ?_⟩
    intro exchange hmem
    rcases List.mem_append.mp hmem with hmem | hmem
    · exact hparts exchange hmem
    · rw [List.mem_singleton.mp hmem]
      rfl

theorem ends_eq_false (h : Course id life upload) (hmem : exchange ∈ life) :
    exchange.ends id = false := by
  obtain ⟨options, parts, rfl, -, hparts⟩ := h.exists_parts
  rcases List.mem_cons.mp hmem with rfl | hmem
  · rfl
  · have hoperation := hparts exchange hmem
    obtain ⟨request, reply⟩ := exchange
    cases request <;> first | rfl | cases hoperation

theorem exists_initiate (h : Course id life upload) : ∃ options,
    ⟨.initiate upload.container upload.metadata options, .ok id⟩ ∈ life := by
  obtain ⟨options, parts, rfl, -⟩ := h.exists_parts
  exact ⟨options, List.mem_cons_self⟩

/-- What an upload began with is what its record says. -/
theorem eq_of_initiate (h : Course id life upload) {container granted : String}
    {metadata : Metadata} {options : UploadOptions}
    (hmem : ⟨.initiate container metadata options, .ok granted⟩ ∈ life) :
    container = upload.container ∧ metadata = upload.metadata ∧
      options.stored = upload.options := by
  obtain ⟨options', parts, rfl, hoptions, hparts⟩ := h.exists_parts
  rcases List.mem_cons.mp hmem with heq | hmem
  · cases heq
    exact ⟨rfl, rfl, hoptions⟩
  · cases hparts _ hmem

end Course

theorem Life.course {id : String} {life : List Exchange} {upload : StoredUpload}
    (h : Life id life (some upload)) : Course id life upload := by
  generalize hrecord : some upload = record? at h
  cases h with
  | unborn | ended => cases hrecord
  | underway hcourse =>
    cases hrecord
    exact hcourse

/-- An upload that began and is not in progress has ended, by a request for where it began. -/
theorem Life.exists_ends {id container : String} {life : List Exchange} {metadata : Metadata}
    {options : UploadOptions} (h : Life id life none)
    (hbegun : ⟨.initiate container metadata options, .ok id⟩ ∈ life) :
    ∃ exchange ∈ life, exchange.ends id ∧ exchange.request.container = container ∧
      exchange.request.key = metadata.name := by
  generalize hrecord : none = record? at h
  cases h with
  | unborn => cases hbegun
  | underway => cases hrecord
  | ended hcourse last hends hcontainer hkey =>
    rcases List.mem_append.mp hbegun with hmem | hmem
    · obtain ⟨rfl, rfl, -⟩ := hcourse.eq_of_initiate hmem
      rw [hcourse.key_eq] at hkey
      exact ⟨last, List.mem_concat_self, hends, hcontainer, hkey⟩
    · rw [← List.mem_singleton.mp hmem] at hends
      cases hends

/-! ## All uploads of a run -/

namespace Store

/-- What the exchanges of a run tell of every upload. -/
structure Told (log : List Exchange) (store : Store) : Prop where
  issued : store.Issued
  hasIssued : ∀ id, ∀ exchange ∈ log, exchange.concerns id → store.HasIssued id
  life : ∀ id, Life id (log.filter (·.concerns id)) store.uploads[id]?

variable {log : List Exchange} {store next : Store} {request : Request} {reply : Reply}

theorem Told.empty (c : Config) (lag : ℕ) (spelling : UploadId.Spelling) :
    Told [] (.empty c lag spelling) where
  issued := (Reachable.empty c lag spelling).issued
  hasIssued := by simp
  life id := by
    simp only [Store.empty, Std.ExtTreeMap.getElem?_empty]
    exact .unborn

theorem Told.prepares (h : Told log store) (hnext : store.Prepares next) : Told log next where
  issued := h.issued.prepares hnext
  hasIssued id exchange hmem hconcerns := (h.hasIssued id exchange hmem hconcerns).prepares hnext
  life id := by
    rw [hnext.uploads]
    exact h.life id

/-- The identifier that is issued next is not concerned in anything that happened. -/
theorem Told.filter_concerns_nextId (h : Told log store) :
    log.filter (·.concerns store.nextId) = [] := by
  rw [List.filter_eq_nil_iff]
  intro exchange hmem hconcerns
  exact (h.hasIssued _ exchange hmem hconcerns).ne_nextId rfl

theorem Told.effect (h : Told log store) (heffect : Effect store request reply next) :
    Told (log ++ [⟨request, reply⟩]) next where
  issued := heffect.issued h.issued
  hasIssued id exchange hmem hconcerns := by
    rcases List.mem_append.mp hmem with hmem | hmem
    · exact heffect.hasIssued (h.hasIssued id exchange hmem hconcerns)
    · rw [List.mem_singleton.mp hmem] at hconcerns
      rcases (heffect.touches id).isSome_or_isSome hconcerns with hbefore | hafter
      · exact heffect.hasIssued (h.issued id (Std.ExtTreeMap.mem_iff_isSome_getElem?.mpr hbefore))
      · exact heffect.issued h.issued id (Std.ExtTreeMap.mem_iff_isSome_getElem?.mpr hafter)
  life id := by
    have hlife := h.life id
    have htouches := heffect.touches id
    have hnew : store.nextId = id → log.filter (·.concerns id) = [] := by
      rintro rfl
      exact h.filter_concerns_nextId
    rw [List.filter_append, List.filter_singleton]
    generalize Exchange.mk request reply = exchange at htouches ⊢
    generalize store.uploads[id]? = record? at hlife htouches
    generalize next.uploads[id]? = next? at htouches ⊢
    generalize log.filter (·.concerns id) = life at hlife hnew ⊢
    cases htouches with
    | unconcerned hconcerns => simpa [hconcerns] using hlife
    | begun _ hid =>
      rw [hnew hid]
      simpa [Exchange.concerns] using Life.underway (.begun _ _ _ _)
    | hidden => simpa using Life.underway hlife.course.hidden
    | stored => simpa [Exchange.concerns] using Life.underway (hlife.course.stored _ _ _)
    | completed | aborted =>
      simp only [Exchange.concerns, beq_self_eq_true, cond_true]
      exact .ended hlife.course _ (by simp [Exchange.ends]) rfl rfl

theorem told_run (c : Config) (lag : ℕ) (spelling : UploadId.Spelling) (actions : List Action) :
    Told ((empty c lag spelling).transcript actions) ((empty c lag spelling).run actions) :=
  run_keeps (.empty c lag spelling) (fun hnext h ↦ h.prepares hnext)
    (fun heffect h ↦ h.effect heffect) actions

/-- The identifiers that are listed for a container are those of the uploads in progress there. -/
theorem Told.mem_inProgress_iff (h : Told log store) {container id : String} :
    id ∈ store.inProgress container ↔
      ∃ upload, store.uploads[id]? = some upload ∧ upload.container = container := by
  have hid : ∀ {id} {upload : StoredUpload}, store.uploads[id]? = some upload → upload.id = id := by
    intro id upload hrecord
    have hlife := h.life id
    rw [hrecord] at hlife
    exact hlife.course.id_eq
  simp only [inProgress, List.mem_map, List.mem_filter, mem_values, beq_iff_eq]
  constructor
  · rintro ⟨upload, ⟨⟨other, hrecord⟩, hcontainer⟩, rfl⟩
    rw [← hid hrecord] at hrecord
    exact ⟨upload, hrecord, hcontainer⟩
  · rintro ⟨upload, hrecord, hcontainer⟩
    exact ⟨upload, ⟨⟨id, hrecord⟩, hcontainer⟩, hid hrecord⟩

/-- A record is the outcome of what happened to its upload so far. -/
theorem Told.course (h : Told log store) {id : String} {upload : StoredUpload}
    (hrecord : store.uploads[id]? = some upload) :
    Course id (log.filter (·.concerns id)) upload := by
  have hlife := h.life id
  rw [hrecord] at hlife
  exact hlife.course

/-- A record says what its upload began with. -/
theorem Told.began (h : Told log store) {id : String} {upload : StoredUpload}
    (hrecord : store.uploads[id]? = some upload) {container : String} {metadata : Metadata}
    {options : UploadOptions} (hbegun : ⟨.initiate container metadata options, .ok id⟩ ∈ log) :
    container = upload.container ∧ metadata = upload.metadata ∧ options.stored = upload.options := by
  apply (h.course hrecord).eq_of_initiate
  exact List.mem_filter.mpr ⟨hbegun, Exchange.concerns_initiate⟩

theorem Told.not_ends (h : Told log store) {id : String} {upload : StoredUpload}
    (hrecord : store.uploads[id]? = some upload) {exchange : Exchange} (hmem : exchange ∈ log) :
    ¬exchange.ends id := by
  intro hends
  have hlife := List.mem_filter.mpr ⟨hmem, Exchange.concerns_of_ends hends⟩
  rw [(h.course hrecord).ends_eq_false hlife] at hends
  cases hends

/-- An upload that began in a container is listed there, and only there, until a request for its key
in this container ends it. -/
theorem Told.mem_inProgress_iff_of_begun (h : Told log store) {container id : String}
    {metadata : Metadata} {options : UploadOptions}
    (hbegun : ⟨.initiate container metadata options, .ok id⟩ ∈ log) (home : String) :
    id ∈ store.inProgress home ↔ home = container ∧
      ¬∃ exchange ∈ log, exchange.ends id ∧ exchange.request.container = container ∧
        exchange.request.key = metadata.name := by
  rw [h.mem_inProgress_iff]
  rcases hrecord : store.uploads[id]? with - | upload
  · have hlife := h.life id
    rw [hrecord] at hlife
    have hbegun := List.mem_filter.mpr ⟨hbegun, Exchange.concerns_initiate⟩
    obtain ⟨exchange, hmem, hends⟩ := hlife.exists_ends hbegun
    simp only [reduceCtorEq, false_and, exists_false, false_iff, not_and, not_not]
    exact fun _ ↦ ⟨exchange, List.mem_of_mem_filter hmem, hends⟩
  · obtain ⟨rfl, -, -⟩ := h.began hrecord hbegun
    have hopen : ¬∃ exchange ∈ log, exchange.ends id ∧
        exchange.request.container = upload.container ∧ exchange.request.key = metadata.name := by
      rintro ⟨exchange, hmem, hends, -⟩
      exact h.not_ends hrecord hmem hends
    constructor
    · rintro ⟨_, ⟨⟩, rfl⟩
      exact ⟨rfl, hopen⟩
    · rintro ⟨rfl, -⟩
      exact ⟨upload, rfl, rfl⟩

/-- An upload ends once. -/
theorem Told.length_filter_ends_le (h : Told log store) (id : String) :
    (log.filter (·.ends id)).length ≤ 1 := by
  have hconcerned : log.filter (·.ends id) = (log.filter (·.concerns id)).filter (·.ends id) := by
    rw [List.filter_filter]
    apply List.filter_congr
    intro exchange _
    have hends := @Exchange.concerns_of_ends exchange id
    cases hvalue : exchange.ends id <;> simp_all
  have hnone {life : List Exchange} {upload : StoredUpload} (hcourse : Course id life upload) :
      life.filter (·.ends id) = [] :=
    List.filter_eq_nil_iff.mpr fun exchange hmem ↦ by simp [hcourse.ends_eq_false hmem]
  rw [hconcerned]
  have hlife := h.life id
  generalize log.filter (·.concerns id) = life at hlife ⊢
  generalize store.uploads[id]? = record? at hlife
  cases hlife with
  | unborn => exact Nat.zero_le 1
  | underway hcourse =>
    rw [hnone hcourse]
    exact Nat.zero_le 1
  | ended hcourse last hends =>
    rw [List.filter_append, hnone hcourse, List.nil_append]
    exact List.length_filter_le _ [last]

/-- A request about an upload is granted only between its beginning and its end. -/
theorem Told.of_granted (h : Told log store) {id granted : String}
    (hid : request.uploadId? = some id) (hreply : (store.answer request).1 = .ok granted) :
    (∃ metadata options, ⟨.initiate request.container metadata options, .ok id⟩ ∈ log ∧
      metadata.name = request.key) ∧ ∀ exchange ∈ log, ¬exchange.ends id := by
  have htouches := (store.answer_effect request).touches id
  rw [hreply, met_uploads] at htouches
  obtain ⟨upload, hrecord, hcontainer, hkey⟩ := htouches.exists_upload hid
  have hcourse := h.course hrecord
  obtain ⟨options, hbegun⟩ := hcourse.exists_initiate
  refine ⟨⟨upload.metadata, options, ?_, ?_⟩, fun exchange ↦ h.not_ends hrecord⟩
  · rw [hcontainer]
    exact List.mem_of_mem_filter hbegun
  · rw [hkey, hcourse.key_eq]

/-- An object that is present stays present. -/
theorem object?_isSome_run {container key : String} (hobject : (store.object? container key).isSome)
    (actions : List Action) : ((store.run actions).object? container key).isSome := by
  refine run_keeps (p := fun _ store ↦ (store.object? container key).isSome) hobject ?_ ?_ actions
  · intro log store next hnext hobject
    rw [hnext.object?]
    exact hobject
  · intro log store request reply next heffect hobject
    rw [heffect.object?]
    split_ifs with hwrites
    · exact heffect.stored?_isSome hwrites
    · exact hobject

end Store

/-- In every run, an upload that began is listed as in progress, in its container only, until the
first request that completes or aborts it for its container and key, and never again. Such a request
is granted at most once, and no request about the upload is granted before its beginning or after
its end. Objects are replaced but never removed. -/
theorem uploads_begin_and_end_once (c : Config) (lag : ℕ) (spelling : UploadId.Spelling)
    (actions : List Store.Action) :
    let store := (Store.empty c lag spelling).run actions
    let log := (Store.empty c lag spelling).transcript actions
    (∀ container metadata options id,
      ⟨.initiate container metadata options, .ok id⟩ ∈ log →
      ∀ home, id ∈ store.inProgress home ↔ home = container ∧
        ¬∃ exchange ∈ log, exchange.ends id ∧ exchange.request.container = container ∧
          exchange.request.key = metadata.name) ∧
    (∀ id, (log.filter (·.ends id)).length ≤ 1) ∧
    (∀ request id granted,
      request.uploadId? = some id → (store.answer request).1 = .ok granted →
      (∃ metadata options, ⟨.initiate request.container metadata options, .ok id⟩ ∈ log ∧
        metadata.name = request.key) ∧ ∀ exchange ∈ log, ¬exchange.ends id) ∧
    ∀ container key, (store.object? container key).isSome →
      ∀ more, ((store.run more).object? container key).isSome := by
  intro store log
  have htold : Store.Told log store := Store.told_run c lag spelling actions
  refine ⟨?_, htold.length_filter_ends_le, ?_, ?_⟩
  · intro container metadata options id hbegun home
    exact htold.mem_inProgress_iff_of_begun hbegun home
  · intro request id granted hid hreply
    exact htold.of_granted hid hreply
  · intro container key hobject more
    exact Store.object?_isSome_run hobject more

/-- An abort for another key is refused, and the next one ends the upload. -/
theorem upload_is_listed_until_aborted :
    let initiate : Request := .initiate "box" { name := "key" } {}
    let abort (key : String) : Request := .abort "box" key "u1"
    let start := Store.empty {} 0 (.labelled "u")
    let actions := [.createContainer "box", .request initiate, .request (abort "other")]
    "u1" ∈ (start.run actions).inProgress "box" ∧
      "u1" ∉ (start.run (actions ++ [.request (abort "key")])).inProgress "box" := by
  intro initiate abort start actions
  have hlisted (actions : List Store.Action)
      (hbegun : ⟨initiate, .ok "u1"⟩ ∈ start.transcript actions) :=
    (uploads_begin_and_end_once {} 0 (.labelled "u") actions).1 "box" { name := "key" } {} "u1"
      hbegun "box"
  have hbefore := hlisted actions (by decide +kernel)
  have hafter := hlisted (actions ++ [.request (abort "key")]) (by decide +kernel)
  constructor
  · exact hbefore.mpr ⟨rfl, by decide +kernel⟩
  · intro hmem
    exact (hafter.mp hmem).2 ⟨⟨abort "key", .ok ""⟩, by decide +kernel, by decide, rfl, rfl⟩

end MultipartUpload
