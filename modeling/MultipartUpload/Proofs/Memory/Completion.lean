import MultipartUpload.Proofs.Memory.Soundness

/-!
# Completion of uploads

Whether an upload can be completed, and with what object, is decided by what happened to it: under
every listed number it is the part that was accepted last that counts. Parts that were replaced,
parts that are not listed and the order of the requests make no difference.
-/

namespace MultipartUpload

/-! ## The parts that count -/

/-- The checksum and the bytes of a part, if it was accepted for an upload under a number. -/
def Exchange.acceptance? (id : String) (number : ℕ) : Exchange → Option (String × Bytes)
  | ⟨.uploadPart _ _ other upload part _, .ok etag⟩ =>
    if upload = id ∧ other = number then some (etag, part.data) else none
  | _ => none

/-- The checksum and the bytes of the part that was accepted last for an upload under a number. -/
def latestPart? (log : List Exchange) (id : String) (number : ℕ) : Option (String × Bytes) :=
  log.reverse.findSome? (Exchange.acceptance? id number)

theorem latestPart?_append (first second : List Exchange) (id : String) (number : ℕ) :
    latestPart? (first ++ second) id number =
      (latestPart? second id number).or (latestPart? first id number) := by
  rw [latestPart?, List.reverse_append, List.findSome?_append]
  rfl

theorem latestPart?_singleton (exchange : Exchange) (id : String) (number : ℕ) :
    latestPart? [exchange] id number = exchange.acceptance? id number := by
  simp [latestPart?]

theorem Exchange.acceptance?_eq_none {exchange : Exchange} {id : String}
    (h : exchange.concerns id = false) (number : ℕ) : exchange.acceptance? id number = none := by
  unfold acceptance?
  split
  · rw [if_neg]
    rintro ⟨rfl, -⟩
    simp [concerns] at h
  · rfl

/-- The parts of an upload are among the exchanges that concern it. -/
theorem latestPart?_filter_concerns (log : List Exchange) (id : String) (number : ℕ) :
    latestPart? (log.filter (·.concerns id)) id number = latestPart? log id number := by
  induction log with
  | nil => rfl
  | cons exchange rest ih =>
    rw [← List.singleton_append, List.filter_append, latestPart?_append, latestPart?_append, ih,
      List.filter_singleton]
    cases hconcerns : exchange.concerns id
    · rw [latestPart?_singleton, Exchange.acceptance?_eq_none hconcerns]
      rfl
    · rfl

/-- An upload holds the parts that were accepted last. -/
theorem Course.getElem?_parts {id : String} {life : List Exchange} {upload : StoredUpload}
    (h : Course id life upload) (number : ℕ) : upload.parts[number]? =
      (latestPart? life id number).map fun (etag, data) ↦ ⟨number, etag, data.length, data⟩ := by
  induction h with
  | begun => rfl
  | hidden _ ih => exact ih
  | @stored life upload _ other part options ih =>
    rw [latestPart?_append, latestPart?_singleton]
    simp only [StoredUpload.putPart, Std.ExtTreeMap.getElem?_insert, Std.compare_eq_iff_eq,
      Exchange.acceptance?, true_and]
    by_cases hnumber : other = number
    · subst hnumber
      simp [StoredPart.ofData]
    · simpa [StoredPart.ofData, hnumber] using ih

/-! ## The object that is assembled -/

/-- Whether an object joins the latest of the parts that a manifest lists, under what their upload
began with. -/
def Joins (log : List Exchange) (id : String) (metadata : Metadata) (options : UploadOptions)
    (manifest : Manifest) (object : StoredObject) : Prop :=
  ∃ pieces : List Bytes,
    List.Forall₂ (fun entry data ↦ latestPart? log id entry.1 = some (entry.2, data))
      manifest.toList pieces ∧
    object = {
      key := metadata.name
      etag := ETag.ofParts (manifest.toList.map Prod.snd)
      size := pieces.flatten.length
      metadata
      options := options.stored
      partsCount? := some manifest.size
      data := pieces.flatten }

section

variable {log log' : List Exchange} {id id' : String} {metadata : Metadata}
  {options : UploadOptions} {manifest : Manifest} {first second : StoredObject}

theorem Joins.unique (h : Joins log id metadata options manifest first)
    (h' : Joins log id metadata options manifest second) : first = second := by
  obtain ⟨pieces, hpieces, rfl⟩ := h
  obtain ⟨pieces', hpieces', rfl⟩ := h'
  have hright : Relator.RightUnique fun (entry : ℕ × String) (data : Bytes) ↦
      latestPart? log id entry.1 = some (entry.2, data) := by
    intro entry data data' hdata hdata'
    rw [hdata] at hdata'
    cases hdata'
    rfl
  rw [hright.forall₂ hpieces hpieces']

/-- What is assembled depends on the latest of the listed parts alone. -/
theorem Joins.congr (h : Joins log id metadata options manifest first)
    (hlatest : ∀ number ∈ manifest, latestPart? log' id' number = latestPart? log id number) :
    Joins log' id' metadata options manifest first := by
  obtain ⟨pieces, hpieces, hobject⟩ := h
  refine ⟨pieces, ?_, hobject⟩
  have hlisted : ∀ entry ∈ manifest.toList,
      latestPart? log' id' entry.1 = latestPart? log id entry.1 := by
    intro entry hentry
    apply hlatest
    rw [← Std.ExtTreeMap.mem_keys, ← Std.ExtTreeMap.map_fst_toList_eq_keys]
    exact List.mem_map_of_mem hentry
  apply ((List.forall₂_and_left _ _).mpr ⟨hlisted, hpieces⟩).imp
  rintro entry data ⟨hsame, hdata⟩
  rw [hsame, hdata]

end

/-! ## Requests that complete an upload -/

namespace Store

variable {log : List Exchange} {store : Store} {home container key id : String}
  {metadata : Metadata} {options : UploadOptions} {manifest : Manifest} {upload : StoredUpload}

/-- A completion is granted if no failure waits for it and all that it lists is there, and only
then. -/
theorem answer_complete_isOk_iff :
    (∃ granted, (store.answer (.complete container key id manifest)).1 = .ok granted) ↔
      store.faults.complete = none ∧ container ∈ store.containers ∧ ¬manifest.isEmpty ∧
        ∃ upload, store.upload? container key id = some upload ∧
          ∃ parts, upload.collect manifest.toList = .ok parts := by
  constructor
  · rintro ⟨granted, hgranted⟩
    have hfault : store.faults.complete = none := by
      rcases hwaiting : store.faults.complete with - | e
      · rfl
      · have hheaders : (Request.complete container key id manifest).options.headers
            store.headerTag = .ok ∅ := rfl
        rw [answer_of_some hheaders hwaiting] at hgranted
        cases hgranted
    have heffect := store.answer_effect (.complete container key id manifest)
    rw [hgranted] at heffect
    generalize hreply : Except.ok granted = reply at heffect
    generalize (store.answer (.complete container key id manifest)).2 = next at heffect
    cases heffect with
    | refused => cases hreply
    | @completed _ _ _ _ upload parts hcontainer hmanifest hupload hparts =>
      rw [met_containers] at hcontainer
      rw [met_upload?] at hupload
      exact ⟨hfault, hcontainer, hmanifest, upload, hupload, parts, hparts⟩
  · rintro ⟨hfault, hcontainer, hmanifest, upload, hupload, parts, hparts⟩
    rw [answer_complete_of_none hfault hcontainer hmanifest hupload hparts]
    exact ⟨_, rfl⟩

/-- The object that a granted completion leaves. -/
theorem object?_answer_complete {parts : List StoredPart} (hfault : store.faults.complete = none)
    (hcontainer : container ∈ store.containers) (hmanifest : ¬manifest.isEmpty)
    (hupload : store.upload? container key id = some upload)
    (hparts : upload.collect manifest.toList = .ok parts) :
    (store.answer (.complete container key id manifest)).2.object? container key =
      some (upload.assemble parts) := by
  have hkey : (upload.assemble parts).key = key := (upload?_eq_some.mp hupload).2.2
  rw [answer_complete_of_none hfault hcontainer hmanifest hupload hparts, object?_place, hkey]
  · simp
  · simpa [removeUpload] using hcontainer

/-- An upload that began is found where it is listed, under the key of its metadata. -/
theorem Told.exists_upload?_iff (h : Told log store)
    (hbegun : ⟨.initiate home metadata options, .ok id⟩ ∈ log) :
    (∃ upload, store.upload? container key id = some upload) ↔
      id ∈ store.inProgress container ∧ key = metadata.name := by
  rw [h.mem_inProgress_iff]
  simp only [upload?_eq_some]
  have hkey : ∀ {upload : StoredUpload}, store.uploads[id]? = some upload →
      upload.key = metadata.name := by
    intro upload hrecord
    rw [(h.course hrecord).key_eq, (h.began hrecord hbegun).2.1]
  constructor
  · rintro ⟨upload, hrecord, hcontainer, rfl⟩
    exact ⟨⟨upload, hrecord, hcontainer⟩, hkey hrecord⟩
  · rintro ⟨⟨upload, hrecord, hcontainer⟩, rfl⟩
    exact ⟨upload, hrecord, hcontainer, hkey hrecord⟩

/-- An upload holds what was accepted last under each number. -/
theorem Told.getElem?_parts (h : Told log store) (hrecord : store.uploads[id]? = some upload)
    (number : ℕ) : upload.parts[number]? =
      (latestPart? log id number).map fun (etag, data) ↦ ⟨number, etag, data.length, data⟩ := by
  rw [(h.course hrecord).getElem?_parts, latestPart?_filter_concerns]

/-- What is collected from an upload are the latest of the listed parts. -/
theorem Told.collect_isOk_iff (h : Told log store) (hrecord : store.uploads[id]? = some upload) :
    (∃ parts, upload.collect manifest.toList = .ok parts) ↔
      ∀ entry ∈ manifest.toList, ∃ data, latestPart? log id entry.1 = some (entry.2, data) := by
  rw [StoredUpload.collect_isOk_iff]
  refine forall₂_congr fun entry _ ↦ ?_
  rw [h.getElem?_parts hrecord]
  rcases latestPart? log id entry.1 with - | ⟨etag, data⟩ <;> simp

theorem Told.joins_assemble (h : Told log store)
    (hbegun : ⟨.initiate home metadata options, .ok id⟩ ∈ log)
    (hrecord : store.uploads[id]? = some upload) {parts : List StoredPart}
    (hparts : upload.collect manifest.toList = .ok parts) :
    Joins log id metadata options manifest (upload.assemble parts) := by
  rw [StoredUpload.collect_eq_ok_iff] at hparts
  have hetags : manifest.toList.map Prod.snd = parts.map StoredPart.etag := by
    rw [← List.forall₂_eq_eq_eq, List.forall₂_map_left_iff, List.forall₂_map_right_iff]
    exact hparts.imp fun _ _ hpart ↦ hpart.2.symm
  have hcount : manifest.size = parts.length := by
    rw [← Std.ExtTreeMap.length_toList, hparts.length_eq]
  obtain ⟨-, hmetadata, hoptions⟩ := h.began hrecord hbegun
  refine ⟨parts.map StoredPart.data, ?_, ?_⟩
  · rw [List.forall₂_map_right_iff]
    apply hparts.imp
    rintro entry part ⟨hpart, hetag⟩
    rw [h.getElem?_parts hrecord] at hpart
    obtain ⟨⟨etag, data⟩, hlatest, rfl⟩ := Option.map_eq_some_iff.mp hpart
    rw [hlatest, ← hetag]
  · rw [hetags, hcount, hmetadata, hoptions, ← (h.course hrecord).key_eq, ← List.flatMap_def]
    rfl

/-- A completion is granted if no failure waits for it, it names where its upload is in progress,
and every part that it lists was accepted last with the checksum that it lists, and only then. -/
theorem Told.complete_isOk_iff (h : Told log store)
    (hbegun : ⟨.initiate home metadata options, .ok id⟩ ∈ log) :
    (∃ granted, (store.answer (.complete container key id manifest)).1 = .ok granted) ↔
      store.faults.complete = none ∧ container ∈ store.containers ∧ ¬manifest.isEmpty ∧
        (id ∈ store.inProgress container ∧ key = metadata.name) ∧
        ∀ (number : ℕ) (etag : String), manifest[number]? = some etag →
          ∃ data, latestPart? log id number = some (etag, data) := by
  have hlisted : (∀ entry ∈ manifest.toList, ∃ data,
      latestPart? log id entry.1 = some (entry.2, data)) ↔
        ∀ (number : ℕ) (etag : String), manifest[number]? = some etag →
          ∃ data, latestPart? log id number = some (etag, data) := by
    simp only [Prod.forall, Std.ExtTreeMap.mem_toList_iff_getElem?_eq_some]
  rw [answer_complete_isOk_iff, ← h.exists_upload?_iff hbegun, ← hlisted]
  refine and_congr_right fun _ ↦ and_congr_right fun _ ↦ and_congr_right fun _ ↦ ?_
  constructor
  · rintro ⟨upload, hupload, hparts⟩
    exact ⟨⟨upload, hupload⟩, (h.collect_isOk_iff (upload?_eq_some.mp hupload).1).mp hparts⟩
  · rintro ⟨⟨upload, hupload⟩, hlatest⟩
    exact ⟨upload, hupload, (h.collect_isOk_iff (upload?_eq_some.mp hupload).1).mpr hlatest⟩

/-- A completion that is granted joins the latest of the parts that it lists. -/
theorem Told.exists_joins (h : Told log store)
    (hbegun : ⟨.initiate home metadata options, .ok id⟩ ∈ log) {granted : String}
    (hgranted : (store.answer (.complete container key id manifest)).1 = .ok granted) :
    ∃ object, Joins log id metadata options manifest object ∧ granted = object.etag ∧
      (store.answer (.complete container key id manifest)).2.object? container key =
        some object := by
  obtain ⟨hfault, hcontainer, hmanifest, upload, hupload, parts, hparts⟩ :=
    answer_complete_isOk_iff.mp ⟨granted, hgranted⟩
  refine ⟨_, h.joins_assemble hbegun (upload?_eq_some.mp hupload).1 hparts, ?_,
    object?_answer_complete hfault hcontainer hmanifest hupload hparts⟩
  rw [answer_complete_of_none hfault hcontainer hmanifest hupload hparts] at hgranted
  exact (Except.ok.inj hgranted).symm

/-- A completion of another upload that began in the same way, and has the same latest parts of those
that are listed, is granted as well and leaves the same object. -/
theorem Told.complete_congr {log' : List Exchange} {store' : Store} {other : String}
    (h : Told log store) (hbegun : ⟨.initiate home metadata options, .ok id⟩ ∈ log)
    (h' : Told log' store') (hbegun' : ⟨.initiate home metadata options, .ok other⟩ ∈ log')
    (hsound' : store'.Sound) (hprogress' : other ∈ store'.inProgress home)
    (hfault' : store'.faults.complete = none)
    (hlatest : ∀ number ∈ manifest, latestPart? log' other number = latestPart? log id number)
    {granted : String}
    (hgranted : (store.answer (.complete container key id manifest)).1 = .ok granted) :
    (store'.answer (.complete container key other manifest)).1 = .ok granted ∧
      (store'.answer (.complete container key other manifest)).2.object? container key =
        (store.answer (.complete container key id manifest)).2.object? container key := by
  obtain ⟨-, -, hmanifest, ⟨hprogress, hkey⟩, hlisted⟩ :=
    (h.complete_isOk_iff hbegun).mp ⟨granted, hgranted⟩
  obtain ⟨object, hjoins, rfl, hobject⟩ := h.exists_joins hbegun hgranted
  -- both uploads are in progress in the container that the request names
  obtain ⟨upload, hrecord, rfl⟩ := h.mem_inProgress_iff.mp hprogress
  obtain ⟨rfl, -⟩ := h.began hrecord hbegun
  have hexists : upload.container ∈ store'.containers := by
    obtain ⟨upload', hrecord', hcontainer'⟩ := h'.mem_inProgress_iff.mp hprogress'
    rw [← hcontainer']
    exact (hsound'.uploads hrecord').2
  have hlisted' (number : ℕ) (etag : String) (hetag : manifest[number]? = some etag) :
      ∃ data, latestPart? log' other number = some (etag, data) := by
    have hmem : number ∈ manifest := by
      rw [Std.ExtTreeMap.mem_iff_isSome_getElem?, hetag]
      rfl
    rw [hlatest number hmem]
    exact hlisted number etag hetag
  obtain ⟨granted', hgranted'⟩ := (h'.complete_isOk_iff hbegun').mpr
    ⟨hfault', hexists, hmanifest, ⟨hprogress', hkey⟩, hlisted'⟩
  obtain ⟨object', hjoins', rfl, hobject'⟩ := h'.exists_joins hbegun' hgranted'
  obtain rfl : object = object' := (hjoins.congr hlatest).unique hjoins'
  exact ⟨hgranted', hobject'.trans hobject.symm⟩

end Store

/-- After every run, a request that completes an upload is granted exactly if no failure waits for
it, it names where the upload is in progress, and it lists parts with the checksums with which they
were accepted last. The object joins the latest of these parts in ascending order of their numbers,
so it is the same after every other run that leaves these parts the latest. -/
theorem completion_joins_latest_parts (c : Config) (lag : ℕ) (spelling : UploadId.Spelling)
    (actions : List Store.Action) {home id : String} {metadata : Metadata} {options : UploadOptions}
    (hbegun : ⟨.initiate home metadata options, .ok id⟩ ∈
      (Store.empty c lag spelling).transcript actions)
    (container key : String) (manifest : Manifest) :
    let store := (Store.empty c lag spelling).run actions
    let log := (Store.empty c lag spelling).transcript actions
    let answered := store.answer (.complete container key id manifest)
    ((∃ granted, answered.1 = .ok granted) ↔
      store.faults.complete = none ∧ container ∈ store.containers ∧ ¬manifest.isEmpty ∧
        (id ∈ store.inProgress container ∧ key = metadata.name) ∧
        ∀ (number : ℕ) (etag : String), manifest[number]? = some etag →
          ∃ data, latestPart? log id number = some (etag, data)) ∧
    (∀ granted, answered.1 = .ok granted →
      ∃ object, Joins log id metadata options manifest object ∧ granted = object.etag ∧
        answered.2.object? container key = some object) ∧
    ∀ (others : List Store.Action) (other : String),
      let store' := (Store.empty c lag spelling).run others
      let log' := (Store.empty c lag spelling).transcript others
      let answered' := store'.answer (.complete container key other manifest)
      ⟨.initiate home metadata options, .ok other⟩ ∈ log' → other ∈ store'.inProgress home →
      store'.faults.complete = none →
      (∀ number ∈ manifest, latestPart? log' other number = latestPart? log id number) →
      ∀ granted, answered.1 = .ok granted → answered'.1 = .ok granted ∧
        answered'.2.object? container key = answered.2.object? container key := by
  intro store log answered
  have htold : Store.Told log store := Store.told_run c lag spelling actions
  refine ⟨htold.complete_isOk_iff hbegun, fun granted ↦ htold.exists_joins hbegun, ?_⟩
  intro others other store' log' answered' hbegun' hprogress' hfault' hlatest granted hgranted
  have htold' : Store.Told log' store' := Store.told_run c lag spelling others
  have hsound' : store'.Sound := (Store.sound_run c lag spelling others).2
  exact htold.complete_congr hbegun htold' hbegun' hsound' hprogress' hfault' hlatest hgranted

/-- The parts of an upload arrive out of order. The first part is replaced, and the third is not
listed. -/
theorem replaced_parts_are_left_out :
    let initiate : Request := .initiate "box" { name := "key" } {}
    let bring (number : ℕ) (data : Bytes) : Request :=
      .uploadPart "box" "key" number "u1" ⟨0, data⟩ {}
    let requests := [initiate, bring 2 [2], bring 1 [9], bring 3 [3], bring 1 [1]]
    let actions := .createContainer "box" :: requests.map Store.Action.request
    let start := Store.empty {} 0 (.labelled "u")
    let manifest := ((∅ : Manifest).insert 1 (ETag.ofData [1])).insert 2 (ETag.ofData [2])
    let answered := (start.run actions).answer (.complete "box" "key" "u1" manifest)
    ⟨initiate, .ok "u1"⟩ ∈ start.transcript actions ∧
      ∃ object, Joins (start.transcript actions) "u1" { name := "key" } {} manifest object ∧
        answered.2.object? "box" "key" = some object ∧ object.data = [1, 2] := by
  intro initiate bring requests actions start manifest answered
  have hbegun : ⟨initiate, .ok "u1"⟩ ∈ start.transcript actions := by decide +kernel
  have hgranted : answered.1 = .ok (ETag.ofParts [ETag.ofData [1], ETag.ofData [2]]) := by
    decide +kernel
  have hdata : (answered.2.object? "box" "key").map (·.data) = some [1, 2] := by decide +kernel
  obtain ⟨object, hjoins, -, hobject⟩ :=
    (completion_joins_latest_parts {} 0 (.labelled "u") actions hbegun "box" "key" manifest).2.1 _
      hgranted
  rw [hobject] at hdata
  exact ⟨hbegun, object, hjoins, hobject, Option.some.inj hdata⟩

end MultipartUpload
