import MultipartUpload.Proofs.Memory.Flat
import MultipartUpload.Proofs.Memory.Lifetime
import MultipartUpload.Proofs.Memory.Manifest

/-!
# Soundness of stored records

Uploads, parts and objects are kept under what identifies them, with the sizes and the tags of their
bytes. An upload that is still hidden has no parts. The tag of an object that was assembled is made
of the tags of consecutive pieces of its bytes, because the parts of its upload were sound when it
was completed.
-/

namespace MultipartUpload

/-- If an object is encrypted, the name of the algorithm is one that is accepted as it is. -/
def StoredOptions.Sound (options : StoredOptions) : Prop :=
  ∀ name ∈ options.algorithm?, ∃ encryption,
    Encryption.ofName name = .ok encryption ∧ encryption.algorithm = name

structure StoredPart.Sound (number : ℕ) (part : StoredPart) : Prop where
  number_eq : part.number = number
  one_le : 1 ≤ number
  le_max : number ≤ Limits.maxPartCount.toNat
  size_eq : part.size = part.data.length
  etag_eq : part.etag = ETag.ofData part.data

structure StoredUpload.Sound (lag : ℕ) (id : String) (upload : StoredUpload) : Prop where
  id_eq : upload.id = id
  key_eq : upload.key = upload.metadata.name
  parts : ∀ {number} {part : StoredPart}, upload.parts[number]? = some part → part.Sound number
  hiddenFor_le : upload.hiddenFor ≤ lag
  parts_of_hidden : 0 < upload.hiddenFor → upload.parts = ∅
  options : upload.options.Sound

structure StoredObject.Sound (key : String) (object : StoredObject) : Prop where
  key_eq : object.key = key
  name_eq : object.metadata.name = key
  size_eq : object.size = object.data.length
  etag_of_none : object.partsCount? = none → object.etag = ETag.ofData object.data
  etag_of_some : ∀ {count}, object.partsCount? = some count →
    1 ≤ count ∧ count ≤ Limits.maxPartCount.toNat ∧ ∃ pieces : List Bytes,
      pieces.length = count ∧ pieces.flatten = object.data ∧
      object.etag = ETag.ofParts (pieces.map ETag.ofData)
  options : object.options.Sound

/-! ## Records -/

theorem UploadOptions.sound_stored (options : UploadOptions) : options.stored.Sound := by
  intro name hname
  obtain ⟨encryption, -, rfl⟩ := Option.map_eq_some_iff.mp hname
  exact ⟨encryption, encryption.ofName_algorithm, rfl⟩

namespace StoredUpload

variable {lag : ℕ} {id : String} {upload : StoredUpload}

theorem sound_start (id container : String) (metadata : Metadata) (options : UploadOptions)
    (lag : ℕ) : (start id container metadata options.stored lag).Sound lag id where
  id_eq := rfl
  key_eq := rfl
  parts h := by simp [start] at h
  hiddenFor_le := le_rfl
  parts_of_hidden _ := rfl
  options := options.sound_stored

theorem Sound.hidden (h : upload.Sound lag id) :
    ({ upload with hiddenFor := upload.hiddenFor - 1 } : StoredUpload).Sound lag id where
  id_eq := h.id_eq
  key_eq := h.key_eq
  parts := h.parts
  hiddenFor_le := (Nat.sub_le _ _).trans h.hiddenFor_le
  parts_of_hidden hpos := h.parts_of_hidden (Nat.lt_of_lt_of_le hpos (Nat.sub_le _ _))
  options := h.options

theorem Sound.putPart (h : upload.Sound lag id) {number : ℕ}
    (hnumber : 1 ≤ number ∧ number ≤ Limits.maxPartCount.toNat) (hseen : upload.hiddenFor = 0)
    (data : Bytes) : (upload.putPart (.ofData number data)).Sound lag id where
  id_eq := h.id_eq
  key_eq := h.key_eq
  parts {other part} hpart := by
    simp only [StoredUpload.putPart, Std.ExtTreeMap.getElem?_insert, Std.compare_eq_iff_eq]
      at hpart
    split_ifs at hpart with hother
    · cases hpart
      subst hother
      exact ⟨rfl, hnumber.1, hnumber.2, rfl, rfl⟩
    · exact h.parts hpart
  hiddenFor_le := h.hiddenFor_le
  parts_of_hidden hpos := absurd hseen hpos.ne'
  options := h.options

/-- What is assembled from sound parts is a sound object. -/
theorem Sound.assemble (h : upload.Sound lag id) {manifest : Manifest}
    (hmanifest : ¬manifest.isEmpty) {parts : List StoredPart}
    (hparts : upload.collect manifest.toList = .ok parts) :
    (upload.assemble parts).Sound upload.key := by
  have hcount : parts.length = manifest.size := by
    rw [← (collect_eq_ok_iff.mp hparts).length_eq, Std.ExtTreeMap.length_toList]
  have hetags : parts.map StoredPart.etag = (parts.map StoredPart.data).map ETag.ofData := by
    rw [List.map_map]
    apply List.map_congr_left
    intro part hpart
    obtain ⟨number, hnumber⟩ := exists_number_of_collect hparts hpart
    exact (h.parts hnumber).etag_eq
  have hbound : manifest.size ≤ Limits.maxPartCount.toNat := by
    apply Manifest.size_le
    intro number hnumber
    have hentry : (number, manifest[number]) ∈ manifest.toList :=
      Std.ExtTreeMap.mem_toList_iff_getElem?_eq_some.mpr
        (Std.ExtTreeMap.getElem?_eq_some_getElem hnumber)
    obtain ⟨part, hpart, -⟩ := collect_isOk_iff.mp ⟨parts, hparts⟩ _ hentry
    exact ⟨(h.parts hpart).one_le, (h.parts hpart).le_max⟩
  constructor
  case key_eq => rfl
  case name_eq => exact h.key_eq.symm
  case size_eq => rfl
  case etag_of_none => exact nofun
  case etag_of_some =>
    rintro _ ⟨⟩
    rw [hcount]
    exact ⟨Manifest.size_pos hmanifest, hbound, parts.map StoredPart.data, by simp [hcount],
      by simp [StoredUpload.assemble, List.flatMap_def], by simp only [StoredUpload.assemble, hetags]⟩
  case options => exact h.options

end StoredUpload

theorem StoredObject.sound_ofData (metadata : Metadata) (options : UploadOptions) (data : Bytes) :
    (ofData metadata options.stored data).Sound metadata.name where
  key_eq := rfl
  name_eq := rfl
  size_eq := rfl
  etag_of_none _ := rfl
  etag_of_some := nofun
  options := options.sound_stored

/-! ## Stores -/

namespace Store

structure Sound (store : Store) : Prop where
  uploads : ∀ {id} {upload : StoredUpload}, store.uploads[id]? = some upload →
    upload.Sound store.lag id ∧ upload.container ∈ store.containers
  objects : ∀ {container key object}, store.object? container key = some object →
    object.Sound key

variable {store next : Store} {request : Request} {reply : Reply}

theorem sound_empty (c : Config) (lag : ℕ) (spelling : UploadId.Spelling) :
    (empty c lag spelling).Sound where
  uploads h := by simp [empty] at h
  objects h := by simp [empty, object?] at h

theorem Sound.prepares (h : store.Sound) (hnext : store.Prepares next) : next.Sound where
  uploads hrecord := by
    rw [hnext.uploads] at hrecord
    rw [hnext.lag]
    exact ⟨(h.uploads hrecord).1, hnext.containers _ (h.uploads hrecord).2⟩
  objects hobject := by
    rw [hnext.object?] at hobject
    exact h.objects hobject

theorem Effect.lag (h : Effect store request reply next) : next.lag = store.lag := by
  cases h <;> rfl

theorem Sound.uploads_effect (h : store.Sound) (heffect : Effect store request reply next)
    {id : String} {upload : StoredUpload} (hrecord : next.uploads[id]? = some upload) :
    upload.Sound next.lag id ∧ upload.container ∈ next.containers := by
  rw [heffect.lag, heffect.mem_containers]
  have htouches := heffect.touches id
  rw [hrecord] at htouches
  generalize hbefore : store.uploads[id]? = before? at htouches
  cases htouches with
  | unconcerned => exact h.uploads hbefore
  | begun hcontainer => exact ⟨StoredUpload.sound_start _ _ _ _ _, hcontainer⟩
  | hidden => exact ⟨(h.uploads hbefore).1.hidden, (h.uploads hbefore).2⟩
  | stored hnumber hseen =>
    exact ⟨(h.uploads hbefore).1.putPart hnumber hseen _, (h.uploads hbefore).2⟩

theorem Sound.objects_effect (h : store.Sound) (heffect : Effect store request reply next)
    {container key : String} {object : StoredObject}
    (hobject : next.object? container key = some object) : object.Sound key := by
  cases heffect with
  | refused | begun | hidden | stored | aborted => exact h.objects hobject
  | @completed container' _ id _ upload _ hcontainer hmanifest hupload hparts =>
    have hremoved : container' ∈ (store.removeUpload id).containers := hcontainer
    rw [object?_place hremoved] at hobject
    split_ifs at hobject with hplace
    · cases hobject
      rw [← hplace.2]
      exact (h.uploads (upload?_eq_some.mp hupload).1).1.assemble hmanifest hparts
    · exact h.objects hobject
  | put hcontainer hdata =>
    rw [object?_place hcontainer] at hobject
    split_ifs at hobject with hplace
    · cases hobject
      rw [← hplace.2]
      exact StoredObject.sound_ofData _ _ _
    · exact h.objects hobject

theorem Sound.effect (h : store.Sound) (heffect : Effect store request reply next) :
    next.Sound where
  uploads := h.uploads_effect heffect
  objects := h.objects_effect heffect

theorem sound_run (c : Config) (lag : ℕ) (spelling : UploadId.Spelling) (actions : List Action) :
    ((empty c lag spelling).run actions).lag = lag ∧ ((empty c lag spelling).run actions).Sound := by
  refine run_keeps (p := fun _ store ↦ store.lag = lag ∧ store.Sound)
    ⟨rfl, sound_empty c lag spelling⟩ ?_ ?_ actions
  · rintro _ store next hnext ⟨hlag, hsound⟩
    exact ⟨hnext.lag.trans hlag, hsound.prepares hnext⟩
  · rintro _ store request reply next heffect ⟨hlag, hsound⟩
    exact ⟨heffect.lag.trans hlag, hsound.effect heffect⟩

end Store

/-- Whether a container was created, under a name that is allowed. -/
def Created (actions : List Store.Action) (container : String) : Prop :=
  .createContainer container ∈ actions ∧ ∃ name, ContainerName.ofString container = .ok name

theorem created_of_mem_run {c : Config} {lag : ℕ} {spelling : UploadId.Spelling}
    {actions : List Store.Action} {container : String}
    (h : container ∈ ((Store.empty c lag spelling).run actions).containers) :
    Created actions container := by
  rcases (Store.mem_containers_run actions).mp h with hstart | hcreated
  · exact absurd hstart Std.ExtTreeMap.not_mem_empty
  · exact hcreated

/-- After every run, all uploads in progress and all objects are sound, and they are in containers
that were created. -/
theorem stored_records_are_sound (c : Config) (lag : ℕ) (spelling : UploadId.Spelling)
    (actions : List Store.Action) :
    let store := (Store.empty c lag spelling).run actions
    (∀ (id : String) (upload : StoredUpload), store.uploads[id]? = some upload →
      upload.Sound lag id ∧ Created actions upload.container) ∧
    ∀ container key object, store.object? container key = some object →
      object.Sound key ∧ Created actions container := by
  intro store
  obtain ⟨hlag, hsound⟩ := Store.sound_run c lag spelling actions
  constructor
  · intro id upload hrecord
    obtain ⟨hupload, hcontainer⟩ := hsound.uploads hrecord
    rw [hlag] at hupload
    exact ⟨hupload, created_of_mem_run hcontainer⟩
  · intro container key object hobject
    exact ⟨hsound.objects hobject,
      created_of_mem_run (Store.housed_run c lag spelling actions container key object hobject)⟩

/-- One upload was completed from two parts, and the next one is still hidden. -/
theorem records_of_two_uploads_are_sound :
    let initiate : Request := .initiate "box" { name := "key" } {}
    let bring (number : ℕ) (data : Bytes) : Request :=
      .uploadPart "box" "key" number "u1" ⟨0, data⟩ {}
    let manifest := ((∅ : Manifest).insert 1 (ETag.ofData [1])).insert 2 (ETag.ofData [2])
    let complete : Request := .complete "box" "key" "u1" manifest
    let requests := [initiate, bring 1 [1], bring 1 [1], bring 2 [2], complete, initiate]
    let actions := .createContainer "box" :: requests.map Store.Action.request
    let store := (Store.empty {} 1 (.labelled "u")).run actions
    (∃ upload, store.uploads["u2"]? = some upload ∧ upload.hiddenFor = 1 ∧ upload.parts = ∅ ∧
      Created actions upload.container) ∧
    ∃ object, store.object? "box" "key" = some object ∧ object.partsCount? = some 2 ∧
      object.Sound "key" := by
  intro initiate bring manifest complete requests actions store
  have hhidden : store.uploads["u2"]?.map (·.hiddenFor) = some 1 := by decide +kernel
  have hcount : (store.object? "box" "key").map (·.partsCount?) = some (some 2) := by
    decide +kernel
  obtain ⟨upload, hrecord, hhidden⟩ := Option.map_eq_some_iff.mp hhidden
  obtain ⟨object, hobject, hcount⟩ := Option.map_eq_some_iff.mp hcount
  obtain ⟨huploads, hobjects⟩ := stored_records_are_sound {} 1 (.labelled "u") actions
  obtain ⟨hupload, hcreated⟩ := huploads "u2" upload hrecord
  have hempty : upload.parts = ∅ := hupload.parts_of_hidden (by rw [hhidden]; exact Nat.one_pos)
  exact ⟨⟨upload, hrecord, hhidden, hempty, hcreated⟩, object, hobject, hcount,
    (hobjects "box" "key" object hobject).1⟩

end MultipartUpload
