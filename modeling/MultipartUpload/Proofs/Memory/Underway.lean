import MultipartUpload.Proofs.Memory.Answer
import MultipartUpload.Proofs.Memory.Table

/-!
# Uploads that are underway

From the request that begins an upload to the one that ends it, a store differs from what it was
before by this upload alone. A request for a part of it can hide it for one request less or add a
part to it. Completing it or aborting it takes it away, and a refusal to do so leaves it underway.
-/

namespace MultipartUpload

/-! ## Parts of one upload -/

/-- What a request for a part does to its upload. -/
inductive StoredUpload.Receives (upload : StoredUpload) (number : ℕ) (part : Part) :
    Reply → StoredUpload → Prop where
  | refused (e : ServiceError) : Receives upload number part (.error e) upload
  | hidden (container key id : String) (hhidden : upload.hiddenFor ≠ 0) :
      Receives upload number part (.error (.keyNotFound container key (some id)))
        { upload with hiddenFor := upload.hiddenFor - 1 }
  | stored (hseen : upload.hiddenFor = 0) :
      Receives upload number part (.ok (ETag.ofData part.data))
        (upload.putPart (.ofData number part.data))

/-- Whether two records are of the same upload, with more or fewer parts. -/
structure StoredUpload.Continues (first second : StoredUpload) : Prop where
  container : second.container = first.container
  key : second.key = first.key
  metadata : second.metadata = first.metadata
  options : second.options = first.options

theorem StoredUpload.Continues.refl (upload : StoredUpload) : upload.Continues upload :=
  ⟨rfl, rfl, rfl, rfl⟩

theorem StoredUpload.Continues.trans {first second third : StoredUpload}
    (h : first.Continues second) (hnext : second.Continues third) : first.Continues third where
  container := hnext.container.trans h.container
  key := hnext.key.trans h.key
  metadata := hnext.metadata.trans h.metadata
  options := hnext.options.trans h.options

theorem StoredUpload.Receives.continues {upload next : StoredUpload} {number : ℕ} {part : Part}
    {reply : Reply} (h : upload.Receives number part reply next) : upload.Continues next := by
  cases h <;> exact ⟨rfl, rfl, rfl, rfl⟩

/-! ## Stores with one more upload -/

namespace Store

/-- A store that differs from an earlier one by an upload, as far as containers, uploads and the
failure of the next abort go. -/
structure Underway (before : Store) (id : String) (upload : StoredUpload) (store : Store) :
    Prop where
  containers : store.containers = before.containers
  uploads : store.uploads = before.uploads.insert id upload
  abort : store.faults.abort = before.faults.abort

/-- A store after an attempt to abort such an upload. It is gone, unless a failure was waiting. -/
structure Abandoned (before : Store) (id : String) (upload : StoredUpload) (store : Store) :
    Prop where
  containers : store.containers = before.containers
  settled : before.faults.abort = none → store.uploads = before.uploads.erase id
  stranded : before.faults.abort.isSome → store.uploads = before.uploads.insert id upload

variable {before store next : Store} {id container key : String} {upload : StoredUpload}
  {request : Request} {reply : Reply}

namespace Underway

theorem met (h : Underway before id upload store) (request : Request)
    (hrequest : request.operation ≠ .abort) : Underway before id upload (store.met request) :=
  ⟨by simpa using h.containers, by simpa using h.uploads,
    (met_faults_abort hrequest).trans h.abort⟩

theorem upload?_eq (h : Underway before id upload store) {found : StoredUpload}
    (hfound : store.upload? container key id = some found) : found = upload := by
  have hget := (upload?_eq_some.mp hfound).1
  rw [h.uploads, Std.ExtTreeMap.getElem?_insert_self] at hget
  exact (Option.some.inj hget).symm

theorem setUpload (h : Underway before id upload store) (changed : StoredUpload) :
    Underway before id changed (store.setUpload id changed) := by
  refine ⟨h.containers, ?_, h.abort⟩
  simp only [Store.setUpload, h.uploads, insert_insert_self]

/-- A request for a part of the upload changes nothing but the upload. -/
theorem receives (h : Underway before id upload store) (container key : String) (number : ℕ)
    (part : Part) (options : UploadOptions) :
    let answered := store.answer (.uploadPart container key number id part options)
    ∃ changed, upload.Receives number part answered.1 changed ∧
      Underway before id changed answered.2 := by
  intro answered
  have heffect := store.answer_effect (.uploadPart container key number id part options)
  have hmet := h.met (.uploadPart container key number id part options) nofun
  change Effect _ _ answered.1 answered.2 at heffect
  generalize answered.1 = reply at heffect ⊢
  generalize answered.2 = next at heffect ⊢
  cases heffect with
  | refused e => exact ⟨upload, .refused e, hmet⟩
  | hidden hupload hhidden =>
    obtain rfl := hmet.upload?_eq hupload
    exact ⟨_, .hidden container key id hhidden, hmet.setUpload _⟩
  | stored _ _ hupload hseen =>
    obtain rfl := hmet.upload?_eq hupload
    exact ⟨_, .stored hseen, hmet.setUpload _⟩

/-- A completion that is granted takes the upload away and stores its object. -/
theorem complete (h : Underway before id upload store) (container key : String)
    (manifest : Manifest) :
    let answered := store.answer (.complete container key id manifest)
    (∃ e, answered.1 = .error e ∧ Underway before id upload answered.2) ∨
    ∃ parts, upload.collect manifest.toList = .ok parts ∧
      answered.1 = .ok (upload.assemble parts).etag ∧
      answered.2.containers = (before.place container (upload.assemble parts)).containers ∧
      answered.2.uploads = before.uploads.erase id := by
  intro answered
  have heffect := store.answer_effect (.complete container key id manifest)
  have hmet := h.met (.complete container key id manifest) nofun
  change Effect _ _ answered.1 answered.2 at heffect
  generalize answered.1 = reply at heffect ⊢
  generalize answered.2 = next at heffect ⊢
  cases heffect with
  | refused e => exact .inl ⟨e, rfl, hmet⟩
  | completed _ _ hupload hparts =>
    obtain rfl := hmet.upload?_eq hupload
    refine .inr ⟨_, hparts, rfl, ?_, ?_⟩
    · simp only [place, removeUpload, hmet.containers]
    · simp only [place, removeUpload, hmet.uploads, erase_insert_self]

theorem upload?_eq_some (h : Underway before id upload store) :
    store.upload? upload.container upload.key id = some upload := by
  rw [Store.upload?_eq_some, h.uploads, Std.ExtTreeMap.getElem?_insert_self]
  exact ⟨rfl, rfl, rfl⟩

theorem abandoned (h : Underway before id upload store) :
    Abandoned before id upload (store.answer (.abort upload.container upload.key id)).2 := by
  have hheaders : (Request.abort upload.container upload.key id).options.headers
    store.headerTag = .ok ∅ := rfl
  rcases hfault : store.faults.abort with - | e
  · have hanswer := answer_of_none hheaders hfault
    simp only [perform, Store.abort, met_upload?, h.upload?_eq_some] at hanswer
    rw [hanswer]
    constructor
    · simp only [removeUpload, met_containers, h.containers]
    · simp only [removeUpload, met_uploads, h.uploads, erase_insert_self, implies_true]
    · simp only [← h.abort, hfault, Option.isSome_none, Bool.false_eq_true, false_implies]
  · have hanswer := answer_of_some hheaders hfault
    rw [hanswer]
    constructor
    · simp only [met_containers, h.containers]
    · simp only [← h.abort, hfault, reduceCtorEq, false_implies]
    · simp only [met_uploads, h.uploads, implies_true]

end Underway

/-- An upload that begins is underway. -/
theorem underway_of_initiate {metadata : Metadata} {options : UploadOptions}
    (h : (store.answer (.initiate container metadata options)).1 = .ok id) :
    id = store.nextId ∧ container ∈ store.containers ∧
      Underway store id (.start id container metadata options.stored store.lag)
        (store.answer (.initiate container metadata options)).2 := by
  have heffect := store.answer_effect (.initiate container metadata options)
  rw [h] at heffect
  generalize (store.answer (.initiate container metadata options)).2 = next at heffect ⊢
  generalize hreply : Except.ok id = reply at heffect
  cases heffect with
  | refused => cases hreply
  | begun hcontainer =>
    cases hreply
    refine ⟨met_nextId, by simpa using hcontainer, ?_⟩
    have habort : (store.met (.initiate container metadata options)).faults.abort =
        store.faults.abort := met_faults_abort nofun
    exact ⟨met_containers, by simp [begin], habort⟩

end Store

end MultipartUpload
