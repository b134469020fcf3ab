import MultipartUpload.Proofs.Memory.History
import MultipartUpload.Proofs.Memory.Reachable

/-!
# Isolation of uploads

Uploads do not interfere with each other. What a store answers to a request about an upload depends
on the record of this upload alone, apart from what no request changes, and a request about anything
else leaves the record as it is. So the requests about one upload come to the same, whatever other
requests are made in between.
-/

namespace MultipartUpload

/-- The identifier of the upload that a request is about. -/
def Request.uploadId? : Request → Option String
  | .uploadPart _ _ _ id _ _ => some id
  | .complete _ _ id _ => some id
  | .abort _ _ id => some id
  | .initiate .. | .putObject .. => none

namespace Store

variable {id : String} {first second store next : Store} {request : Request} {reply : Reply}

/-! ## Stores that look alike -/

/-- Whether two stores look alike to the requests about an upload. -/
structure Alike (id : String) (first second : Store) : Prop where
  headerTag : first.headerTag = second.headerTag
  containers : ∀ container, container ∈ first.containers ↔ container ∈ second.containers
  upload : first.uploads[id]? = second.uploads[id]?

namespace Alike

theorem refl (id : String) (store : Store) : Alike id store store :=
  ⟨rfl, fun _ ↦ Iff.rfl, rfl⟩

theorem symm (h : Alike id first second) : Alike id second first :=
  ⟨h.headerTag.symm, fun container ↦ (h.containers container).symm, h.upload.symm⟩

theorem trans (h : Alike id store first) (hnext : Alike id first second) :
    Alike id store second where
  headerTag := h.headerTag.trans hnext.headerTag
  containers container := (h.containers container).trans (hnext.containers container)
  upload := h.upload.trans hnext.upload

theorem met (store : Store) (request : Request) : Alike id store (store.met request) :=
  ⟨met_headerTag.symm, fun _ ↦ by rw [met_containers], by rw [met_uploads]⟩

theorem place (store : Store) (container : String) (object : StoredObject) :
    Alike id store (store.place container object) :=
  ⟨rfl, fun _ ↦ Std.ExtTreeMap.mem_modify.symm, rfl⟩

theorem setUpload_of_ne {other : String} (hne : other ≠ id) (store : Store)
    (upload : StoredUpload) : Alike id store (store.setUpload other upload) :=
  ⟨rfl, fun _ ↦ Iff.rfl, by simp [setUpload, Std.ExtTreeMap.getElem?_insert, hne]⟩

theorem removeUpload_of_ne {other : String} (hne : other ≠ id) (store : Store) :
    Alike id store (store.removeUpload other) :=
  ⟨rfl, fun _ ↦ Iff.rfl, by simp [removeUpload, Std.ExtTreeMap.getElem?_erase, hne]⟩

end Alike

/-! ## Requests about anything else -/

theorem Effect.alike (h : Effect store request reply next) (hother : request.uploadId? ≠ some id)
    (hissued : store.HasIssued id) : Alike id store next := by
  have hne : ∀ {other}, request.uploadId? = some other → other ≠ id := by
    rintro other hsome rfl
    exact hother hsome
  cases h with
  | refused => exact .refl id store
  | begun =>
    exact ⟨rfl, fun _ ↦ Iff.rfl,
      by simp [begin, Std.ExtTreeMap.getElem?_insert, hissued.ne_nextId.symm]⟩
  | hidden | stored => exact .setUpload_of_ne (hne rfl) store _
  | completed => exact (Alike.removeUpload_of_ne (hne rfl) store).trans (.place _ _ _)
  | aborted => exact .removeUpload_of_ne (hne rfl) store
  | put => exact .place store _ _

/-- A request about anything else does not make a difference to an upload. -/
theorem alike_answer_of_ne (hother : request.uploadId? ≠ some id) (hissued : store.HasIssued id) :
    Alike id store (store.answer request).2 :=
  (Alike.met store request).trans
    ((store.answer_effect request).alike hother (hissued.met request))

/-! ## Requests about the upload -/

/-- The same reply, and stores that still look alike. -/
def AnsweredAlike (id : String) (first second : Reply × Store) : Prop :=
  first.1 = second.1 ∧ Alike id first.2 second.2

namespace Alike

variable (h : Alike id first second) {container key : String}
include h

theorem upload?_eq : first.upload? container key id = second.upload? container key id := by
  rw [upload?, upload?, h.upload]

theorem setUpload (upload : StoredUpload) :
    Alike id (first.setUpload id upload) (second.setUpload id upload) :=
  ⟨h.headerTag, h.containers, by simp [Store.setUpload]⟩

theorem removeUpload : Alike id (first.removeUpload id) (second.removeUpload id) :=
  ⟨h.headerTag, h.containers, by simp [Store.removeUpload]⟩

theorem refused (e : ServiceError) : AnsweredAlike id (.error e, first) (.error e, second) :=
  ⟨rfl, h⟩

theorem uploadPart (number : ℕ) (data : Bytes) (headers : Headers) :
    AnsweredAlike id (first.uploadPart container key number id data headers)
      (second.uploadPart container key number id data headers) := by
  have hrefusal : first.partRefusal? container number headers =
      second.partRefusal? container number headers := by
    simp only [partRefusal?, h.headerTag, h.containers container]
  unfold Store.uploadPart
  rw [hrefusal, h.upload?_eq]
  split
  · exact h.refused _
  · split
    · exact h.refused _
    · split
      · exact ⟨rfl, h.setUpload _⟩
      · exact ⟨rfl, h.setUpload _⟩

theorem complete (manifest : Manifest) :
    AnsweredAlike id (first.complete container key id manifest)
      (second.complete container key id manifest) := by
  unfold Store.complete
  simp only [h.containers container, h.upload?_eq]
  split_ifs
  · exact h.refused _
  · split
    · exact h.refused _
    · split
      · exact h.refused _
      · exact ⟨rfl, (Alike.place _ _ _).symm.trans (h.removeUpload.trans (.place _ _ _))⟩
  · exact h.refused _

theorem abort :
    AnsweredAlike id (first.abort container key id) (second.abort container key id) := by
  unfold Store.abort
  rw [h.upload?_eq]
  split
  · exact h.refused _
  · exact ⟨rfl, h.removeUpload⟩

/-- Stores that look alike answer alike to a request about the upload. -/
theorem answer (hfirst : first.faults.Clear) (hsecond : second.faults.Clear)
    (hown : request.uploadId? = some id) :
    AnsweredAlike id (first.answer request) (second.answer request) := by
  rcases hheaders : request.options.headers first.headerTag with e | headers
  · have hheaders' := hheaders
    rw [h.headerTag] at hheaders'
    simp only [Store.answer, Request.received_eq_error hheaders,
      Request.received_eq_error hheaders']
    exact h.refused _
  · have hheaders' := hheaders
    rw [h.headerTag] at hheaders'
    have hmet : Alike id (first.met request) (second.met request) :=
      (Alike.met first request).symm.trans (h.trans (.met second request))
    rw [answer_of_clear hfirst request hheaders, answer_of_clear hsecond request hheaders']
    cases request with
    | initiate | putObject => cases hown
    | uploadPart =>
      cases hown
      exact hmet.uploadPart _ _ _
    | complete =>
      cases hown
      exact hmet.complete _
    | abort =>
      cases hown
      exact hmet.abort

/-- What comes of a request about the upload is the same in both stores. -/
theorem event (hfirst : first.faults.Clear) (hsecond : second.faults.Clear)
    (hown : request.uploadId? = some id) : first.event request = second.event request := by
  have hproduct : first.product? request = second.product? request := by
    cases request with
    | initiate | putObject => cases hown
    | uploadPart | abort => rfl
    | complete =>
      cases hown
      simp only [product?, h.upload?_eq]
  rw [Store.event, Store.event, (h.answer hfirst hsecond hown).1, hproduct]

/-- The requests about an upload come to the same in two stores that look alike, even if other
requests are made of the first one in between. -/
theorem history (hfirst : first.faults.Clear) (hsecond : second.faults.Clear)
    (hissued : first.HasIssued id) (requests : List Request) :
    (first.history requests).filter (·.request.uploadId? = some id) =
      second.history (requests.filter (·.uploadId? = some id)) := by
  induction requests generalizing first second with
  | nil => rfl
  | cons request rest ih =>
    by_cases hown : request.uploadId? = some id
    · have hnext := (h.answer hfirst hsecond hown).2
      have hrest := ih hnext (clear_answer hfirst request) (clear_answer hsecond request)
        (hissued.answer request)
      rw [history_cons, List.filter_cons_of_pos (by simp [hown]),
        List.filter_cons_of_pos (by simp [hown]), history_cons, hrest,
        h.event hfirst hsecond hown]
    · have hnext : Alike id (first.answer request).2 second :=
        (alike_answer_of_ne hown hissued).symm.trans h
      have hrest := ih hnext (clear_answer hfirst request) hsecond (hissued.answer request)
      rw [history_cons, List.filter_cons_of_neg (by simp [hown]),
        List.filter_cons_of_neg (by simp [hown]), hrest]

end Alike

end Store

/-- When no failure is queued, the requests about an upload in progress get the same replies and
store the same object, whatever other requests are made in between. In the end the object under a
key is the one that the last granted request for this key stored, or the one from the start if there
was no such request. A store that is reached on the way is a start as well, so the same holds for an
upload that begins there. -/
theorem uploads_do_not_interfere {store : Store} (hstore : store.Reachable)
    (hclear : store.faults.Clear) (requests : List Request) :
    (∀ id ∈ store.uploads,
      (store.history requests).filter (·.request.uploadId? = some id) =
        store.history (requests.filter (·.uploadId? = some id))) ∧
    ∀ container key,
      let writes := (store.history requests).filter (·.writes container key)
      (∀ event ∈ writes, event.stored?.isSome) ∧
      (store.after requests).object? container key =
        writes.getLast?.elim (store.object? container key) Event.stored? := by
  constructor
  · intro id hid
    exact (Store.Alike.refl id store).history hclear hclear (hstore.issued id hid) requests
  · intro container key writes
    constructor
    · intro event hevent
      obtain ⟨hmem, hwrites⟩ := List.mem_filter.mp hevent
      exact Store.stored?_isSome_of_mem_history hmem hwrites
    · exact store.object?_after requests container key

/-- Two uploads to one key take turns with each other and with an object that is put under the key.
The second upload is completed last. -/
theorem uploads_to_one_key_do_not_interfere :
    let store := (((Store.empty {} 0 (.labelled "u")).act (.createContainer "box")).act
      (.request (.initiate "box" { name := "key" } {}))).act
      (.request (.initiate "box" { name := "key" } {}))
    let first : Request := .uploadPart "box" "key" 1 "u1" ⟨0, [1, 2]⟩ {}
    let second : Request := .uploadPart "box" "key" 1 "u2" ⟨0, [3]⟩ {}
    let put : Request := .putObject "box" (.ofName "key" (.ofBytes [4])) {}
    let complete (id : String) (data : Bytes) : Request :=
      .complete "box" "key" id ((∅ : Manifest).insert 1 (ETag.ofData data))
    let requests := [first, second, complete "u1" [1, 2], put, complete "u2" [3]]
    store.Reachable ∧ store.faults.Clear ∧ "u1" ∈ store.uploads ∧
    (store.history requests).filter (·.request.uploadId? = some "u1") =
      store.history [first, complete "u1" [1, 2]] ∧
    ((store.after requests).object? "box" "key").map (·.data) = some [3] := by
  intro store first second put complete requests
  have hstore : store.Reachable := .step (.step (.step (.empty {} 0 (.labelled "u"))
    (.createContainer "box")) (.request (.initiate "box" { name := "key" } {})))
    (.request (.initiate "box" { name := "key" } {}))
  have hclear : store.faults.Clear := ⟨rfl, fun _ ↦ rfl, rfl, rfl⟩
  have hid : "u1" ∈ store.uploads := by decide
  have hrun := uploads_do_not_interfere hstore hclear requests
  refine ⟨hstore, hclear, hid, hrun.1 "u1" hid, ?_⟩
  rw [(hrun.2 "box" "key").2]
  decide +kernel

end MultipartUpload
