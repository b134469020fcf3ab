import MultipartUpload.Proofs.Memory.Grant
import MultipartUpload.Proofs.Upload.Outline

/-!
# Histories of stores

What came of requests that are made of a store one after another: the replies and the objects that
were stored. An object is stored as a whole, by the request that completes its upload or puts its
blob. So the object that is found under a key in the end is the one that the last such request
stored.
-/

namespace MultipartUpload

/-- A request that was made, the reply to it, and the object that it stored. -/
structure Event where
  request : Request
  reply : Reply
  stored? : Option StoredObject

/-- An object is stored by a request that is granted. -/
def Event.ofReply (request : Request) (reply : Reply) (product? : Option StoredObject) : Event :=
  ⟨request, reply, reply.toOption.bind fun _ ↦ product?⟩

/-- Whether a request was granted that makes the object under a key. -/
def Event.writes (container key : String) (event : Event) : Bool :=
  event.request.finishes && event.reply.isOk && event.request.container == container &&
    event.request.key == key

namespace Event

variable {request : Request} {product? : Option StoredObject} {container key : String}

@[simp]
theorem writes_ofReply_error (e : ServiceError) :
    (ofReply request (.error e) product?).writes container key = false := by
  simp [ofReply, writes, Except.isOk, Except.toBool]

@[simp]
theorem writes_ofReply_ok (granted : String) :
    (ofReply request (.ok granted) product?).writes container key =
      (request.finishes && request.container == container && request.key == key) := by
  simp [ofReply, writes, Except.isOk, Except.toBool]

@[simp]
theorem stored?_ofReply_ok (granted : String) :
    (ofReply request (.ok granted) product?).stored? = product? := rfl

end Event

namespace Store

/-- The object that a request stores if it is granted: the listed parts of an upload in their order
under what the upload began with, or the blob that is put. -/
def product? (store : Store) : Request → Option StoredObject
  | .complete container key id manifest =>
    (store.upload? container key id).bind fun upload ↦
      (upload.collect manifest.toList).toOption.map upload.assemble
  | .putObject _ blob options =>
    (body blob.payload).toOption.map (.ofData blob.metadata options.stored)
  | _ => none

/-- What comes of a request. -/
def event (store : Store) (request : Request) : Event :=
  .ofReply request (store.answer request).1 (store.product? request)

/-- The store after requests that are made one after another. -/
def after (store : Store) (requests : List Request) : Store :=
  requests.foldl (fun store request ↦ (store.answer request).2) store

/-- What comes of requests that are made one after another. -/
def history (store : Store) : List Request → List Event
  | [] => []
  | request :: rest => store.event request :: (store.answer request).2.history rest

variable {store next : Store} {container key : String}

@[simp]
theorem event_request (request : Request) : (store.event request).request = request := rfl

@[simp]
theorem after_cons (request : Request) (rest : List Request) :
    store.after (request :: rest) = (store.answer request).2.after rest := rfl

@[simp]
theorem history_cons (request : Request) (rest : List Request) :
    store.history (request :: rest) =
      store.event request :: (store.answer request).2.history rest := rfl

/-! ## What a request stores -/

@[simp]
theorem met_product? (request request' : Request) :
    (store.met request).product? request' = store.product? request' := by
  cases request' <;> simp [product?]

theorem product?_complete {id : String} {manifest : Manifest} {upload : StoredUpload}
    {parts : List StoredPart} (hupload : store.upload? container key id = some upload)
    (hparts : upload.collect manifest.toList = .ok parts) :
    store.product? (.complete container key id manifest) = some (upload.assemble parts) := by
  simp [product?, hupload, hparts, Except.toOption]

theorem product?_putObject {blob : Blob} {data : Bytes} (hdata : body blob.payload = .ok data)
    (options : UploadOptions) : store.product? (.putObject container blob options) =
      some (.ofData blob.metadata options.stored data) := by
  simp [product?, hdata, Except.toOption]

theorem Effect.stored?_isSome {request : Request} {reply : Reply}
    (h : Effect store request reply next)
    (hwrites : (Event.ofReply request reply (store.product? request)).writes container key) :
    (Event.ofReply request reply (store.product? request)).stored?.isSome := by
  cases h with
  | refused | begun | hidden | stored | aborted => simp [Request.finishes] at hwrites
  | completed _ _ hupload hparts =>
    rw [Event.stored?_ofReply_ok, product?_complete hupload hparts, Option.isSome_some]
  | put _ hdata =>
    rw [Event.stored?_ofReply_ok, product?_putObject hdata, Option.isSome_some]

/-- A granted request that makes an object stores one. -/
theorem stored?_isSome_of_mem_history {event : Event} {requests : List Request}
    (hevent : event ∈ store.history requests) (hwrites : event.writes container key) :
    event.stored?.isSome := by
  induction requests generalizing store with
  | nil => cases hevent
  | cons request rest ih =>
    rw [history_cons, List.mem_cons] at hevent
    rcases hevent with rfl | hevent
    · have heffect := store.answer_effect request
      rw [Store.event, ← met_product? request] at hwrites ⊢
      exact heffect.stored?_isSome hwrites
    · exact ih hevent

/-! ## The object under a key -/

/-- A request that is granted and makes an object stores it under its key. No other request changes
an object. -/
theorem Effect.object? {request : Request} {reply : Reply} (h : Effect store request reply next)
    (container key : String) : next.object? container key =
      if (Event.ofReply request reply (store.product? request)).writes container key then
        (Event.ofReply request reply (store.product? request)).stored?
      else store.object? container key := by
  cases h with
  | refused => simp
  | begun | hidden | stored | aborted =>
    simp only [Event.writes_ofReply_ok, Event.writes_ofReply_error, Request.finishes]
    rfl
  | @completed container' key' id manifest upload parts hcontainer _ hupload hparts =>
    have hkey : (upload.assemble parts).key = key' := (upload?_eq_some.mp hupload).2.2
    have hremoved : container' ∈ (store.removeUpload id).containers := hcontainer
    rw [object?_place hremoved, hkey]
    simp only [Event.writes_ofReply_ok, Event.stored?_ofReply_ok, product?_complete hupload hparts,
      Request.finishes, Request.container, Request.key, Bool.true_and, Bool.and_eq_true, beq_iff_eq]
    rfl
  | @put container' blob data options hcontainer hdata =>
    have hkey : (StoredObject.ofData blob.metadata options.stored data).key = blob.name := rfl
    rw [object?_place hcontainer, hkey]
    simp only [Event.writes_ofReply_ok, Event.stored?_ofReply_ok, product?_putObject hdata,
      Request.finishes, Request.container, Request.key, Bool.true_and, Bool.and_eq_true, beq_iff_eq]

theorem object?_answer (store : Store) (request : Request) (container key : String) :
    (store.answer request).2.object? container key =
      if (store.event request).writes container key then (store.event request).stored?
      else store.object? container key := by
  have heffect := (store.answer_effect request).object? container key
  rw [met_product?, object?_congr met_containers] at heffect
  exact heffect

/-- After requests that are made one after another, the object under a key is the one that the last
granted request for this key stored. -/
theorem object?_after (store : Store) (requests : List Request) (container key : String) :
    (store.after requests).object? container key =
      (((store.history requests).filter (·.writes container key)).getLast?).elim
        (store.object? container key) Event.stored? := by
  induction requests generalizing store with
  | nil => rfl
  | cons request rest ih =>
    rw [after_cons, history_cons, ih, object?_answer, List.filter_cons]
    split
    · rw [List.getLast?_cons]
      generalize List.getLast? _ = later?
      cases later? <;> rfl
    · rfl

end Store

end MultipartUpload
