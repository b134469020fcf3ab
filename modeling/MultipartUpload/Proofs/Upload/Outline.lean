import MultipartUpload.Proofs.Upload.Conversation
import MultipartUpload.Service.Script

/-!
# Outlines of uploads

What an upload looks like from the outside, as a service sees it: the kinds of requests, the numbers
of the parts, which request is the last, and when an identifier is returned. An upload that has
begun is completed after every planned part was accepted, or it is aborted exactly once.
-/

namespace MultipartUpload

/-! ## Parts in order -/

/-- One request for a part, or the same one made twice in a row, and the replies. -/
def PartRequested (container key id : String) (number : ℕ) (group : List Exchange) : Prop :=
  ∃ (part : Part) (options : UploadOptions) (replies : List Reply),
    (replies.length = 1 ∨ replies.length = 2) ∧
    group = replies.map (⟨.uploadPart container key number id part options, ·⟩)

/-- Requests for the first parts of an upload in the order of their numbers. -/
def PartsInOrder (container key id : String) (count : ℕ) (exchanges : List Exchange) : Prop :=
  ∃ groups : List (List Exchange), exchanges = groups.flatten ∧
    List.Forall₂ (PartRequested container key id) (List.range' 1 count) groups

/-- Every one of the first parts was accepted. -/
def PartsAccepted (container key id : String) (count : ℕ) (exchanges : List Exchange) : Prop :=
  ∀ number ∈ List.range' 1 count, ∃ (part : Part) (options : UploadOptions) (checksum : String),
    ⟨.uploadPart container key number id part options, .ok checksum⟩ ∈ exchanges

namespace Sending

variable {stream : PartStream} {plan : Plan} {shipments : List Shipment}
  {result : Except UploadError Unit}

theorem partsInOrder (hplan : plan.Covers)
    (h : Sending stream plan.partCount plan.slots 0 shipments result)
    (container key id : String) (options : UploadOptions) :
    PartsInOrder container key id shipments.length
      (shipments.flatMap (Shipment.exchanges (Request.bring container key id options))) := by
  refine ⟨_, List.flatMap_def, ?_⟩
  rw [← h.numbers hplan, List.forall₂_map_left_iff, List.forall₂_map_right_iff, List.forall₂_same]
  intro shipment _
  exact ⟨shipment.part, options, _, shipment.attempt.length_replies, rfl⟩

theorem partsAccepted (hplan : plan.Covers)
    (h : Sending stream plan.partCount plan.slots 0 shipments result)
    (haccepted : ∀ shipment ∈ shipments, ∃ checksum, shipment.Accepted checksum)
    (container key id : String) (options : UploadOptions) :
    PartsAccepted container key id shipments.length
      (shipments.flatMap (Shipment.exchanges (Request.bring container key id options))) := by
  intro number hnumber
  rw [← h.numbers hplan] at hnumber
  obtain ⟨shipment, hmem, rfl⟩ := List.mem_map.mp hnumber
  obtain ⟨checksum, hchecksum⟩ := haccepted shipment hmem
  refine ⟨shipment.part, options, checksum, List.mem_flatMap.mpr ⟨shipment, hmem, ?_⟩⟩
  rw [← hchecksum]
  exact shipment.attempt.reply_mem_exchanges _

/-- A success covers the whole plan. -/
theorem all_accepted (hplan : plan.Covers)
    (h : Sending stream plan.partCount plan.slots 0 shipments (.ok ()))
    (container key id : String) (options : UploadOptions) :
    let parts := shipments.flatMap
      (Shipment.exchanges (Request.bring container key id options))
    PartsInOrder container key id plan.partCount parts ∧
      PartsAccepted container key id plan.partCount parts := by
  rw [← h.length_eq hplan]
  exact ⟨h.partsInOrder hplan container key id options,
    h.partsAccepted hplan h.of_ok.2 container key id options⟩

/-- A payload that cannot be read or does not fit stops an upload between parts, and a refusal stops
it at the last request. -/
theorem of_error {slots : List Slot} {index planned : ℕ} {cause : UploadError}
    (h : Sending stream planned slots index shipments (.error cause)) :
    (((∃ failure, cause = .payload failure) ∨ ∃ found, cause = .mismatch found) ∧
      ∀ shipment ∈ shipments, ∃ checksum, shipment.Accepted checksum) ∨
    ∃ init last e, cause = .service e ∧ shipments = init ++ [last] ∧
      last.attempt.reply = .error e := by
  generalize hresult : Except.error cause = result at h
  induction h with
  | finished => cases hresult
  | surplus | shortfall | misfit =>
    cases hresult
    exact .inl ⟨.inr ⟨_, rfl⟩, by simp⟩
  | unread =>
    cases hresult
    exact .inl ⟨.inl ⟨_, rfl⟩, by simp⟩
  | refused shipment _ hreply =>
    cases hresult
    exact .inr ⟨[], shipment, _, rfl, rfl, hreply⟩
  | accepted shipment _ hreply _ ih =>
    rcases ih hresult with ⟨hcause, haccepted⟩ | ⟨init, last, e, hcause, rfl, hlast⟩
    · refine .inl ⟨hcause, ?_⟩
      rintro sent (_ | ⟨_, hsent⟩)
      · exact ⟨_, hreply⟩
      · exact haccepted sent hsent
    · exact .inr ⟨shipment :: init, last, e, hcause, rfl, hlast⟩

end Sending

/-! ## Endings -/

/-- How an upload that has begun ends: the exchanges about its parts, those that follow, and the
result. -/
inductive Ending (container key id : String) (planned : ℕ) :
    List Exchange → List Exchange → Except UploadError String → Prop where
  /-- Every planned part was accepted, and the completion was granted. -/
  | completed {parts manifest identifier} (horder : PartsInOrder container key id planned parts)
      (haccepted : PartsAccepted container key id planned parts) :
      Ending container key id planned parts
        [⟨.complete container key id manifest, .ok identifier⟩] (.ok identifier)
  /-- Every planned part was accepted, and the completion was refused. -/
  | incomplete {parts manifest e reply} (horder : PartsInOrder container key id planned parts)
      (haccepted : PartsAccepted container key id planned parts) :
      Ending container key id planned parts
        [⟨.complete container key id manifest, .error e⟩, ⟨.abort container key id, reply⟩]
        (.error (.service e))
  /-- The last request for a part was refused. -/
  | refused {count request parts e reply} (hcount : count ≤ planned)
      (horder : PartsInOrder container key id count (parts ++ [⟨request, .error e⟩])) :
      Ending container key id planned (parts ++ [⟨request, .error e⟩])
        [⟨.abort container key id, reply⟩] (.error (.service e))
  /-- The payload could not be read. -/
  | unread {count parts failure reply} (hcount : count ≤ planned)
      (horder : PartsInOrder container key id count parts)
      (haccepted : PartsAccepted container key id count parts) :
      Ending container key id planned parts [⟨.abort container key id, reply⟩]
        (.error (.payload failure))
  /-- The parts of the payload are not those of the plan. -/
  | mismatch {count parts found reply} (hcount : count ≤ planned)
      (horder : PartsInOrder container key id count parts)
      (haccepted : PartsAccepted container key id count parts) :
      Ending container key id planned parts [⟨.abort container key id, reply⟩]
        (.error (.mismatch found))

theorem Transfer.ending {stream : PartStream} {plan : Plan} {container key id : String}
    {options : UploadOptions} {exchanges : List Exchange} {result : Except UploadError String}
    (hplan : plan.Covers)
    (h : Transfer stream plan container key id options exchanges result) :
    ∃ parts rest, exchanges = parts ++ rest ∧
      Ending container key id plan.partCount parts rest result := by
  cases h with
  | completed hsent identifier =>
    obtain ⟨horder, haccepted⟩ := hsent.all_accepted hplan container key id options
    exact ⟨_, _, rfl, .completed horder haccepted⟩
  | incomplete hsent e reply =>
    obtain ⟨horder, haccepted⟩ := hsent.all_accepted hplan container key id options
    exact ⟨_, _, rfl, .incomplete horder haccepted⟩
  | aborted hsent reply =>
    have hcount := hsent.length_le hplan
    have horder := hsent.partsInOrder hplan container key id options
    rcases hsent.of_error with ⟨hcause, haccepted⟩ | ⟨init, last, e, rfl, rfl, hlast⟩
    · have hparts := hsent.partsAccepted hplan haccepted container key id options
      rcases hcause with ⟨failure, rfl⟩ | ⟨found, rfl⟩
      · exact ⟨_, _, rfl, .unread hcount horder hparts⟩
      · exact ⟨_, _, rfl, .mismatch hcount horder hparts⟩
    · refine ⟨_, _, rfl, ?_⟩
      rw [List.flatMap_append, List.flatMap_singleton, Shipment.exchanges, Attempt.exchanges,
        Attempt.replies, List.map_append, List.map_singleton, hlast, ← List.append_assoc]
        at horder ⊢
      exact .refused hcount horder

/-! ## The result -/

/-- Whether a request makes the object. -/
def Request.finishes : Request → Bool
  | .complete .. | .putObject .. => true
  | _ => false

theorem Transfer.ok_iff {stream : PartStream} {plan : Plan} {container key id : String}
    {options : UploadOptions} {exchanges : List Exchange} {result : Except UploadError String}
    (h : Transfer stream plan container key id options exchanges result) (identifier : String) :
    result = .ok identifier ↔
      ∃ exchange ∈ exchanges, exchange.request.finishes ∧ exchange.reply = .ok identifier := by
  have hparts : ∀ shipments : List Shipment, ¬∃ exchange ∈ shipments.flatMap
      (Shipment.exchanges (Request.bring container key id options)),
      exchange.request.finishes ∧ exchange.reply = .ok identifier := by
    rintro shipments ⟨exchange, hmem, hfinishes, -⟩
    obtain ⟨shipment, -, hrequest⟩ := Shipment.request_of_mem hmem
    rw [hrequest] at hfinishes
    cases hfinishes
  cases h with
  | completed | incomplete | aborted =>
    simp only [List.mem_append, or_and_right, exists_or, hparts, false_or]
    simp [Request.finishes]

theorem Conversation.ok_iff {engine : Engine} {container : String} {blob : Blob}
    {options : RequestOptions} {exchanges : List Exchange} {result : Except UploadError String}
    (h : Conversation engine container blob options exchanges result) (identifier : String) :
    result = .ok identifier ↔
      ∃ exchange ∈ exchanges, exchange.request.finishes ∧ exchange.reply = .ok identifier := by
  cases h with
  | lengthMissing | tooLarge | refused => simp [Request.finishes]
  | whole _ _ reply => cases reply <;> simp [Request.finishes, Except.mapError]
  | begun _ _ id htransfer =>
    rw [htransfer.ok_iff identifier]
    simp [Request.finishes]

/-- An upload says nothing and fails for the length of its blob, or it makes a single request, or
it begins and ends as an upload in parts. It returns an identifier exactly when the request that
makes the object was granted with this identifier. -/
theorem upload_exchanges_cases {c : Config} {s : Sizing} (hs : Sizing.ofConfig c = .ok s)
    (slicer : Slicer) (service : Service σ) (container : String) (blob : Blob)
    (config : Option PutConfiguration) (state : σ) :
    let main := (RequestOptions.ofConfiguration config).main
    let talk := Engine.upload ⟨s, slicer⟩ service container blob config state
    let result := talk.outcome.result
    ((talk.exchanges = [] ∧
        (result = .error (.missingLength blob.name) ∨ ∃ e, result = .error (.tooLarge e))) ∨
      (∃ reply, talk.exchanges = [⟨.putObject container blob main, reply⟩] ∧
        result = reply.mapError .service) ∨
      (∃ e, talk.exchanges = [⟨.initiate container blob.metadata main, .error e⟩] ∧
        result = .error (.service e)) ∨
      ∃ length plan id parts rest, blob.length? = some length ∧ s.plan length = .ok plan ∧
        talk.exchanges =
          ⟨.initiate container blob.metadata main, .ok id⟩ :: (parts ++ rest) ∧
        Ending container blob.name id plan.partCount parts rest result) ∧
    ∀ identifier, result = .ok identifier ↔
      ∃ exchange ∈ talk.exchanges,
        exchange.request.finishes ∧ exchange.reply = .ok identifier := by
  intro main talk result
  have hconversation :=
    Engine.upload_conversation ⟨s, slicer⟩ service container blob config state
  refine ⟨?_, fun identifier ↦ hconversation.ok_iff identifier⟩
  change Conversation _ _ _ _ talk.exchanges result at hconversation
  generalize talk.exchanges = exchanges at hconversation ⊢
  generalize result = result at hconversation ⊢
  cases hconversation with
  | lengthMissing => exact .inl ⟨rfl, .inl rfl⟩
  | tooLarge => exact .inl ⟨rfl, .inr ⟨_, rfl⟩⟩
  | whole _ _ reply => exact .inr (.inl ⟨reply, rfl, rfl⟩)
  | refused _ _ e => exact .inr (.inr (.inl ⟨e, rfl, rfl⟩))
  | begun hplan hparts id htransfer =>
    obtain ⟨length, hlength, hplan⟩ := hplan
    have hadmissible := Sizing.admissible_of_ofConfig hs
    rw [Sizing.isSingle_iff hadmissible hplan, not_le] at hparts
    have hcovers := (Sizing.covers_of_plan hadmissible hplan hparts).1
    obtain ⟨parts, rest, rfl, hending⟩ := htransfer.ending hcovers
    exact .inr (.inr (.inr ⟨length, _, id, parts, rest, hlength, hplan, rfl, hending⟩))

/-- Three parts, the second of which the service sees only when it is sent again. -/
theorem scripted_upload_finishes :
    Sizing.ofConfig { partSize := 4, minPartSize := 1 } = .ok ⟨4, 100, 5 * 2 ^ 30, 10000⟩ ∧
    ∃ exchange ∈ (Engine.upload ⟨⟨4, 100, 5 * 2 ^ 30, 10000⟩, .standard⟩ Script.service "box"
      (.ofName "key" (.ofBytes [1, 2, 3, 4, 5, 6, 7, 8, 9, 10])) none
      (({ uploadId := "u" } : Script).failPart 2 (.keyNotFound "box" "key" none))).exchanges,
      exchange.request.finishes ∧ exchange.reply = .ok "\"final-etag\"" := by
  have hs : Sizing.ofConfig { partSize := 4, minPartSize := 1 } =
      .ok ⟨4, 100, 5 * 2 ^ 30, 10000⟩ := by decide
  refine ⟨hs, ((upload_exchanges_cases hs .standard Script.service "box" _ none _).2 _).mp ?_⟩
  decide +kernel

end MultipartUpload
