import MultipartUpload.Proofs.Plan.Geometry
import MultipartUpload.Proofs.Upload.Sending

/-!
# Conversations of the engine

Everything an upload can say to a service, told without the service. It says nothing, puts the whole
blob, fails to begin, or begins and sends parts; what has begun ends either with a completion that
was granted or with a single abort. Main statement: every upload holds such a conversation, with
every service and every slicer.
-/

namespace MultipartUpload

namespace Sending

variable {stream : PartStream} {plan : Plan} {shipments : List Shipment}
  {result : Except UploadError Unit}

theorem mem_slots (h : Sending stream plan.partCount plan.slots 0 shipments result)
    {shipment : Shipment} (hmem : shipment ∈ shipments) : shipment.slot ∈ plan.slots :=
  h.slots_prefix.subset (List.mem_map_of_mem hmem)

theorem length_le (hplan : plan.Covers)
    (h : Sending stream plan.partCount plan.slots 0 shipments result) :
    shipments.length ≤ plan.partCount := by
  have hle := h.slots_prefix.length_le
  rw [hplan.slots_eq] at hle
  simpa using hle

theorem numbers (hplan : plan.Covers)
    (h : Sending stream plan.partCount plan.slots 0 shipments result) :
    shipments.map (·.slot.number) = List.range' 1 shipments.length := by
  have hprefix := h.slots_prefix.map Slot.number
  rw [hplan.slot_numbers, List.map_map, List.prefix_iff_eq_take, List.length_map,
    List.take_range'_of_length_ge (h.length_le hplan)] at hprefix
  exact hprefix

/-- The shipments go up in the order of their numbers. -/
theorem ascending (hplan : plan.Covers)
    (h : Sending stream plan.partCount plan.slots 0 shipments result) :
    shipments.Pairwise fun first second ↦ first.slot.number < second.slot.number := by
  have hnumbers := h.numbers hplan
  rw [← List.pairwise_map (f := fun shipment : Shipment ↦ shipment.slot.number), hnumbers]
  exact List.pairwise_lt_range'

theorem length_eq (hplan : plan.Covers)
    (h : Sending stream plan.partCount plan.slots 0 shipments (.ok ())) :
    shipments.length = plan.partCount := by
  rw [← List.length_map Shipment.slot, h.of_ok.1, hplan.length_slots]

end Sending

/-- The plan for the declared length of a blob. -/
def Engine.PlansFor (engine : Engine) (blob : Blob) (plan : Plan) : Prop :=
  ∃ length, blob.length? = some length ∧ engine.sizing.plan length = .ok plan

theorem Engine.PlansFor.unique {engine : Engine} {blob : Blob} {first second : Plan}
    (hfirst : engine.PlansFor blob first) (hsecond : engine.PlansFor blob second) :
    first = second := by
  obtain ⟨length, hlength, hplan⟩ := hfirst
  obtain ⟨length', hlength', hplan'⟩ := hsecond
  rw [hlength] at hlength'
  cases hlength'
  rw [hplan] at hplan'
  exact Except.ok.inj hplan'

theorem Engine.PlansFor.partCount_lt {engine : Engine} {blob : Blob} {plan : Plan}
    (h : engine.PlansFor blob plan) : plan.partCount < UInt32.size := by
  obtain ⟨length, -, hplan⟩ := h
  exact Sizing.partCount_lt_of_plan hplan

/-- The requests that bring the parts of an upload. -/
def Request.bring (container key id : String) (options : UploadOptions) (number : ℕ)
    (part : Part) : Request :=
  .uploadPart container key number id part options

/-- All exchanges of shipments are requests that bring their parts. -/
theorem Shipment.request_of_mem {shipments : List Shipment} {container key id : String}
    {options : UploadOptions} {exchange : Exchange}
    (h : exchange ∈ shipments.flatMap
      (Shipment.exchanges (Request.bring container key id options))) :
    ∃ shipment ∈ shipments,
      exchange.request = .bring container key id options shipment.slot.number shipment.part := by
  obtain ⟨shipment, hmem, hexchange⟩ := List.mem_flatMap.mp h
  exact ⟨shipment, hmem, Attempt.mem_exchanges hexchange⟩

/-- The exchanges of an upload after it has begun, and its result. -/
inductive Transfer (stream : PartStream) (plan : Plan) (container key id : String)
    (options : UploadOptions) : List Exchange → Except UploadError String → Prop where
  | completed {shipments}
      (hsent : Sending stream plan.partCount plan.slots 0 shipments (.ok ()))
      (identifier : String) :
      Transfer stream plan container key id options
        (shipments.flatMap (Shipment.exchanges (Request.bring container key id options)) ++
          [⟨.complete container key id (shipments.foldl Shipment.enter ∅), .ok identifier⟩])
        (.ok identifier)
  | incomplete {shipments}
      (hsent : Sending stream plan.partCount plan.slots 0 shipments (.ok ()))
      (e : ServiceError) (reply : Reply) :
      Transfer stream plan container key id options
        (shipments.flatMap (Shipment.exchanges (Request.bring container key id options)) ++
          [⟨.complete container key id (shipments.foldl Shipment.enter ∅), .error e⟩,
            ⟨.abort container key id, reply⟩])
        (.error (.service e))
  | aborted {shipments cause}
      (hsent : Sending stream plan.partCount plan.slots 0 shipments (.error cause))
      (reply : Reply) :
      Transfer stream plan container key id options
        (shipments.flatMap (Shipment.exchanges (Request.bring container key id options)) ++
          [⟨.abort container key id, reply⟩])
        (.error cause)

/-- The exchanges of an upload and its result. -/
inductive Conversation (engine : Engine) (container : String) (blob : Blob)
    (options : RequestOptions) : List Exchange → Except UploadError String → Prop where
  | lengthMissing (hlength : blob.length? = none) :
      Conversation engine container blob options [] (.error (.missingLength blob.name))
  | tooLarge {length e} (hlength : blob.length? = some length)
      (hplan : engine.sizing.plan length = .error e) :
      Conversation engine container blob options [] (.error (.tooLarge e))
  | whole {plan} (hplan : engine.PlansFor blob plan) (hsingle : plan.isSingle) (reply : Reply) :
      Conversation engine container blob options
        [⟨.putObject container blob options.main, reply⟩] (reply.mapError .service)
  | refused {plan} (hplan : engine.PlansFor blob plan) (hparts : ¬plan.isSingle)
      (e : ServiceError) :
      Conversation engine container blob options
        [⟨.initiate container blob.metadata options.main, .error e⟩] (.error (.service e))
  | begun {plan} (hplan : engine.PlansFor blob plan) (hparts : ¬plan.isSingle) (id : String)
      {exchanges result}
      (htransfer : Transfer (engine.slicer blob.payload plan.chunkSize) plan container blob.name
        id options.part exchanges result) :
      Conversation engine container blob options
        (⟨.initiate container blob.metadata options.main, .ok id⟩ :: exchanges) result

/-- The upload of a blob that is planned in parts fails to begin, or begins and is carried on. -/
theorem Conversation.of_parts {engine : Engine} {container : String} {blob : Blob}
    {options : RequestOptions} {exchanges : List Exchange} {result : Except UploadError String}
    {plan : Plan} (h : Conversation engine container blob options exchanges result)
    (hplan : engine.PlansFor blob plan) (hparts : ¬plan.isSingle) :
    (∃ e, exchanges = [⟨.initiate container blob.metadata options.main, .error e⟩] ∧
      result = .error (.service e)) ∨
    ∃ id rest, exchanges = ⟨.initiate container blob.metadata options.main, .ok id⟩ :: rest ∧
      Transfer (engine.slicer blob.payload plan.chunkSize) plan container blob.name id
        options.part rest result := by
  cases h with
  | lengthMissing hlength =>
    obtain ⟨length, hsome, -⟩ := hplan
    rw [hlength] at hsome
    cases hsome
  | tooLarge hlength herror =>
    obtain ⟨length, hsome, hok⟩ := hplan
    rw [hlength] at hsome
    cases hsome
    rw [herror] at hok
    cases hok
  | whole hwhole hsingle =>
    rw [hwhole.unique hplan] at hsingle
    exact absurd hsingle hparts
  | refused _ _ e => exact .inl ⟨e, rfl, rfl⟩
  | begun hbegun _ id htransfer =>
    rw [hbegun.unique hplan] at htransfer
    exact .inr ⟨id, _, rfl, htransfer⟩

namespace Engine

theorem putWhole_conversation (engine : Engine) (service : Service σ) (container : String)
    (blob : Blob) (options : RequestOptions) (state : σ) {plan : Plan}
    (hplan : engine.PlansFor blob plan) (hsingle : plan.isSingle) :
    Conversation engine container blob options
      (putWhole service container blob options.main state).exchanges
      (putWhole service container blob options.main state).outcome.result := by
  simp only [putWhole, Talk.map_exchanges, Talk.map_outcome, Service.ask_exchanges,
    Service.ask_outcome]
  exact .whole hplan hsingle _

theorem transfer_transfer (service : Service σ) (stream : PartStream) {plan : Plan}
    (hcount : plan.partCount < UInt32.size) (options : UploadOptions) (tx : Transaction)
    (state : σ) (hmanifest : tx.manifest = ∅) :
    Transfer stream plan tx.container tx.key tx.uploadId options
      (transfer service stream plan options tx state).exchanges
      (transfer service stream plan options tx state).outcome.result := by
  obtain ⟨shipments, hsent, htx, hexchanges⟩ := sendSlots_sending service stream plan.partCount
    options plan.slots 0 (tx.advance .uploadingParts) state
  have hstart : (tx.advance .uploadingParts).manifest = ∅ := hmanifest
  rw [hstart] at htx
  rw [transfer_eq service stream hcount options hmanifest state]
  generalize sendSlots service stream plan.partCount options plan.slots 0
    (tx.advance .uploadingParts) state = talk at hsent htx hexchanges ⊢
  obtain ⟨⟨sent, cause | ⟨⟩⟩, state, exchanges⟩ := talk
  all_goals
    simp only at hsent htx hexchanges
    subst htx hexchanges
  · exact .aborted hsent _
  · simp only [Talk.followedBy, complete, Talk.map, Service.ask]
    rcases (service.answer (Transaction.completeRequest _) state).1 with e | identifier
    · exact .incomplete hsent e _
    · exact .completed hsent identifier

theorem uploadParts_conversation (engine : Engine) (service : Service σ) (container : String)
    (blob : Blob) (options : RequestOptions) (state : σ) {plan : Plan}
    (hplan : engine.PlansFor blob plan) (hparts : ¬plan.isSingle) :
    Conversation engine container blob options
      (engine.uploadParts service container blob options plan state).exchanges
      (engine.uploadParts service container blob options plan state).outcome.result := by
  simp only [uploadParts, initiate, Talk.followedBy_exchanges, Talk.followedBy_outcome,
    Talk.map_exchanges, Talk.map_outcome, Talk.map_state, Service.ask_exchanges,
    Service.ask_outcome, Service.ask_state]
  rcases (service.answer (.initiate container blob.metadata options.main) state).1 with e | id
  · exact .refused hplan hparts e
  · have htransfer := transfer_transfer service (engine.slicer blob.payload plan.chunkSize)
      hplan.partCount_lt options.part (({ container, key := blob.name } : Transaction).begin id)
      (service.answer (.initiate container blob.metadata options.main) state).2 rfl
    exact .begun hplan hparts id htransfer

/-- Every upload holds such a conversation. -/
theorem upload_conversation (engine : Engine) (service : Service σ) (container : String)
    (blob : Blob) (config : Option PutConfiguration) (state : σ) :
    Conversation engine container blob (RequestOptions.ofConfiguration config)
      (engine.upload service container blob config state).exchanges
      (engine.upload service container blob config state).outcome.result := by
  unfold upload
  rcases hlength : blob.length? with - | length
  · exact .lengthMissing hlength
  · rcases hplan : engine.sizing.plan length with e | plan
    · simp only [hplan]
      exact .tooLarge hlength hplan
    · simp only [hplan]
      split
      · exact putWhole_conversation engine service container blob _ state
          ⟨length, hlength, hplan⟩ ‹_›
      · exact uploadParts_conversation engine service container blob _ state
          ⟨length, hlength, hplan⟩ ‹_›

end Engine

end MultipartUpload
