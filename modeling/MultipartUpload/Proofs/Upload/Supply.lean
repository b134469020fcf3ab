import MultipartUpload.Proofs.Upload.Conversation

/-!
# Supplies of parts

What a stream supplies for the slots of a plan is settled before any of it is sent: the parts up to
the first item that cannot be sent, and what the sending comes to if the service accepts all of
them. So streams that supply the same parts lead to the same conversation, and what comes after the
parts matters only if none of them is refused.
-/

namespace MultipartUpload

/-- Parts under the numbers of their slots, and what comes after them. -/
structure Supply where
  parts : List (ℕ × Part)
  ending : Except UploadError Unit

namespace Supply

/-- A supply with one more part in front. -/
def push (number : ℕ) (part : Part) (supply : Supply) : Supply :=
  { supply with parts := (number, part) :: supply.parts }

/-- What sending a supply comes to, depending on whether the service accepted its parts. -/
def conclude (supply : Supply) : Except ServiceError Unit → Except UploadError Unit
  | .error e => .error (.service e)
  | .ok () => supply.ending

end Supply

namespace PartStream

/-- What a stream supplies for slots from some index on. -/
def supply (stream : PartStream) (planned : ℕ) : List Slot → ℕ → Supply
  | [], index =>
    match stream.item? index with
    | none => ⟨[], .ok ()⟩
    | some (.error failure) => ⟨[], .error (.payload failure)⟩
    | some (.ok _) => ⟨[], .error (.mismatch (.surplus planned))⟩
  | slot :: slots, index =>
    match stream.item? index with
    | none => ⟨[], .error (.mismatch (.shortfall planned index))⟩
    | some (.error failure) => ⟨[], .error (.payload failure)⟩
    | some (.ok part) =>
      match slot.check part with
      | .error found => ⟨[], .error (.mismatch found)⟩
      | .ok () => (stream.supply planned slots (index + 1)).push slot.number part

variable {stream : PartStream} {planned : ℕ}

/-- Parts that fit their slots are supplied for them. -/
theorem supply_append {fitting : List (Slot × Part)} {slots : List Slot} {index : ℕ}
    (hoffers : ∀ i pair, fitting[i]? = some pair →
      stream.item? (index + i) = some (.ok pair.2) ∧ pair.1.check pair.2 = .ok ()) :
    stream.supply planned (fitting.map Prod.fst ++ slots) index =
      { stream.supply planned slots (index + fitting.length) with
        parts := fitting.map (fun pair ↦ (pair.1.number, pair.2)) ++
          (stream.supply planned slots (index + fitting.length)).parts } := by
  induction fitting generalizing index with
  | nil => rfl
  | cons pair fitting ih =>
    obtain ⟨hitem, hcheck⟩ := hoffers 0 pair rfl
    rw [Nat.add_zero] at hitem
    have hrest := @ih (index + 1) fun i next hnext ↦ by
      rw [Nat.add_assoc, Nat.add_comm 1]
      exact hoffers (i + 1) next hnext
    simp only [List.map_cons, List.cons_append, supply, hitem, hcheck, hrest, List.length_cons,
      Nat.add_assoc, Nat.add_comm 1, Supply.push]

/-- A stream that offers a part for every slot supplies all of them. -/
theorem ending_supply_of_offers (planned : ℕ) {slots : List Slot} {index : ℕ}
    (h : stream.Offers slots index) : (stream.supply planned slots index).ending = .ok () := by
  induction slots generalizing index with
  | nil =>
    have hend : stream.item? index = none := h
    simp only [supply, hend]
  | cons slot slots ih =>
    obtain ⟨⟨part, hitem, hcheck⟩, hrest⟩ := h
    simp only [supply, hitem, hcheck, Supply.push, ih hrest]

end PartStream

/-! ## Sending what is supplied -/

/-- Whether every request is granted, one for a part at the latest when it is made again. -/
inductive GrantedInTheEnd : List Exchange → Prop where
  | nil : GrantedInTheEnd []
  | granted (request : Request) (granted : String) {rest} (hrest : GrantedInTheEnd rest) :
      GrantedInTheEnd (⟨request, .ok granted⟩ :: rest)
  | delayed (container key : String) (number : ℕ) (id : String) (part : Part)
      (options : UploadOptions) {e : ServiceError} (htransient : e.isTransient) (granted : String)
      {rest} (hrest : GrantedInTheEnd rest) :
      GrantedInTheEnd (⟨.uploadPart container key number id part options, .error e⟩ ::
        ⟨.uploadPart container key number id part options, .ok granted⟩ :: rest)

namespace Attempt

variable {attempt : Attempt}

theorem grantedInTheEnd {granted : String} (hreply : attempt.reply = .ok granted)
    {rest : List Exchange} (hrest : GrantedInTheEnd rest) {container key : String} {number : ℕ}
    {id : String} {part : Part} {options : UploadOptions} :
    GrantedInTheEnd
      (attempt.exchanges (.uploadPart container key number id part options) ++ rest) := by
  rw [exchanges, replies, hreply]
  rcases hdelay : attempt.delay? with - | e
  · exact .granted _ granted hrest
  · exact .delayed _ _ _ _ _ _ (attempt.delay_transient e hdelay) granted hrest

/-- What is granted at once is not asked for again. -/
theorem of_granted {request : Request}
    (h : ∀ exchange ∈ attempt.exchanges request, ∃ granted, exchange.reply = .ok granted) :
    ∃ granted, attempt.reply = .ok granted ∧
      (attempt.exchanges request).map Exchange.request = [request] := by
  obtain ⟨granted, hreply⟩ := h _ (attempt.reply_mem_exchanges request)
  refine ⟨granted, hreply, ?_⟩
  rcases hdelay : attempt.delay? with - | e
  · simp [exchanges, replies, hdelay]
  · obtain ⟨granted, hdelayed⟩ := h ⟨request, .error e⟩ (by simp [exchanges, replies, hdelay])
    cases hdelayed

end Attempt

namespace Engine

/-- Sends parts under their numbers as long as the service accepts them. -/
def sendAll (service : Service σ) (options : UploadOptions) :
    List (ℕ × Part) → Transaction → σ → Talk σ (Transaction × Except ServiceError Unit)
  | [], tx, state => .silent (tx, .ok ()) state
  | (number, part) :: parts, tx, state =>
    (askTwice service (tx.partRequest number part options) state).followedBy fun reply state ↦
      match reply with
      | .error e => .silent (tx, .error e) state
      | .ok checksum => sendAll service options parts (tx.record number checksum) state

variable (service : Service σ) (options : UploadOptions)

/-- To send what a stream offers is to send what it supplies. -/
theorem sendSlots_eq_sendAll (stream : PartStream) (planned : ℕ) (slots : List Slot) (index : ℕ)
    (tx : Transaction) (state : σ) :
    sendSlots service stream planned options slots index tx state =
      (sendAll service options (stream.supply planned slots index).parts tx state).map
        fun (tx, sent) ↦ (tx, (stream.supply planned slots index).conclude sent) := by
  induction slots generalizing index tx state with
  | nil =>
    unfold sendSlots PartStream.supply
    rcases stream.item? index with - | failure | part <;> rfl
  | cons slot slots ih =>
    unfold sendSlots PartStream.supply
    rcases stream.item? index with - | failure | part
    · rfl
    · rfl
    · rcases hcheck : slot.check part with found | ⟨⟩
      · simp only [hcheck]
        rfl
      · simp only [hcheck, Supply.push, sendAll]
        rw [Talk.map_followedBy]
        apply Talk.followedBy_congr
        rcases (askTwice service (tx.partRequest slot.number part options) state).outcome
          with e | checksum
        · rfl
        · exact ih _ _ _

/-- What is aborted after parts were sent is the upload that they were sent to. -/
theorem sendAll_abortRequest (parts : List (ℕ × Part)) (tx : Transaction) (state : σ) :
    (sendAll service options parts tx state).outcome.1.abortRequest = tx.abortRequest := by
  induction parts generalizing tx state with
  | nil => rfl
  | cons pair parts ih =>
    simp only [sendAll, Talk.followedBy_outcome]
    split
    · rfl
    · rw [ih]
      rfl

variable {service options} {parts : List (ℕ × Part)} {tx : Transaction} {state : σ}

theorem sendAll_grantedInTheEnd
    (h : (sendAll service options parts tx state).outcome.2 = .ok ()) :
    GrantedInTheEnd (sendAll service options parts tx state).exchanges := by
  induction parts generalizing tx state with
  | nil => exact .nil
  | cons pair parts ih =>
    obtain ⟨number, part⟩ := pair
    obtain ⟨attempt, houtcome, hexchanges⟩ :=
      askTwice_attempt service (tx.partRequest number part options) state
    simp only [sendAll, Talk.followedBy_outcome, Talk.followedBy_exchanges, ← houtcome,
      ← hexchanges] at h ⊢
    rcases hreply : attempt.reply with e | checksum
    · rw [hreply] at h
      cases h
    · rw [hreply] at h
      exact attempt.grantedInTheEnd hreply (ih h)

/-- As long as every request is granted, each part is sent once. -/
theorem sendAll_requests
    (h : ∀ exchange ∈ (sendAll service options parts tx state).exchanges,
      ∃ granted, exchange.reply = .ok granted) :
    (sendAll service options parts tx state).outcome.2 = .ok () ∧
      (sendAll service options parts tx state).exchanges.map Exchange.request =
        parts.map fun pair ↦ tx.partRequest pair.1 pair.2 options := by
  induction parts generalizing tx state with
  | nil => exact ⟨rfl, rfl⟩
  | cons pair parts ih =>
    obtain ⟨number, part⟩ := pair
    obtain ⟨attempt, houtcome, hexchanges⟩ :=
      askTwice_attempt service (tx.partRequest number part options) state
    simp only [sendAll, Talk.followedBy_outcome, Talk.followedBy_exchanges, ← houtcome,
      ← hexchanges, List.forall_mem_append, List.map_append] at h ⊢
    obtain ⟨checksum, hreply, hrequests⟩ := attempt.of_granted h.1
    rw [hreply] at h
    obtain ⟨hsent, hrest⟩ := ih h.2
    simp only [hreply, hsent, hrest, hrequests, List.map_cons, true_and]
    rfl

end Engine

/-! ## Uploads of what is supplied -/

/-- Why an upload fails whose supply ends with a cause of its own. The refusal of a part comes
before it. -/
def UploadError.unlessRefused (cause : UploadError) : Except ServiceError Unit → UploadError
  | .error e => .service e
  | .ok () => cause

namespace Engine

@[simp]
theorem settle_result (service : Service σ) (tx : Transaction)
    (result : Except UploadError String) (state : σ) :
    (settle service tx result state).outcome.result = result := by
  cases result <;> rfl

section

variable (service : Service σ) {stream : PartStream} {plan : Plan}
  (hcount : plan.partCount < UInt32.size) (options : UploadOptions) {tx : Transaction}
  (hmanifest : tx.manifest = ∅) (state : σ)
include hcount hmanifest

/-- An upload whose supply ends with a failure sends what is supplied and is aborted. -/
theorem transfer_of_ending_error {cause : UploadError}
    (h : (stream.supply plan.partCount plan.slots 0).ending = .error cause) :
    let talk := transfer service stream plan options tx state
    let sent := sendAll service options (stream.supply plan.partCount plan.slots 0).parts
      (tx.advance .uploadingParts) state
    let aborted := service.answer tx.abortRequest sent.state
    talk.exchanges = sent.exchanges ++ [⟨tx.abortRequest, aborted.1⟩] ∧
      talk.state = aborted.2 ∧
      talk.outcome.result = .error (cause.unlessRefused sent.outcome.2) := by
  intro talk sent aborted
  have habort : sent.outcome.1.abortRequest = tx.abortRequest :=
    sendAll_abortRequest service options _ _ _
  -- The end of the supply is reached only if every part before it was accepted.
  have htalk : talk = sent.followedBy fun (tx, accepted) state ↦
      settle service tx (.error (cause.unlessRefused accepted)) state := by
    simp only [talk, transfer_eq service stream hcount options hmanifest, sendSlots_eq_sendAll,
      Talk.followedBy_map]
    apply Talk.followedBy_congr
    change _ = settle service sent.outcome.1 (.error (cause.unlessRefused sent.outcome.2)) _
    rcases sent.outcome.2 with e | ⟨⟩
    · simp only [sent, Supply.conclude, UploadError.unlessRefused]
    · simp only [sent, Supply.conclude, UploadError.unlessRefused, h]
  have hsettled : ∀ cause, (settle service sent.outcome.1 (.error cause) sent.state).exchanges =
        [⟨tx.abortRequest, aborted.1⟩] ∧
      (settle service sent.outcome.1 (.error cause) sent.state).state = aborted.2 := by
    intro cause
    simp only [aborted, ← habort]
    exact ⟨rfl, rfl⟩
  simp only [htalk, Talk.followedBy_exchanges, Talk.followedBy_state, Talk.followedBy_outcome,
    hsettled, settle_result, true_and]

/-- An upload whose supply does not end with a failure fails with refusals only. -/
theorem transfer_result_of_ending_ok
    (h : (stream.supply plan.partCount plan.slots 0).ending = .ok ()) :
    (∃ identifier, (transfer service stream plan options tx state).outcome.result =
        .ok identifier) ∨
      ∃ e, (transfer service stream plan options tx state).outcome.result =
        .error (.service e) := by
  rw [transfer_eq service stream hcount options hmanifest, sendSlots_eq_sendAll]
  simp only [Talk.followedBy_outcome, Talk.map_outcome]
  rcases (sendAll service options (stream.supply plan.partCount plan.slots 0).parts
    (tx.advance .uploadingParts) state).outcome.2 with e | ⟨⟩
  · exact .inr ⟨e, by simp [Supply.conclude]⟩
  · simp only [Supply.conclude, h, Talk.followedBy_outcome, settle_result, complete,
      Talk.map_outcome]
    rcases (Service.ask service _ _).outcome with e | identifier
    · exact .inr ⟨e, rfl⟩
    · exact .inl ⟨identifier, rfl⟩

end

section

variable (engine : Engine) {service : Service σ} {container : String} (blob : Blob) (plan : Plan)
  (options : RequestOptions) {state : σ}

theorem uploadParts_of_refused {e : ServiceError}
    (h : (service.answer (.initiate container blob.metadata options.main) state).1 = .error e) :
    let talk := engine.uploadParts service container blob options plan state
    talk.exchanges = [⟨.initiate container blob.metadata options.main, .error e⟩] ∧
      talk.state = (service.answer (.initiate container blob.metadata options.main) state).2 ∧
      talk.outcome.result = .error (.service e) := by
  simp only [uploadParts, initiate, Talk.followedBy_map, Talk.followedBy_exchanges,
    Talk.followedBy_state, Talk.followedBy_outcome, Service.ask_exchanges, Service.ask_state,
    Service.ask_outcome, h]
  exact ⟨rfl, rfl, rfl⟩

theorem uploadParts_of_begun {id : String}
    (h : (service.answer (.initiate container blob.metadata options.main) state).1 = .ok id) :
    let talk := engine.uploadParts service container blob options plan state
    let begun := transfer service (engine.slicer blob.payload plan.chunkSize) plan options.part
      (({ container, key := blob.name } : Transaction).begin id)
      (service.answer (.initiate container blob.metadata options.main) state).2
    talk.exchanges =
        ⟨.initiate container blob.metadata options.main, .ok id⟩ :: begun.exchanges ∧
      talk.state = begun.state ∧ talk.outcome.result = begun.outcome.result := by
  simp only [uploadParts, initiate, Talk.followedBy_map, Talk.followedBy_exchanges,
    Talk.followedBy_state, Talk.followedBy_outcome, Service.ask_exchanges, Service.ask_state,
    Service.ask_outcome, h]
  exact ⟨rfl, trivial, trivial⟩

variable {engine blob plan}

theorem upload_of_parts (hplan : engine.PlansFor blob plan) (hparts : ¬plan.isSingle)
    (service : Service σ) (container : String) (config : Option PutConfiguration) (state : σ) :
    engine.upload service container blob config state =
      engine.uploadParts service container blob (RequestOptions.ofConfiguration config) plan
        state := by
  obtain ⟨length, hlength, hplan⟩ := hplan
  simp only [upload, hlength, hplan, hparts, Bool.false_eq_true, if_false]

/-- An upload in parts to which nothing is refused begins. -/
theorem upload_begun (hplan : engine.PlansFor blob plan) (hparts : ¬plan.isSingle)
    {config : Option PutConfiguration}
    (hgranted : ∀ exchange ∈ (engine.upload service container blob config state).exchanges,
      ∃ granted, exchange.reply = .ok granted) :
    let talk := engine.upload service container blob config state
    let initiate := Request.initiate container blob.metadata
      (RequestOptions.ofConfiguration config).main
    ∃ id,
      let begun := transfer service (engine.slicer blob.payload plan.chunkSize) plan {}
        (({ container, key := blob.name } : Transaction).begin id)
        (service.answer initiate state).2
      talk.exchanges = ⟨initiate, .ok id⟩ :: begun.exchanges ∧
        talk.outcome.result = begun.outcome.result := by
  intro talk initiate
  simp only [talk]
  rw [upload_of_parts hplan hparts] at hgranted ⊢
  rcases hreply : (service.answer initiate state).1 with e | id
  · obtain ⟨hexchanges, -, -⟩ := uploadParts_of_refused engine blob plan _ hreply
    obtain ⟨granted, hrefused⟩ := hgranted _ (hexchanges ▸ List.mem_singleton_self _)
    cases hrefused
  · obtain ⟨hexchanges, -, hresult⟩ := uploadParts_of_begun engine blob plan _ hreply
    rw [RequestOptions.part_ofConfiguration] at hexchanges hresult
    exact ⟨id, hexchanges, hresult⟩

end

end Engine

end MultipartUpload
