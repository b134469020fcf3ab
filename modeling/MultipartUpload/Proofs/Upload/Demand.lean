import MultipartUpload.Proofs.Upload.Coverage
import MultipartUpload.Service.Script

/-!
# Demand on part streams

How much of a stream an upload asks for. Each part that is accepted takes one item, and the item
after the last of them ends the upload, so a stream is left after one item more than the plan has
parts, even if it never ends. What it would have offered later makes no difference. A part beyond
the plan is a mismatch.
-/

namespace MultipartUpload

/-- Where the sender is after a pass. -/
def Pass.sender : Pass → Sender
  | .goesOn next => next
  | .ends last _ => last

namespace Engine

section

variable (service : Service σ) (stream : PartStream) (plan : Plan) (options : UploadOptions)
  (sender : Sender) (state : σ)

/-- A pass pulls one item. -/
theorem sendNext_pulled :
    (sendNext service stream plan options sender state).outcome.sender.pulled =
      sender.pulled + 1 := by
  unfold sendNext
  split
  · rfl
  · rfl
  · split
    · rfl
    · rw [Talk.map_outcome]
      cases (askTwice service _ state).outcome <;> rfl

/-- The loop pulls at least one item, and at the most one for each number that the cursor has still
to pass and one more. -/
theorem sendParts_pulled :
    let last := (sendParts service stream plan options sender state).outcome.1
    sender.pulled < last.pulled ∧
      last.pulled ≤ sender.pulled + sender.distance plan + 1 := by
  induction sender, state using sendParts_induction service stream plan options with
  | hpass sender state ih =>
    have hpulled := sendNext_pulled service stream plan options sender state
    rw [sendParts_eq, Talk.followedBy_outcome]
    rcases hpass : (sendNext service stream plan options sender state).outcome
      with next | ⟨last, result⟩
    · have hdistance := distance_lt_of_sendNext hpass
      have hrest := ih next hpass
      simp only [hpass, Pass.sender] at hpulled hrest ⊢
      omega
    · simp only [hpass, Pass.sender] at hpulled
      simp only [Talk.silent_outcome]
      omega

/-- Streams that offer the same items as far as one of them is pulled are sent in the same way. -/
theorem sendParts_congr {other : PartStream}
    (h : ∀ index, sender.pulled ≤ index →
      index < (sendParts service stream plan options sender state).outcome.1.pulled →
      other.item? index = stream.item? index) :
    sendParts service other plan options sender state =
      sendParts service stream plan options sender state := by
  induction sender, state using sendParts_induction service stream plan options with
  | hpass sender state ih =>
    have hitem := h sender.pulled le_rfl
      (sendParts_pulled service stream plan options sender state).1
    have hpass : sendNext service other plan options sender state =
        sendNext service stream plan options sender state := by
      simp only [sendNext, hitem]
    have hpulled := sendNext_pulled service stream plan options sender state
    rw [sendParts_eq, sendParts_eq, hpass]
    apply Talk.followedBy_congr
    rw [sendParts_eq, Talk.followedBy_outcome] at h
    rcases houtcome : (sendNext service stream plan options sender state).outcome
      with next | ⟨last, result⟩
    · rw [houtcome] at hpulled h
      refine ih next houtcome fun index hindex ↦ h index ?_
      simp only [Pass.sender] at hpulled
      omega
    · rfl

end

/-- How many items an upload that has begun pulls from the stream of its parts. -/
def transferPulls (service : Service σ) (stream : PartStream) (plan : Plan)
    (options : UploadOptions) (tx : Transaction) (state : σ) : ℕ :=
  (sendParts service stream plan options (.start plan (tx.advance .uploadingParts))
    state).outcome.1.pulled

theorem transferPulls_le (service : Service σ) (stream : PartStream) (plan : Plan)
    (options : UploadOptions) (tx : Transaction) (state : σ) :
    transferPulls service stream plan options tx state ≤ plan.partCount + 1 := by
  have hle := (sendParts_pulled service stream plan options
    (.start plan (tx.advance .uploadingParts)) state).2
  have hstart : (Sender.start plan (tx.advance .uploadingParts)).pulled = 0 := rfl
  have hdistance : (Sender.start plan (tx.advance .uploadingParts)).distance plan =
      plan.partCount := Nat.add_sub_cancel ..
  rwa [hstart, hdistance, Nat.zero_add] at hle

theorem transfer_congr {service : Service σ} {stream other : PartStream} {plan : Plan}
    {options : UploadOptions} {tx : Transaction} {state : σ}
    (h : ∀ index < transferPulls service stream plan options tx state,
      other.item? index = stream.item? index) :
    transfer service other plan options tx state =
      transfer service stream plan options tx state := by
  have hsent := sendParts_congr service stream plan options
    (.start plan (tx.advance .uploadingParts)) state fun index _ ↦ h index
  simp only [transfer, hsent]

/-- How many items an upload pulls from its slicer. It pulls none unless it has begun to go up in
parts. -/
def pulls (engine : Engine) (service : Service σ) (container : String) (blob : Blob)
    (config : Option PutConfiguration) (state : σ) : ℕ :=
  match blob.length?.map engine.sizing.plan with
  | some (.ok plan) =>
    let options := RequestOptions.ofConfiguration config
    let begun := service.ask (.initiate container blob.metadata options.main) state
    if plan.isSingle then 0
    else match begun.outcome with
      | .error _ => 0
      | .ok id =>
        transferPulls service (engine.slicer blob.payload plan.chunkSize) plan options.part
          (({ container, key := blob.name } : Transaction).begin id) begun.state
  | _ => 0

section

variable {s : Sizing} {slicer : Slicer} {blob : Blob} {length : ℕ} {plan : Plan}
  (service : Service σ) (container : String) (config : Option PutConfiguration) (state : σ)

theorem pulls_le (hlength : blob.length? = some length)
    (hplan : s.plan length = .ok plan) :
    pulls ⟨s, slicer⟩ service container blob config state ≤ plan.partCount + 1 := by
  simp only [pulls, hlength, Option.map_some, hplan]
  split
  · exact Nat.zero_le _
  · split
    · exact Nat.zero_le _
    · exact transferPulls_le ..

/-- Slicers that offer the same items as far as one of them is pulled lead to the same upload. -/
theorem upload_congr {other : Slicer} (hlength : blob.length? = some length)
    (hplan : s.plan length = .ok plan)
    (h : ∀ index < pulls ⟨s, slicer⟩ service container blob config state,
      (other blob.payload plan.chunkSize).item? index =
        (slicer blob.payload plan.chunkSize).item? index) :
    upload ⟨s, other⟩ service container blob config state =
      upload ⟨s, slicer⟩ service container blob config state := by
  simp only [pulls, hlength, Option.map_some, hplan] at h
  simp only [upload, hlength, hplan]
  by_cases hsingle : plan.isSingle
  · simp only [hsingle, if_true]
  · simp only [hsingle, Bool.false_eq_true, if_false] at h ⊢
    rw [uploadParts, uploadParts, initiate, Talk.followedBy_map, Talk.followedBy_map]
    apply Talk.followedBy_congr
    rcases hbegun : (service.ask (.initiate container blob.metadata
      (RequestOptions.ofConfiguration config).main) state).outcome with e | id
    · rfl
    · rw [hbegun] at h
      exact transfer_congr h

end

end Engine

/-! ## Requests -/

/-- Every shipment takes two requests at the most. -/
theorem Shipment.length_flatMap_exchanges_le (send : ℕ → Part → Request)
    (shipments : List Shipment) :
    (shipments.flatMap (exchanges send)).length ≤ 2 * shipments.length := by
  induction shipments with
  | nil => exact le_rfl
  | cons shipment shipments ih =>
    have hone : (shipment.exchanges send).length ≤ 2 := by
      rw [exchanges, Attempt.exchanges, List.length_map]
      rcases shipment.attempt.length_replies with h | h <;> omega
    rw [List.flatMap_cons, List.length_append, List.length_cons]
    omega

/-- Only shipments that are accepted bring an accepted part. -/
theorem Shipment.length_acceptedParts (container key id : String) (options : UploadOptions)
    (shipments : List Shipment) :
    (acceptedParts
        (shipments.flatMap (exchanges (Request.bring container key id options)))).length =
      shipments.countP fun shipment ↦ shipment.attempt.reply.isOk := by
  induction shipments with
  | nil => rfl
  | cons shipment shipments ih =>
    have hone : (acceptedParts
        (shipment.exchanges (Request.bring container key id options))).length =
        if shipment.attempt.reply.isOk then 1 else 0 := by
      simp only [acceptedParts, exchanges, Attempt.exchanges, Attempt.replies]
      cases shipment.attempt.delay? <;> cases shipment.attempt.reply <;> rfl
    rw [List.flatMap_cons, acceptedParts, List.filterMap_append, List.length_append,
      List.countP_cons, Nat.add_comm, ← ih, ← hone]
    rfl

/-- A stream with a part beyond the last slot leads to a failure, and if every slot was filled it is
this part that is one too many. -/
theorem Sending.of_surplus {stream : PartStream} {planned : ℕ} {slots : List Slot} {index : ℕ}
    {shipments : List Shipment} {result : Except UploadError Unit}
    (h : Sending stream planned slots index shipments result) {part : Part}
    (hitem : stream.item? (index + slots.length) = some (.ok part)) :
    result ≠ .ok () ∧
      (slots.length ≤ shipments.countP (fun shipment ↦ shipment.attempt.reply.isOk) →
        result = .error (.mismatch (.surplus planned))) := by
  induction h with
  | finished hend =>
    rw [List.length_nil, Nat.add_zero, hend] at hitem
    cases hitem
  | surplus => exact ⟨nofun, fun _ ↦ rfl⟩
  | shortfall => exact ⟨nofun, nofun⟩
  | @unread slots index failure hfailure =>
    cases slots with
    | nil =>
      rw [List.length_nil, Nat.add_zero, hfailure] at hitem
      cases hitem
    | cons slot slots => exact ⟨nofun, nofun⟩
  | misfit => exact ⟨nofun, nofun⟩
  | refused shipment _ hreply =>
    refine ⟨nofun, fun hfilled ↦ ?_⟩
    simp [hreply, Except.isOk, Except.toBool] at hfilled
  | accepted shipment _ hreply _ ih =>
    have hreply : shipment.attempt.reply = .ok _ := hreply
    rw [List.length_cons, ← Nat.add_assoc, Nat.add_right_comm] at hitem
    obtain ⟨hfails, hsurplus⟩ := ih hitem
    refine ⟨hfails, fun hfilled ↦ hsurplus ?_⟩
    simpa [hreply, Except.isOk, Except.toBool] using hfilled

namespace Transfer

variable {stream : PartStream} {plan : Plan} {container key id : String} {options : UploadOptions}
  {exchanges : List Exchange} {result : Except UploadError String}

/-- The parts that are sent have numbers that the plan gives to its parts. -/
theorem number_bounds (hplan : plan.Covers)
    (h : Transfer stream plan container key id options exchanges result) {exchange : Exchange}
    (hmem : exchange ∈ exchanges) {number : ℕ} (hnumber : number ∈ exchange.request.number?) :
    1 ≤ number ∧ number ≤ plan.partCount := by
  obtain ⟨request, reply⟩ := exchange
  cases request with
  | initiate | complete | abort | putObject => cases hnumber
  | uploadPart =>
    cases hnumber
    obtain ⟨shipment, hslot, hnumber, -⟩ := h.mem_uploadPart hmem
    rw [← hnumber]
    exact hplan.slot_number_le hslot

/-- An upload that has begun makes two requests for each part and two more, at the most. -/
theorem length_le (hplan : plan.Covers)
    (h : Transfer stream plan container key id options exchanges result) :
    exchanges.length ≤ 2 * plan.partCount + 2 := by
  have hparts : ∀ {shipments : List Shipment} {result : Except UploadError Unit},
      Sending stream plan.partCount plan.slots 0 shipments result →
      (shipments.flatMap (Shipment.exchanges (Request.bring container key id options))).length ≤
        2 * plan.partCount := by
    intro shipments result hsent
    calc
      _ ≤ 2 * shipments.length := Shipment.length_flatMap_exchanges_le _ _
      _ ≤ 2 * plan.partCount := Nat.mul_le_mul_left 2 (hsent.length_le hplan)
  cases h with
  | completed hsent | incomplete hsent | aborted hsent =>
    have hle := hparts hsent
    simp only [List.length_append, List.length_cons, List.length_nil]
    omega

/-- An upload whose stream has a part beyond the plan is aborted, and if every planned part was
accepted it is for this part. -/
theorem of_surplus (hplan : plan.Covers)
    (h : Transfer stream plan container key id options exchanges result) {part : Part}
    (hitem : stream.item? plan.partCount = some (.ok part)) :
    ∃ front reply, exchanges = front ++ [⟨.abort container key id, reply⟩] ∧
      (∀ exchange ∈ front,
        ∃ number part, exchange.request = .bring container key id options number part) ∧
      (plan.partCount ≤ (acceptedParts exchanges).length →
        result = .error (.mismatch (.surplus plan.partCount))) := by
  rw [← hplan.length_slots, ← Nat.zero_add plan.slots.length] at hitem
  cases h with
  | completed hsent | incomplete hsent => exact absurd rfl (hsent.of_surplus hitem).1
  | aborted hsent reply =>
    refine ⟨_, reply, rfl, fun exchange hmem ↦ ?_, fun hfilled ↦ ?_⟩
    · obtain ⟨shipment, -, hrequest⟩ := Shipment.request_of_mem hmem
      exact ⟨_, _, hrequest⟩
    · rw [acceptedParts, List.filterMap_append, List.length_append] at hfilled
      have hsurplus := (hsent.of_surplus hitem).2
      rw [hplan.length_slots, ← Shipment.length_acceptedParts container key id options] at hsurplus
      exact congrArg _ (Except.error.inj (hsurplus hfilled))

end Transfer

/-- Whatever a slicer offers, an upload leaves it after one item more than there are parts, and
depends on nothing that would have followed. It sends no part that the plan does not have and makes
two requests for each part and three more, at the most. A part beyond those of the plan is one too
many, and the upload is aborted for it. -/
theorem endless_streams_are_left {c : Config} {s : Sizing} (hs : Sizing.ofConfig c = .ok s)
    (slicer : Slicer) (service : Service σ) (container : String) (blob : Blob)
    (config : Option PutConfiguration) (state : σ) {length : ℕ} {plan : Plan}
    (hlength : blob.length? = some length) (hplan : s.plan length = .ok plan) :
    let engine : Engine := ⟨s, slicer⟩
    let talk := engine.upload service container blob config state
    let stream := slicer blob.payload plan.chunkSize
    engine.pulls service container blob config state ≤ plan.partCount + 1 ∧
    (∀ other : Slicer, (∀ index < engine.pulls service container blob config state,
        (other blob.payload plan.chunkSize).item? index = stream.item? index) →
      Engine.upload ⟨s, other⟩ service container blob config state = talk) ∧
    (∀ exchange ∈ talk.exchanges, ∀ number ∈ exchange.request.number?,
      1 ≤ number ∧ number ≤ plan.partCount) ∧
    talk.exchanges.length ≤ 2 * plan.partCount + 3 ∧
    (s.partSize < length → (∃ part, stream.item? plan.partCount = some (.ok part)) →
      (∀ container' key id manifest reply,
        ⟨.complete container' key id manifest, reply⟩ ∉ talk.exchanges) ∧
      ((acceptedParts talk.exchanges).length = plan.partCount →
        talk.outcome.result = .error (.mismatch (.surplus plan.partCount)) ∧
        ∃ front id reply, talk.exchanges = front ++ [⟨.abort container blob.name id, reply⟩] ∧
          ∀ container' key id' reply',
            ⟨.abort container' key id', reply'⟩ ∉ front)) := by
  intro engine talk stream
  have hadmissible := Sizing.admissible_of_ofConfig hs
  refine ⟨Engine.pulls_le service container config state hlength hplan,
    fun other ↦ Engine.upload_congr service container config state hlength hplan, ?_⟩
  have hconversation := engine.upload_conversation service container blob config state
  change Conversation _ _ _ _ talk.exchanges talk.outcome.result at hconversation
  generalize talk.exchanges = exchanges at hconversation ⊢
  generalize talk.outcome.result = result at hconversation ⊢
  cases hconversation with
  | lengthMissing | tooLarge | whole | refused =>
    refine ⟨by simp [Request.number?], by simp, fun hlarge _ ↦ ⟨by simp, fun hfilled ↦ ?_⟩⟩
    have hpos := (Sizing.covers_of_plan hadmissible hplan hlarge).1.partCount_pos
    rw [← hfilled] at hpos
    exact absurd hpos (by simp [acceptedParts, Exchange.acceptedPart?])
  | @begun plan' hplan' hparts id exchanges _ htransfer =>
    obtain rfl : plan' = plan := hplan'.unique ⟨_, hlength, hplan⟩
    rw [Sizing.isSingle_iff hadmissible hplan, not_le] at hparts
    have hcovers := (Sizing.covers_of_plan hadmissible hplan hparts).1
    refine ⟨fun exchange hmem number hnumber ↦ ?_, ?_, ?_⟩
    · rcases List.mem_cons.mp hmem with rfl | hmem
      · cases hnumber
      · exact htransfer.number_bounds hcovers hmem hnumber
    · exact Nat.succ_le_succ (htransfer.length_le hcovers)
    · rintro - ⟨part, hitem⟩
      obtain ⟨front, reply, rfl, hfront, hsurplus⟩ := htransfer.of_surplus hcovers hitem
      have hbring : ∀ request reply, ⟨request, reply⟩ ∈ front → ∃ number part,
          request = .bring container blob.name id (RequestOptions.ofConfiguration config).part
            number part :=
        fun request reply hmem ↦ hfront ⟨request, reply⟩ hmem
      refine ⟨?_, fun hfilled ↦ ⟨hsurplus hfilled.ge, _ :: front, id, reply, rfl, ?_⟩⟩
      · intro container' key id' manifest reply' hmem
        simp only [List.mem_cons, List.mem_append, List.not_mem_nil, or_false] at hmem
        rcases hmem with hmem | hmem | hmem
        · cases hmem
        · obtain ⟨number, part, hrequest⟩ := hbring _ _ hmem
          cases hrequest
        · cases hmem
      · intro container' key id' reply' hmem
        rcases List.mem_cons.mp hmem with hmem | hmem
        · cases hmem
        · obtain ⟨number, part, hrequest⟩ := hbring _ _ hmem
          cases hrequest

/-- Eight bytes go up in two parts, and the slicer never runs out of parts of four bytes. -/
theorem third_part_of_endless_stream_is_a_mismatch :
    let slicer : Slicer := fun _ chunkSize ↦
      ⟨fun index ↦ some (.ok ⟨index * chunkSize, List.replicate chunkSize 0⟩)⟩
    let engine : Engine := ⟨⟨4, 100, 5 * 2 ^ 30, 10000⟩, slicer⟩
    let blob := Blob.ofName "key" (.ofBytes [1, 2, 3, 4, 5, 6, 7, 8])
    let script : Script := { uploadId := "u" }
    let talk := engine.upload Script.service "box" blob none script
    Sizing.ofConfig { partSize := 4, minPartSize := 1 } = .ok ⟨4, 100, 5 * 2 ^ 30, 10000⟩ ∧
    blob.length? = some 8 ∧ Sizing.plan ⟨4, 100, 5 * 2 ^ 30, 10000⟩ 8 = .ok ⟨8, 4, 2⟩ ∧ 4 < 8 ∧
    (acceptedParts talk.exchanges).length = 2 ∧
    engine.pulls Script.service "box" blob none script ≤ 3 ∧
    talk.outcome.result = .error (.mismatch (.surplus 2)) := by
  intro slicer engine blob script talk
  have hs : Sizing.ofConfig { partSize := 4, minPartSize := 1 } =
      .ok ⟨4, 100, 5 * 2 ^ 30, 10000⟩ := by decide
  have hplan : Sizing.plan ⟨4, 100, 5 * 2 ^ 30, 10000⟩ 8 = .ok ⟨8, 4, 2⟩ := by decide
  have hlarge : 4 < 8 := by decide
  have hfilled : (acceptedParts talk.exchanges).length = 2 := by decide +kernel
  have hitem : ∃ part, (slicer blob.payload 4).item? 2 = some (.ok part) := ⟨_, rfl⟩
  obtain ⟨hpulls, -, -, -, hsurplus⟩ := endless_streams_are_left hs slicer Script.service "box" blob
    none script rfl hplan
  obtain ⟨-, hend⟩ := hsurplus hlarge hitem
  refine ⟨hs, rfl, hplan, hlarge, hfilled, hpulls, ?_⟩
  simpa only [talk, engine] using (hend hfilled).1

end MultipartUpload
