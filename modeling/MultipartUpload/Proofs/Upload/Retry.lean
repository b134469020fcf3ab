import MultipartUpload.Proofs.Upload.Conversation
import MultipartUpload.Service.Script

/-!
# Retries of parts

A part is sent a second time if and only if the service did not see the upload at first, and never a
third time. The answer to the last request for a part is final: a refusal is what the upload fails
with, and an acceptance is what the manifest has under the number of the part. No part has any
influence on how often another one is sent.
-/

namespace MultipartUpload

/-- The exchanges about a part. -/
def attemptsAt (number : ℕ) (exchanges : List Exchange) : List Exchange :=
  exchanges.filter fun exchange ↦ exchange.request.number? = some number

/-- A request that is not made, is made once, or is made again unchanged because the service did not
see the upload at first. -/
inductive Tried : List Exchange → Prop where
  | never : Tried []
  | once (request : Request) (reply : Reply)
      (hsettled : ∀ container key uploadId?,
        reply ≠ .error (.keyNotFound container key uploadId?)) :
      Tried [⟨request, reply⟩]
  | twice (request : Request) (container key : String) (uploadId? : Option String)
      (reply : Reply) :
      Tried [⟨request, .error (.keyNotFound container key uploadId?)⟩, ⟨request, reply⟩]

namespace Attempt

theorem tried (attempt : Attempt) (request : Request) : Tried (attempt.exchanges request) := by
  obtain ⟨delay?, reply, htransient, hsettled⟩ := attempt
  cases delay? with
  | none =>
    refine .once request reply fun container key uploadId? h ↦ ?_
    exact hsettled rfl _ h rfl
  | some e =>
    cases e with
    | keyNotFound container key uploadId? => exact .twice request container key uploadId? reply
    | rejected code message => exact absurd (htransient _ rfl) nofun

theorem getLast?_exchanges (attempt : Attempt) (request : Request) :
    (attempt.exchanges request).getLast? = some ⟨request, attempt.reply⟩ := by
  simp [exchanges, replies]

end Attempt

/-! ## Exchanges about one part -/

section

variable {shipments : List Shipment} {shipment : Shipment} {number : ℕ}
  (container key id : String) (options : UploadOptions)

theorem attemptsAt_append (number : ℕ) (front rest : List Exchange) :
    attemptsAt number (front ++ rest) = attemptsAt number front ++ attemptsAt number rest :=
  List.filter_append front rest

theorem attemptsAt_initiate (number : ℕ) (metadata : Metadata) (reply : Reply)
    (rest : List Exchange) :
    attemptsAt number (⟨.initiate container metadata options, reply⟩ :: rest) =
      attemptsAt number rest :=
  rfl

theorem attemptsAt_shipments_eq_nil (h : ∀ other ∈ shipments, other.slot.number ≠ number) :
    attemptsAt number (shipments.flatMap
      (Shipment.exchanges (Request.bring container key id options))) = [] := by
  apply List.filter_eq_nil_iff.mpr
  intro exchange hmem
  obtain ⟨other, hother, hrequest⟩ := Shipment.request_of_mem hmem
  simp [hrequest, Request.bring, Request.number?, h other hother]

theorem attemptsAt_shipment (shipment : Shipment) :
    attemptsAt shipment.slot.number
        (shipment.exchanges (Request.bring container key id options)) =
      shipment.exchanges (Request.bring container key id options) := by
  apply List.filter_eq_self.mpr
  intro exchange hmem
  rw [Attempt.mem_exchanges hmem]
  simp [Request.bring, Request.number?]

/-- All exchanges about the part of a shipment belong to this shipment. -/
theorem attemptsAt_shipments
    (hascending : shipments.Pairwise fun first second ↦ first.slot.number < second.slot.number)
    (hmem : shipment ∈ shipments) :
    attemptsAt shipment.slot.number (shipments.flatMap
        (Shipment.exchanges (Request.bring container key id options))) =
      shipment.exchanges (Request.bring container key id options) := by
  obtain ⟨front, rest, rfl⟩ := List.append_of_mem hmem
  obtain ⟨-, hrest, hfront⟩ := List.pairwise_append.mp hascending
  have hbefore : ∀ other ∈ front, other.slot.number ≠ shipment.slot.number := by
    intro other hother
    exact (hfront other hother shipment List.mem_cons_self).ne
  have hafter : ∀ other ∈ rest, other.slot.number ≠ shipment.slot.number := by
    intro other hother
    exact (List.rel_of_pairwise_cons hrest hother).ne'
  rw [List.flatMap_append, List.flatMap_cons, attemptsAt_append, attemptsAt_append,
    attemptsAt_shipments_eq_nil container key id options hbefore,
    attemptsAt_shipments_eq_nil container key id options hafter,
    attemptsAt_shipment container key id options, List.append_nil, List.nil_append]

end

/-! ## Entries of the manifest -/

namespace Shipment

theorem getElem?_foldl_enter_of_ne {shipments : List Shipment} {number : ℕ}
    (h : ∀ other ∈ shipments, other.slot.number ≠ number) (manifest : Manifest) :
    (shipments.foldl enter manifest)[number]? = manifest[number]? := by
  induction shipments generalizing manifest with
  | nil => rfl
  | cons first rest ih =>
    have hfirst := h first List.mem_cons_self
    rw [List.foldl_cons, ih fun other hother ↦ h other (List.mem_cons_of_mem _ hother), enter]
    split
    · simp [Std.ExtTreeMap.getElem?_insert, hfirst]
    · rfl

/-- A shipment that was accepted has its checksum in the manifest. -/
theorem getElem?_foldl_enter {shipments : List Shipment} {shipment : Shipment} {checksum : String}
    (hascending : shipments.Pairwise fun first second ↦ first.slot.number < second.slot.number)
    (hmem : shipment ∈ shipments) (haccepted : shipment.Accepted checksum) (manifest : Manifest) :
    (shipments.foldl enter manifest)[shipment.slot.number]? = some checksum := by
  obtain ⟨front, rest, rfl⟩ := List.append_of_mem hmem
  obtain ⟨-, hrest, -⟩ := List.pairwise_append.mp hascending
  have hreply : shipment.attempt.reply = .ok checksum := haccepted
  rw [List.foldl_append, List.foldl_cons, getElem?_foldl_enter_of_ne]
  · simp [enter, hreply]
  · intro other hother
    exact (List.rel_of_pairwise_cons hrest hother).ne'

end Shipment

/-! ## Uploads -/

/-- A refusal is the answer to the last shipment, and the parts fail with it. -/
theorem Sending.of_refused {stream : PartStream} {planned index : ℕ} {slots : List Slot}
    {shipments : List Shipment} {result : Except UploadError Unit} {shipment : Shipment}
    {e : ServiceError} (h : Sending stream planned slots index shipments result)
    (hmem : shipment ∈ shipments) (hreply : shipment.attempt.reply = .error e) :
    result = .error (.service e) ∧ ∃ init, shipments = init ++ [shipment] := by
  induction h with
  | finished | surplus | shortfall | unread | misfit => cases hmem
  | refused last _ hlast =>
    obtain rfl := List.mem_singleton.mp hmem
    rw [hlast] at hreply
    cases hreply
    exact ⟨rfl, [], rfl⟩
  | accepted first _ hfirst _ ih =>
    rcases List.mem_cons.mp hmem with rfl | hmem
    · rw [Shipment.Accepted, hreply] at hfirst
      cases hfirst
    · obtain ⟨hresult, init, rfl⟩ := ih hmem
      exact ⟨hresult, first :: init, rfl⟩

/-- The exchanges about parts are those of the shipments. A failure to send the parts is the result
of the upload, and what is asked for in the end is the completion of all parts that were sent. -/
theorem Transfer.shipments {stream : PartStream} {plan : Plan} {container key id : String}
    {options : UploadOptions} {exchanges : List Exchange} {result : Except UploadError String}
    (h : Transfer stream plan container key id options exchanges result) :
    ∃ shipments sent, Sending stream plan.partCount plan.slots 0 shipments sent ∧
      (∀ number, attemptsAt number exchanges = attemptsAt number (shipments.flatMap
        (Shipment.exchanges (Request.bring container key id options)))) ∧
      (∀ cause, sent = .error cause → result = .error cause) ∧
      ∀ container' key' id' manifest reply,
        ⟨.complete container' key' id' manifest, reply⟩ ∈ exchanges →
          sent = .ok () ∧ manifest = shipments.foldl Shipment.enter ∅ := by
  have hparts : ∀ (shipments : List Shipment) (container' key' id' : String)
      (manifest : Manifest) (reply : Reply),
      ⟨.complete container' key' id' manifest, reply⟩ ∉ shipments.flatMap
        (Shipment.exchanges (Request.bring container key id options)) := by
    intro shipments container' key' id' manifest reply hmem
    obtain ⟨shipment, -, hrequest⟩ := Shipment.request_of_mem hmem
    cases hrequest
  cases h with
  | completed hsent | incomplete hsent =>
    refine ⟨_, _, hsent, ?_, nofun, ?_⟩
    · intro number
      rw [attemptsAt_append]
      exact List.append_nil _
    · intro container' key' id' manifest reply hmem
      simp only [List.mem_append, hparts, false_or] at hmem
      simp_all
  | aborted hsent =>
    refine ⟨_, _, hsent, ?_, ?_, ?_⟩
    · intro number
      rw [attemptsAt_append]
      exact List.append_nil _
    · rintro cause ⟨⟩
      rfl
    · intro container' key' id' manifest reply hmem
      simp [hparts] at hmem

/-- Either no shipment brought a part, or the exchanges about it are those of one shipment. -/
theorem Sending.attemptsAt_cases {stream : PartStream} {plan : Plan} {shipments : List Shipment}
    {result : Except UploadError Unit} (hplan : plan.Covers)
    (h : Sending stream plan.partCount plan.slots 0 shipments result)
    (container key id : String) (options : UploadOptions) (number : ℕ) :
    let parts := shipments.flatMap
      (Shipment.exchanges (Request.bring container key id options))
    (attemptsAt number parts = [] ∧ ∀ shipment ∈ shipments, shipment.slot.number ≠ number) ∨
    ∃ shipment ∈ shipments, shipment.slot.number = number ∧
      attemptsAt number parts =
        shipment.exchanges (Request.bring container key id options) := by
  intro parts
  by_cases hnone : ∀ shipment ∈ shipments, shipment.slot.number ≠ number
  · exact .inl ⟨attemptsAt_shipments_eq_nil container key id options hnone, hnone⟩
  · push Not at hnone
    obtain ⟨shipment, hmem, rfl⟩ := hnone
    exact .inr ⟨shipment, hmem, rfl,
      attemptsAt_shipments container key id options (h.ascending hplan) hmem⟩

/-- A part that was sent is in the manifest with the checksum that it was accepted with. -/
theorem Sending.getElem?_manifest {stream : PartStream} {plan : Plan} {shipments : List Shipment}
    {shipment : Shipment} (hplan : plan.Covers)
    (h : Sending stream plan.partCount plan.slots 0 shipments (.ok ()))
    (hmem : shipment ∈ shipments) :
    ∃ checksum, shipment.attempt.reply = .ok checksum ∧
      (shipments.foldl Shipment.enter ∅)[shipment.slot.number]? = some checksum := by
  obtain ⟨checksum, haccepted⟩ := h.of_ok.2 shipment hmem
  exact ⟨checksum, haccepted,
    Shipment.getElem?_foldl_enter (h.ascending hplan) hmem haccepted ∅⟩

/-- The manifest lists the parts of the plan. -/
theorem Sending.mem_manifest_iff {stream : PartStream} {plan : Plan} {shipments : List Shipment}
    (hplan : plan.Covers) (h : Sending stream plan.partCount plan.slots 0 shipments (.ok ()))
    (number : ℕ) : number ∈ shipments.foldl Shipment.enter ∅ ↔
      1 ≤ number ∧ number ≤ plan.partCount := by
  have hnumbers : (1 ≤ number ∧ number ≤ plan.partCount) ↔
      number ∈ shipments.map fun shipment ↦ shipment.slot.number := by
    rw [h.numbers hplan, h.length_eq hplan, List.mem_range'_1]
    omega
  rw [hnumbers, Std.ExtTreeMap.mem_iff_isSome_getElem?]
  constructor
  · intro hsome
    by_contra hnone
    rw [Shipment.getElem?_foldl_enter_of_ne] at hsome
    · simp at hsome
    · intro other hother hnumber
      exact hnone (List.mem_map.mpr ⟨other, hother, hnumber⟩)
  · intro hmem
    obtain ⟨shipment, hshipment, rfl⟩ := List.mem_map.mp hmem
    obtain ⟨checksum, -, hget⟩ := h.getElem?_manifest hplan hshipment
    rw [hget, Option.isSome_some]

section

variable {stream : PartStream} {plan : Plan} {container key id : String} {options : UploadOptions}
  {exchanges : List Exchange} {result : Except UploadError String}

theorem Transfer.tried (hplan : plan.Covers)
    (h : Transfer stream plan container key id options exchanges result) (number : ℕ) :
    Tried (attemptsAt number exchanges) := by
  obtain ⟨shipments, sent, hsent, hattempts, -⟩ := h.shipments
  rw [hattempts]
  rcases hsent.attemptsAt_cases hplan container key id options number with
    ⟨hnone, -⟩ | ⟨shipment, -, -, heq⟩
  · rw [hnone]
    exact .never
  · rw [heq]
    exact shipment.attempt.tried _

/-- A refusal of the last request for a part ends the upload. -/
theorem Transfer.of_refused (hplan : plan.Covers)
    (h : Transfer stream plan container key id options exchanges result) {number : ℕ}
    {request : Request} {e : ServiceError}
    (hlast : (attemptsAt number exchanges).getLast? = some ⟨request, .error e⟩) :
    result = .error (.service e) ∧
      ∀ higher, number < higher → attemptsAt higher exchanges = [] := by
  obtain ⟨shipments, sent, hsent, hattempts, hfailed, -⟩ := h.shipments
  rw [hattempts] at hlast
  rcases hsent.attemptsAt_cases hplan container key id options number with
    ⟨hnone, -⟩ | ⟨shipment, hmem, rfl, heq⟩
  · rw [hnone] at hlast
    cases hlast
  · rw [heq, Shipment.exchanges, Attempt.getLast?_exchanges] at hlast
    have hreply : shipment.attempt.reply = .error e :=
      congrArg Exchange.reply (Option.some.inj hlast)
    obtain ⟨hresult, init, rfl⟩ := hsent.of_refused hmem hreply
    refine ⟨hfailed _ hresult, fun higher hhigher ↦ ?_⟩
    rw [hattempts]
    apply attemptsAt_shipments_eq_nil
    intro other hother
    rcases List.mem_append.mp hother with hinit | hself
    · have hlt := (List.pairwise_append.mp (hsent.ascending hplan)).2.2 other hinit shipment
        (List.mem_singleton_self _)
      omega
    · obtain rfl := List.mem_singleton.mp hself
      exact hhigher.ne

/-- A manifest lists all parts of the plan with the checksums that were given for the last requests
for them. -/
theorem Transfer.manifest (hplan : plan.Covers)
    (h : Transfer stream plan container key id options exchanges result)
    {container' key' id' : String} {manifest : Manifest} {reply : Reply}
    (hmem : ⟨.complete container' key' id' manifest, reply⟩ ∈ exchanges) :
    (∀ number, number ∈ manifest ↔ 1 ≤ number ∧ number ≤ plan.partCount) ∧
    ∀ number checksum, manifest[number]? = some checksum ↔
      ∃ request, (attemptsAt number exchanges).getLast? = some ⟨request, .ok checksum⟩ := by
  obtain ⟨shipments, sent, hsent, hattempts, -, hcomplete⟩ := h.shipments
  obtain ⟨rfl, rfl⟩ := hcomplete _ _ _ _ _ hmem
  refine ⟨hsent.mem_manifest_iff hplan, fun number checksum ↦ ?_⟩
  rw [hattempts]
  rcases hsent.attemptsAt_cases hplan container key id options number with
    ⟨hnil, hnone⟩ | ⟨shipment, hshipment, rfl, heq⟩
  · rw [hnil, Shipment.getElem?_foldl_enter_of_ne hnone]
    simp
  · obtain ⟨granted, hreply, hget⟩ := hsent.getElem?_manifest hplan hshipment
    rw [heq, hget, Shipment.exchanges, Attempt.getLast?_exchanges, hreply]
    simp

end

/-- Whatever the service answers, every part is sent at most twice, and a second time exactly if the
service did not see the upload at first. If the last request for a part is refused, the upload fails
with this refusal and no part with a higher number is sent. When completion is asked for, the
manifest lists exactly the parts of the plan, each with the checksum that was given for the last
request for it. -/
theorem each_part_is_retried_alone {c : Config} {s : Sizing} (hs : Sizing.ofConfig c = .ok s)
    (slicer : Slicer) (service : Service σ) (container : String) (blob : Blob)
    (config : Option PutConfiguration) (state : σ) {length : ℕ} {plan : Plan}
    (hlength : blob.length? = some length) (hplan : s.plan length = .ok plan)
    (hlarge : s.partSize < length) :
    let talk := Engine.upload ⟨s, slicer⟩ service container blob config state
    (∀ number, Tried (attemptsAt number talk.exchanges)) ∧
    (∀ number request e,
      (attemptsAt number talk.exchanges).getLast? = some ⟨request, .error e⟩ →
        talk.outcome.result = .error (.service e) ∧
        ∀ higher, number < higher → attemptsAt higher talk.exchanges = []) ∧
    ∀ container' key id manifest reply,
      ⟨.complete container' key id manifest, reply⟩ ∈ talk.exchanges →
        (∀ number, number ∈ manifest ↔ 1 ≤ number ∧ number ≤ plan.partCount) ∧
        ∀ number checksum, manifest[number]? = some checksum ↔
          ∃ request,
            (attemptsAt number talk.exchanges).getLast? = some ⟨request, .ok checksum⟩ := by
  intro talk
  have hadmissible := Sizing.admissible_of_ofConfig hs
  obtain ⟨hcovers, -⟩ := Sizing.covers_of_plan hadmissible hplan hlarge
  have hparts : ¬plan.isSingle := by
    rw [Sizing.isSingle_iff hadmissible hplan]
    exact not_le.mpr hlarge
  have hconversation : Conversation _ _ _ _ talk.exchanges talk.outcome.result :=
    Engine.upload_conversation ⟨s, slicer⟩ service container blob config state
  rcases hconversation.of_parts ⟨length, hlength, hplan⟩ hparts with
    ⟨e, hexchanges, -⟩ | ⟨id, rest, hexchanges, htransfer⟩
  all_goals
    rw [hexchanges]
    simp only [attemptsAt_initiate]
  · -- An upload that fails to begin sends no part.
    refine ⟨fun _ ↦ .never, ?_, ?_⟩
    · intro number request e hlast
      simp [attemptsAt] at hlast
    · intro container' key id manifest reply hmem
      simp at hmem
  · refine ⟨htransfer.tried hcovers, fun _ _ _ ↦ htransfer.of_refused hcovers, ?_⟩
    intro container' key id' manifest reply hmem
    exact htransfer.manifest hcovers (by simpa using hmem)

/-- The first two of three parts are sent again, and the second one is then refused. -/
theorem scripted_refusal_is_final :
    let refusal := ServiceError.rejected "InternalError" "try again later"
    let unseen := ServiceError.keyNotFound "box" "key" none
    let script := ((({ uploadId := "u" } : Script).failPart 1 unseen).failPart 2 unseen).failPart 2
      refusal
    let talk := Engine.upload ⟨⟨4, 100, 5 * 2 ^ 30, 10000⟩, .standard⟩ Script.service "box"
      (.ofName "key" (.ofBytes [1, 2, 3, 4, 5, 6, 7, 8, 9, 10])) none script
    Sizing.ofConfig { partSize := 4, minPartSize := 1 } = .ok ⟨4, 100, 5 * 2 ^ 30, 10000⟩ ∧
    Sizing.plan ⟨4, 100, 5 * 2 ^ 30, 10000⟩ 10 = .ok ⟨10, 4, 3⟩ ∧
    (attemptsAt 2 talk.exchanges).length = 2 ∧
    talk.outcome.result = .error (.service refusal) ∧ attemptsAt 3 talk.exchanges = [] := by
  intro refusal unseen script talk
  have hs : Sizing.ofConfig { partSize := 4, minPartSize := 1 } =
      .ok ⟨4, 100, 5 * 2 ^ 30, 10000⟩ := by decide
  have hplan : Sizing.plan ⟨4, 100, 5 * 2 ^ 30, 10000⟩ 10 = .ok ⟨10, 4, 3⟩ := by decide
  have hfinal := (each_part_is_retried_alone hs .standard Script.service "box"
    (.ofName "key" (.ofBytes [1, 2, 3, 4, 5, 6, 7, 8, 9, 10])) none script rfl hplan
    (by decide)).2.1 2 (.uploadPart "box" "key" 2 "u" ⟨4, [5, 6, 7, 8]⟩ {}) refusal
    (by decide +kernel)
  exact ⟨hs, hplan, by decide +kernel, hfinal.1, hfinal.2 3 (by decide)⟩

end MultipartUpload
