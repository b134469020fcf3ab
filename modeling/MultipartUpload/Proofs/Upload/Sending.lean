import Mathlib.Tactic
import MultipartUpload.Proofs.Upload.Loop

/-!
# Sending parts

The part phase of an upload, told without the service. Each slot of the plan takes one shipment: a
part that fits it and the one or two requests that brought it. The phase goes on as long as the
service accepts the parts, and it ends with the first refusal, with a part that does not fit, with a
failure to read, or with the stream. Whatever the service answers, the engine sends parts in this
way.
-/

namespace MultipartUpload

/-- One or two requests for the same thing. A second one is made if and only if the first met a
transient failure. -/
structure Attempt where
  /-- The failure of the first request, if there was a second one. -/
  delay? : Option ServiceError
  reply : Reply
  delay_transient : ∀ e ∈ delay?, e.isTransient
  settled : delay? = none → ∀ e, reply = .error e → ¬e.isTransient

namespace Attempt

/-- The replies to all requests. -/
def replies (attempt : Attempt) : List Reply :=
  attempt.delay?.toList.map .error ++ [attempt.reply]

def exchanges (attempt : Attempt) (request : Request) : List Exchange :=
  attempt.replies.map (⟨request, ·⟩)

theorem length_replies (attempt : Attempt) :
    attempt.replies.length = 1 ∨ attempt.replies.length = 2 := by
  unfold replies
  cases attempt.delay? with
  | none => exact .inl rfl
  | some e => exact .inr rfl

theorem mem_exchanges {attempt : Attempt} {request : Request} {exchange : Exchange}
    (h : exchange ∈ attempt.exchanges request) : exchange.request = request := by
  obtain ⟨reply, -, rfl⟩ := List.mem_map.mp h
  rfl

theorem reply_mem_exchanges (attempt : Attempt) (request : Request) :
    ⟨request, attempt.reply⟩ ∈ attempt.exchanges request :=
  List.mem_map_of_mem (List.mem_append_right _ (List.mem_singleton_self _))

end Attempt

theorem Engine.askTwice_attempt (service : Service σ) (request : Request) (state : σ) :
    ∃ attempt : Attempt,
      attempt.reply = (askTwice service request state).outcome ∧
      attempt.exchanges request = (askTwice service request state).exchanges := by
  simp only [askTwice, Talk.followedBy_outcome, Talk.followedBy_exchanges, Service.ask_outcome,
    Service.ask_exchanges, Service.ask_state]
  rcases hreply : (service.answer request state).1 with e | granted
  · cases e with
    | keyNotFound container key uploadId? =>
      exact ⟨⟨some (.keyNotFound container key uploadId?), _, by simp [ServiceError.isTransient],
        by simp⟩, rfl, rfl⟩
    | rejected code message =>
      exact ⟨⟨none, .error (.rejected code message), by simp, by
        rintro - e h
        cases h
        simp [ServiceError.isTransient]⟩, rfl, rfl⟩
  · exact ⟨⟨none, .ok granted, by simp, by simp⟩, rfl, rfl⟩

/-! ## Shipments -/

/-- A part that was sent into a slot that it fits. -/
structure Shipment where
  slot : Slot
  part : Part
  attempt : Attempt
  fits : slot.check part = .ok ()

theorem Slot.check_ok_iff {slot : Slot} {part : Part} :
    slot.check part = .ok () ↔ part.offset = slot.offset ∧ part.size = slot.size := by
  unfold check
  split_ifs with hoffset hsize
  · simp [hoffset]
  · simp [hsize]
  · simp_all

namespace Shipment

def Accepted (shipment : Shipment) (checksum : String) : Prop :=
  shipment.attempt.reply = .ok checksum

/-- The requests for a part and the replies to them. -/
def exchanges (send : ℕ → Part → Request) (shipment : Shipment) : List Exchange :=
  shipment.attempt.exchanges (send shipment.slot.number shipment.part)

/-- The manifest with an entry for a shipment that was accepted. -/
def enter (manifest : Manifest) (shipment : Shipment) : Manifest :=
  match shipment.attempt.reply with
  | .ok checksum => manifest.insert shipment.slot.number checksum
  | .error _ => manifest

/-- What is entered for shipments that were accepted. -/
theorem foldl_enter {shipments : List Shipment} {checksum : Shipment → String}
    (h : ∀ shipment ∈ shipments, shipment.Accepted (checksum shipment)) (manifest : Manifest) :
    shipments.foldl enter manifest =
      manifest.insertMany
        (shipments.map fun shipment ↦ (shipment.slot.number, checksum shipment)) := by
  induction shipments generalizing manifest with
  | nil => rfl
  | cons shipment shipments ih =>
    have hreply : shipment.attempt.reply = .ok (checksum shipment) := h shipment List.mem_cons_self
    rw [List.foldl_cons, List.map_cons, Std.ExtTreeMap.insertMany_cons, enter, hreply]
    exact ih (fun next hnext ↦ h next (List.mem_cons_of_mem _ hnext)) _

end Shipment

/-- Whether a stream offers a part that fits each slot, and then ends. -/
def PartStream.Offers (stream : PartStream) : List Slot → ℕ → Prop
  | [], index => stream.item? index = none
  | slot :: slots, index =>
    (∃ part, stream.item? index = some (.ok part) ∧ slot.check part = .ok ()) ∧
      stream.Offers slots (index + 1)

/-- How parts are sent into slots, as a stream offers them from some index on, and what comes of
it. -/
inductive Sending (stream : PartStream) (planned : ℕ) :
    List Slot → ℕ → List Shipment → Except UploadError Unit → Prop where
  | finished {index} (hend : stream.item? index = none) :
      Sending stream planned [] index [] (.ok ())
  | surplus {index part} (hitem : stream.item? index = some (.ok part)) :
      Sending stream planned [] index [] (.error (.mismatch (.surplus planned)))
  | shortfall {slot slots index} (hend : stream.item? index = none) :
      Sending stream planned (slot :: slots) index []
        (.error (.mismatch (.shortfall planned index)))
  | unread {slots index failure} (hitem : stream.item? index = some (.error failure)) :
      Sending stream planned slots index [] (.error (.payload failure))
  | misfit {slot slots index part found} (hitem : stream.item? index = some (.ok part))
      (hcheck : slot.check part = .error found) :
      Sending stream planned (slot :: slots) index [] (.error (.mismatch found))
  | refused {slots index} (shipment : Shipment) {e}
      (hitem : stream.item? index = some (.ok shipment.part))
      (hreply : shipment.attempt.reply = .error e) :
      Sending stream planned (shipment.slot :: slots) index [shipment] (.error (.service e))
  | accepted {slots index} (shipment : Shipment) {checksum shipments result}
      (hitem : stream.item? index = some (.ok shipment.part))
      (hreply : shipment.Accepted checksum)
      (hrest : Sending stream planned slots (index + 1) shipments result) :
      Sending stream planned (shipment.slot :: slots) index (shipment :: shipments) result

namespace Sending

variable {stream : PartStream} {planned : ℕ} {slots : List Slot} {index : ℕ}
  {shipments : List Shipment} {result : Except UploadError Unit}

/-- The shipments fill the slots in their order. -/
theorem slots_prefix (h : Sending stream planned slots index shipments result) :
    shipments.map Shipment.slot <+: slots := by
  induction h with
  | finished | surplus | shortfall | unread | misfit => exact List.nil_prefix
  | refused shipment => exact List.prefix_append [shipment.slot] _
  | accepted shipment _ _ _ ih => exact List.prefix_cons_inj _ |>.mpr ih

/-- The shipments carry the parts of the stream in their order. -/
theorem offered (h : Sending stream planned slots index shipments result) (i : ℕ)
    {shipment : Shipment} (hi : shipments[i]? = some shipment) :
    stream.item? (index + i) = some (.ok shipment.part) := by
  induction h generalizing i with
  | finished | surplus | shortfall | unread | misfit => cases hi
  | refused sent hitem =>
    obtain ⟨rfl, rfl⟩ : i = 0 ∧ sent = shipment := by
      cases i <;> simp_all
    exact hitem
  | accepted sent hitem _ _ ih =>
    cases i with
    | zero =>
      cases hi
      exact hitem
    | succ i =>
      rw [Nat.add_comm i, ← Nat.add_assoc]
      exact ih i hi

/-- After a success every slot is filled, and the service accepted every part. -/
theorem of_ok (h : Sending stream planned slots index shipments (.ok ())) :
    shipments.map Shipment.slot = slots ∧
      ∀ shipment ∈ shipments, ∃ checksum, shipment.Accepted checksum := by
  generalize hresult : Except.ok () = result at h
  induction h with
  | finished => exact ⟨rfl, by simp⟩
  | surplus | shortfall | unread | misfit | refused => cases hresult
  | accepted shipment _ hreply _ ih =>
    obtain ⟨hslots, haccepted⟩ := ih hresult
    refine ⟨congrArg (shipment.slot :: ·) hslots, ?_⟩
    rintro sent (_ | ⟨_, hsent⟩)
    · exact ⟨_, hreply⟩
    · exact haccepted sent hsent

end Sending

/-- The engine sends parts in this way, whatever the stream offers and the service answers. -/
theorem Engine.sendSlots_sending (service : Service σ) (stream : PartStream) (planned : ℕ)
    (options : UploadOptions) (slots : List Slot) (index : ℕ) (tx : Transaction) (state : σ) :
    ∃ shipments : List Shipment,
      Sending stream planned slots index shipments
        (sendSlots service stream planned options slots index tx state).outcome.2 ∧
      (sendSlots service stream planned options slots index tx state).outcome.1 =
        { tx with manifest := shipments.foldl Shipment.enter tx.manifest } ∧
      (sendSlots service stream planned options slots index tx state).exchanges =
        shipments.flatMap (Shipment.exchanges fun number part ↦
          tx.partRequest number part options) := by
  induction slots generalizing index tx state with
  | nil =>
    unfold sendSlots
    rcases hitem : stream.item? index with - | failure | part
    · exact ⟨[], .finished hitem, rfl, rfl⟩
    · exact ⟨[], .unread hitem, rfl, rfl⟩
    · exact ⟨[], .surplus hitem, rfl, rfl⟩
  | cons slot slots ih =>
    unfold sendSlots
    rcases hitem : stream.item? index with - | failure | part
    · exact ⟨[], .shortfall hitem, rfl, rfl⟩
    · exact ⟨[], .unread hitem, rfl, rfl⟩
    · rcases hcheck : slot.check part with found | ⟨⟩
      · simp only [hcheck]
        exact ⟨[], .misfit hitem hcheck, rfl, rfl⟩
      · obtain ⟨attempt, houtcome, hexchanges⟩ :=
          askTwice_attempt service (tx.partRequest slot.number part options) state
        let shipment : Shipment := ⟨slot, part, attempt, hcheck⟩
        simp only [hcheck, Talk.followedBy_outcome, Talk.followedBy_exchanges, ← houtcome,
          ← hexchanges]
        rcases hreply : attempt.reply with e | checksum
        · refine ⟨[shipment], .refused shipment hitem hreply, ?_, ?_⟩
          · simp [shipment, Shipment.enter, hreply]
          · simp [shipment, Shipment.exchanges]
        · obtain ⟨shipments, hsending, htx, hrest⟩ := ih (index + 1)
            (tx.record slot.number checksum)
            (askTwice service (tx.partRequest slot.number part options) state).state
          refine ⟨shipment :: shipments, .accepted shipment hitem hreply hsending, ?_, ?_⟩
          · rw [htx]
            simp [shipment, Shipment.enter, hreply, Transaction.record]
          · rw [hrest]
            rfl

end MultipartUpload
