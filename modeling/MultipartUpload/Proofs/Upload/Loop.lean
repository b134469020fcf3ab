import MultipartUpload.Proofs.Plan.Geometry
import MultipartUpload.Upload.Engine

/-!
# The sending loop

The loop over the parts is driven by the stream and knows the plan only from the check that each
part has to pass. Its measure is the distance of the cursor to the end of the plan. As long as the
loop goes on the cursor is at the next slot of the plan, so to send parts is to send what the stream
offers into one slot after another.
-/

namespace MultipartUpload

namespace Engine

section

variable (service : Service σ) (stream : PartStream) (plan : Plan) (options : UploadOptions)

/-- The loop is a pass, and the loop again if the pass goes on. -/
theorem sendParts_eq (sender : Sender) (state : σ) :
    sendParts service stream plan options sender state =
      (sendNext service stream plan options sender state).followedBy fun pass state ↦
        match pass with
        | .ends last result => .silent (last, result) state
        | .goesOn next => sendParts service stream plan options next state := by
  rw [sendParts]
  unfold Talk.followedBy
  cases (sendNext service stream plan options sender state).outcome <;> rfl

/-- What a pass hands back from the passes after it holds of every run of the loop. -/
theorem sendParts_induction {motive : Sender → σ → Prop}
    (hpass : ∀ sender state,
      (∀ next, (sendNext service stream plan options sender state).outcome = .goesOn next →
        motive next (sendNext service stream plan options sender state).state) →
      motive sender state)
    (sender : Sender) (state : σ) : motive sender state :=
  hpass sender state fun next _ ↦ sendParts_induction hpass next _
termination_by sender.distance plan
decreasing_by exact distance_lt_of_sendNext ‹_›

/-- Where the loop stands before each of its passes. -/
def passes (sender : Sender) (state : σ) : List (Sender × σ) :=
  let pass := sendNext service stream plan options sender state
  (sender, state) ::
    match _ : pass.outcome with
    | .ends _ _ => []
    | .goesOn next => passes next pass.state
termination_by sender.distance plan
decreasing_by exact distance_lt_of_sendNext ‹_›

theorem passes_eq (sender : Sender) (state : σ) :
    passes service stream plan options sender state =
      (sender, state) ::
        match (sendNext service stream plan options sender state).outcome with
        | .ends _ _ => []
        | .goesOn next => passes service stream plan options next
            (sendNext service stream plan options sender state).state := by
  rw [passes]
  cases (sendNext service stream plan options sender state).outcome <;> rfl

/-- What is said in the loop is said in its passes. -/
theorem sendParts_exchanges (sender : Sender) (state : σ) :
    (sendParts service stream plan options sender state).exchanges =
      (passes service stream plan options sender state).flatMap fun (sender, state) ↦
        (sendNext service stream plan options sender state).exchanges := by
  induction sender, state using sendParts_induction service stream plan options with
  | hpass sender state ih =>
    rw [sendParts_eq, passes_eq, List.flatMap_cons, Talk.followedBy_exchanges]
    rcases houtcome : (sendNext service stream plan options sender state).outcome with next | -
    · simp only [ih next houtcome]
    · rfl

variable {stream plan} {sender : Sender} (state : σ)

theorem sendNext_of_none (hitem : stream.item? sender.pulled = none) :
    sendNext service stream plan options sender state =
      .silent (.ends sender.pull ((plan.checkCount sender.tx.manifest.size).mapError .mismatch))
        state := by
  simp only [sendNext, hitem]

theorem sendNext_of_failure {failure : ReadFailure}
    (hitem : stream.item? sender.pulled = some (.error failure)) :
    sendNext service stream plan options sender state =
      .silent (.ends sender.pull (.error (.payload failure))) state := by
  simp only [sendNext, hitem]

variable {part : Part} (hitem : stream.item? sender.pulled = some (.ok part))
include hitem

theorem sendNext_of_misfit {found : Mismatch}
    (hcheck : plan.check sender.cursor.number sender.cursor.offset part = .error found) :
    sendNext service stream plan options sender state =
      .silent (.ends sender.pull (.error (.mismatch found))) state := by
  simp only [sendNext, hitem, hcheck]

theorem sendNext_of_fit
    (hcheck : plan.check sender.cursor.number sender.cursor.offset part = .ok ()) :
    sendNext service stream plan options sender state =
      (askTwice service (sender.tx.partRequest sender.cursor.number part options) state).map
        (Pass.ofReply sender.pull) := by
  simp only [sendNext, hitem, hcheck]

end

/-- Sends the parts that a stream offers from some index on into the slots of a plan. -/
def sendSlots (service : Service σ) (stream : PartStream) (planned : ℕ)
    (options : UploadOptions) :
    List Slot → ℕ → Transaction → σ → Talk σ (Transaction × Except UploadError Unit)
  | [], index, tx, state =>
    match stream.item? index with
    | none => .silent (tx, .ok ()) state
    | some (.error failure) => .silent (tx, .error (.payload failure)) state
    | some (.ok _) => .silent (tx, .error (.mismatch (.surplus planned))) state
  | slot :: slots, index, tx, state =>
    match stream.item? index with
    | none => .silent (tx, .error (.mismatch (.shortfall planned index))) state
    | some (.error failure) => .silent (tx, .error (.payload failure)) state
    | some (.ok part) =>
      match slot.check part with
      | .error found => .silent (tx, .error (.mismatch found)) state
      | .ok () =>
        (askTwice service (tx.partRequest slot.number part options) state).followedBy
          fun reply state ↦
            match reply with
            | .error e => .silent (tx, .error (.service e)) state
            | .ok checksum =>
              sendSlots service stream planned options slots (index + 1)
                (tx.record slot.number checksum) state

end Engine

/-! ## Senders and slots -/

/-- The sizes of the parts of a plan from some index on. -/
def Plan.sizesFrom (plan : Plan) (index : ℕ) : List ℕ :=
  (List.range' (index + 1) (plan.partCount - index)).filterMap plan.partSize?

theorem Plan.sizesFrom_partCount (plan : Plan) : plan.sizesFrom plan.partCount = [] := by
  rw [sizesFrom, Nat.sub_self]
  rfl

theorem Plan.exists_sizesFrom_eq_cons {plan : Plan} {index : ℕ} (h : index < plan.partCount) :
    ∃ size, plan.partSize? (index + 1) = some size ∧
      plan.sizesFrom index = size :: plan.sizesFrom (index + 1) := by
  obtain ⟨size, hsize⟩ : ∃ size, plan.partSize? (index + 1) = some size := by
    rcases (Nat.succ_le_of_lt h).lt_or_eq with hinner | hlast
    · exact ⟨_, partSize?_of_lt index.succ_pos hinner⟩
    · exact ⟨plan.lastPartSize, by simp [partSize?, ← hlast]⟩
  refine ⟨size, hsize, ?_⟩
  rw [sizesFrom, ← Nat.sub_add_cancel (Nat.sub_pos_of_lt h), List.range'_succ,
    List.filterMap_cons_some hsize, Nat.sub_sub]
  rfl

/-- The parts before an index were accepted under their numbers. -/
structure Sender.At (sender : Sender) (index : ℕ) : Prop where
  number : sender.cursor.number = (index + 1) % UInt32.size
  pulled : sender.pulled = index
  size_manifest : sender.tx.manifest.size = index
  le_of_mem : ∀ number ∈ sender.tx.manifest, number ≤ index

namespace Sender.At

theorem start (plan : Plan) {tx : Transaction} (h : tx.manifest = ∅) :
    (Sender.start plan tx).At 0 where
  number := rfl
  pulled := rfl
  size_manifest := by simp [Sender.start, h]
  le_of_mem := by simp [Sender.start, h]

variable {sender : Sender} {plan : Plan} {index : ℕ}

theorem accept (h : sender.At index) (hnumber : sender.cursor.number = index + 1)
    (checksum : String) : (sender.pull.accept checksum).At (index + 1) where
  number := by
    change (sender.cursor.number + 1) % UInt32.size = _
    rw [hnumber]
  pulled := congrArg (· + 1) h.pulled
  size_manifest := by
    have hfresh : sender.cursor.number ∉ sender.tx.manifest := fun hmem ↦ by
      have := h.le_of_mem _ hmem
      omega
    change (sender.tx.manifest.insert sender.cursor.number checksum).size = _
    rw [Std.ExtTreeMap.size_insert, if_neg (by simpa using hfresh), h.size_manifest]
  le_of_mem number hmem := by
    change number ∈ sender.tx.manifest.insert sender.cursor.number checksum at hmem
    rcases Std.ExtTreeMap.mem_insert.mp hmem with hsame | hbefore
    · rw [← Std.compare_eq_iff_eq.mp hsame, hnumber]
    · exact Nat.le_succ_of_le (h.le_of_mem number hbefore)

/-- The cursor is at the number of the next part, as long as the plan has one. -/
theorem number_eq (h : sender.At index) (hindex : index < plan.partCount)
    (hcount : plan.partCount < UInt32.size) : sender.cursor.number = index + 1 := by
  rw [h.number, Nat.mod_eq_of_lt (by omega)]

/-- The number after the last one is none of the plan, also if it wraps to zero. -/
theorem partSize?_eq_none (h : sender.At plan.partCount) (hcount : plan.partCount < UInt32.size) :
    plan.partSize? sender.cursor.number = none := by
  rw [h.number]
  rcases (Nat.succ_le_of_lt hcount).lt_or_eq with hinner | hlast
  · rw [Nat.mod_eq_of_lt hinner]
    simp [Plan.partSize?]
  · rw [← Nat.succ_eq_add_one, hlast, Nat.mod_self]
    rfl

end Sender.At

theorem Plan.check_of_partSize? {plan : Plan} {number size : ℕ}
    (h : plan.partSize? number = some size) (offset : ℕ) (part : Part) :
    plan.check number offset part = Slot.check ⟨number, offset, size⟩ part := by
  rw [check, h]

theorem Plan.check_of_none {plan : Plan} {number : ℕ} (h : plan.partSize? number = none)
    (offset : ℕ) (part : Part) :
    plan.check number offset part = .error (.surplus plan.partCount) := by
  rw [check, h]

namespace Engine

/-- Parts are sent into the slots of the plan that are still to be filled. -/
theorem sendParts_eq_sendSlots (service : Service σ) (stream : PartStream) {plan : Plan}
    (hcount : plan.partCount < UInt32.size) (options : UploadOptions) {sender : Sender} {index : ℕ}
    (h : sender.At index) (hindex : index ≤ plan.partCount) (state : σ) :
    (sendParts service stream plan options sender state).map (fun (last, sent) ↦ (last.tx, sent)) =
      sendSlots service stream plan.partCount options (sender.cursor.slots (plan.sizesFrom index))
        index sender.tx state := by
  induction sender, state using sendParts_induction service stream plan options
    generalizing index with
  | hpass sender state ih =>
    have hpulled : stream.item? sender.pulled = stream.item? index := by rw [h.pulled]
    rw [sendParts_eq]
    rcases hindex.eq_or_lt with rfl | hlt
    · rw [plan.sizesFrom_partCount, Cursor.slots, sendSlots]
      rcases hitem : stream.item? plan.partCount with - | failure | part
      · rw [sendNext_of_none _ _ _ (hpulled.trans hitem), h.size_manifest]
        simp only [Plan.checkCount, if_true]
        rfl
      · rw [sendNext_of_failure _ _ _ (hpulled.trans hitem)]
        rfl
      · have hcheck := Plan.check_of_none (h.partSize?_eq_none hcount) sender.cursor.offset part
        rw [sendNext_of_misfit _ _ _ (hpulled.trans hitem) hcheck]
        rfl
    · obtain ⟨size, hsize, hsizes⟩ := Plan.exists_sizesFrom_eq_cons hlt
      have hnumber := h.number_eq hlt hcount
      rw [hsizes, Cursor.slots, sendSlots]
      rcases hitem : stream.item? index with - | failure | part
      · rw [sendNext_of_none _ _ _ (hpulled.trans hitem), h.size_manifest]
        simp only [Plan.checkCount, if_neg hlt.ne]
        rfl
      · rw [sendNext_of_failure _ _ _ (hpulled.trans hitem)]
        rfl
      · have hcheck := Plan.check_of_partSize? (hnumber ▸ hsize) sender.cursor.offset part
        rcases hfits : Slot.check ⟨sender.cursor.number, sender.cursor.offset, size⟩ part
          with found | ⟨⟩
        · rw [sendNext_of_misfit _ _ _ (hpulled.trans hitem) (hcheck.trans hfits)]
          simp only [hfits]
          rfl
        · rw [sendNext_of_fit _ _ _ (hpulled.trans hitem) (hcheck.trans hfits)] at ih ⊢
          simp only [hfits, Talk.map_outcome, Talk.map_state] at ih ⊢
          rw [Talk.followedBy_map, Talk.map_followedBy]
          apply Talk.followedBy_congr
          rcases hreply : (askTwice service
            (sender.tx.partRequest sender.cursor.number part options) state).outcome
            with e | checksum
          · rfl
          · have hgoesOn : Pass.ofReply sender.pull (.ok checksum) =
                .goesOn (sender.pull.accept checksum) := rfl
            exact ih _ (hreply ▸ hgoesOn) (h.accept hnumber checksum) hlt

section

variable (service : Service σ) (stream : PartStream) {plan : Plan}
  (hcount : plan.partCount < UInt32.size) (options : UploadOptions) {tx : Transaction}
  (hmanifest : tx.manifest = ∅) (state : σ)
include hcount hmanifest

theorem sendParts_start :
    (sendParts service stream plan options (.start plan tx) state).map
        (fun (last, sent) ↦ (last.tx, sent)) =
      sendSlots service stream plan.partCount options plan.slots 0 tx state :=
  sendParts_eq_sendSlots service stream hcount options (.start plan hmanifest) (Nat.zero_le _) state

/-- An upload that has begun fills the slots of its plan, and is then ended. -/
theorem transfer_eq :
    transfer service stream plan options tx state =
      (sendSlots service stream plan.partCount options plan.slots 0 (tx.advance .uploadingParts)
          state).followedBy fun (tx, sent) state ↦
        match sent with
        | .error cause => settle service tx (.error cause) state
        | .ok () =>
          (complete service tx state).followedBy fun (tx, result) state ↦
            settle service tx result state := by
  have hstart : (tx.advance .uploadingParts).manifest = ∅ := hmanifest
  rw [← sendParts_start service stream hcount options hstart state, Talk.followedBy_map]
  rfl

end

end Engine

end MultipartUpload
