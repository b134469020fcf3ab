import MultipartUpload.Proofs.Upload.Loop

/-!
# Replays of conversations

A service replays a conversation if it gives the same replies to the same requests in the same
order. The conversations of the engine are told without the states of the service; the replay brings
the states back in. Whatever holds of the service before a request and is kept by its answer holds
after the whole conversation.
-/

namespace MultipartUpload

/-- The exchanges of a service that is asked one request after another. -/
inductive Service.Replays (service : Service σ) : σ → List Exchange → σ → Prop where
  | nil {state} : Replays service state [] state
  | cons {state request exchanges final}
      (hrest : Replays service (service.answer request state).2 exchanges final) :
      Replays service state (⟨request, (service.answer request state).1⟩ :: exchanges) final

namespace Service

variable {service : Service σ} {state final : σ} {request : Request} {reply : Reply}
  {front rest exchanges : List Exchange}

@[simp]
theorem replays_nil : service.Replays state [] final ↔ final = state := by
  constructor
  · intro h
    cases h
    rfl
  · intro h
    rw [h]
    exact .nil

@[simp]
theorem replays_cons : service.Replays state (⟨request, reply⟩ :: exchanges) final ↔
    (service.answer request state).1 = reply ∧
      service.Replays (service.answer request state).2 exchanges final := by
  constructor
  · intro h
    cases h with
    | cons hrest => exact ⟨rfl, hrest⟩
  · rintro ⟨rfl, hrest⟩
    exact .cons hrest

@[simp]
theorem replays_append : service.Replays state (front ++ rest) final ↔
    ∃ middle, service.Replays state front middle ∧ service.Replays middle rest final := by
  induction front generalizing state with
  | nil => simp
  | cons exchange front ih =>
    obtain ⟨request, reply⟩ := exchange
    simp only [List.cons_append, replays_cons, ih]
    constructor
    · rintro ⟨hreply, middle, hfront, hrest⟩
      exact ⟨middle, ⟨hreply, hfront⟩, hrest⟩
    · rintro ⟨middle, ⟨hreply, hfront⟩, hrest⟩
      exact ⟨hreply, middle, hfront, hrest⟩

/-- What every answer keeps holds after all of them. -/
theorem Replays.keeps {p : σ → Prop} (h : service.Replays state exchanges final)
    (hstep : ∀ exchange ∈ exchanges, ∀ state, p state → p (service.answer exchange.request state).2)
    (hstart : p state) : p final := by
  induction h with
  | nil => exact hstart
  | cons _ ih =>
    apply ih
    · intro exchange hmem
      exact hstep exchange (List.mem_cons_of_mem _ hmem)
    · exact hstep _ List.mem_cons_self _ hstart

/-- Every reply is an answer that the service gave in a state where what every answer keeps
holds. -/
theorem Replays.exists_answer {p : σ → Prop} (h : service.Replays state exchanges final)
    (hstep : ∀ request state, p state → p (service.answer request state).2) (hstart : p state)
    {exchange : Exchange} (hmem : exchange ∈ exchanges) :
    ∃ middle, p middle ∧ (service.answer exchange.request middle).1 = exchange.reply := by
  induction h with
  | nil => cases hmem
  | cons _ ih =>
    rcases List.mem_cons.mp hmem with rfl | hmem
    · exact ⟨_, hstart, rfl⟩
    · exact ih (hstep _ _ hstart) hmem

end Service

/-- Whether a conversation is one that a service holds from some state on. -/
def Talk.HeldWith (service : Service σ) (state : σ) (talk : Talk σ α) : Prop :=
  service.Replays state talk.exchanges talk.state

namespace Talk

variable {service : Service σ} {state : σ}

theorem heldWith_silent (outcome : α) : (silent outcome state).HeldWith service state :=
  .nil

theorem heldWith_ask (request : Request) : (service.ask request state).HeldWith service state :=
  .cons .nil

theorem HeldWith.followedBy {talk : Talk σ α} {next : α → σ → Talk σ β}
    (h : talk.HeldWith service state)
    (hnext : (next talk.outcome talk.state).HeldWith service talk.state) :
    (talk.followedBy next).HeldWith service state :=
  Service.replays_append.mpr ⟨talk.state, h, hnext⟩

theorem HeldWith.map {talk : Talk σ α} (f : α → β) (h : talk.HeldWith service state) :
    (talk.map f).HeldWith service state :=
  h

end Talk

/-! ## Conversations of the engine -/

namespace Engine

open Talk (heldWith_silent heldWith_ask)

variable (service : Service σ) (state : σ)

theorem heldWith_askTwice (request : Request) :
    (askTwice service request state).HeldWith service state := by
  apply (heldWith_ask request).followedBy
  split
  · exact heldWith_ask request
  · exact heldWith_silent _

theorem heldWith_sendNext (stream : PartStream) (plan : Plan) (options : UploadOptions)
    (sender : Sender) :
    (sendNext service stream plan options sender state).HeldWith service state := by
  unfold sendNext
  split
  · exact heldWith_silent _
  · exact heldWith_silent _
  · split
    · exact heldWith_silent _
    · exact (heldWith_askTwice service state _).map _

theorem heldWith_sendParts (stream : PartStream) (plan : Plan) (options : UploadOptions)
    (sender : Sender) :
    (sendParts service stream plan options sender state).HeldWith service state := by
  induction sender, state using sendParts_induction service stream plan options with
  | hpass sender state ih =>
    rw [sendParts_eq]
    apply (heldWith_sendNext service state stream plan options sender).followedBy
    split
    · exact heldWith_silent _
    · exact ih _ ‹_›

theorem heldWith_complete (tx : Transaction) :
    (complete service tx state).HeldWith service state :=
  (heldWith_ask _).map _

theorem heldWith_settle (tx : Transaction) (result : Except UploadError String) :
    (settle service tx result state).HeldWith service state := by
  unfold settle
  split
  · exact heldWith_silent _
  · exact (heldWith_ask _).map _

theorem heldWith_transfer (stream : PartStream) (plan : Plan) (options : UploadOptions)
    (tx : Transaction) :
    (transfer service stream plan options tx state).HeldWith service state := by
  apply (heldWith_sendParts service state stream plan options _).followedBy
  split
  split
  · exact heldWith_settle service _ _ _
  · apply (heldWith_complete service _ _).followedBy
    exact heldWith_settle service _ _ _

theorem heldWith_initiate (container : String) (blob : Blob) (options : UploadOptions) :
    (initiate service container blob options state).HeldWith service state :=
  (heldWith_ask _).map _

theorem heldWith_putWhole (container : String) (blob : Blob) (options : UploadOptions) :
    (putWhole service container blob options state).HeldWith service state :=
  (heldWith_ask _).map _

theorem heldWith_upload (engine : Engine) (container : String) (blob : Blob)
    (config : Option PutConfiguration) :
    (engine.upload service container blob config state).HeldWith service state := by
  unfold upload
  split
  · exact heldWith_silent _
  · split
    · exact heldWith_silent _
    · simp only
      split
      · exact heldWith_putWhole service state container blob _
      · apply (heldWith_initiate service state container blob _).followedBy
        split
        · exact heldWith_silent _
        · exact heldWith_transfer service _ _ _ _ _

end Engine

end MultipartUpload
