import MultipartUpload.Proofs.Upload.Loop

/-!
# Notes of uploads

The transaction of an upload is seen from outside only when the upload is over. To watch it on its
way, the engine is followed step by step, and every request is noted together with the transaction
that it was made from. Notes change nothing about the conversation.
-/

namespace MultipartUpload

/-- A request with its reply, and the transaction it was made from. A whole blob is put without
one. -/
structure Note where
  transaction? : Option Transaction
  exchange : Exchange

/-- A conversation with a note of every request. -/
@[ext]
structure Noted (σ α : Type) where
  talk : Talk σ α
  notes : List Note
  map_exchange : notes.map Note.exchange = talk.exchanges

namespace Noted

def silent (outcome : α) (state : σ) : Noted σ α :=
  ⟨.silent outcome state, [], rfl⟩

/-- Notes a transaction for every request of a conversation. -/
def ofTalk (tx? : Option Transaction) (talk : Talk σ α) : Noted σ α :=
  ⟨talk, talk.exchanges.map (Note.mk tx?), by simp [Function.comp_def]⟩

def map (f : α → β) (noted : Noted σ α) : Noted σ β :=
  ⟨noted.talk.map f, noted.notes, noted.map_exchange⟩

/-- Goes on from where a conversation ended. -/
def followedBy (noted : Noted σ α) (next : α → σ → Noted σ β) : Noted σ β :=
  ⟨noted.talk.followedBy fun outcome state ↦ (next outcome state).talk,
    noted.notes ++ (next noted.talk.outcome noted.talk.state).notes, by
      rw [List.map_append, noted.map_exchange, map_exchange, Talk.followedBy_exchanges]⟩

theorem followedBy_talk (noted : Noted σ α) (next : α → σ → Noted σ β) :
    (noted.followedBy next).talk =
      noted.talk.followedBy fun outcome state ↦ (next outcome state).talk := rfl

theorem ofTalk_map (tx? : Option Transaction) (f : α → β) (talk : Talk σ α) :
    ofTalk tx? (talk.map f) = (ofTalk tx? talk).map f := rfl

theorem ofTalk_followedBy (tx? : Option Transaction) (talk : Talk σ α) (next : α → σ → Talk σ β) :
    ofTalk tx? (talk.followedBy next) =
      (ofTalk tx? talk).followedBy fun outcome state ↦ ofTalk tx? (next outcome state) := by
  simp only [ofTalk, followedBy, Talk.followedBy_exchanges, List.map_append]

end Noted

namespace Engine

/-- The loop over the parts, with the transaction that each pass starts from. -/
def sendPartsNoted (service : Service σ) (stream : PartStream) (plan : Plan)
    (options : UploadOptions) (sender : Sender) (state : σ) :
    Noted σ (Sender × Except UploadError Unit) where
  talk := sendParts service stream plan options sender state
  notes := (passes service stream plan options sender state).flatMap fun (sender, state) ↦
    (Noted.ofTalk (some sender.tx) (sendNext service stream plan options sender state)).notes
  map_exchange := by
    rw [List.map_flatMap, sendParts_exchanges]
    exact List.flatMap_congr fun pass _ ↦ Noted.map_exchange _

/-- The notes of a pass are followed by those of the passes after it. -/
theorem sendPartsNoted_eq (service : Service σ) (stream : PartStream) (plan : Plan)
    (options : UploadOptions) (sender : Sender) (state : σ) :
    sendPartsNoted service stream plan options sender state =
      (Noted.ofTalk (some sender.tx)
        (sendNext service stream plan options sender state)).followedBy fun pass state ↦
          match pass with
          | .ends last result => .silent (last, result) state
          | .goesOn next => sendPartsNoted service stream plan options next state := by
  apply Noted.ext
  · rw [Noted.followedBy_talk]
    simp only [sendPartsNoted]
    rw [sendParts_eq]
    apply Talk.followedBy_congr
    cases (sendNext service stream plan options sender state).outcome <;> rfl
  · change (passes service stream plan options sender state).flatMap _ = _
    rw [passes_eq, List.flatMap_cons]
    simp only [Noted.followedBy, Noted.ofTalk]
    cases (sendNext service stream plan options sender state).outcome <;> rfl

/-- The request for completion is made from a transaction that is completing. -/
def completeNoted (service : Service σ) (tx : Transaction) (state : σ) :
    Noted σ (Transaction × Except UploadError String) :=
  .ofTalk (some (tx.advance .completing)) (complete service tx state)

/-- The request to abort is made from a transaction that is aborting. -/
def settleNoted (service : Service σ) (tx : Transaction) (result : Except UploadError String)
    (state : σ) : Noted σ Delivery :=
  .ofTalk (some (tx.advance .aborting)) (settle service tx result state)

def transferNoted (service : Service σ) (stream : PartStream) (plan : Plan)
    (options : UploadOptions) (tx : Transaction) (state : σ) : Noted σ Delivery :=
  (sendPartsNoted service stream plan options (.start plan (tx.advance .uploadingParts))
      state).followedBy fun (sender, sent) state ↦
    match sent with
    | .error cause => settleNoted service sender.tx (.error cause) state
    | .ok () =>
      (completeNoted service sender.tx state).followedBy fun (tx, result) state ↦
        settleNoted service tx result state

def uploadPartsNoted (engine : Engine) (service : Service σ) (container : String) (blob : Blob)
    (options : RequestOptions) (plan : Plan) (state : σ) : Noted σ Delivery :=
  (Noted.ofTalk (some { container, key := blob.name })
    (initiate service container blob options.main state)).followedBy fun begun state ↦
      match begun with
      | .error refused => .silent refused state
      | .ok tx =>
        transferNoted service (engine.slicer blob.payload plan.chunkSize) plan options.part tx state

/-- Uploads a blob as `upload` does, and notes the transaction of every request. -/
def uploadNoted (engine : Engine) (service : Service σ) (container : String) (blob : Blob)
    (config : Option PutConfiguration) (state : σ) : Noted σ Delivery :=
  match blob.length? with
  | none => .silent { result := .error (.missingLength blob.name) } state
  | some length =>
    match engine.sizing.plan length with
    | .error e => .silent { result := .error (.tooLarge e) } state
    | .ok plan =>
      let options := RequestOptions.ofConfiguration config
      if plan.isSingle then .ofTalk none (putWhole service container blob options.main state)
      else engine.uploadPartsNoted service container blob options plan state

/-! ## Conversations are as they were -/

section

variable (service : Service σ) (stream : PartStream) (options : UploadOptions) (tx : Transaction)
  (state : σ)

theorem transferNoted_talk (plan : Plan) :
    (transferNoted service stream plan options tx state).talk =
      transfer service stream plan options tx state := by
  rw [transferNoted, Noted.followedBy_talk, transfer]
  apply Talk.followedBy_congr
  obtain ⟨sender, cause | ⟨⟩⟩ := (sendPartsNoted service stream plan options _ state).talk.outcome
  · rfl
  · rfl

theorem uploadNoted_talk (engine : Engine) (container : String) (blob : Blob)
    (config : Option PutConfiguration) :
    (engine.uploadNoted service container blob config state).talk =
      engine.upload service container blob config state := by
  unfold uploadNoted upload
  rcases blob.length? with - | length
  · rfl
  · rcases hplan : engine.sizing.plan length with e | plan
    · simp only [hplan]
      rfl
    · simp only [hplan]
      split
      · rfl
      · rw [uploadPartsNoted, Noted.followedBy_talk, uploadParts]
        congr 1
        funext begun state
        cases begun with
        | error refused => rfl
        | ok tx => exact transferNoted_talk _ _ _ _ _ _

end

end Engine

end MultipartUpload
