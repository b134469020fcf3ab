import MultipartUpload.Plan.Cursor
import MultipartUpload.Upload.Error
import MultipartUpload.Upload.Transaction

/-!
# The upload engine

A payload that is cut goes up in parts, one at a time and in order, and is completed with the
checksums the service gave them. A part that the service does not see yet is sent once more. Any
other failure after the upload has begun aborts it, and is what the caller is told.

The slicer drives the loop over the parts, and nothing says that it ever stops. The loop does,
because a part beyond those of the plan fails its check.
-/

namespace MultipartUpload

structure Engine where
  sizing : Sizing
  slicer : Slicer := .standard

/-- How putting a blob ended. -/
structure Delivery where
  /-- The identifier of the object, or why there is none. -/
  result : Except UploadError String
  /-- The multipart upload that was opened for it. -/
  transaction? : Option Transaction := none

/-- Checks a part against the slot it is meant for. -/
def Slot.check (slot : Slot) (part : Part) : Except Mismatch Unit :=
  if part.offset ≠ slot.offset then .error (.offset slot.number part.offset slot.offset)
  else if part.size ≠ slot.size then .error (.size slot.number part.size slot.size)
  else .ok ()

namespace Plan

/-- Checks a part against the plan, under the number and at the offset it is about to have. -/
def check (plan : Plan) (number offset : Nat) (part : Part) : Except Mismatch Unit :=
  match plan.partSize? number with
  | none => .error (.surplus plan.partCount)
  | some size => Slot.check ⟨number, offset, size⟩ part

/-- A part beyond those of the plan fails the check. -/
theorem number_of_check {plan : Plan} {number offset : Nat} {part : Part}
    (h : plan.check number offset part = .ok ()) : number ≠ 0 ∧ number ≤ plan.partCount := by
  unfold check partSize? at h
  grind

/-- Checks the number of the parts that were sent. -/
def checkCount (plan : Plan) (sent : Nat) : Except Mismatch Unit :=
  if sent = plan.partCount then .ok () else .error (.shortfall plan.partCount sent)

end Plan

/-- How far the sending of parts has come. -/
structure Sender where
  cursor : Cursor
  /-- How many items the stream was asked for. -/
  pulled : Nat := 0
  tx : Transaction
  number_lt : cursor.number < UInt32.size

namespace Sender

def start (plan : Plan) (tx : Transaction) : Sender where
  cursor := plan.cursor
  tx := tx
  number_lt := show 1 < UInt32.size by decide

/-- One more item was asked for. -/
def pull (sender : Sender) : Sender :=
  { sender with pulled := sender.pulled + 1 }

/-- The part at the cursor was accepted. -/
def accept (sender : Sender) (checksum : String) : Sender where
  cursor := sender.cursor.advanceNumber.advanceOffset
  pulled := sender.pulled
  tx := sender.tx.record sender.cursor.number checksum
  number_lt := Nat.mod_lt _ (by decide)

/-- How far the cursor is from the first number beyond a plan. It is there if its word wrapped. -/
def distance (sender : Sender) (plan : Plan) : Nat :=
  if sender.cursor.number = 0 then 0 else plan.partCount + 1 - sender.cursor.number

/-- Each number of the plan that is passed brings the cursor closer to the end. -/
theorem distance_accept_lt {sender : Sender} {plan : Plan}
    (h : sender.cursor.number ≠ 0 ∧ sender.cursor.number ≤ plan.partCount) (checksum : String) :
    (sender.accept checksum).distance plan < sender.distance plan := by
  have hnext : (sender.accept checksum).cursor.number =
      (sender.cursor.number + 1) % UInt32.size := rfl
  have hlt := sender.number_lt
  simp only [distance, hnext, UInt32.size] at hlt ⊢
  split <;> split <;> omega

end Sender

/-- What one pass of the sending loop comes to. -/
inductive Pass where
  | goesOn (next : Sender)
  | ends (last : Sender) (result : Except UploadError Unit)

/-- The loop goes on after a part that was accepted. -/
def Pass.ofReply (sender : Sender) : Reply → Pass
  | .error e => .ends sender (.error (.service e))
  | .ok checksum => .goesOn (sender.accept checksum)

namespace Engine

def ofConfig (c : Config) : Except ConfigError Engine :=
  match Sizing.ofConfig c with
  | .error e => .error e
  | .ok sizing => .ok { sizing }

/-- Makes a request, and makes it again if the service did not see what it is about. -/
def askTwice (service : Service σ) (request : Request) (state : σ) : Talk σ Reply :=
  (service.ask request state).followedBy fun reply state ↦
    match reply with
    | .error (.keyNotFound ..) => service.ask request state
    | reply => .silent reply state

/-- Pulls the next item from a stream. A part is checked and sent, and the end of the stream ends
the loop. -/
def sendNext (service : Service σ) (stream : PartStream) (plan : Plan) (options : UploadOptions)
    (sender : Sender) (state : σ) : Talk σ Pass :=
  match stream.item? sender.pulled with
  | none =>
    .silent (.ends sender.pull ((plan.checkCount sender.tx.manifest.size).mapError .mismatch)) state
  | some (.error failure) => .silent (.ends sender.pull (.error (.payload failure))) state
  | some (.ok part) =>
    match plan.check sender.cursor.number sender.cursor.offset part with
    | .error found => .silent (.ends sender.pull (.error (.mismatch found))) state
    | .ok () =>
      (askTwice service (sender.tx.partRequest sender.cursor.number part options) state).map
        (Pass.ofReply sender.pull)

/-- What is accepted is a part that the plan has. -/
theorem goesOn_of_sendNext {service : Service σ} {stream : PartStream} {plan : Plan}
    {options : UploadOptions} {sender next : Sender} {state : σ}
    (h : (sendNext service stream plan options sender state).outcome = .goesOn next) :
    (sender.cursor.number ≠ 0 ∧ sender.cursor.number ≤ plan.partCount) ∧
      ∃ checksum, next = sender.pull.accept checksum := by
  unfold sendNext at h
  split at h
  · cases h
  · cases h
  · split at h
    · cases h
    · rename_i hcheck
      refine ⟨Plan.number_of_check hcheck, ?_⟩
      rw [Talk.map_outcome] at h
      unfold Pass.ofReply at h
      split at h
      · cases h
      · exact ⟨_, (Pass.goesOn.inj h).symm⟩

theorem distance_lt_of_sendNext {service : Service σ} {stream : PartStream} {plan : Plan}
    {options : UploadOptions} {sender next : Sender} {state : σ}
    (h : (sendNext service stream plan options sender state).outcome = .goesOn next) :
    next.distance plan < sender.distance plan := by
  obtain ⟨hnumber, checksum, rfl⟩ := goesOn_of_sendNext h
  exact Sender.distance_accept_lt hnumber checksum

/-- Sends the parts that a stream offers until it ends, or something fails. -/
def sendParts (service : Service σ) (stream : PartStream) (plan : Plan) (options : UploadOptions)
    (sender : Sender) (state : σ) : Talk σ (Sender × Except UploadError Unit) :=
  let pass := sendNext service stream plan options sender state
  pass.followedBy fun _ state ↦
    match _ : pass.outcome with
    | .ends last result => .silent (last, result) state
    | .goesOn next => sendParts service stream plan options next state
termination_by sender.distance plan
decreasing_by exact distance_lt_of_sendNext ‹_›

/-- Completes an upload whose parts have all been accepted. -/
def complete (service : Service σ) (tx : Transaction) (state : σ) :
    Talk σ (Transaction × Except UploadError String) :=
  let tx := tx.advance .completing
  (service.ask tx.completeRequest state).map fun reply ↦ (tx, reply.mapError .service)

/-- Ends an upload: done if it was completed, aborted otherwise. A failure to abort is not
reported. -/
def settle (service : Service σ) (tx : Transaction) (result : Except UploadError String)
    (state : σ) : Talk σ Delivery :=
  match result with
  | .ok identifier => .silent ⟨.ok identifier, some (tx.advance .done)⟩ state
  | .error cause =>
    let tx := tx.advance .aborting
    (service.ask tx.abortRequest state).map fun _ ↦ ⟨.error cause, some (tx.advance .aborted)⟩

/-- Sends all parts of an upload that has begun and ends it. -/
def transfer (service : Service σ) (stream : PartStream) (plan : Plan) (options : UploadOptions)
    (tx : Transaction) (state : σ) : Talk σ Delivery :=
  (sendParts service stream plan options (.start plan (tx.advance .uploadingParts))
      state).followedBy fun (sender, sent) state ↦
    match sent with
    | .error cause => settle service sender.tx (.error cause) state
    | .ok () =>
      (complete service sender.tx state).followedBy fun (tx, result) state ↦
        settle service tx result state

/-- Asks the service to begin an upload in parts. -/
def initiate (service : Service σ) (container : String) (blob : Blob) (options : UploadOptions)
    (state : σ) : Talk σ (Except Delivery Transaction) :=
  let tx : Transaction := { container, key := blob.name }
  (service.ask (.initiate container blob.metadata options) state).map fun reply ↦
    match reply with
    | .error e => .error ⟨.error (.service e), some tx⟩
    | .ok uploadId => .ok (tx.begin uploadId)

/-- Uploads a blob in the parts of a plan. -/
def uploadParts (engine : Engine) (service : Service σ) (container : String) (blob : Blob)
    (options : RequestOptions) (plan : Plan) (state : σ) : Talk σ Delivery :=
  (initiate service container blob options.main state).followedBy fun begun state ↦
    match begun with
    | .error refused => .silent refused state
    | .ok tx =>
      transfer service (engine.slicer blob.payload plan.chunkSize) plan options.part tx state

/-- Puts a blob with a single request. -/
def putWhole (service : Service σ) (container : String) (blob : Blob) (options : UploadOptions)
    (state : σ) : Talk σ Delivery :=
  (service.ask (.putObject container blob options) state).map fun reply ↦
    { result := reply.mapError .service }

/-- Uploads a blob whose length is declared, in parts if it is larger than one. -/
def upload (engine : Engine) (service : Service σ) (container : String) (blob : Blob)
    (config : Option PutConfiguration) (state : σ) : Talk σ Delivery :=
  match blob.length? with
  | none => .silent { result := .error (.missingLength blob.name) } state
  | some length =>
    match engine.sizing.plan length with
    | .error e => .silent { result := .error (.tooLarge e) } state
    | .ok plan =>
      let options := RequestOptions.ofConfiguration config
      if plan.isSingle then putWhole service container blob options.main state
      else engine.uploadParts service container blob options plan state

/-! ## Reading the payload itself -/

/-- Uploads a blob in the parts that are read from its payload. A panic leaves the upload as it
is. -/
def executeParts (service : Service σ) (container : String) (blob : Blob)
    (options : RequestOptions) (plan : Plan) (state : σ) : Talk σ (Outcome Delivery) :=
  (initiate service container blob options.main state).followedBy fun begun state ↦
    match begun with
    | .error refused => .silent (.returned refused) state
    | .ok tx =>
      match blob.payload.slice plan.chunkSize with
      | .panicked => .silent .panicked state
      | .returned stream => (transfer service stream plan options.part tx state).map .returned

/-- Uploads a blob, and reads its payload if it goes up in parts. -/
def execute (s : Sizing) (service : Service σ) (container : String) (blob : Blob)
    (config : Option PutConfiguration) (state : σ) : Talk σ (Outcome Delivery) :=
  let unread := (upload { sizing := s } service container blob config state).map .returned
  match blob.length?.map s.plan with
  | some (.ok plan) =>
    if plan.isSingle then unread
    else executeParts service container blob (.ofConfiguration config) plan state
  | _ => unread

end Engine

end MultipartUpload
