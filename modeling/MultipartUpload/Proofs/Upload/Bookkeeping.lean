import MultipartUpload.Proofs.Memory.Isolation
import MultipartUpload.Proofs.Upload.Coverage
import MultipartUpload.Proofs.Upload.Noting

/-!
# Bookkeeping of uploads

The transaction of an upload is kept in step with what was said to the service. Its phases follow
each other as they may, it has an identifier as soon as one was granted, and its manifest has the
numbers of the parts that were accepted so far. Every operation on the transaction keeps this, and
so does every run.
-/

namespace MultipartUpload

/-! ## Accounts -/

/-- The identifier that an exchange brought. -/
def Exchange.grantedId? : Exchange → Option String
  | ⟨.initiate .., .ok id⟩ => some id
  | _ => none

/-- The identifier that the service gave an upload. -/
def grantedId? (said : List Exchange) : Option String :=
  said.findSome? Exchange.grantedId?

theorem grantedId?_append {said more : List Exchange}
    (h : ∀ exchange ∈ more, exchange.grantedId? = none) :
    grantedId? (said ++ more) = grantedId? said := by
  rw [grantedId?, List.findSome?_append, List.findSome?_eq_none_iff.mpr h, Option.or_none]
  rfl

theorem acceptedParts_append (said more : List Exchange) :
    acceptedParts (said ++ more) = acceptedParts said ++ acceptedParts more :=
  List.filterMap_append

theorem Manifest.mem_empty_iff (number : ℕ) :
    number ∈ (∅ : Manifest) ↔ 1 ≤ number ∧ number ≤ 0 := by
  simp only [Std.ExtTreeMap.not_mem_empty, false_iff]
  omega

/-- A transaction is in step with what was said to the service. -/
structure Transaction.Accounts (tx : Transaction) (said : List Exchange) : Prop where
  /-- Every phase was left for one that may follow it. -/
  advances : (tx.phase :: tx.past).IsChain fun later earlier ↦ earlier.canAdvance later
  starts : (tx.phase :: tx.past).getLast? = some .notStarted
  begun : tx.uploadId? = none ↔ tx.phase = .notStarted
  uploadId : tx.uploadId? = grantedId? said
  parts : ∀ number, number ∈ tx.manifest ↔ 1 ≤ number ∧ number ≤ (acceptedParts said).length

namespace Transaction.Accounts

variable {tx : Transaction} {said more : List Exchange}

theorem start (container key : String) : ({ container, key } : Transaction).Accounts [] where
  advances := .singleton _
  starts := rfl
  begun := by simp
  uploadId := rfl
  parts := Manifest.mem_empty_iff

/-- Exchanges that grant neither an identifier nor a part leave a transaction in step. -/
theorem append (h : tx.Accounts said)
    (hmore : ∀ exchange ∈ more, exchange.grantedId? = none ∧ exchange.acceptedPart? = none) :
    tx.Accounts (said ++ more) where
  __ := h
  uploadId := by
    rw [grantedId?_append fun exchange hmem ↦ (hmore exchange hmem).1, h.uploadId]
  parts := by
    have haccepted : acceptedParts more = [] :=
      List.filterMap_eq_nil_iff.mpr fun exchange hmem ↦ (hmore exchange hmem).2
    rw [acceptedParts_append, haccepted, List.append_nil]
    exact h.parts

theorem advance (h : tx.Accounts said) {next : Phase} (hnext : tx.phase.canAdvance next)
    (hbegun : tx.phase ≠ .notStarted) : (tx.advance next).Accounts said where
  advances := h.advances.cons_cons hnext
  starts := h.starts
  begun := by
    have hphase : next ≠ .notStarted := by
      rintro rfl
      generalize tx.phase = phase at hnext
      cases phase <;> nomatch hnext
    exact iff_of_false (mt h.begun.mp hbegun) hphase
  uploadId := h.uploadId
  parts := h.parts

/-- The identifier is kept as soon as the service gives it. -/
theorem begin (container key id : String) (metadata : Metadata) (options : UploadOptions) :
    (({ container, key } : Transaction).begin id).Accounts
      [⟨.initiate container metadata options, .ok id⟩] where
  advances := .cons_cons rfl (.singleton _)
  starts := rfl
  begun := by simp [Transaction.begin, Transaction.advance]
  uploadId := rfl
  parts := Manifest.mem_empty_iff

/-- A part is entered when it was accepted as the next one. -/
theorem record (h : tx.Accounts said) (hgranted : ∀ exchange ∈ more, exchange.grantedId? = none)
    {number : ℕ} {part : Part} (hmore : acceptedParts more = [(number, part)])
    (hnumber : number = (acceptedParts said).length + 1) (checksum : String) :
    (tx.record number checksum).Accounts (said ++ more) where
  advances := h.advances
  starts := h.starts
  begun := h.begun
  uploadId := (grantedId?_append hgranted).symm ▸ h.uploadId
  parts other := by
    rw [Transaction.record, Std.ExtTreeMap.mem_insert, h.parts other, acceptedParts_append, hmore,
      List.length_append, List.length_singleton, Nat.compare_eq_eq]
    omega

/-- Once an upload has begun, its requests carry the identifier of the transaction and not the empty
one. -/
theorem uploadId?_eq (h : tx.Accounts said) (hphase : tx.phase ≠ .notStarted) :
    tx.uploadId? = some tx.uploadId := by
  obtain ⟨id, hid⟩ := Option.ne_none_iff_exists'.mp (mt h.begun.mp hphase)
  rw [Transaction.uploadId, hid, Option.getD_some]

end Transaction.Accounts

/-! ## Runs -/

/-- The transaction of a note is in step with what was said before, and if the request is about an
upload, it is the one whose identifier the transaction has. -/
structure Note.Sound (note : Note) (said : List Exchange) : Prop where
  accounts : ∀ tx ∈ note.transaction?, tx.Accounts said
  uploadId : ∀ id ∈ note.exchange.request.uploadId?,
    ∃ tx ∈ note.transaction?, tx.uploadId? = some id

/-- Every note is sound after the exchanges before it. -/
def SoundNotes : List Exchange → List Note → Prop
  | _, [] => True
  | said, note :: notes => note.Sound said ∧ SoundNotes (said ++ [note.exchange]) notes

theorem soundNotes_append {said : List Exchange} {first second : List Note} :
    SoundNotes said (first ++ second) ↔
      SoundNotes said first ∧ SoundNotes (said ++ first.map Note.exchange) second := by
  induction first generalizing said with
  | nil => simp [SoundNotes]
  | cons note first ih => simp [SoundNotes, ih, and_assoc]

/-- A conversation with sound notes that comes to what is asked of its outcome and of all that was
said by then. -/
structure Noted.Sound (noted : Noted σ α) (said : List Exchange)
    (post : α → List Exchange → Prop) : Prop where
  notes : SoundNotes said noted.notes
  outcome : post noted.talk.outcome (said ++ noted.talk.exchanges)

namespace Noted

variable {noted : Noted σ α} {said : List Exchange} {post : α → List Exchange → Prop}

theorem sound_silent {outcome : α} {state : σ} (h : post outcome said) :
    (silent outcome state).Sound said post where
  notes := trivial
  outcome := by simpa [silent] using h

theorem Sound.followedBy_outcome (h : noted.Sound said post) {next : α → σ → Noted σ β}
    {post' : β → List Exchange → Prop}
    (hnext : ∀ said, post noted.talk.outcome said →
      (next noted.talk.outcome noted.talk.state).Sound said post') :
    (noted.followedBy next).Sound said post' := by
  have hrest := hnext _ h.outcome
  refine ⟨soundNotes_append.mpr ⟨h.notes, ?_⟩, ?_⟩
  · rw [noted.map_exchange]
    exact hrest.notes
  · rw [followedBy_talk, Talk.followedBy_exchanges, ← List.append_assoc]
    exact hrest.outcome

theorem Sound.followedBy (h : noted.Sound said post) {next : α → σ → Noted σ β}
    {post' : β → List Exchange → Prop}
    (hnext : ∀ outcome state said, post outcome said → (next outcome state).Sound said post') :
    (noted.followedBy next).Sound said post' :=
  h.followedBy_outcome fun said ↦ hnext _ _ said

theorem Sound.imp (h : noted.Sound said post) {post' : α → List Exchange → Prop}
    (himp : ∀ outcome said, post outcome said → post' outcome said) : noted.Sound said post' :=
  ⟨h.notes, himp _ _ h.outcome⟩

theorem Sound.map {f : α → β} {post' : β → List Exchange → Prop}
    (h : noted.Sound said fun outcome ↦ post' (f outcome)) : (noted.map f).Sound said post' :=
  ⟨h.notes, h.outcome⟩

/-- A single request is sound if its transaction is in step and has the identifier that is sent. -/
theorem sound_ask {tx : Transaction} (h : tx.Accounts said) {service : Service σ}
    {request : Request} {state : σ} {post : Reply → List Exchange → Prop}
    (hid : ∀ id ∈ request.uploadId?, tx.uploadId? = some id)
    (hpost : ∀ reply, post reply (said ++ [⟨request, reply⟩])) :
    (ofTalk (some tx) (service.ask request state)).Sound said post where
  notes :=
    ⟨⟨fun _ htx ↦ Option.some_inj.mp htx ▸ h, fun id hmem ↦ ⟨tx, rfl, hid id hmem⟩⟩, trivial⟩
  outcome := hpost _

end Noted

/-- The transaction of a sender is in step, and its cursor is at the part after the last one that
was accepted. -/
structure Sender.Accounts (sender : Sender) (said : List Exchange) : Prop where
  tx : sender.tx.Accounts said
  phase : sender.tx.phase = .uploadingParts
  number : sender.cursor.number = (acceptedParts said).length + 1

/-- What is in step after a pass of the loop over the parts. -/
def Pass.Accounts : Pass → List Exchange → Prop
  | .goesOn next, said => next.Accounts said
  | .ends last _, said => last.tx.Accounts said ∧ last.tx.phase = .uploadingParts

namespace Engine

variable {service : Service σ} {tx : Transaction} {said : List Exchange} {state : σ}

/-- What a reply to a request for a part means for the transaction. -/
def Answered (tx : Transaction) (number : ℕ) : Reply → List Exchange → Prop
  | .error _, said => tx.Accounts said ∧ number = (acceptedParts said).length + 1
  | .ok checksum, said =>
    (tx.record number checksum).Accounts said ∧ number = (acceptedParts said).length

theorem sound_ask_part (h : tx.Accounts said) (hphase : tx.phase ≠ .notStarted) {number : ℕ}
    (hnumber : number = (acceptedParts said).length + 1) (part : Part) (options : UploadOptions) :
    (Noted.ofTalk (some tx) (service.ask (tx.partRequest number part options) state)).Sound said
      (Answered tx number) := by
  apply Noted.sound_ask h
  · rintro _ ⟨⟩
    exact h.uploadId?_eq hphase
  · rintro (e | checksum)
    · have hnothing : acceptedParts [⟨tx.partRequest number part options, .error e⟩] = [] := rfl
      constructor
      · apply h.append
        simp [Exchange.grantedId?, Exchange.acceptedPart?, Transaction.partRequest]
      · rw [acceptedParts_append, hnothing, List.append_nil, hnumber]
    · have hpart : acceptedParts [⟨tx.partRequest number part options, .ok checksum⟩] =
          [(number, part)] := rfl
      constructor
      · refine h.record ?_ hpart hnumber checksum
        simp [Exchange.grantedId?, Transaction.partRequest]
      · rw [acceptedParts_append, hpart, List.length_append, hnumber, List.length_singleton]

theorem sound_askTwice (h : tx.Accounts said) (hphase : tx.phase ≠ .notStarted) {number : ℕ}
    (hnumber : number = (acceptedParts said).length + 1) (part : Part) (options : UploadOptions) :
    (Noted.ofTalk (some tx) (askTwice service (tx.partRequest number part options) state)).Sound
      said (Answered tx number) := by
  rw [askTwice, Noted.ofTalk_followedBy]
  apply (sound_ask_part h hphase hnumber part options).followedBy
  intro reply state said hanswered
  cases reply with
  | ok => exact Noted.sound_silent hanswered
  | error e =>
    cases e with
    | keyNotFound => exact sound_ask_part hanswered.1 hphase hanswered.2 part options
    | rejected => exact Noted.sound_silent hanswered

/-- A pass of the loop keeps the sender in step. -/
theorem sound_sendNext {sender : Sender} {plan : Plan} (hcount : plan.partCount + 1 < UInt32.size)
    (h : sender.Accounts said) (stream : PartStream) (options : UploadOptions) :
    (Noted.ofTalk (some sender.tx) (sendNext service stream plan options sender state)).Sound said
      Pass.Accounts := by
  have hbegun : sender.tx.phase ≠ .notStarted := h.phase ▸ nofun
  rcases hitem : stream.item? sender.pulled with - | failure | part
  · rw [sendNext_of_none _ _ _ hitem]
    exact Noted.sound_silent ⟨h.tx, h.phase⟩
  · rw [sendNext_of_failure _ _ _ hitem]
    exact Noted.sound_silent ⟨h.tx, h.phase⟩
  · rcases hcheck : plan.check sender.cursor.number sender.cursor.offset part with found | ⟨⟩
    · rw [sendNext_of_misfit _ _ _ hitem hcheck]
      exact Noted.sound_silent ⟨h.tx, h.phase⟩
    · rw [sendNext_of_fit _ _ _ hitem hcheck, Noted.ofTalk_map]
      apply Noted.Sound.map
      apply (sound_askTwice h.tx hbegun h.number part options).imp
      rintro (e | checksum) said ⟨htx, hlength⟩
      · exact ⟨htx, h.phase⟩
      · refine ⟨htx, h.phase, ?_⟩
        have hnumber := (Plan.number_of_check hcheck).2
        change (sender.cursor.number + 1) % UInt32.size = _
        rw [Nat.mod_eq_of_lt (by omega), hlength]

/-- While parts are sent, the numbers of the accepted ones are those before the cursor. -/
theorem sound_sendPartsNoted {plan : Plan} (hcount : plan.partCount + 1 < UInt32.size)
    (stream : PartStream) (options : UploadOptions) {sender : Sender} (h : sender.Accounts said) :
    (sendPartsNoted service stream plan options sender state).Sound said
      fun sent said ↦ sent.1.tx.Accounts said ∧ sent.1.tx.phase = .uploadingParts := by
  induction sender, state using sendParts_induction service stream plan options
    generalizing said with
  | hpass sender state ih =>
    rw [sendPartsNoted_eq]
    apply (sound_sendNext hcount h stream options).followedBy_outcome
    intro said hpass
    have htalk : (Noted.ofTalk (some sender.tx)
      (sendNext service stream plan options sender state)).talk =
        sendNext service stream plan options sender state := rfl
    rw [htalk] at hpass ⊢
    rcases houtcome : (sendNext service stream plan options sender state).outcome
      with next | ⟨last, result⟩
    · rw [houtcome] at hpass
      exact ih next houtcome hpass
    · rw [houtcome] at hpass
      exact Noted.sound_silent hpass

theorem sound_completeNoted (h : tx.Accounts said) (hphase : tx.phase = .uploadingParts) :
    (completeNoted service tx state).Sound said
      fun completed said ↦ completed.1.Accounts said ∧ completed.1.phase = .completing := by
  have hadvanced : (tx.advance .completing).Accounts said :=
    h.advance (by rw [hphase]; rfl) (by rw [hphase]; decide)
  rw [completeNoted, complete, Noted.ofTalk_map]
  apply Noted.Sound.map
  apply Noted.sound_ask hadvanced
  · rintro _ ⟨⟩
    exact hadvanced.uploadId?_eq (show Phase.completing ≠ .notStarted by decide)
  · intro reply
    refine ⟨hadvanced.append ?_, rfl⟩
    simp [Exchange.grantedId?, Exchange.acceptedPart?, Transaction.completeRequest]

end Engine

/-- The last phase of a transaction tells the result of its upload. -/
def Transaction.EndsWith (tx : Transaction) : Except UploadError String → Prop
  | .ok _ => tx.phase = .done
  | .error _ => tx.phase = .aborted

/-- What the transaction of a delivery tells about the upload, after all that was said. -/
inductive Delivery.Accounts (delivery : Delivery) (said : List Exchange) : Prop
  /-- There was no upload in parts. -/
  | unopened (htx : delivery.transaction? = none) (hid : grantedId? said = none)
  /-- The service did not let it begin. -/
  | refused {tx e} (htx : delivery.transaction? = some tx) (h : tx.Accounts said)
      (hphase : tx.phase = .notStarted) (hresult : delivery.result = .error e)
  | begun {tx} (htx : delivery.transaction? = some tx) (h : tx.Accounts said)
      (hend : tx.EndsWith delivery.result)

namespace Engine

variable {service : Service σ} {tx : Transaction} {said : List Exchange} {state : σ}

theorem sound_settleNoted (h : tx.Accounts said) {result : Except UploadError String}
    (hdone : ∀ identifier, result = .ok identifier → tx.phase = .completing)
    (habort : tx.phase.canAdvance .aborting) :
    (settleNoted service tx result state).Sound said Delivery.Accounts := by
  have hbegun : tx.phase ≠ .notStarted := by
    intro hphase
    rw [hphase] at habort
    nomatch habort
  cases result with
  | ok identifier =>
    have hphase := hdone identifier rfl
    exact Noted.sound_silent (.begun rfl (h.advance (hphase ▸ rfl) hbegun) rfl)
  | error cause =>
    have haborting : (tx.advance .aborting).Accounts said := h.advance habort hbegun
    rw [settleNoted, settle, Noted.ofTalk_map]
    apply Noted.Sound.map
    apply Noted.sound_ask haborting
    · rintro _ ⟨⟩
      exact haborting.uploadId?_eq nofun
    · intro reply
      refine .begun rfl ((haborting.append ?_).advance rfl nofun) rfl
      simp [Exchange.grantedId?, Exchange.acceptedPart?, Transaction.abortRequest]

theorem sound_transferNoted (h : tx.Accounts said) (hphase : tx.phase = .initiated)
    (hnone : acceptedParts said = []) {stream : PartStream} {plan : Plan} (hplan : plan.Covers)
    {options : UploadOptions} :
    (transferNoted service stream plan options tx state).Sound said Delivery.Accounts := by
  have hstart : (Sender.start plan (tx.advance .uploadingParts)).Accounts said :=
    ⟨h.advance (hphase ▸ rfl) (hphase ▸ nofun), rfl, by rw [hnone]; rfl⟩
  apply (sound_sendPartsNoted hplan.partCount_succ_lt stream options hstart).followedBy
  rintro ⟨sender, cause | ⟨⟩⟩ state said ⟨h, hphase⟩
  · exact sound_settleNoted h nofun (hphase ▸ rfl)
  · apply (sound_completeNoted h hphase).followedBy
    rintro ⟨tx, result⟩ state said ⟨h, hphase⟩
    exact sound_settleNoted h (fun _ _ ↦ hphase) (hphase ▸ rfl)

/-- What is in step after the request to begin an upload. -/
def Begun : Except Delivery Transaction → List Exchange → Prop
  | .error refused, said => refused.Accounts said
  | .ok tx, said => tx.Accounts said ∧ tx.phase = .initiated ∧ acceptedParts said = []

theorem sound_initiate (container : String) (blob : Blob) (options : UploadOptions) :
    (Noted.ofTalk (some { container, key := blob.name })
      (initiate service container blob options state)).Sound [] Begun := by
  have hstart := Transaction.Accounts.start container blob.name
  rw [initiate, Noted.ofTalk_map]
  apply Noted.Sound.map
  apply Noted.sound_ask hstart
  · rintro _ ⟨⟩
  · rintro (e | id)
    · refine .refused rfl (hstart.append ?_) rfl rfl
      simp [Exchange.grantedId?, Exchange.acceptedPart?]
    · exact ⟨.begin container blob.name id blob.metadata options, rfl, rfl⟩

theorem sound_uploadPartsNoted (engine : Engine) (container : String) (blob : Blob)
    (options : RequestOptions) {plan : Plan} (hplan : plan.Covers) :
    (engine.uploadPartsNoted service container blob options plan state).Sound []
      Delivery.Accounts := by
  apply (sound_initiate container blob options.main).followedBy
  rintro (refused | tx) state said hbegun
  · exact Noted.sound_silent hbegun
  · exact sound_transferNoted hbegun.1 hbegun.2.1 hbegun.2.2 hplan

theorem sound_uploadNoted {s : Sizing} (hs : s.Admissible) (slicer : Slicer)
    (container : String) (blob : Blob) (config : Option PutConfiguration) :
    (uploadNoted ⟨s, slicer⟩ service container blob config state).Sound [] Delivery.Accounts := by
  unfold uploadNoted
  rcases blob.length? with - | length
  · exact Noted.sound_silent (.unopened rfl rfl)
  · rcases hplan : s.plan length with e | plan
    · simp only [hplan]
      exact Noted.sound_silent (.unopened rfl rfl)
    · simp only [hplan]
      split
      · exact ⟨⟨⟨nofun, nofun⟩, trivial⟩, .unopened rfl rfl⟩
      · rename_i hparts
        rw [Sizing.isSingle_iff hs hplan, not_le] at hparts
        exact sound_uploadPartsNoted _ container blob _ (Sizing.covers_of_plan hs hplan hparts).1

theorem settle_transaction? (result : Except UploadError String) :
    (settle service tx result state).outcome.transaction?.isSome := by
  cases result <;> rfl

theorem transfer_transaction? (stream : PartStream) (plan : Plan) (options : UploadOptions) :
    (transfer service stream plan options tx state).outcome.transaction?.isSome := by
  rw [transfer, Talk.followedBy_outcome]
  rcases (sendParts service stream plan options (.start plan (tx.advance .uploadingParts))
    state).outcome with ⟨sender, cause | ⟨⟩⟩
  · exact settle_transaction? _
  · exact settle_transaction? _

/-- A transaction is opened for the uploads that are planned in parts. -/
theorem upload_transaction?_iff (engine : Engine) (container : String) (blob : Blob)
    (config : Option PutConfiguration) :
    (engine.upload service container blob config state).outcome.transaction?.isSome ↔
      ∃ plan, engine.PlansFor blob plan ∧ ¬plan.isSingle := by
  unfold upload PlansFor
  rcases blob.length? with - | length
  · simp
  · rcases hplan : engine.sizing.plan length with e | plan
    · simp [hplan]
    · simp only [hplan]
      split
      · simp_all [putWhole]
      · simp only [uploadParts, initiate, Talk.followedBy_outcome, Talk.map_outcome]
        rcases (service.ask _ state).outcome with e | id
        · simp_all
        · simp_all [transfer_transaction?]

end Engine

theorem SoundNotes.sound {said : List Exchange} {front back : List Note} {note : Note}
    (h : SoundNotes said (front ++ note :: back)) :
    note.Sound (said ++ front.map Note.exchange) :=
  (soundNotes_append.mp h).2.1

namespace Delivery.Accounts

variable {delivery : Delivery} {said : List Exchange}

theorem accounts (h : delivery.Accounts said) {tx : Transaction}
    (htx : delivery.transaction? = some tx) : tx.Accounts said := by
  cases h with
  | unopened hnone =>
    rw [hnone] at htx
    nomatch htx
  | refused hsome h | begun hsome h =>
    rw [hsome] at htx
    exact Option.some_inj.mp htx ▸ h

theorem done_iff (h : delivery.Accounts said) :
    (∃ tx, delivery.transaction? = some tx ∧ tx.phase = .done) ↔
      delivery.transaction?.isSome ∧ ∃ identifier, delivery.result = .ok identifier := by
  cases h with
  | unopened hnone => simp [hnone]
  | refused htx _ hphase hresult => simp [htx, hphase, hresult]
  | @begun tx htx _ hend =>
    cases hresult : delivery.result with
    | ok identifier =>
      have hphase : tx.phase = .done := by rwa [hresult] at hend
      simp [htx, hphase]
    | error e =>
      have hphase : tx.phase = .aborted := by rwa [hresult] at hend
      simp [htx, hphase]

theorem aborted_iff (h : delivery.Accounts said) :
    (∃ tx, delivery.transaction? = some tx ∧ tx.phase = .aborted) ↔
      (∃ e, delivery.result = .error e) ∧ (grantedId? said).isSome := by
  cases h with
  | unopened hnone hid => simp [hnone, hid]
  | refused htx h hphase =>
    have hid : grantedId? said = none := h.uploadId ▸ h.begun.mpr hphase
    simp [htx, hphase, hid]
  | @begun tx htx h hend =>
    cases hresult : delivery.result with
    | ok identifier =>
      have hphase : tx.phase = .done := by rwa [hresult] at hend
      simp [htx, hphase]
    | error e =>
      have hphase : tx.phase = .aborted := by rwa [hresult] at hend
      have hid : (grantedId? said).isSome := by
        rw [← h.uploadId, Option.isSome_iff_ne_none]
        exact mt h.begun.mp (hphase ▸ nofun)
      simp [htx, hphase, hid]

end Delivery.Accounts

/-- The transaction of an upload is in step with the service whenever a request is made and at the
end: its phases follow each other as they may, it has the identifier that was granted, and its
manifest has the numbers up to that of the last accepted part. No request is made about an upload
before its identifier is there. The transaction ends as done or as aborted, by the result. -/
theorem transactions_keep_account {c : Config} {s : Sizing} (hs : Sizing.ofConfig c = .ok s)
    (slicer : Slicer) (service : Service σ) (container : String) (blob : Blob)
    (config : Option PutConfiguration) (state : σ) :
    let engine : Engine := ⟨s, slicer⟩
    let noted := engine.uploadNoted service container blob config state
    let talk := engine.upload service container blob config state
    let delivery := talk.outcome
    (noted.talk = talk ∧ noted.notes.map Note.exchange = talk.exchanges) ∧
    (∀ front note back, noted.notes = front ++ note :: back →
      note.Sound (front.map Note.exchange)) ∧
    (∀ tx, delivery.transaction? = some tx → tx.Accounts talk.exchanges) ∧
    (delivery.transaction?.isSome ↔ ∃ plan, engine.PlansFor blob plan ∧ ¬plan.isSingle) ∧
    ((∃ tx, delivery.transaction? = some tx ∧ tx.phase = .done) ↔
      delivery.transaction?.isSome ∧ ∃ identifier, delivery.result = .ok identifier) ∧
    ((∃ tx, delivery.transaction? = some tx ∧ tx.phase = .aborted) ↔
      (∃ e, delivery.result = .error e) ∧ (grantedId? talk.exchanges).isSome) := by
  intro engine noted talk delivery
  have hsound : noted.Sound [] Delivery.Accounts :=
    Engine.sound_uploadNoted (Sizing.admissible_of_ofConfig hs) slicer container blob config
  have htalk : noted.talk = talk :=
    Engine.uploadNoted_talk service state engine container blob config
  have hdelivery : delivery.Accounts talk.exchanges := by
    have houtcome := hsound.outcome
    rwa [htalk, List.nil_append] at houtcome
  refine ⟨⟨htalk, by rw [noted.map_exchange, htalk]⟩, fun front note back hnotes ↦ ?_,
    fun tx ↦ hdelivery.accounts, Engine.upload_transaction?_iff engine container blob config,
    hdelivery.done_iff, hdelivery.aborted_iff⟩
  exact SoundNotes.sound (hnotes ▸ hsound.notes)

/-- Three parts are accepted, but not the completion. -/
theorem refused_completion_ends_aborted :
    let script : Script := { uploadId := "u", complete := [.rejected "SlowDown" "later"] }
    let talk := Engine.upload ⟨⟨4, 100, 5 * 2 ^ 30, 10000⟩, .standard⟩ Script.service "box"
      (.ofName "key" (.ofBytes [1, 2, 3, 4, 5, 6, 7, 8, 9, 10])) none script
    Sizing.ofConfig { partSize := 4, minPartSize := 1 } = .ok ⟨4, 100, 5 * 2 ^ 30, 10000⟩ ∧
    ∃ tx, talk.outcome.transaction? = some tx ∧ tx.phase = .aborted := by
  intro script talk
  have hs : Sizing.ofConfig { partSize := 4, minPartSize := 1 } =
      .ok ⟨4, 100, 5 * 2 ^ 30, 10000⟩ := by decide
  obtain ⟨-, -, -, -, -, haborted⟩ := transactions_keep_account hs .standard Script.service "box"
    (.ofName "key" (.ofBytes [1, 2, 3, 4, 5, 6, 7, 8, 9, 10])) none script
  exact ⟨hs, haborted.mpr ⟨⟨.service (.rejected "SlowDown" "later"), by decide +kernel⟩,
    by decide +kernel⟩⟩

end MultipartUpload
