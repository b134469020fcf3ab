import MultipartUpload.BlobStore
import MultipartUpload.Proofs.Plan.Limits
import MultipartUpload.Proofs.Slice.Chunking
import MultipartUpload.Proofs.Upload.Conversation

/-!
# Puts that panic

A put in parts panics if memory cannot be reserved for the first part of a file. The upload has
begun by then, and nothing ends it. Every other put returns, and what it does is what the same put
does with the standard slices of its payload.
-/

namespace MultipartUpload

/-- Whether a blob goes up in parts and memory for the first of them cannot be reserved. -/
def Sizing.Overflows (s : Sizing) (blob : Blob) : Prop :=
  ∃ length plan, blob.length? = some length ∧ s.plan length = .ok plan ∧ ¬plan.isSingle ∧
    blob.payload.overflows plan.chunkSize

/-- An upload in parts for which memory can always be reserved does not overflow it. -/
theorem Sizing.not_overflows {s : Sizing} {blob : Blob} {length : ℕ}
    (hlength : blob.length? = some length)
    (h : ∀ plan, s.plan length = .ok plan → ¬plan.isSingle → plan.chunkSize ≤ maxReservation) :
    ¬s.Overflows blob := by
  rintro ⟨length', plan, hlength', hplan, hparts, hoverflows⟩
  obtain rfl := Option.some.inj (hlength.symm.trans hlength')
  exact absurd (Payload.lt_of_overflows hoverflows) (h plan hplan hparts).not_gt

/-- Nothing overflows memory if the greatest part does not. -/
theorem Sizing.Admissible.not_overflows {s : Sizing} (hs : s.Admissible)
    (hmax : s.maxPartSize ≤ maxReservation) (blob : Blob) : ¬s.Overflows blob := by
  intro hoverflows
  obtain ⟨length, -, hlength, -⟩ := id hoverflows
  refine Sizing.not_overflows hlength (fun plan hplan hparts ↦ ?_) hoverflows
  have hlarge := not_le.mp (mt (isSingle_iff hs hplan).mpr hparts)
  have hlength := (plan_isOk_iff hs).mp ⟨plan, hplan⟩
  rw [plan_of_lt hs hlarge hlength] at hplan
  obtain rfl := Except.ok.inj hplan
  exact (chunkSize_le_maxPartSize hs length).trans hmax

namespace Engine

variable {s : Sizing} {blob : Blob} (service : Service σ) (container : String)
  (config : Option PutConfiguration) (state : σ)

/-- The parts that are read are those of the standard slicer. -/
theorem executeParts_of_fits {plan : Plan} (h : ¬blob.payload.overflows plan.chunkSize)
    (options : RequestOptions) :
    executeParts service container blob options plan state =
      (uploadParts { sizing := s } service container blob options plan state).map .returned := by
  rw [executeParts, uploadParts, Talk.map_followedBy]
  congr 1
  funext begun state
  cases begun with
  | error refused => rfl
  | ok tx => simp only [Payload.slice_of_fits h]

theorem execute_of_fits (h : ¬s.Overflows blob) :
    execute s service container blob config state =
      (upload { sizing := s } service container blob config state).map .returned := by
  unfold execute
  rcases hlength : blob.length? with - | length
  · rfl
  · rcases hplan : s.plan length with e | plan
    · simp only [Option.map_some, hplan]
    · simp only [Option.map_some, hplan]
      split
      · rfl
      · rename_i hparts
        have hfits : ¬blob.payload.overflows plan.chunkSize :=
          fun hoverflows ↦ h ⟨length, plan, hlength, hplan, hparts, hoverflows⟩
        rw [executeParts_of_fits service container state hfits, upload, hlength]
        simp only [hplan, hparts]
        rfl

/-- All that is said before a panic is the request to begin the upload. -/
theorem execute_of_overflows (h : s.Overflows blob) :
    execute s service container blob config state =
      (initiate service container blob (RequestOptions.ofConfiguration config).main state).map
        fun begun ↦ match begun with
          | .error refused => .returned refused
          | .ok _ => .panicked := by
  obtain ⟨length, plan, hlength, hplan, hparts, hoverflows⟩ := h
  have hpanics := Payload.slice_eq_panicked_iff.mpr hoverflows
  rw [← Talk.followedBy_silent]
  simp only [execute, hlength, Option.map_some, hplan, hparts, Bool.false_eq_true, if_false,
    executeParts, hpanics]
  apply Talk.followedBy_congr
  cases (initiate service container blob _ state).outcome <;> rfl

/-- An upload that returns has read what the standard slicer cuts, if it has read anything. -/
theorem execute_of_returned {delivery : Delivery}
    (h : (execute s service container blob config state).outcome = .returned delivery) :
    execute s service container blob config state =
      (upload { sizing := s } service container blob config state).map .returned := by
  by_cases hoverflows : s.Overflows blob
  · rw [execute_of_overflows service container config state hoverflows] at h ⊢
    obtain ⟨length, plan, hlength, hplan, hparts, -⟩ := hoverflows
    simp only [upload, hlength, hplan, hparts, Bool.false_eq_true, if_false]
    rw [uploadParts, Talk.map_followedBy, ← Talk.followedBy_silent]
    apply Talk.followedBy_congr
    rw [Talk.map_outcome] at h
    rcases hbegun : (initiate service container blob _ state).outcome with refused | tx
    · rfl
    · rw [hbegun] at h
      cases h
  · exact execute_of_fits service container config state hoverflows

end Engine

namespace BlobStore

variable (blobs : BlobStore) {blob : Blob} {config : Option PutConfiguration}
  (service : Service σ) (container : String) (state : σ)

/-- The blob store with the engine that reads payloads itself. -/
def reading (blobs : BlobStore) : BlobStore :=
  ⟨{ sizing := blobs.engine.sizing }⟩

/-- Whether putting a blob asks for memory that cannot be reserved. -/
def Overflows (blobs : BlobStore) (blob : Blob) (config : Option PutConfiguration) : Prop :=
  (∃ key, ObjectKey.ofString blob.name = .ok key) ∧ config.any (·.multipart) ∧
    blobs.engine.sizing.Overflows blob

theorem executePut_of_execute
    (h : ∀ key, ObjectKey.ofString blob.name = .ok key → config.any (·.multipart) →
      Engine.execute blobs.engine.sizing service container blob config state =
        (blobs.reading.engine.upload service container blob config state).map .returned) :
    blobs.executePut service container blob config state =
      (blobs.reading.putBlob service container blob config state).map .returned := by
  unfold executePut putBlob
  rcases hname : ObjectKey.ofString blob.name with e | key
  · rfl
  · rcases hmultipart : config.any (·.multipart) with - | -
    · simp only [hmultipart, Bool.false_eq_true, if_false]
    · simp only [hmultipart, if_true]
      exact h key hname hmultipart

/-- A put that gets the memory it asks for returns, and reads what the standard slicer cuts. -/
theorem executePut_of_fits (h : ¬blobs.Overflows blob config) :
    blobs.executePut service container blob config state =
      (blobs.reading.putBlob service container blob config state).map .returned := by
  apply executePut_of_execute
  intro key hname hmultipart
  apply Engine.execute_of_fits
  exact fun hoverflows ↦ h ⟨⟨key, hname⟩, hmultipart, hoverflows⟩

theorem executePut_of_returned {delivery : Delivery}
    (h : (blobs.executePut service container blob config state).outcome = .returned delivery) :
    blobs.executePut service container blob config state =
      (blobs.reading.putBlob service container blob config state).map .returned := by
  apply executePut_of_execute
  intro key hname hmultipart
  rw [executePut, hname, hmultipart] at h
  exact Engine.execute_of_returned service container config state h

/-- A put that does not get the memory it asks for has only asked to begin an upload. -/
theorem executePut_of_overflows (h : blobs.Overflows blob config) :
    blobs.executePut service container blob config state =
      (Engine.initiate service container blob (RequestOptions.ofConfiguration config).main
        state).map fun begun ↦ match begun with
          | .error refused => .returned refused
          | .ok _ => .panicked := by
  obtain ⟨⟨key, hname⟩, hmultipart, hoverflows⟩ := h
  rw [executePut, hname, hmultipart]
  exact Engine.execute_of_overflows service container config state hoverflows

/-- A put panics if and only if it overflows memory after it has begun an upload. -/
theorem executePut_eq_panicked_iff :
    (blobs.executePut service container blob config state).outcome = .panicked ↔
      blobs.Overflows blob config ∧ ∃ id,
        (service.answer (.initiate container blob.metadata
          (RequestOptions.ofConfiguration config).main) state).1 = .ok id := by
  by_cases hoverflows : blobs.Overflows blob config
  · rw [executePut_of_overflows blobs service container state hoverflows]
    simp only [Engine.initiate, Talk.map_outcome, Service.ask_outcome, hoverflows, true_and]
    rcases (service.answer (.initiate container blob.metadata
      (RequestOptions.ofConfiguration config).main) state).1 with e | id
    · simp
    · simp
  · rw [executePut_of_fits blobs service container state hoverflows]
    simp [hoverflows]

/-- No put panics under limits that keep parts within memory. -/
theorem executePut_ne_panicked {c : Config} (hblobs : ofConfig c = .ok blobs)
    (hmax : c.maxPartSize.toNat ≤ maxReservation) :
    (blobs.executePut service container blob config state).outcome ≠ .panicked := by
  intro hpanicked
  obtain ⟨⟨-, -, hoverflows⟩, -⟩ :=
    (executePut_eq_panicked_iff blobs service container state).mp hpanicked
  obtain ⟨hs, rfl⟩ := eq_of_ofConfig hblobs
  exact (Sizing.admissible_of_ofConfig hs).not_overflows hmax blob hoverflows

/-- The marker of a directory does not go up in parts, so putting it returns. -/
theorem executePut_directoryMarker (name : String) (options : DirectoryOptions) :
    blobs.executePut service container (directoryMarker name) options.putConfiguration? state =
      (blobs.createDirectory service container name options state).map .returned := by
  rw [executePut, createDirectory, options.not_multipart]
  cases ObjectKey.ofString (directoryMarker name).name <;> rfl

end BlobStore

end MultipartUpload
