import MultipartUpload.Proofs.Memory.Answer

/-!
# Reachable stores

A store starts empty. Containers are created in it, failures are queued in it, and requests are made
of it, in any order. In every store that is reached in this way the identifiers of the uploads in
progress have been issued, so the identifier that is issued next is fresh.
-/

namespace MultipartUpload.Store

/-- What can be done to a store. -/
inductive Action where
  | createContainer (name : String)
  | failInitiate (e : ServiceError)
  | failPart (number : ℕ) (e : ServiceError)
  | failComplete (e : ServiceError)
  | failAbort (e : ServiceError)
  | request (request : Request)

/-- The store after an action. A container that cannot be created leaves it as it was. -/
def act (store : Store) : Action → Store
  | .createContainer name => (store.createContainer name).toOption.getD store
  | .failInitiate e => store.failInitiate e
  | .failPart number e => store.failPart number e
  | .failComplete e => store.failComplete e
  | .failAbort e => store.failAbort e
  | .request request => (store.answer request).2

inductive Reachable : Store → Prop where
  | empty (c : Config) (lag : ℕ) (spelling : UploadId.Spelling) : Reachable (.empty c lag spelling)
  | step {store : Store} (h : store.Reachable) (action : Action) : Reachable (store.act action)

/-- Every upload in progress has an identifier that was issued. -/
def Issued (store : Store) : Prop :=
  ∀ id ∈ store.uploads, ∃ number ≤ store.issued, id = store.spelling.spell number

/-- Whether an identifier was issued, for an upload that may have ended by now. -/
def HasIssued (store : Store) (id : String) : Prop :=
  ∃ number ≤ store.issued, id = store.spelling.spell number

variable {store next : Store} {id : String} {request : Request} {reply : Reply}

theorem HasIssued.ne_nextId (h : store.HasIssued id) : id ≠ store.nextId := by
  obtain ⟨number, hnumber, rfl⟩ := h
  intro hspell
  have heq : number = store.issued + 1 := store.spelling.injective hspell
  omega

/-- An identifier that was not issued is fresh. -/
theorem Issued.nextId_not_mem (h : store.Issued) : store.nextId ∉ store.uploads := by
  intro hmem
  have hissued : store.HasIssued store.nextId := h _ hmem
  exact hissued.ne_nextId rfl

theorem Effect.hasIssued (h : Effect store request reply next) (hid : store.HasIssued id) :
    next.HasIssued id := by
  cases h with
  | refused | hidden | stored | completed | aborted | put => exact hid
  | begun =>
    obtain ⟨number, hnumber, hspell⟩ := hid
    exact ⟨number, Nat.le_succ_of_le hnumber, hspell⟩

theorem HasIssued.met (h : store.HasIssued id) (request : Request) :
    (store.met request).HasIssued id := by
  simpa [HasIssued] using h

theorem HasIssued.answer (h : store.HasIssued id) (request : Request) :
    (store.answer request).2.HasIssued id :=
  (store.answer_effect request).hasIssued (h.met request)

theorem Effect.issued (hstore : store.Issued) (h : Effect store request reply next) :
    next.Issued := by
  intro id hmem
  have hkept (hid : id ∈ store.uploads) : next.HasIssued id := h.hasIssued (hstore id hid)
  cases h with
  | refused => exact hkept hmem
  | begun hcontainer =>
    simp only [begin, Std.ExtTreeMap.mem_insert, Std.compare_eq_iff_eq] at hmem
    rcases hmem with rfl | hmem
    · exact ⟨store.issued + 1, le_rfl, rfl⟩
    · exact hkept hmem
  | hidden hupload | stored _ _ hupload =>
    simp only [setUpload, Std.ExtTreeMap.mem_insert, Std.compare_eq_iff_eq] at hmem
    rcases hmem with rfl | hmem
    · exact hkept (mem_uploads_of_upload? hupload)
    · exact hkept hmem
  | completed | aborted =>
    simp only [place, removeUpload, Std.ExtTreeMap.mem_erase] at hmem
    exact hkept hmem.2
  | put => exact hkept hmem

theorem act_issued (hstore : store.Issued) (action : Action) : (store.act action).Issued := by
  cases action with
  | createContainer name =>
    simp only [act, createContainer]
    split <;> exact hstore
  | failInitiate | failPart | failComplete | failAbort => exact hstore
  | request request =>
    have hmet : (store.met request).Issued := by simpa [Issued] using hstore
    exact (store.answer_effect request).issued hmet

theorem Reachable.issued (h : store.Reachable) : store.Issued := by
  induction h with
  | empty => exact fun id hmem ↦ absurd hmem Std.ExtTreeMap.not_mem_empty
  | step _ action ih => exact act_issued ih action

/-- The identifier that is issued next is fresh. -/
theorem Reachable.nextId_not_mem (h : store.Reachable) : store.nextId ∉ store.uploads :=
  h.issued.nextId_not_mem

end MultipartUpload.Store
