import MultipartUpload.Proofs.Plan.Limits

/-!
# Interleaved calls of a cursor

Numbers and offsets can be taken from a cursor in any order, since neither has an influence on the
other. Up to the last part both are exact. Only the offset that is kept for a part beyond the plan
may wrap.
-/

namespace MultipartUpload

namespace Cursor

/-- What a cursor is asked for. -/
inductive Call where
  | number
  | offset
  deriving DecidableEq, Repr

namespace Call

/-- What a cursor returns. -/
def answer : Call → Cursor → ℕ
  | .number => Cursor.number
  | .offset => Cursor.offset

/-- The cursor after a call. -/
def advance : Call → Cursor → Cursor
  | .number => advanceNumber
  | .offset => advanceOffset

variable {kind call : Call}

theorem commute_advance (kind call : Call) : Function.Commute kind.advance call.advance := by
  intro cursor
  cases kind <;> cases call <;> rfl

/-- A call of one kind makes no difference to what the other kind returns. -/
theorem answer_advance_of_ne (h : call ≠ kind) (cursor : Cursor) :
    kind.answer (call.advance cursor) = kind.answer cursor := by
  cases kind <;> cases call
  · exact absurd rfl h
  · rfl
  · rfl
  · exact absurd rfl h

end Call

/-- The cursor after some calls. -/
def after (cursor : Cursor) (calls : List Call) : Cursor :=
  calls.foldl (fun cursor call ↦ call.advance cursor) cursor

/-- What a cursor returns for the calls of one kind, in their order. -/
def answers (kind : Call) : Cursor → List Call → List ℕ
  | _, [] => []
  | cursor, call :: calls =>
    let rest := (call.advance cursor).answers kind calls
    if call = kind then call.answer cursor :: rest else rest

/-- Among any other calls, those of one kind are answered as if they were the only ones. -/
theorem getElem?_answers {kind : Call} {calls : List Call} (cursor : Cursor) {index : ℕ}
    (h : index < calls.count kind) :
    (cursor.answers kind calls)[index]? = some (kind.answer (kind.advance^[index] cursor)) := by
  induction calls generalizing cursor index with
  | nil => cases h
  | cons call calls ih =>
    by_cases hcall : call = kind
    · subst hcall
      rw [answers, if_pos rfl]
      cases index with
      | zero => rfl
      | succ index =>
        rw [List.count_cons_self, Nat.succ_lt_succ_iff] at h
        rw [List.getElem?_cons_succ, ih _ h, Function.iterate_succ_apply]
    · rw [List.count_cons_of_ne hcall] at h
      have hcommute := (Call.commute_advance kind call).iterate_left index cursor
      rw [answers, if_neg hcall, ih _ h, hcommute, Call.answer_advance_of_ne hcall]

/-- The offset that a cursor keeps is what the exact one leaves in a word. -/
theorem offset_after {cursor : Cursor} (h : cursor.offset < UInt64.size) (calls : List Call) :
    (cursor.after calls).offset =
      (cursor.offset + calls.count .offset * cursor.chunkSize) % UInt64.size := by
  induction calls generalizing cursor with
  | nil => simp [after, Nat.mod_eq_of_lt h]
  | cons call calls ih =>
    rw [after, List.foldl_cons]
    cases call with
    | number => exact ih h
    | offset =>
      have hword : cursor.advanceOffset.offset < UInt64.size := Nat.mod_lt _ (by decide)
      calc
        (cursor.advanceOffset.after calls).offset =
            ((cursor.offset + cursor.chunkSize) % UInt64.size +
              calls.count .offset * cursor.chunkSize) % UInt64.size := ih hword
        _ = (cursor.offset + cursor.chunkSize + calls.count .offset * cursor.chunkSize) %
            UInt64.size := Nat.mod_add_mod _ _ _
        _ = _ := by
          rw [List.count_cons_self, Nat.add_assoc, Nat.succ_mul, Nat.add_comm cursor.chunkSize]

end Cursor

namespace Plan

variable {plan : Plan}

theorem Covers.partSize?_isSome_iff (hplan : plan.Covers) (number : ℕ) :
    (plan.partSize? number).isSome ↔ 1 ≤ number ∧ number ≤ plan.partCount := by
  rcases Nat.eq_zero_or_pos number with rfl | hpos
  · simp [partSize?]
  rcases Nat.lt_trichotomy number plan.partCount with hlt | rfl | hgt
  · simp [partSize?_of_lt hpos hlt, hlt.le, Nat.one_le_iff_ne_zero, hpos.ne']
  · simp [hplan.partSize?_partCount, Nat.one_le_iff_ne_zero, hpos.ne']
  · simp [partSize?, hpos.ne', hgt.not_gt, hgt.ne', hgt]

/-- While there are parts to number, the cursor counts them from one. -/
theorem Covers.advanceNumber_cursor (hplan : plan.Covers) {index : ℕ}
    (h : index < plan.partCount) :
    Cursor.advanceNumber^[index] plan.cursor = { plan.cursor with number := index + 1 } := by
  have hlimit : Limits.maxPartCount.toNat < UInt32.size := by decide
  have hcount := hplan.partCount_le
  induction index with
  | zero => rfl
  | succ index ih =>
    have hnumber : index + 1 + 1 < UInt32.size := by omega
    rw [Function.iterate_succ_apply', ih (Nat.lt_of_succ_lt h)]
    simp only [Cursor.advanceNumber, Nat.mod_eq_of_lt hnumber]

end Plan

/-- However the calls for numbers and offsets are interleaved, the cursor of a plan numbers its
parts from one and places each of them where the parts before it end. All of these offsets are
exact, and what is kept after the last one is the remainder of the exact offset in a word of 64
bits. The plan has sizes for exactly the parts that it counts, and the last part ends where the
payload does. -/
theorem interleaved_calls_place_parts {c : Config} {s : Sizing} (hs : Sizing.ofConfig c = .ok s)
    {length : ℕ} {plan : Plan} (hplan : s.plan length = .ok plan) (hparts : ¬plan.isSingle) :
    (∀ (calls : List Cursor.Call) (part : ℕ), 1 ≤ part → part ≤ plan.partCount →
      (part ≤ calls.count .number →
        (plan.cursor.answers .number calls)[part - 1]? = some part) ∧
      (part ≤ calls.count .offset →
        (plan.cursor.answers .offset calls)[part - 1]? = some ((part - 1) * plan.chunkSize)) ∧
      (part - 1) * plan.chunkSize = ((List.range' 1 (part - 1)).filterMap plan.partSize?).sum ∧
      (part - 1) * plan.chunkSize < length) ∧
    (∀ calls : List Cursor.Call, (plan.cursor.after calls).offset =
      calls.count .offset * plan.chunkSize % 2 ^ 64) ∧
    (∀ number, (plan.partSize? number).isSome ↔ 1 ≤ number ∧ number ≤ plan.partCount) ∧
    ∃ size, plan.partSize? plan.partCount = some size ∧
      (plan.partCount - 1) * plan.chunkSize + size = length := by
  have hadmissible := Sizing.admissible_of_ofConfig hs
  have hlarge : s.partSize < length := by
    rwa [Sizing.isSingle_iff hadmissible hplan, not_le] at hparts
  obtain ⟨hcovers, rfl⟩ := Sizing.covers_of_plan hadmissible hplan hlarge
  refine ⟨fun calls part hfirst hlast ↦ ?_, fun calls ↦ ?_, hcovers.partSize?_isSome_iff,
    _, hcovers.partSize?_partCount, ?_⟩
  · obtain ⟨index, rfl⟩ := Nat.exists_eq_add_of_le' hfirst
    have hindex : index < plan.partCount := hlast
    rw [Nat.add_sub_cancel]
    refine ⟨fun hcalled ↦ ?_, fun hcalled ↦ ?_, ?_, hcovers.slot_start_lt hindex⟩
    · rw [Cursor.getElem?_answers _ hcalled]
      exact congrArg (some ∘ Cursor.number) (hcovers.advanceNumber_cursor hindex)
    · rw [Cursor.getElem?_answers _ hcalled]
      exact congrArg (some ∘ Cursor.offset) (hcovers.advanceOffset_cursor hindex)
    · rw [Plan.filterMap_partSize?_of_lt hindex, List.sum_replicate, smul_eq_mul]
  · have hstart : plan.cursor.offset < UInt64.size := show 0 < UInt64.size by decide
    rw [Cursor.offset_after hstart]
    simp only [Plan.cursor, Nat.zero_add, UInt64.size, Nat.reducePow]
  · rw [Nat.mul_comm, hcovers.add_lastPartSize]

/-- The longest payload that a word can count goes up in two parts. Both offsets are exact, and the
one that is kept for a third part has wrapped to zero. -/
theorem offset_wraps_beyond_longest_payload :
    let c : Config :=
      { partSize := 9223372036854775808, maxPartSize := 9223372036854775808, partCountCeiling := 2 }
    let s := Sizing.ofLimits c
    let plan : Plan := ⟨2 ^ 64 - 1, 2 ^ 63, 2⟩
    let calls : List Cursor.Call := [.offset, .number, .offset, .number]
    Sizing.ofConfig c = .ok s ∧ s.plan (2 ^ 64 - 1) = .ok plan ∧ ¬plan.isSingle ∧
      (plan.cursor.answers .number calls)[1]? = some 2 ∧
      (plan.cursor.answers .offset calls)[1]? = some (2 ^ 63) ∧
      (plan.cursor.after calls).offset = 0 := by
  intro c s plan calls
  have hs : Sizing.ofConfig c = .ok s := by decide
  have hplan : s.plan (2 ^ 64 - 1) = .ok plan := by decide
  have hparts : ¬plan.isSingle := by decide
  obtain ⟨hplaced, hkept, -⟩ := interleaved_calls_place_parts hs hplan hparts
  obtain ⟨hnumber, hoffset, -⟩ := hplaced calls 2 (by decide) (by decide)
  have hsecond : (2 - 1) * plan.chunkSize = 2 ^ 63 := Nat.one_mul _
  have hcalled : calls.count .offset = 2 := by decide
  have hwrapped : calls.count .offset * plan.chunkSize % 2 ^ 64 = 0 := by
    rw [hcalled]
    norm_num [plan]
  exact ⟨hs, hplan, hparts, hnumber (by decide),
    (hoffset hcalled.ge).trans (congrArg some hsecond), (hkept calls).trans hwrapped⟩

end MultipartUpload
