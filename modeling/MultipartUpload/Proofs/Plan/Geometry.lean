import Mathlib.Tactic
import MultipartUpload.Plan.Cursor
import MultipartUpload.Plan.Sizing

/-!
# Geometry of upload plans

Under limits that fit each other a payload can be planned exactly up to the greatest object size. A
plan with parts covers its payload: the parts before the last one end before the payload does, and
all of them together reach its end. The cursor therefore never wraps while it places a part.
-/

namespace MultipartUpload

/-! ## Quotients rounded up -/

theorem ceilDiv_le_iff {n d k : ℕ} (hd : 0 < d) : ceilDiv n d ≤ k ↔ n ≤ d * k := by
  rw [ceilDiv, Nat.div_le_iff_le_mul_add_pred hd]
  omega

theorem lt_ceilDiv_iff {n d k : ℕ} (hd : 0 < d) : k < ceilDiv n d ↔ d * k < n := by
  rw [← Nat.not_le, ceilDiv_le_iff hd, Nat.not_le]

@[simp]
theorem ceilDiv_zero (d : ℕ) : ceilDiv 0 d = 0 := by
  rcases Nat.eq_zero_or_pos d with rfl | hd
  · rfl
  · exact Nat.le_zero.mp ((ceilDiv_le_iff hd).mpr le_rfl)

/-- One divisor less takes one off the quotient, also when it does not fit. -/
theorem ceilDiv_sub_add_one {n d : ℕ} (hd : 0 < d) (hn : 0 < n) :
    ceilDiv (n - d) d + 1 = ceilDiv n d := by
  rcases Nat.lt_or_ge d n with hlong | hshort
  · rw [ceilDiv, ceilDiv, ← Nat.add_div_right _ hd]
    congr 1
    omega
  · rw [Nat.sub_eq_zero_of_le hshort, ceilDiv_zero]
    apply le_antisymm
    · exact (lt_ceilDiv_iff hd).mpr (by omega)
    · exact (ceilDiv_le_iff hd).mpr (by omega)

/-! ## Limits that fit each other -/

/-- What the check of a configuration says about its sizing. -/
structure Sizing.Admissible (s : Sizing) : Prop where
  partSize_pos : 0 < s.partSize
  partSize_le : s.partSize ≤ s.maxPartSize
  maxPartSize_lt : s.maxPartSize < UInt64.size
  ceiling_pos : 0 < s.partCountCeiling
  ceiling_le : s.partCountCeiling ≤ s.maxPartCount
  maxPartCount_le : s.maxPartCount ≤ Limits.maxPartCount.toNat

namespace Sizing

theorem eq_of_ofConfig {c : Config} {s : Sizing} (h : ofConfig c = .ok s) :
    c.validate = .ok () ∧ s = ofLimits c := by
  unfold ofConfig at h
  split at h
  · cases h
  · rename_i hvalid
    exact ⟨hvalid, (Except.ok.inj h).symm⟩

theorem admissible_of_ofConfig {c : Config} {s : Sizing} (h : ofConfig c = .ok s) :
    s.Admissible := by
  obtain ⟨hvalid, rfl⟩ := eq_of_ofConfig h
  simp only [Config.validate] at hvalid
  split_ifs at hvalid with hmin hmax hcount hceiling htag
  simp only [not_or, not_lt, UInt64.lt_iff_toNat_lt, UInt32.lt_iff_toNat_lt, ← UInt64.toNat_inj,
    ← UInt32.toNat_inj, UInt64.toNat_zero, UInt32.toNat_zero] at hmin hmax hcount hceiling
  exact {
    partSize_pos := by simp only [ofLimits]; omega
    partSize_le := hmax
    maxPartSize_lt := c.maxPartSize.toNat_lt
    ceiling_pos := Nat.pos_of_ne_zero hceiling.1
    ceiling_le := hceiling.2
    maxPartCount_le := hcount.2 }

variable {s : Sizing} {length : ℕ} {plan : Plan}

theorem partSize_le_maxObjectSize (hs : s.Admissible) : s.partSize ≤ s.maxObjectSize := by
  have hcount : 0 < s.maxPartCount := hs.ceiling_pos.trans_le hs.ceiling_le
  have hproduct : s.maxPartSize ≤ s.maxPartSize * s.maxPartCount :=
    Nat.le_mul_of_pos_right _ hcount
  have hle := hs.partSize_le
  have hlt := hs.maxPartSize_lt
  simp only [maxObjectSize, le_min_iff, UInt64.size] at hlt ⊢
  omega

theorem partSize_le_chunkSize (hs : s.Admissible) (hlength : s.partSize < length) :
    s.partSize ≤ s.chunkSize length := by
  simp only [chunkSize]
  split
  · exact le_rfl
  · refine le_min (Nat.le_mul_of_pos_left _ ?_) hs.partSize_le
    rw [lt_ceilDiv_iff hs.ceiling_pos, mul_zero, lt_ceilDiv_iff hs.partSize_pos, mul_zero]
    exact hs.partSize_pos.trans hlength

/-- The parts that a payload within the limits is cut into are not too many. -/
theorem partCount_le (hs : s.Admissible) (hlength : s.partSize < length)
    (hmax : length ≤ s.maxObjectSize) :
    ceilDiv length (s.chunkSize length) ≤ s.maxPartCount := by
  have hpos : 0 < s.chunkSize length :=
    hs.partSize_pos.trans_le (partSize_le_chunkSize hs hlength)
  rw [ceilDiv_le_iff hpos]
  simp only [chunkSize]
  split
  · rename_i hfits
    exact (ceilDiv_le_iff hs.partSize_pos).mp (hfits.trans hs.ceiling_le)
  · rcases min_cases (ceilDiv (ceilDiv length s.partSize) s.partCountCeiling * s.partSize)
      s.maxPartSize with ⟨hgrown, -⟩ | ⟨hcapped, -⟩
    · rw [hgrown]
      -- The multiple was chosen so that the parts fit under the ceiling.
      have hparts := (ceilDiv_le_iff hs.ceiling_pos).mp
        (le_refl (ceilDiv (ceilDiv length s.partSize) s.partCountCeiling))
      have hcovered := (ceilDiv_le_iff hs.partSize_pos).mp hparts
      calc
        length ≤ s.partSize * (s.partCountCeiling *
            ceilDiv (ceilDiv length s.partSize) s.partCountCeiling) := hcovered
        _ = ceilDiv (ceilDiv length s.partSize) s.partCountCeiling * s.partSize *
            s.partCountCeiling := by ring
        _ ≤ _ := Nat.mul_le_mul_left _ hs.ceiling_le
    · rw [hcapped]
      exact hmax.trans (min_le_left _ _)

end Sizing

/-! ## Plans with parts -/

/-- A plan whose parts cover its payload, as far as words can count. -/
structure Plan.Covers (plan : Plan) : Prop where
  chunkSize_pos : 0 < plan.chunkSize
  partCount_pos : 0 < plan.partCount
  before_last : plan.chunkSize * (plan.partCount - 1) < plan.totalLength
  reaches_end : plan.totalLength ≤ plan.chunkSize * plan.partCount
  partCount_le : plan.partCount ≤ Limits.maxPartCount.toNat
  totalLength_lt : plan.totalLength < UInt64.size

theorem Plan.Covers.partCount_succ_lt {plan : Plan} (hplan : plan.Covers) :
    plan.partCount + 1 < UInt32.size :=
  (Nat.succ_le_succ hplan.partCount_le).trans_lt (by decide)

theorem Plan.Covers.ceilDiv_eq {plan : Plan} (hplan : plan.Covers) :
    ceilDiv plan.totalLength plan.chunkSize = plan.partCount := by
  apply le_antisymm
  · exact (ceilDiv_le_iff hplan.chunkSize_pos).mpr hplan.reaches_end
  · exact Nat.le_of_pred_lt ((lt_ceilDiv_iff hplan.chunkSize_pos).mpr hplan.before_last)

namespace Sizing

variable {s : Sizing} {length : ℕ} {plan : Plan}

theorem plan_of_le (h : length ≤ s.partSize) : s.plan length = .ok ⟨length, s.partSize, 0⟩ := by
  simp only [Sizing.plan, if_pos h]

theorem plan_of_lt (hs : s.Admissible) (hlength : s.partSize < length)
    (hmax : length ≤ s.maxObjectSize) : s.plan length =
      .ok ⟨length, s.chunkSize length, ceilDiv length (s.chunkSize length)⟩ := by
  have hcount := partCount_le hs hlength hmax
  have hword : s.maxPartCount < UInt32.size := hs.maxPartCount_le.trans_lt (by decide)
  simp only [Sizing.plan, if_neg (Nat.not_le.mpr hlength), if_neg (Nat.not_lt.mpr hmax),
    if_pos (And.intro (hcount.trans_lt hword) hcount)]

/-- The number of parts fits into its word, whatever the limits are. -/
theorem partCount_lt_of_plan (hplan : s.plan length = .ok plan) :
    plan.partCount < UInt32.size := by
  unfold Sizing.plan at hplan
  simp only at hplan
  split at hplan
  · cases hplan
    exact Nat.two_pow_pos 32
  · split_ifs at hplan with hmax hcount
    cases hplan
    exact hcount.1

theorem plan_of_maxObjectSize_lt (hs : s.Admissible) (h : s.maxObjectSize < length) :
    s.plan length = .error ⟨length, s.maxObjectSize⟩ := by
  have hlength := (partSize_le_maxObjectSize hs).trans_lt h
  simp only [Sizing.plan, if_neg (Nat.not_le.mpr hlength), if_pos h]

/-- A payload can be planned exactly up to the greatest object size. -/
theorem plan_isOk_iff (hs : s.Admissible) :
    (∃ plan, s.plan length = .ok plan) ↔ length ≤ s.maxObjectSize := by
  constructor
  · rintro ⟨plan, hplan⟩
    by_contra hmax
    rw [plan_of_maxObjectSize_lt hs (Nat.not_le.mp hmax)] at hplan
    cases hplan
  · intro hmax
    rcases Nat.lt_or_ge s.partSize length with hlength | hlength
    · exact ⟨_, plan_of_lt hs hlength hmax⟩
    · exact ⟨_, plan_of_le hlength⟩

/-- The parts of a payload that is larger than one part cover it. -/
theorem covers_of_plan (hs : s.Admissible) (hplan : s.plan length = .ok plan)
    (hlarge : s.partSize < length) : plan.Covers ∧ plan.totalLength = length := by
  have hmax : length ≤ s.maxObjectSize := (plan_isOk_iff hs).mp ⟨plan, hplan⟩
  rw [plan_of_lt hs hlarge hmax] at hplan
  cases hplan
  have hpos : 0 < s.chunkSize length :=
    hs.partSize_pos.trans_le (partSize_le_chunkSize hs hlarge)
  have hcount : 0 < ceilDiv length (s.chunkSize length) := by
    rw [lt_ceilDiv_iff hpos, mul_zero]
    exact hs.partSize_pos.trans hlarge
  refine ⟨⟨hpos, hcount, ?_, ?_, ?_, ?_⟩, rfl⟩
  · exact (lt_ceilDiv_iff hpos).mp (Nat.sub_lt hcount Nat.one_pos)
  · exact (ceilDiv_le_iff hpos).mp le_rfl
  · exact (partCount_le hs hlarge hmax).trans hs.maxPartCount_le
  · have hword := hmax.trans (min_le_right _ (UInt64.size - 1))
    simp only [UInt64.size] at hword ⊢
    omega

/-- A payload goes up as one object exactly if it is not larger than one part. -/
theorem isSingle_iff (hs : s.Admissible) (hplan : s.plan length = .ok plan) :
    plan.isSingle ↔ length ≤ s.partSize := by
  constructor
  · intro hsingle
    by_contra hlarge
    have hcount := (covers_of_plan hs hplan (Nat.not_le.mp hlarge)).1.partCount_pos
    simp only [Plan.isSingle, beq_iff_eq] at hsingle
    omega
  · intro hsmall
    rw [plan_of_le hsmall] at hplan
    cases hplan
    rfl

end Sizing

/-! ## Sizes of parts -/

namespace Plan

variable {plan : Plan}

theorem Covers.isSingle_eq_false (hplan : plan.Covers) : plan.isSingle = false := by
  simpa [isSingle] using hplan.partCount_pos.ne'

/-- The parts before the last one and the last part itself make up the payload. -/
theorem Covers.add_lastPartSize (hplan : plan.Covers) :
    plan.chunkSize * (plan.partCount - 1) + plan.lastPartSize = plan.totalLength := by
  have hbefore := hplan.before_last
  simp only [lastPartSize, hplan.isSingle_eq_false, Bool.false_eq_true, if_false]
  omega

theorem Covers.lastPartSize_pos (hplan : plan.Covers) : 0 < plan.lastPartSize := by
  have hsum := hplan.add_lastPartSize
  have hbefore := hplan.before_last
  omega

theorem Covers.lastPartSize_le (hplan : plan.Covers) : plan.lastPartSize ≤ plan.chunkSize := by
  have hcount : plan.partCount = plan.partCount - 1 + 1 :=
    (Nat.sub_add_cancel hplan.partCount_pos).symm
  have hreach := hplan.reaches_end
  rw [← hplan.add_lastPartSize, hcount, Nat.mul_add, Nat.mul_one, Nat.add_sub_cancel] at hreach
  exact Nat.le_of_add_le_add_left hreach

theorem partSize?_of_lt {number : ℕ} (hpos : 0 < number) (hlt : number < plan.partCount) :
    plan.partSize? number = some plan.chunkSize := by
  simp only [partSize?, if_neg hpos.ne', if_pos hlt]

theorem Covers.partSize?_partCount (hplan : plan.Covers) :
    plan.partSize? plan.partCount = some plan.lastPartSize := by
  simp only [partSize?, if_neg hplan.partCount_pos.ne', lt_irrefl, if_false, if_true]

/-! ## Slots -/

/-- The slot of a part, counted from zero. -/
def slot (plan : Plan) (index : ℕ) : Slot :=
  ⟨index + 1, index * plan.chunkSize,
    min plan.chunkSize (plan.totalLength - index * plan.chunkSize)⟩

theorem Covers.slot_start_lt (hplan : plan.Covers) {index : ℕ} (h : index < plan.partCount) :
    index * plan.chunkSize < plan.totalLength := by
  calc
    index * plan.chunkSize = plan.chunkSize * index := Nat.mul_comm _ _
    _ ≤ plan.chunkSize * (plan.partCount - 1) :=
      Nat.mul_le_mul_left _ (Nat.le_sub_one_of_lt h)
    _ < plan.totalLength := hplan.before_last

theorem Covers.slot_size_pos (hplan : plan.Covers) {index : ℕ} (h : index < plan.partCount) :
    0 < (plan.slot index).size := by
  have := hplan.slot_start_lt h
  simp only [slot, lt_min_iff]
  exact ⟨hplan.chunkSize_pos, by omega⟩

theorem Covers.partSize?_succ (hplan : plan.Covers) {index : ℕ} (h : index < plan.partCount) :
    plan.partSize? (index + 1) = some (plan.slot index).size := by
  rcases Nat.lt_or_ge (index + 1) plan.partCount with hinner | hlast
  · have hnext := hplan.slot_start_lt hinner
    rw [Nat.add_mul, Nat.one_mul] at hnext
    rw [partSize?_of_lt index.succ_pos hinner, slot, min_eq_left (by omega)]
  · have hcount : index + 1 = plan.partCount := by omega
    have hsum := hplan.add_lastPartSize
    have hle := hplan.lastPartSize_le
    rw [← hcount, Nat.add_sub_cancel, Nat.mul_comm] at hsum
    rw [hcount, hplan.partSize?_partCount, slot, ← hsum, Nat.add_sub_cancel_left,
      min_eq_right hle]

theorem Covers.partSizes_eq (hplan : plan.Covers) :
    plan.partSizes = (List.range plan.partCount).map fun index ↦ (plan.slot index).size := by
  rw [partSizes, List.range'_eq_map_range, List.filterMap_map, ← List.filterMap_eq_map]
  apply List.filterMap_congr
  intro index hindex
  rw [Function.comp_apply, Nat.add_comm]
  exact hplan.partSize?_succ (List.mem_range.mp hindex)

end Plan

/-- The slots of parts with the given sizes, numbered and placed by the cursor. -/
def Cursor.slots (cursor : Cursor) : List ℕ → List Slot
  | [] => []
  | size :: sizes =>
    ⟨cursor.number, cursor.offset, size⟩ :: cursor.advanceNumber.advanceOffset.slots sizes

/-- The slots of all parts in order. -/
def Plan.slots (plan : Plan) : List Slot :=
  plan.cursor.slots plan.partSizes

/-- As long as the words do not wrap, the cursor counts up by one and by the chunk size. -/
theorem Cursor.slots_eq_mapIdx (sizes : List ℕ) (chunkSize number offset : ℕ)
    (hnumber : number + sizes.length ≤ UInt32.size)
    (hoffset : offset + chunkSize * (sizes.length - 1) < UInt64.size) :
    Cursor.slots ⟨chunkSize, number, offset⟩ sizes =
      sizes.mapIdx fun index size ↦ ⟨number + index, offset + index * chunkSize, size⟩ := by
  induction sizes generalizing number offset with
  | nil => rfl
  | cons size sizes ih =>
    cases sizes with
    | nil => simp [Cursor.slots]
    | cons next sizes =>
      simp only [List.length_cons, Nat.add_sub_cancel] at hnumber hoffset ih
      rw [Nat.mul_add, Nat.mul_one] at hoffset
      have hnext : number + 1 < UInt32.size := by omega
      have hshifted : offset + chunkSize < UInt64.size := by omega
      rw [Cursor.slots, List.mapIdx_cons]
      simp only [advanceNumber, advanceOffset]
      rw [Nat.mod_eq_of_lt hnext, Nat.mod_eq_of_lt hshifted,
        ih (number + 1) (offset + chunkSize) (by omega) (by omega)]
      simp only [Nat.add_zero, Nat.zero_mul, Nat.add_mul, Nat.one_mul, Nat.add_assoc,
        Nat.add_comm 1, Nat.add_comm chunkSize]

/-- The slots of a plan are numbered from one and lie side by side. -/
theorem Plan.Covers.slots_eq {plan : Plan} (hplan : plan.Covers) :
    plan.slots = (List.range plan.partCount).map plan.slot := by
  have hcount := hplan.partCount_le
  have hlimit : Limits.maxPartCount.toNat < UInt32.size := by decide
  have hsizes : plan.partSizes.length = plan.partCount := by
    rw [hplan.partSizes_eq, List.length_map, List.length_range]
  have hnumber : 1 + plan.partSizes.length ≤ UInt32.size := by omega
  have hoffset : 0 + plan.chunkSize * (plan.partSizes.length - 1) < UInt64.size := by
    rw [hsizes, Nat.zero_add]
    exact hplan.before_last.trans hplan.totalLength_lt
  rw [slots, cursor, Cursor.slots_eq_mapIdx _ _ _ _ hnumber hoffset, hplan.partSizes_eq]
  apply List.ext_getElem (by simp)
  intro index hleft hright
  simp [slot, Nat.add_comm]

/-- While it places parts, the cursor has counted its offset up by whole chunks. -/
theorem Plan.Covers.advanceOffset_cursor {plan : Plan} (hplan : plan.Covers) {index : ℕ}
    (h : index < plan.partCount) : Cursor.advanceOffset^[index] plan.cursor =
      { plan.cursor with offset := index * plan.chunkSize } := by
  induction index with
  | zero =>
    rw [Nat.zero_mul]
    rfl
  | succ index ih =>
    have hoffset := (hplan.slot_start_lt h).trans hplan.totalLength_lt
    rw [Nat.succ_mul] at hoffset
    rw [Function.iterate_succ_apply', ih (Nat.lt_of_succ_lt h), Nat.succ_mul]
    simp only [cursor, Cursor.advanceOffset, Nat.mod_eq_of_lt hoffset]

theorem Plan.Covers.length_slots {plan : Plan} (hplan : plan.Covers) :
    plan.slots.length = plan.partCount := by
  rw [hplan.slots_eq, List.length_map, List.length_range]

theorem Plan.Covers.slot_number_le {plan : Plan} (hplan : plan.Covers) {slot : Slot}
    (hmem : slot ∈ plan.slots) : 1 ≤ slot.number ∧ slot.number ≤ plan.partCount := by
  rw [hplan.slots_eq] at hmem
  obtain ⟨index, hindex, rfl⟩ := List.mem_map.mp hmem
  exact ⟨Nat.succ_pos index, List.mem_range.mp hindex⟩

theorem Plan.Covers.slot_number_bounds {plan : Plan} (hplan : plan.Covers) {slot : Slot}
    (hmem : slot ∈ plan.slots) : 1 ≤ slot.number ∧ slot.number ≤ Limits.maxPartCount.toNat := by
  obtain ⟨hpos, hle⟩ := hplan.slot_number_le hmem
  exact ⟨hpos, hle.trans hplan.partCount_le⟩

theorem Plan.Covers.slot_numbers {plan : Plan} (hplan : plan.Covers) :
    plan.slots.map Slot.number = List.range' 1 plan.partCount := by
  rw [hplan.slots_eq, List.map_map, List.range'_eq_map_range]
  apply List.map_congr_left
  intro index _
  simp [slot, Nat.add_comm]

end MultipartUpload
