import Mathlib.Algebra.Order.Floor.Div
import MultipartUpload.Proofs.Plan.Geometry

/-!
# Growth of parts

Parts grow by whole multiples of the part size. The multiple is the least one that leaves no more
parts than the ceiling allows, and where the greatest part size lies below it, the parts have that
size. Both phases are one formula, in which the multiple is one as long as parts do not grow.
Everything else follows from where the multiple first fits.
-/

namespace MultipartUpload.Sizing

/-- Whether a multiple of the part size is allowed as the size of parts, and cuts a payload into no
more parts than the ceiling. -/
structure Fits (s : Sizing) (length multiple : ℕ) : Prop where
  one_le : 1 ≤ multiple
  le_maxPartSize : multiple * s.partSize ≤ s.maxPartSize
  le_ceiling : length ⌈/⌉ (multiple * s.partSize) ≤ s.partCountCeiling

/-- The multiple of the part size from which on the parts of a payload are not too many. -/
def growth (s : Sizing) (length : ℕ) : ℕ :=
  ceilDiv (ceilDiv length s.partSize) s.partCountCeiling

variable {s : Sizing} {length multiple : ℕ}

theorem growth_le_iff (hs : s.Admissible) :
    s.growth length ≤ multiple ↔ length ≤ multiple * s.partSize * s.partCountCeiling := by
  rw [growth, ceilDiv_le_iff hs.ceiling_pos, ceilDiv_le_iff hs.partSize_pos]
  have hproduct : s.partSize * (s.partCountCeiling * multiple) =
      multiple * s.partSize * s.partCountCeiling := by ring
  rw [hproduct]

theorem one_le_growth (hs : s.Admissible) (hlength : 0 < length) : 1 ≤ s.growth length := by
  by_contra hzero
  have hle := (growth_le_iff hs).mp (Nat.le_of_lt_succ (Nat.not_le.mp hzero))
  rw [Nat.zero_mul, Nat.zero_mul] at hle
  omega

/-- A multiple fits from the growth of the payload on, as long as it is allowed. -/
theorem fits_iff (hs : s.Admissible) (hlength : 0 < length) :
    s.Fits length multiple ↔
      s.growth length ≤ multiple ∧ multiple * s.partSize ≤ s.maxPartSize := by
  have hceiling (hpos : 1 ≤ multiple) :
      length ⌈/⌉ (multiple * s.partSize) ≤ s.partCountCeiling ↔ s.growth length ≤ multiple := by
    rw [growth_le_iff hs]
    exact ceilDiv_le_iff_le_mul (Nat.mul_pos hpos hs.partSize_pos)
  constructor
  · rintro ⟨hpos, hmax, hfits⟩
    exact ⟨(hceiling hpos).mp hfits, hmax⟩
  · rintro ⟨hgrowth, hmax⟩
    have hpos := (one_le_growth hs hlength).trans hgrowth
    exact ⟨hpos, hmax, (hceiling hpos).mpr hgrowth⟩

/-- The size of the parts in both phases. -/
theorem chunkSize_eq_min (hs : s.Admissible) (hlength : 0 < length) :
    s.chunkSize length = min (s.growth length * s.partSize) s.maxPartSize := by
  simp only [chunkSize]
  split
  · rename_i hfew
    -- parts that are few enough are not grown
    have hone : s.growth length = 1 := by
      apply le_antisymm _ (one_le_growth hs hlength)
      rw [growth, ceilDiv_le_iff hs.ceiling_pos, Nat.mul_one]
      exact hfew
    rw [hone, Nat.one_mul, min_eq_left hs.partSize_le]
  · rfl

theorem growth_mono (hs : s.Admissible) {longer : ℕ} (h : length ≤ longer) :
    s.growth length ≤ s.growth longer := by
  rw [growth_le_iff hs]
  exact h.trans ((growth_le_iff hs).mp le_rfl)

theorem chunkSize_mono (hs : s.Admissible) {longer : ℕ} (hlength : 0 < length)
    (h : length ≤ longer) : s.chunkSize length ≤ s.chunkSize longer := by
  rw [chunkSize_eq_min hs hlength, chunkSize_eq_min hs (hlength.trans_le h)]
  exact min_le_min_right _ (Nat.mul_le_mul_right _ (growth_mono hs h))

/-- If a multiple fits, the least one is the growth of the payload, and parts have its size. -/
theorem Fits.isLeast_growth (hs : s.Admissible) (hlength : 0 < length)
    (h : s.Fits length multiple) :
    IsLeast {m | s.Fits length m} (s.growth length) ∧
      s.chunkSize length = s.growth length * s.partSize := by
  obtain ⟨hgrowth, hmax⟩ := (fits_iff hs hlength).mp h
  have hallowed : s.growth length * s.partSize ≤ s.maxPartSize :=
    (Nat.mul_le_mul_right _ hgrowth).trans hmax
  refine ⟨⟨(fits_iff hs hlength).mpr ⟨le_rfl, hallowed⟩, ?_⟩, ?_⟩
  · intro other hother
    exact ((fits_iff hs hlength).mp hother).1
  · rw [chunkSize_eq_min hs hlength, min_eq_left hallowed]

/-- If no multiple fits, parts have the greatest size that is allowed. -/
theorem chunkSize_of_not_fits (hs : s.Admissible) (hlength : 0 < length)
    (h : ¬∃ multiple, s.Fits length multiple) : s.chunkSize length = s.maxPartSize := by
  have hlarge : s.maxPartSize < s.growth length * s.partSize := by
    by_contra hallowed
    exact h ⟨_, (fits_iff hs hlength).mpr ⟨le_rfl, Nat.not_lt.mp hallowed⟩⟩
  rw [chunkSize_eq_min hs hlength, min_eq_right hlarge.le]

/-- Parts that have the size of a multiple that fits stay under the ceiling. -/
theorem partCount_le_ceiling (hs : s.Admissible) (hlength : 0 < length)
    (h : s.Fits length multiple) :
    ceilDiv length (s.chunkSize length) ≤ s.partCountCeiling := by
  obtain ⟨⟨hfits, -⟩, hchunk⟩ := h.isLeast_growth hs hlength
  rw [hchunk]
  exact hfits.le_ceiling

/-- A payload that is larger than one part is never taken whole if the ceiling allows two parts. -/
theorem chunkSize_lt (hs : s.Admissible) (hlarge : s.partSize < length)
    (hceiling : 2 ≤ s.partCountCeiling) : s.chunkSize length < length := by
  have hlength : 0 < length := Nat.zero_lt_of_lt hlarge
  rw [chunkSize_eq_min hs hlength]
  apply (min_le_left _ _).trans_lt
  rcases Nat.lt_or_ge (s.growth length) 2 with hone | hgrown
  · have hle : s.growth length * s.partSize ≤ 1 * s.partSize :=
      Nat.mul_le_mul_right _ (Nat.le_of_lt_succ hone)
    omega
  · -- one multiple less leaves too many parts, and twice that is at least as much
    have hless : ¬s.growth length ≤ s.growth length - 1 := by omega
    rw [growth_le_iff hs, Nat.not_le] at hless
    calc
      s.growth length * s.partSize ≤ 2 * (s.growth length - 1) * s.partSize :=
        Nat.mul_le_mul_right _ (by omega)
      _ = (s.growth length - 1) * s.partSize * 2 := by ring
      _ ≤ (s.growth length - 1) * s.partSize * s.partCountCeiling :=
        Nat.mul_le_mul_left _ hceiling
      _ < length := hless

/-- Under a configuration that passes its check, the parts of a payload that is cut have the size of
the least multiple that fits, or the greatest size if none does. So they are more than the ceiling
only if no multiple fits. The size of parts does not decrease with the length of the payload, and a
payload that is cut has at least two parts if the ceiling allows two. -/
theorem chunks_grow_by_least_multiple {c : Config} (hs : ofConfig c = .ok s) :
    (∀ length plan, s.partSize < length → s.plan length = .ok plan →
      ((∃ multiple, s.Fits length multiple) → ∃ multiple,
        IsLeast {m | s.Fits length m} multiple ∧ plan.chunkSize = multiple * s.partSize) ∧
      ((¬∃ multiple, s.Fits length multiple) → plan.chunkSize = s.maxPartSize) ∧
      (s.partCountCeiling < plan.partCount →
        plan.chunkSize = s.maxPartSize ∧ ¬∃ multiple, s.Fits length multiple)) ∧
    (∀ length longer plan longerPlan, s.plan length = .ok plan → s.plan longer = .ok longerPlan →
      length ≤ longer → plan.chunkSize ≤ longerPlan.chunkSize) ∧
    (2 ≤ s.partCountCeiling → ∀ length plan, s.plan length = .ok plan → ¬plan.isSingle →
      2 ≤ plan.partCount) := by
  have hadmissible := admissible_of_ofConfig hs
  have hplanned {length : ℕ} {plan : Plan} (hlarge : s.partSize < length)
      (hplan : s.plan length = .ok plan) :
      plan.chunkSize = s.chunkSize length ∧
        plan.partCount = ceilDiv length (s.chunkSize length) := by
    rw [plan_of_lt hadmissible hlarge ((plan_isOk_iff hadmissible).mp ⟨plan, hplan⟩)] at hplan
    cases hplan
    exact ⟨rfl, rfl⟩
  refine ⟨?_, ?_, ?_⟩
  · intro length plan hlarge hplan
    have hlength : 0 < length := Nat.zero_lt_of_lt hlarge
    obtain ⟨hchunk, hcount⟩ := hplanned hlarge hplan
    rw [hchunk, hcount]
    refine ⟨?_, chunkSize_of_not_fits hadmissible hlength, ?_⟩
    · rintro ⟨multiple, hfits⟩
      exact ⟨_, hfits.isLeast_growth hadmissible hlength⟩
    · intro hexceeds
      have hnone : ¬∃ multiple, s.Fits length multiple := by
        rintro ⟨multiple, hfits⟩
        exact hexceeds.not_ge (partCount_le_ceiling hadmissible hlength hfits)
      exact ⟨chunkSize_of_not_fits hadmissible hlength hnone, hnone⟩
  · intro length longer plan longerPlan hplan hlonger hle
    rcases Nat.lt_or_ge s.partSize length with hlarge | hsmall
    · rw [(hplanned hlarge hplan).1, (hplanned (hlarge.trans_le hle) hlonger).1]
      exact chunkSize_mono hadmissible (Nat.zero_lt_of_lt hlarge) hle
    · rw [plan_of_le hsmall] at hplan
      cases hplan
      rcases Nat.lt_or_ge s.partSize longer with hlarge | hshort
      · rw [(hplanned hlarge hlonger).1]
        exact partSize_le_chunkSize hadmissible hlarge
      · rw [plan_of_le hshort] at hlonger
        cases hlonger
        exact le_rfl
  · intro hceiling length plan hplan hcut
    rw [isSingle_iff hadmissible hplan, Nat.not_le] at hcut
    have hpos := hadmissible.partSize_pos.trans_le (partSize_le_chunkSize hadmissible hcut)
    rw [(hplanned hcut hplan).2]
    apply (lt_ceilDiv_iff hpos).mpr
    rw [Nat.mul_one]
    exact chunkSize_lt hadmissible hcut hceiling

/-- The greatest part size is no multiple of the part size. Parts of twice the part size are the
least that fit a payload of 20 bytes, and none fit one of 30 bytes, which goes up in more parts than
the ceiling. -/
theorem chunks_grow_up_to_greatest_size :
    let c : Config := { partSize := 5, minPartSize := 5, maxPartSize := 12, partCountCeiling := 2 }
    let s := ofLimits c
    ofConfig c = .ok s ∧ s.plan 20 = .ok ⟨20, 10, 2⟩ ∧ s.plan 30 = .ok ⟨30, 12, 3⟩ ∧
      (∃ multiple, IsLeast {m | s.Fits 20 m} multiple ∧ 10 = multiple * 5) ∧
      ¬∃ multiple, s.Fits 30 multiple := by
  intro c s
  have hs : ofConfig c = .ok s := by decide
  have hshort : s.plan 20 = .ok ⟨20, 10, 2⟩ := by decide
  have hlong : s.plan 30 = .ok ⟨30, 12, 3⟩ := by decide
  have hfits : s.Fits 20 2 := ⟨by decide, by decide, by decide⟩
  have hgrown := (chunks_grow_by_least_multiple hs).1
  exact ⟨hs, hshort, hlong, (hgrown 20 _ (by decide) hshort).1 ⟨2, hfits⟩,
    ((hgrown 30 _ (by decide) hlong).2.2 (by decide)).2⟩

end MultipartUpload.Sizing
