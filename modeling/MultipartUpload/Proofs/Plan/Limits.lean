import MultipartUpload.Proofs.Plan.Geometry

/-!
# Plans within limits

A configuration whose limits fit each other plans exactly the payloads up to its greatest object
size. The parts of a plan keep to these limits, all but the last have the chunk size, and together
they are as long as the payload. Nothing that is computed from a plan leaves a word of 64 bits.
-/

namespace MultipartUpload

/-! ## Sizes of parts -/

namespace Plan

variable {plan : Plan}

/-- The parts before the last one have the chunk size. -/
theorem filterMap_partSize?_of_lt {count : ℕ} (h : count < plan.partCount) :
    (List.range' 1 count).filterMap plan.partSize? = List.replicate count plan.chunkSize := by
  calc
    (List.range' 1 count).filterMap plan.partSize? =
        (List.range' 1 count).filterMap fun _ ↦ some plan.chunkSize := by
      apply List.filterMap_congr
      intro number hnumber
      rw [List.mem_range'_1] at hnumber
      exact partSize?_of_lt (by omega) (by omega)
    _ = List.replicate count plan.chunkSize := by
      simp [List.filterMap_eq_map', List.map_const']

/-- All parts have the chunk size, except that the last one has what remains. -/
theorem Covers.partSizes_eq_replicate_append (hplan : plan.Covers) :
    plan.partSizes =
      List.replicate (plan.partCount - 1) plan.chunkSize ++ [plan.lastPartSize] := by
  have hnumbers : List.range' 1 plan.partCount =
      List.range' 1 (plan.partCount - 1) ++ [plan.partCount] := by
    conv_lhs => rw [← Nat.sub_add_cancel hplan.partCount_pos]
    rw [List.range'_concat, Nat.one_mul, Nat.add_sub_cancel' hplan.partCount_pos]
  have hlast : [plan.partCount].filterMap plan.partSize? = [plan.lastPartSize] :=
    List.filterMap_cons_some hplan.partSize?_partCount
  rw [partSizes, hnumbers, List.filterMap_append,
    filterMap_partSize?_of_lt (Nat.sub_lt hplan.partCount_pos Nat.one_pos), hlast]

theorem Covers.sum_partSizes (hplan : plan.Covers) : plan.partSizes.sum = plan.totalLength := by
  calc
    plan.partSizes.sum = (plan.partCount - 1) * plan.chunkSize + plan.lastPartSize := by
      rw [hplan.partSizes_eq_replicate_append, List.sum_append, List.sum_replicate, smul_eq_mul,
        List.sum_singleton]
    _ = plan.totalLength := by rw [Nat.mul_comm, hplan.add_lastPartSize]

end Plan

/-! ## Limits -/

namespace Sizing

theorem minPartSize_le_partSize {c : Config} (hvalid : c.validate = .ok ()) :
    c.minPartSize ≤ c.partSize := by
  simp only [Config.validate] at hvalid
  split_ifs at hvalid with hmin
  rw [not_or] at hmin
  exact UInt64.not_lt.mp hmin.2

theorem chunkSize_le_maxPartSize {s : Sizing} (hs : s.Admissible) (length : ℕ) :
    s.chunkSize length ≤ s.maxPartSize := by
  simp only [chunkSize]
  split
  · exact hs.partSize_le
  · exact min_le_right _ _

end Sizing

/-- How a payload is spread over parts within the limits of a configuration. -/
structure Plan.WithinLimits (plan : Plan) (c : Config) (length : ℕ) : Prop where
  partCount_pos : 1 ≤ plan.partCount
  partCount_le : plan.partCount ≤ c.maxPartCount.toNat
  minPartSize_le : c.minPartSize.toNat ≤ c.partSize.toNat
  partSize_le : c.partSize.toNat ≤ plan.chunkSize
  chunkSize_le : plan.chunkSize ≤ c.maxPartSize.toNat
  /-- All parts have the chunk size, except that the last one may be shorter. -/
  sizes : plan.partSizes =
    List.replicate (plan.partCount - 1) plan.chunkSize ++ [plan.lastPartSize]
  last_pos : 1 ≤ plan.lastPartSize
  last_le : plan.lastPartSize ≤ plan.chunkSize
  sum_sizes : plan.partSizes.sum = length
  /-- The length of the parts before the last one fits into a word. -/
  inner_lt : plan.chunkSize * (plan.partCount - 1) < UInt64.size
  /-- It can be taken off the length of the payload. -/
  inner_le : plan.chunkSize * (plan.partCount - 1) ≤ plan.totalLength

theorem Plan.Covers.withinLimits {plan : Plan} {c : Config} {length : ℕ} (hplan : plan.Covers)
    (hlength : plan.totalLength = length) (hcount : plan.partCount ≤ c.maxPartCount.toNat)
    (hmin : c.minPartSize ≤ c.partSize) (hpart : c.partSize.toNat ≤ plan.chunkSize)
    (hchunk : plan.chunkSize ≤ c.maxPartSize.toNat) : plan.WithinLimits c length where
  partCount_pos := hplan.partCount_pos
  partCount_le := hcount
  minPartSize_le := hmin
  partSize_le := hpart
  chunkSize_le := hchunk
  sizes := hplan.partSizes_eq_replicate_append
  last_pos := hplan.lastPartSize_pos
  last_le := hplan.lastPartSize_le
  sum_sizes := hplan.sum_partSizes.trans hlength
  inner_lt := hplan.before_last.trans hplan.totalLength_lt
  inner_le := hplan.before_last.le

/-- Under a configuration that passes its check a payload is planned if and only if it is no longer
than the greatest object size, and the error says so otherwise: the number of parts is never what is
wrong. The plan has no parts exactly if the payload fits into one, and else it keeps to all
limits. -/
theorem plan_keeps_limits {c : Config} {s : Sizing} (hs : Sizing.ofConfig c = .ok s)
    (length : ℕ) :
    c.maxObjectSize = min (c.maxPartSize.toNat * c.maxPartCount.toNat) (2 ^ 64 - 1) ∧
    ((∃ plan, s.plan length = .ok plan) ↔ length ≤ c.maxObjectSize) ∧
    (c.maxObjectSize < length → s.plan length = .error ⟨length, c.maxObjectSize⟩) ∧
    (s.partSize < length → length ≤ c.maxObjectSize →
      ceilDiv length (s.chunkSize length) ≤ s.maxPartCount) ∧
    ∀ plan, s.plan length = .ok plan →
      (plan.partCount = 0 ↔ length ≤ c.partSize.toNat) ∧
      (c.partSize.toNat < length → plan.WithinLimits c length) := by
  have hadmissible := Sizing.admissible_of_ofConfig hs
  obtain ⟨hvalid, rfl⟩ := Sizing.eq_of_ofConfig hs
  refine ⟨rfl, Sizing.plan_isOk_iff hadmissible, Sizing.plan_of_maxObjectSize_lt hadmissible,
    Sizing.partCount_le hadmissible, ?_⟩
  intro plan hplan
  constructor
  · rw [← beq_iff_eq]
    exact Sizing.isSingle_iff hadmissible hplan
  · intro hlarge
    have hmax := (Sizing.plan_isOk_iff hadmissible).mp ⟨plan, hplan⟩
    obtain ⟨hcovers, hlength⟩ := Sizing.covers_of_plan hadmissible hplan hlarge
    rw [Sizing.plan_of_lt hadmissible hlarge hmax] at hplan
    cases hplan
    apply hcovers.withinLimits hlength
    · exact Sizing.partCount_le hadmissible hlarge hmax
    · exact Sizing.minPartSize_le_partSize hvalid
    · exact Sizing.partSize_le_chunkSize hadmissible hlarge
    · exact Sizing.chunkSize_le_maxPartSize hadmissible length

/-- The product of the limits does not fit into a word, and the longest payload that a word can
count goes up in three parts, which are longer than the part size by a factor of about 2 ^ 60. -/
theorem longest_payload_keeps_limits :
    let c : Config :=
      { partSize := 5, minPartSize := 5, maxPartSize := 9223372036854775808, partCountCeiling := 3 }
    Sizing.ofConfig c = .ok (.ofLimits c) ∧
    Plan.WithinLimits ⟨2 ^ 64 - 1, 6148914691236517205, 3⟩ c (2 ^ 64 - 1) := by
  intro c
  have hs : Sizing.ofConfig c = .ok (.ofLimits c) := by decide
  have hplan : (Sizing.ofLimits c).plan (2 ^ 64 - 1) =
      .ok ⟨2 ^ 64 - 1, 6148914691236517205, 3⟩ := by decide
  exact ⟨hs, ((plan_keeps_limits hs (2 ^ 64 - 1)).2.2.2.2 _ hplan).2 (by decide)⟩

end MultipartUpload
