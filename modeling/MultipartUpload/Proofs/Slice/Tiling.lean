import MultipartUpload.Proofs.Plan.Geometry
import MultipartUpload.Slice

/-!
# Tilings of payloads

Parts tile a stretch of bytes if each starts where the one before it ends. Parts that tile a stretch
and hold the bytes of a source at their offsets join to the bytes of the source in that stretch. The
standard slicer only offers parts that hold the bytes at their offsets, and it offers the parts of a
plan if the source is as long as the plan says.
-/

namespace MultipartUpload

/-- Parts that are not empty and lie side by side from one position to another. -/
inductive Tiles : ℕ → List Part → ℕ → Prop where
  | nil {position} : Tiles position [] position
  | cons {part parts stop} (hpos : 0 < part.size)
      (hrest : Tiles (part.offset + part.size) parts stop) : Tiles part.offset (part :: parts) stop

/-- Whether a part holds the bytes of a source at its offset. -/
def Part.IsSliceOf (part : Part) (data : Bytes) : Prop :=
  part.data <+: data.drop part.offset

namespace Tiles

variable {start stop : ℕ} {parts : List Part}

theorem sum_sizes (h : Tiles start parts stop) :
    start + (parts.map Part.size).sum = stop := by
  induction h with
  | nil => rfl
  | @cons part parts stop _ _ ih =>
    calc
      part.offset + ((part :: parts).map Part.size).sum =
          part.offset + part.size + (parts.map Part.size).sum := by
        rw [List.map_cons, List.sum_cons, Nat.add_assoc]
      _ = stop := ih

theorem flatMap_data (h : Tiles start parts stop) {data : Bytes}
    (hslices : ∀ part ∈ parts, part.IsSliceOf data) :
    parts.flatMap Part.data = (data.drop start).take (stop - start) := by
  induction h with
  | nil => simp
  | @cons part parts stop _ hrest ih =>
    have hpart : part.data = (data.drop part.offset).take part.size :=
      List.prefix_iff_eq_take.mp (hslices part (by simp))
    have hstop := hrest.sum_sizes
    have hsize : part.size + (stop - (part.offset + part.size)) = stop - part.offset := by omega
    calc
      (part :: parts).flatMap Part.data = part.data ++ parts.flatMap Part.data :=
        List.flatMap_cons
      _ = (data.drop part.offset).take part.size ++
          (data.drop (part.offset + part.size)).take (stop - (part.offset + part.size)) := by
        rw [ih fun next hnext ↦ hslices next (List.mem_cons_of_mem _ hnext), ← hpart]
      _ = (data.drop part.offset).take (stop - part.offset) := by
        rw [← List.drop_drop, ← List.take_add, hsize]

/-- Slices of a source that tile a stretch end where the source does, at the latest. -/
theorem stop_le (h : Tiles start parts stop) {data : Bytes}
    (hslices : ∀ part ∈ parts, part.IsSliceOf data) (hstart : start ≤ data.length) :
    stop ≤ data.length := by
  have hlength := congrArg List.length (h.flatMap_data hslices)
  have hsum := h.sum_sizes
  rw [List.length_flatMap, List.length_take, List.length_drop] at hlength
  change (parts.map Part.size).sum = _ at hlength
  omega

end Tiles

/-! ## Cutting -/

namespace Part

/-- A given number of parts of one size, cut from the front of some bytes. -/
def cut (chunkSize : ℕ) : ℕ → ℕ → Bytes → List Part
  | 0, _, _ => []
  | count + 1, offset, data =>
    ⟨offset, data.take chunkSize⟩ ::
      cut chunkSize count (offset + chunkSize) (data.drop chunkSize)

/-- The walk over some bytes cuts as many parts as it takes to come to their end. -/
theorem walk_eq_cut {chunkSize : ℕ} (hchunk : 0 < chunkSize) (start : ℕ) (rest : Bytes) :
    walk chunkSize start rest = cut chunkSize (ceilDiv rest.length chunkSize) start rest := by
  induction hlength : rest.length using Nat.strong_induction_on generalizing start rest with
  | _ length ih =>
    subst hlength
    rw [walk]
    rcases eq_or_ne rest [] with rfl | hne
    · rw [if_pos (.inr rfl), List.length_nil, ceilDiv_zero, cut]
    · have hpos : 0 < rest.length := List.length_pos_iff.mpr hne
      have hnext := ih (rest.length - chunkSize) (by omega)
        (start + size ⟨start, rest.take chunkSize⟩) (rest.drop chunkSize) List.length_drop
      rw [if_neg (not_or.mpr ⟨hchunk.ne', hne⟩), ← ceilDiv_sub_add_one hchunk hpos, cut]
      simp only [hnext]
      rcases Nat.lt_or_ge chunkSize rest.length with hinner | hlast
      · rw [size, List.length_take, min_eq_left hinner.le]
      · -- There is nothing left, so it does not matter where the next part would start.
        rw [Nat.sub_eq_zero_of_le hlast, ceilDiv_zero, cut, cut]

theorem ofBytes_eq_cut {chunkSize : ℕ} (hchunk : 0 < chunkSize) (data : Bytes) :
    ofBytes chunkSize data = cut chunkSize (ceilDiv data.length chunkSize) 0 data :=
  walk_eq_cut hchunk 0 data

theorem isSliceOf_of_mem_cut {chunkSize count offset : ℕ} {rest data : Bytes}
    (hrest : rest <+: data.drop offset) {part : Part}
    (h : part ∈ cut chunkSize count offset rest) : part.IsSliceOf data := by
  induction count generalizing offset rest with
  | zero => cases h
  | succ count ih =>
    rcases List.mem_cons.mp h with rfl | hmem
    · exact (List.take_prefix chunkSize rest).trans hrest
    · refine ih ?_ hmem
      rw [← List.drop_drop]
      exact hrest.drop chunkSize

theorem getElem?_cut {chunkSize count offset : ℕ} {data : Bytes} {index : ℕ}
    (h : index < count) : (cut chunkSize count offset data)[index]? =
      some ⟨offset + index * chunkSize, (data.drop (index * chunkSize)).take chunkSize⟩ := by
  induction count generalizing offset data index with
  | zero => omega
  | succ count ih =>
    cases index with
    | zero => simp [cut]
    | succ index =>
      rw [cut, List.getElem?_cons_succ, ih (Nat.lt_of_succ_lt_succ h), List.drop_drop]
      congr 2 <;> ring_nf

theorem length_cut (chunkSize count offset : ℕ) (data : Bytes) :
    (cut chunkSize count offset data).length = count := by
  induction count generalizing offset data with
  | zero => rfl
  | succ count ih => rw [cut, List.length_cons, ih]

end Part

/-! ## Reading files -/

namespace FileReader

theorem isSliceOf_of_mem_parts (reader : FileReader) {data : Bytes}
    (hrest : reader.rest = data.drop reader.offset) {part : Part}
    (h : .ok part ∈ reader.parts) : part.IsSliceOf data := by
  fun_induction parts reader with
  | case1 | case2 | case3 => simp at h
  | case4 reader head _ _ _ ih =>
    rcases List.mem_cons.mp h with heq | hmem
    · cases heq
      rw [Part.IsSliceOf, ← hrest]
      exact List.take_prefix reader.wanted reader.rest
    · refine ih ?_ hmem
      simp only [advance, hrest, List.drop_drop]

/-- A file that is as long as declared is cut like bytes in memory. -/
theorem parts_eq_cut (path : String) (chunkSize offset remaining : ℕ) (rest : Bytes)
    (hchunk : 0 < chunkSize) (hremaining : remaining ≤ rest.length) :
    parts ⟨path, chunkSize, offset, some remaining, rest⟩ =
      (Part.cut chunkSize (ceilDiv remaining chunkSize) offset (rest.take remaining)).map
        .ok := by
  induction remaining using Nat.strong_induction_on generalizing offset rest with
  | _ remaining ih =>
    rcases Nat.eq_zero_or_pos remaining with rfl | hpos
    · rw [parts, ceilDiv_zero]
      simp [wanted, Part.cut]
    · have hne : rest ≠ [] := List.ne_nil_of_length_pos (hpos.trans_le hremaining)
      have hwanted : 0 < min remaining chunkSize := lt_min hpos hchunk
      rw [parts, ← ceilDiv_sub_add_one hchunk hpos]
      simp only [wanted, hwanted.ne', if_false, List.length_take, Option.isSome_some, and_true,
        hne, advance, Option.map_some, Part.cut, List.map_cons]
      rw [if_neg (by omega), List.take_take, min_comm chunkSize remaining]
      congr 1
      rcases Nat.lt_or_ge chunkSize remaining with hlong | hshort
      · rw [min_eq_right hlong.le, List.drop_take]
        exact ih (remaining - chunkSize) (by omega) _ _ (by rw [List.length_drop]; omega)
      · rw [min_eq_left hshort, Nat.sub_eq_zero_of_le hshort, Nat.sub_self, ceilDiv_zero, parts]
        simp [wanted, Part.cut]

end FileReader

/-! ## The standard slicer -/

@[simp]
theorem PartStream.ofList_item? (items : List Part.Read) (index : ℕ) :
    (PartStream.ofList items).item? index = items[index]? := by
  simp [PartStream.ofList]

namespace Slicer

/-- What the standard slicer offers are slices of the source. -/
theorem standard_isSliceOf {payload : Payload} {chunkSize index : ℕ} {part : Part}
    (h : (standard payload chunkSize).item? index = some (.ok part)) :
    ∃ data, payload.source.read = .ok data ∧ part.IsSliceOf data := by
  rw [standard, PartStream.ofList_item?] at h
  have hmem := List.mem_of_getElem? h
  unfold Payload.parts at hmem
  split at hmem
  · simp at hmem
  · rename_i hchunk
    split at hmem
    · rename_i data hsource
      rw [Part.ofBytes_eq_cut (Nat.pos_of_ne_zero hchunk)] at hmem
      obtain ⟨cut, hcut, heq⟩ := List.mem_map.mp hmem
      cases heq
      refine ⟨data, by rw [hsource]; rfl, Part.isSliceOf_of_mem_cut ?_ hcut⟩
      exact List.take_prefix _ data
    · rename_i path data hsource
      exact ⟨data, by rw [hsource]; rfl, FileReader.isSliceOf_of_mem_parts _ rfl hmem⟩
    · split at hmem <;> simp at hmem

/-- A source that is as long as declared is cut up to the declared length. -/
theorem parts_eq_ofBytes {payload : Payload} {chunkSize length : ℕ} {data : Bytes}
    (hchunk : 0 < chunkSize) (hread : payload.source.read = .ok data)
    (hlength : payload.length? = some length) (hdata : length ≤ data.length) :
    payload.parts chunkSize = (Part.ofBytes chunkSize (data.take length)).map .ok := by
  have htake : (data.take length).length = length := by
    rw [List.length_take, Nat.min_eq_left hdata]
  unfold Payload.parts
  rw [if_neg hchunk.ne']
  split
  · rename_i bytes hsource
    rw [hsource] at hread
    cases hread
    rw [hlength, Option.getD_some]
  · rename_i path bytes hsource
    rw [hsource] at hread
    cases hread
    rw [hlength, FileReader.parts_eq_cut path chunkSize 0 length data hchunk hdata,
      Part.ofBytes_eq_cut hchunk, htake]
  · rename_i hsource
    rw [hsource] at hread
    cases hread

variable {payload : Payload} {plan : Plan} {data : Bytes}

/-- The standard slicer offers a part for every slot of a plan that the source can fill. -/
theorem standard_fits (hplan : plan.Covers) (hread : payload.source.read = .ok data)
    (hlength : payload.length? = some plan.totalLength) (hdata : plan.totalLength ≤ data.length)
    {index : ℕ} (hindex : index < plan.partCount) :
    ∃ part, (standard payload plan.chunkSize).item? index = some (.ok part) ∧
      part.offset = (plan.slot index).offset ∧ part.size = (plan.slot index).size := by
  rw [standard, PartStream.ofList_item?,
    parts_eq_ofBytes hplan.chunkSize_pos hread hlength hdata, List.getElem?_map,
    Part.ofBytes_eq_cut hplan.chunkSize_pos, List.length_take, Nat.min_eq_left hdata,
    hplan.ceilDiv_eq, Part.getElem?_cut hindex]
  refine ⟨_, rfl, Nat.zero_add _, ?_⟩
  simp only [Part.size, Plan.slot, List.length_take, List.length_drop, Nat.min_eq_left hdata]

/-- The standard slicer stops after the last slot. -/
theorem standard_ends (hplan : plan.Covers) (hread : payload.source.read = .ok data)
    (hlength : payload.length? = some plan.totalLength) (hdata : plan.totalLength ≤ data.length) :
    (standard payload plan.chunkSize).item? plan.partCount = none := by
  rw [standard, PartStream.ofList_item?,
    parts_eq_ofBytes hplan.chunkSize_pos hread hlength hdata, List.getElem?_eq_none]
  rw [List.length_map, Part.ofBytes_eq_cut hplan.chunkSize_pos, Part.length_cut, List.length_take,
    Nat.min_eq_left hdata, hplan.ceilDiv_eq]

end Slicer

end MultipartUpload
