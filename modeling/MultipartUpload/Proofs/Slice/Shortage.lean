import MultipartUpload.Proofs.Slice.Tiling

/-!
# Sources that are too short

A source that is shorter than its declared length is cut into the whole chunks that it has. What
follows them tells bytes in memory from a file: the bytes leave one more part or none, and the file
leaves a failure that says where it ended.
-/

namespace MultipartUpload

/-- A chunk of some bytes, counted from zero. -/
def Part.chunk (chunkSize : ℕ) (data : Bytes) (index : ℕ) : Part :=
  ⟨index * chunkSize, (data.drop (index * chunkSize)).take chunkSize⟩

namespace Part

variable {chunkSize : ℕ} {data : Bytes} {index : ℕ}

theorem size_chunk (chunkSize : ℕ) (data : Bytes) (index : ℕ) :
    (chunk chunkSize data index).size = min chunkSize (data.length - index * chunkSize) := by
  rw [size, chunk, List.length_take, List.length_drop]

/-- As many chunks as fit into some bytes end within them. -/
theorem chunk_stop_le (h : index < data.length / chunkSize) :
    index * chunkSize + chunkSize ≤ data.length := by
  rw [← Nat.succ_mul]
  exact (Nat.mul_le_mul_right _ h).trans (Nat.div_mul_le_self _ _)

theorem size_chunk_of_lt (h : index < data.length / chunkSize) :
    (chunk chunkSize data index).size = chunkSize := by
  have hstop := chunk_stop_le h
  rw [size_chunk, min_eq_left (by omega)]

theorem getElem?_ofBytes (hchunk : 0 < chunkSize) (h : index * chunkSize < data.length) :
    (ofBytes chunkSize data)[index]? = some (chunk chunkSize data index) := by
  rw [Nat.mul_comm] at h
  rw [ofBytes_eq_cut hchunk, getElem?_cut ((lt_ceilDiv_iff hchunk).mpr h), Nat.zero_add]
  rfl

theorem getElem?_ofBytes_eq_none (hchunk : 0 < chunkSize) (h : data.length ≤ index * chunkSize) :
    (ofBytes chunkSize data)[index]? = none := by
  rw [Nat.mul_comm] at h
  rw [List.getElem?_eq_none_iff, ofBytes_eq_cut hchunk, length_cut]
  exact (ceilDiv_le_iff hchunk).mpr h

end Part

/-- A file that is shorter than declared is cut into whole chunks, and then reading fails. -/
theorem FileReader.parts_of_short (path : String) {chunkSize : ℕ} (hchunk : 0 < chunkSize)
    (offset remaining : ℕ) (rest : Bytes) (hshort : rest.length < remaining) :
    parts ⟨path, chunkSize, offset, some remaining, rest⟩ =
      (Part.cut chunkSize (rest.length / chunkSize) offset rest).map .ok ++
        [.error (endedEarly path (offset + rest.length))] := by
  induction hlength : rest.length using Nat.strong_induction_on
    generalizing offset remaining rest with
  | _ length ih =>
    subst hlength
    have hwanted : 0 < min remaining chunkSize := lt_min (Nat.zero_lt_of_lt hshort) hchunk
    rw [parts]
    simp only [wanted, hwanted.ne', if_false, List.length_take, Option.isSome_some, and_true]
    rcases Nat.lt_or_ge rest.length chunkSize with hlast | hwhole
    · -- What is left is less than a chunk and less than what remains to be read.
      rw [if_pos (by omega), Nat.div_eq_of_lt hlast, min_eq_right (by omega)]
      rfl
    · have hne : rest ≠ [] := List.ne_nil_of_length_pos (hchunk.trans_le hwhole)
      have hmin : min remaining chunkSize = chunkSize := by omega
      have hdrop : (rest.drop chunkSize).length = rest.length - chunkSize := List.length_drop
      have hnext := ih (rest.length - chunkSize) (by omega) (offset + chunkSize)
        (remaining - chunkSize) (rest.drop chunkSize) (by omega) hdrop
      have hend : offset + chunkSize + (rest.length - chunkSize) = offset + rest.length := by omega
      rw [if_neg (by omega), if_neg hne]
      simp only [advance, wanted, Option.map_some, hmin, hnext, hend]
      rw [Nat.div_eq_sub_div hchunk hwhole]
      rfl

namespace Slicer

variable {payload : Payload} {chunkSize length index : ℕ} {data : Bytes}

/-- The standard slicer offers the whole chunks of a source that is too short. -/
theorem standard_item?_of_short (hchunk : 0 < chunkSize) (hread : payload.source.read = .ok data)
    (hlength : payload.length? = some length) (hshort : data.length < length)
    (hindex : index < data.length / chunkSize) :
    (standard payload chunkSize).item? index = some (.ok (Part.chunk chunkSize data index)) := by
  obtain ⟨source, length?⟩ := payload
  subst hlength
  have hstop := Part.chunk_stop_le hindex
  rw [standard, PartStream.ofList_item?, Payload.parts, if_neg hchunk.ne']
  cases source with
  | memory bytes =>
    cases hread
    have hstart : index * chunkSize < data.length := by omega
    simp only [Option.getD_some, List.take_of_length_le hshort.le, List.getElem?_map,
      Part.getElem?_ofBytes hchunk hstart, Option.map_some]
  | file path bytes =>
    cases hread
    simp only [FileReader.parts_of_short path hchunk 0 length data hshort]
    rw [List.getElem?_append_left, List.getElem?_map, Part.getElem?_cut hindex, Nat.zero_add]
    · rfl
    · rwa [List.length_map, Part.length_cut]
  | unreadable path failure opens => cases hread

/-- After its whole chunks a file that is too short cannot be read on. -/
theorem standard_file_item?_end (path : String) (hchunk : 0 < chunkSize)
    (hshort : data.length < length) :
    (standard ⟨.file path data, some length⟩ chunkSize).item? (data.length / chunkSize) =
      some (.error (FileReader.endedEarly path data.length)) := by
  rw [standard, PartStream.ofList_item?, Payload.parts, if_neg hchunk.ne']
  simp only [FileReader.parts_of_short path hchunk 0 length data hshort]
  rw [List.getElem?_append_right]
  all_goals simp [Part.length_cut]

/-- After its whole chunks memory that is too short has one part that is not whole, or none. -/
theorem standard_memory_item?_end (hchunk : 0 < chunkSize) (hshort : data.length < length) :
    (standard ⟨.memory data, some length⟩ chunkSize).item? (data.length / chunkSize) =
      if chunkSize ∣ data.length then none
      else some (.ok (Part.chunk chunkSize data (data.length / chunkSize))) := by
  rw [standard, PartStream.ofList_item?, Payload.parts, if_neg hchunk.ne']
  simp only [Option.getD_some, List.take_of_length_le hshort.le, List.getElem?_map]
  split_ifs with hdivides
  · rw [Part.getElem?_ofBytes_eq_none hchunk (Nat.div_mul_cancel hdivides).ge, Option.map_none]
  · have hne : data.length / chunkSize * chunkSize ≠ data.length :=
      fun h ↦ hdivides (Dvd.intro_left _ h)
    have hstart := (Nat.div_mul_le_self data.length chunkSize).lt_of_ne hne
    rw [Part.getElem?_ofBytes hchunk hstart, Option.map_some]

end Slicer

end MultipartUpload
