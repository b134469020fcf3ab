import Mathlib.Algebra.Order.Floor.Div
import MultipartUpload.Proofs.Slice.Shortage

/-!
# Chunks of payloads

The standard slicer cuts the bytes that a payload provides into chunks side by side, of which only
the last one may be shorter. Bytes in memory provide what they have up to the declared length, and
so does a file that is long enough. A file that is too short provides the chunks that lie wholly
inside it, and then it fails. Each of these streams ends. A file whose first chunk is larger than
memory can be is not read at all.
-/

namespace MultipartUpload

/-- Whether a stream offers some items and then ends. -/
def PartStream.Yields (stream : PartStream) (items : List Part.Read) : Prop :=
  ∀ index, stream.item? index = items[index]?

/-- Parts that lie side by side in front of some bytes and make them up. Only the last one may be
shorter than the chunk size. -/
structure Chunking (chunkSize : ℕ) (data : Bytes) (parts : List Part) : Prop where
  offset : ∀ index part, parts[index]? = some part → part.offset = index * chunkSize
  size_eq : ∀ index part, parts[index]? = some part → index + 1 < parts.length →
    part.size = chunkSize
  size_le : ∀ part ∈ parts, part.size ≤ chunkSize
  ne_nil : ∀ part ∈ parts, part.data ≠ []
  joined : parts.flatMap Part.data = data

/-- Where a part starts and how long it is. -/
def Part.extent (part : Part) : ℕ × ℕ :=
  (part.offset, part.size)

/-- Where the chunks of a stretch of bytes start and how long they are. -/
def extents (chunkSize length : ℕ) : List (ℕ × ℕ) :=
  (List.range (length ⌈/⌉ chunkSize)).map fun index ↦
    (index * chunkSize, min chunkSize (length - index * chunkSize))

namespace Part

variable {chunkSize count offset index : ℕ} {data : Bytes} {part : Part}

/-! ## Cutting -/

/-- Enough parts make up the bytes that are cut. -/
theorem flatMap_data_cut (h : data.length ≤ count * chunkSize) :
    (cut chunkSize count offset data).flatMap Part.data = data := by
  induction count generalizing offset data with
  | zero =>
    rw [Nat.zero_mul, Nat.le_zero, List.length_eq_zero_iff] at h
    rw [h]
    rfl
  | succ count ih =>
    have hrest : (data.drop chunkSize).length ≤ count * chunkSize := by
      rw [List.length_drop]
      rw [Nat.succ_mul] at h
      omega
    rw [cut, List.flatMap_cons, ih hrest, List.take_append_drop]

theorem getElem?_ofBytes_eq_some (hchunk : 0 < chunkSize) :
    (ofBytes chunkSize data)[index]? = some part ↔
      index * chunkSize < data.length ∧ part = chunk chunkSize data index := by
  rcases Nat.lt_or_ge (index * chunkSize) data.length with hstart | hend
  · rw [getElem?_ofBytes hchunk hstart, Option.some.injEq, eq_comm]
    exact (and_iff_right hstart).symm
  · rw [getElem?_ofBytes_eq_none hchunk hend]
    simp [hend.not_gt]

/-- Bytes are cut into their chunks. -/
theorem chunking_ofBytes (hchunk : 0 < chunkSize) (data : Bytes) :
    Chunking chunkSize data (ofBytes chunkSize data) := by
  have hlength : (ofBytes chunkSize data).length = ceilDiv data.length chunkSize := by
    rw [ofBytes_eq_cut hchunk, length_cut]
  have hchunks : ∀ part ∈ ofBytes chunkSize data, ∃ index,
      index * chunkSize < data.length ∧ part = chunk chunkSize data index := by
    intro part hpart
    obtain ⟨index, hindex⟩ := List.mem_iff_getElem?.mp hpart
    exact ⟨index, (getElem?_ofBytes_eq_some hchunk).mp hindex⟩
  constructor
  case offset =>
    intro index part hpart
    rw [((getElem?_ofBytes_eq_some hchunk).mp hpart).2]
    rfl
  case size_eq =>
    intro index part hpart hnext
    -- the chunk that follows starts within the bytes
    rw [hlength, lt_ceilDiv_iff hchunk, Nat.mul_comm, Nat.succ_mul] at hnext
    rw [((getElem?_ofBytes_eq_some hchunk).mp hpart).2, size_chunk, min_eq_left (by omega)]
  case size_le =>
    intro part hpart
    obtain ⟨index, -, rfl⟩ := hchunks part hpart
    rw [size_chunk]
    exact min_le_left _ _
  case ne_nil =>
    intro part hpart
    obtain ⟨index, hstart, rfl⟩ := hchunks part hpart
    have hsize : 0 < (chunk chunkSize data index).size := by
      rw [size_chunk, lt_min_iff]
      exact ⟨hchunk, by omega⟩
    exact List.ne_nil_of_length_pos hsize
  case joined =>
    rw [ofBytes_eq_cut hchunk]
    apply flatMap_data_cut
    rw [Nat.mul_comm]
    exact (ceilDiv_le_iff hchunk).mp le_rfl

/-- What follows the parts that are cut does not matter to them. -/
theorem cut_take (chunkSize count offset : ℕ) (data : Bytes) :
    cut chunkSize count offset (data.take (count * chunkSize)) =
      cut chunkSize count offset data := by
  induction count generalizing offset data with
  | zero => rfl
  | succ count ih =>
    have hsize : (count + 1) * chunkSize - chunkSize = count * chunkSize := by
      rw [Nat.succ_mul, Nat.add_sub_cancel]
    rw [cut, cut, List.take_take, List.drop_take, hsize, ih,
      min_eq_left (Nat.le_mul_of_pos_left _ count.succ_pos)]

/-- The whole chunks of some bytes are the chunks of the bytes that they cover. -/
theorem cut_wholeChunks (hchunk : 0 < chunkSize) (data : Bytes) :
    cut chunkSize (data.length / chunkSize) 0 data =
      ofBytes chunkSize (data.take (data.length / chunkSize * chunkSize)) := by
  have hcovered : (data.take (data.length / chunkSize * chunkSize)).length =
      data.length / chunkSize * chunkSize := by
    rw [List.length_take, min_eq_left (Nat.div_mul_le_self _ _)]
  have hcount : ceilDiv (data.length / chunkSize * chunkSize) chunkSize =
      data.length / chunkSize := by
    apply le_antisymm
    · rw [ceilDiv_le_iff hchunk, Nat.mul_comm]
    · apply Nat.le_of_mul_le_mul_left _ hchunk
      rw [Nat.mul_comm]
      exact (ceilDiv_le_iff hchunk).mp le_rfl
  rw [ofBytes_eq_cut hchunk, hcovered, hcount, cut_take]

/-! ## Sources that are too short -/

theorem map_extent_wholeChunks (chunkSize : ℕ) (data : Bytes) :
    (cut chunkSize (data.length / chunkSize) 0 data).map extent =
      (List.range (data.length / chunkSize)).map fun index ↦ (index * chunkSize, chunkSize) := by
  apply List.ext_getElem?
  intro index
  rw [List.getElem?_map, List.getElem?_map]
  rcases Nat.lt_or_ge index (data.length / chunkSize) with hinside | houtside
  · rw [getElem?_cut hinside, List.getElem?_range hinside, Option.map_some, Option.map_some,
      Nat.zero_add]
    exact congrArg (fun size ↦ some (index * chunkSize, size)) (size_chunk_of_lt hinside)
  · rw [List.getElem?_eq_none (by rwa [length_cut]),
      List.getElem?_eq_none (by rwa [List.length_range])]
    rfl

end Part

/-- The numbers below a bound are the first of those below a greater one. -/
theorem filter_lt_range {bound count : ℕ} (h : bound ≤ count) :
    (List.range count).filter (· < bound) = List.range bound := by
  rw [← Nat.add_sub_cancel' h, List.range_add, List.filter_append, List.filter_eq_self.mpr,
    List.filter_eq_nil_iff.mpr, List.append_nil]
  · simp
  · simp

/-- Of the chunks of a stretch that a source does not fill, those lie wholly inside it that are
whole chunks of the source. -/
theorem filter_extents {chunkSize length available : ℕ} (hchunk : 0 < chunkSize)
    (hshort : available < length) :
    (extents chunkSize length).filter (fun (start, size) ↦ start + size ≤ available) =
      (List.range (available / chunkSize)).map fun index ↦ (index * chunkSize, chunkSize) := by
  have hinside (index : ℕ) :
      index * chunkSize + min chunkSize (length - index * chunkSize) ≤ available ↔
        index < available / chunkSize := by
    rw [Nat.lt_iff_add_one_le, Nat.le_div_iff_mul_le hchunk, Nat.succ_mul]
    omega
  have hwhole : available / chunkSize ≤ length ⌈/⌉ chunkSize := by
    have hcovered := le_smul_ceilDiv (b := length) hchunk
    rw [smul_eq_mul, Nat.mul_comm] at hcovered
    exact Nat.div_le_of_le_mul (by rw [Nat.mul_comm]; exact hshort.le.trans hcovered)
  rw [extents, List.filter_map]
  simp only [Function.comp_def, hinside]
  rw [filter_lt_range hwhole]
  apply List.map_congr_left
  intro index hindex
  have hstop := (hinside index).mpr (List.mem_range.mp hindex)
  rw [min_eq_left (by omega)]

namespace FileReader

/-- A file of no declared length is cut like bytes in memory. -/
theorem parts_of_undeclared (path : String) {chunkSize : ℕ} (hchunk : 0 < chunkSize) (offset : ℕ)
    (rest : Bytes) :
    parts ⟨path, chunkSize, offset, none, rest⟩ =
      (Part.cut chunkSize (ceilDiv rest.length chunkSize) offset rest).map .ok := by
  induction hlength : rest.length using Nat.strong_induction_on generalizing offset rest with
  | _ length ih =>
    subst hlength
    rw [parts]
    simp only [wanted, hchunk.ne', if_false, Option.isSome_none, Bool.false_eq_true, and_false]
    rcases eq_or_ne rest [] with rfl | hne
    · rw [if_pos rfl, List.length_nil, ceilDiv_zero]
      rfl
    · have hpos : 0 < rest.length := List.length_pos_iff.mpr hne
      have hnext := ih (rest.length - chunkSize) (by omega) (offset + chunkSize)
        (rest.drop chunkSize) List.length_drop
      rw [if_neg hne, ← ceilDiv_sub_add_one hchunk hpos]
      simp only [advance, wanted, Option.map_none, hnext]
      rfl

/-- No more than a chunk is asked for. -/
theorem wanted_le (reader : FileReader) : reader.wanted ≤ reader.chunkSize := by
  unfold wanted
  split
  · exact min_le_right _ _
  · exact le_rfl

end FileReader

/-! ## The standard slicer -/

namespace Slicer

theorem standard_yields (payload : Payload) (chunkSize : ℕ) :
    (standard payload chunkSize).Yields (payload.parts chunkSize) :=
  PartStream.ofList_item? _

end Slicer

namespace Payload

/-- Whether cutting a payload gives some items and then ends. -/
def SlicesInto (payload : Payload) (chunkSize : ℕ) (items : List Part.Read) : Prop :=
  ∃ stream, payload.slice chunkSize = .returned stream ∧ stream.Yields items

variable {payload : Payload} {chunkSize : ℕ}

theorem slice_of_fits (h : ¬payload.overflows chunkSize) :
    payload.slice chunkSize = .returned (Slicer.standard payload chunkSize) :=
  if_neg h

theorem slice_eq_panicked_iff :
    payload.slice chunkSize = .panicked ↔ payload.overflows chunkSize := by
  rw [slice]
  split <;> simp_all

theorem slicesInto_of_fits (h : ¬payload.overflows chunkSize) :
    payload.SlicesInto chunkSize (payload.parts chunkSize) :=
  ⟨_, slice_of_fits h, Slicer.standard_yields payload chunkSize⟩

theorem overflows_iff {reader : FileReader} (h : payload.reader? chunkSize = some reader) :
    payload.overflows chunkSize ↔ maxReservation < reader.wanted := by
  rw [overflows, h, Option.any_some]
  exact decide_eq_true_iff

/-- For a file it is the first chunk that memory has to be reserved for. -/
theorem overflows_file_iff {path : String} {data : Bytes} {length? : Option ℕ} :
    overflows ⟨.file path data, length?⟩ chunkSize ↔
      maxReservation < min (length?.getD chunkSize) chunkSize := by
  rw [overflows_iff rfl]
  cases length? <;> simp [FileReader.wanted]

/-- Only chunks that are larger than memory can be are too much for it. -/
theorem lt_of_overflows (h : payload.overflows chunkSize) : maxReservation < chunkSize := by
  obtain ⟨source, length?⟩ := payload
  cases source with
  | memory => exact absurd h Bool.false_ne_true
  | file path data => exact lt_of_lt_of_le (overflows_file_iff.mp h) (min_le_right _ _)
  | unreadable path failure opens =>
    cases opens with
    | false => exact absurd h Bool.false_ne_true
    | true => exact lt_of_lt_of_le ((overflows_iff rfl).mp h) (FileReader.wanted_le _)

theorem not_overflows_zero (payload : Payload) : ¬payload.overflows 0 :=
  fun h ↦ absurd (lt_of_overflows h) (by decide)

end Payload

namespace Slicer

/-- The standard slicer cuts what a payload provides into chunks. Bytes in memory provide what they
have up to the declared length, and a file as much as is declared, or all of it if no length is. A
file that is too short provides those of the declared chunks that lie wholly inside it, and then a
failure that says where it ended. After that the stream ends, as every other one does. Chunks of no
size are refused. All of this holds of a file only as long as memory can be reserved for its first
chunk, and else the program panics before it reads anything. -/
theorem slices_are_chunks (chunkSize : ℕ) :
    (chunkSize = 0 → ∀ payload : Payload,
      payload.SlicesInto chunkSize [.error ⟨.invalidInput, "chunk size must be positive"⟩]) ∧
    (0 < chunkSize →
      (∀ data length?, ∃ parts,
        Chunking chunkSize (data.take (min (length?.getD data.length) data.length)) parts ∧
        Payload.SlicesInto ⟨.memory data, length?⟩ chunkSize (parts.map .ok)) ∧
      (∀ path data, chunkSize ≤ maxReservation → ∃ parts, Chunking chunkSize data parts ∧
        Payload.SlicesInto ⟨.file path data, none⟩ chunkSize (parts.map .ok)) ∧
      (∀ path data length, min length chunkSize ≤ maxReservation → length ≤ data.length →
        ∃ parts, Chunking chunkSize (data.take length) parts ∧
          Payload.SlicesInto ⟨.file path data, some length⟩ chunkSize (parts.map .ok)) ∧
      (∀ path data length, min length chunkSize ≤ maxReservation → data.length < length →
        ∃ parts, Chunking chunkSize (data.take (data.length / chunkSize * chunkSize)) parts ∧
          parts.map Part.extent = (extents chunkSize length).filter
            (fun (start, size) ↦ start + size ≤ data.length) ∧
          Payload.SlicesInto ⟨.file path data, some length⟩ chunkSize (parts.map .ok ++
            [.error ⟨.unexpectedEof,
              s!"{path} ended at byte {data.length} before its declared length"⟩])) ∧
      ∀ path data length?, maxReservation < min (length?.getD chunkSize) chunkSize →
        Payload.slice ⟨.file path data, length?⟩ chunkSize = .panicked) := by
  refine ⟨?_, fun hchunk ↦ ⟨?_, ?_, ?_, ?_, ?_⟩⟩
  · rintro rfl payload
    exact Payload.slicesInto_of_fits payload.not_overflows_zero
  · intro data length?
    have hslices : Payload.SlicesInto ⟨.memory data, length?⟩ chunkSize _ :=
      Payload.slicesInto_of_fits Bool.false_ne_true
    rw [Payload.parts, if_neg hchunk.ne'] at hslices
    rw [← List.take_eq_take_min]
    exact ⟨_, Part.chunking_ofBytes hchunk _, hslices⟩
  · intro path data hfits
    have hslices : Payload.SlicesInto ⟨.file path data, none⟩ chunkSize _ :=
      Payload.slicesInto_of_fits (Payload.overflows_file_iff.not.mpr (by simpa using hfits))
    rw [Payload.parts, if_neg hchunk.ne'] at hslices
    simp only [FileReader.parts_of_undeclared path hchunk, ← Part.ofBytes_eq_cut hchunk] at hslices
    exact ⟨_, Part.chunking_ofBytes hchunk data, hslices⟩
  · intro path data length hfits hlong
    have hslices : Payload.SlicesInto ⟨.file path data, some length⟩ chunkSize _ :=
      Payload.slicesInto_of_fits (Payload.overflows_file_iff.not.mpr (not_lt.mpr hfits))
    rw [parts_eq_ofBytes hchunk rfl rfl hlong] at hslices
    exact ⟨_, Part.chunking_ofBytes hchunk _, hslices⟩
  · intro path data length hfits hshort
    have hslices : Payload.SlicesInto ⟨.file path data, some length⟩ chunkSize _ :=
      Payload.slicesInto_of_fits (Payload.overflows_file_iff.not.mpr (not_lt.mpr hfits))
    rw [Payload.parts, if_neg hchunk.ne'] at hslices
    simp only [FileReader.parts_of_short path hchunk 0 length data hshort] at hslices
    refine ⟨Part.cut chunkSize (data.length / chunkSize) 0 data, ?_, ?_, ?_⟩
    · rw [Part.cut_wholeChunks hchunk]
      exact Part.chunking_ofBytes hchunk _
    · rw [Part.map_extent_wholeChunks, filter_extents hchunk hshort]
    · simpa [FileReader.endedEarly] using hslices
  · intro path data length? hlong
    exact Payload.slice_eq_panicked_iff.mpr (Payload.overflows_file_iff.mpr hlong)

/-- A file of seven bytes has all chunks of its first five bytes. Of the chunks of nine bytes it has
the first two. -/
theorem short_file_has_whole_chunks :
    let data : Bytes := [1, 2, 3, 4, 5, 6, 7]
    (∃ parts, Chunking 3 [1, 2, 3, 4, 5] parts ∧
      Payload.SlicesInto ⟨.file "notes.txt" data, some 5⟩ 3 (parts.map .ok)) ∧
    ∃ parts : List Part, parts.map Part.extent = [(0, 3), (3, 3)] ∧
      parts.flatMap Part.data = [1, 2, 3, 4, 5, 6] ∧
      Payload.SlicesInto ⟨.file "notes.txt" data, some 9⟩ 3
        (parts.map .ok ++ [.error (FileReader.endedEarly "notes.txt" 7)]) := by
  intro data
  have hchunks := (slices_are_chunks 3).2 (by decide)
  obtain ⟨parts, hwhole, hextents, hslices⟩ :=
    hchunks.2.2.2.1 "notes.txt" data 9 (by decide) (by decide)
  exact ⟨hchunks.2.2.1 "notes.txt" data 5 (by decide) (by decide), parts,
    hextents.trans (by decide), hwhole.joined.trans (by decide), hslices⟩

/-- A file of three bytes that is declared to be longer than memory can be is not found to be too
short. -/
theorem oversized_chunk_panics :
    let payload : Payload := ⟨.file "notes.txt" [97, 98, 99], some (2 ^ 63 + 1)⟩
    payload.slice (2 ^ 63) = .panicked ∧
      ¬payload.SlicesInto (2 ^ 63) [.error (FileReader.endedEarly "notes.txt" 3)] := by
  intro payload
  have hpanics : payload.slice (2 ^ 63) = .panicked :=
    Payload.slice_eq_panicked_iff.mpr (by decide)
  refine ⟨hpanics, ?_⟩
  rintro ⟨stream, hreturned, -⟩
  rw [hpanics] at hreturned
  cases hreturned

end Slicer

end MultipartUpload
