import MultipartUpload.Checksum.ETag
import MultipartUpload.Proofs.Text.Hex
import MultipartUpload.Proofs.Text.Strip

/-!
# Tags of objects in parts

The digests of parts are read back from their tags, so the tag of an object in parts is made of the
digests themselves. How a tag is spelled does not matter: its quotes may be missing or doubled, and
its digits may be of either case. What holds no digits of whole bytes is counted as a part without a
digest.
-/

namespace MultipartUpload

theorem Md5.length_digest (message : Bytes) : (digest message).length = 16 := by
  simp only [digest, List.flatMap_cons, List.flatMap_nil, littleEndian, List.length_append,
    List.length_cons, List.length_nil]

namespace ETag

/-- A number of double quotes. -/
def quotes (count : ℕ) : String :=
  Text.stretch '"' count

/-- Whether two texts spell one tag: they differ only in the quotes at their ends and in case. -/
inductive Alike : String → String → Prop where
  | respelled (i j i' j' : ℕ) {cs cs' : List Char}
      (hcase : cs.map Char.toLower = cs'.map Char.toLower) :
      Alike (quotes i ++ String.ofList cs ++ quotes j) (quotes i' ++ String.ofList cs' ++ quotes j')

/-- Whether a text is quoted in a tag: it stands between quotes, and has none at its own ends. -/
structure Quoted (etag : String) (cs : List Char) : Prop where
  between : ∃ i j, etag = quotes i ++ String.ofList cs ++ quotes j
  head : cs.head? ≠ some '"'
  last : cs.getLast? ≠ some '"'

/-- The tag of an object in a number of parts with the given joined digests. -/
def ofDigests (digests : Bytes) (count : ℕ) : String :=
  "\"" ++ md5 digests ++ "-" ++ toString count ++ "\""

/-! ## Digests inside tags -/

theorem digest?_quotes (i j : ℕ) (cs : List Char) :
    digest? (quotes i ++ String.ofList cs ++ quotes j) =
      Hex.decode? (Text.strip (· == '"') cs) := by
  simp only [digest?, quotes, String.toList_append, String.toList_ofList]
  rw [Text.strip_append_append (fun c ↦ Text.beq_of_mem_stretch) fun c ↦ Text.beq_of_mem_stretch]

/-- The digest of data is read back from its tag. -/
theorem digest?_ofData (data : Bytes) : digest? (ofData data) = some (Md5.digest data) := by
  have hplain : ∀ c ∈ Hex.encode (Md5.digest data), (c == '"') = false := by
    intro c hc
    rw [beq_eq_false_iff_ne]
    rintro rfl
    exact absurd (Hex.isLowerDigit_of_mem_encode hc) (by decide)
  change digest? (quotes 1 ++ String.ofList _ ++ quotes 1) = _
  rw [digest?_quotes, Text.strip_eq_self hplain, Hex.decode?_encode]

/-- A tag has one digest, however it is spelled. -/
theorem digest?_congr {first second : String} (h : Alike first second) :
    digest? first = digest? second := by
  obtain ⟨i, j, i', j', hcase⟩ := h
  have hquote : ∀ c : Char, (c.toLower == '"') = (c == '"') :=
    Text.comp_toLower (f := (· == '"')) (by decide)
  have hlower : ∀ cs : List Char, Hex.decode? (Text.strip (· == '"') cs) =
      Hex.decode? (Text.strip (· == '"') (cs.map Char.toLower)) := by
    intro cs
    rw [← Hex.decode?_map_toLower, Text.map_strip hquote]
  rw [digest?_quotes, digest?_quotes, hlower, hcase, ← hlower]

theorem exists_quoted (etag : String) :
    ∃ cs, Quoted etag cs ∧ digest? etag = Hex.decode? cs := by
  obtain ⟨⟨front, back, hfront, hback, htag⟩, hhead, hlast⟩ :=
    Text.strip_spec (· == '"') etag.toList
  refine ⟨_, ⟨⟨front.length, back.length, ?_⟩, fun h ↦ ?_, fun h ↦ ?_⟩, rfl⟩
  · rw [quotes, quotes, ← Text.ofList_eq_stretch hfront, ← Text.ofList_eq_stretch hback,
      ← String.ofList_append, ← String.ofList_append, ← htag, String.ofList_toList]
  · exact absurd (hhead _ h) (by decide)
  · exact absurd (hlast _ h) (by decide)

/-! ## Tags of objects -/

theorem ofParts_eq_ofDigests (etags : List String) :
    ofParts etags = ofDigests (etags.filterMap digest?).flatten etags.length := by
  have hdigests : (etags.flatMap fun etag ↦ (digest? etag).getD []) =
      (etags.filterMap digest?).flatten := by
    induction etags with
    | nil => rfl
    | cons etag etags ih =>
      rw [List.flatMap_cons, ih, List.filterMap_cons]
      cases digest? etag <;> rfl
  rw [ofParts, hdigests, ofDigests]

theorem filterMap_digest?_ofData (pieces : List Bytes) :
    (pieces.map ofData).filterMap digest? = pieces.map Md5.digest := by
  induction pieces with
  | nil => rfl
  | cons piece pieces ih =>
    simp only [List.map_cons, List.filterMap_cons, digest?_ofData, ih]

theorem filterMap_digest?_congr {first second : List String}
    (h : List.Forall₂ Alike first second) :
    first.filterMap digest? = second.filterMap digest? := by
  induction h with
  | nil => rfl
  | cons halike _ ih => rw [List.filterMap_cons, List.filterMap_cons, digest?_congr halike, ih]

/-- The tag of an object in parts is the digest of the joined digests of its parts and their number.
The digest of each part is read back from its tag, however the tag is spelled, and a text without
digits of whole bytes adds to the number only. -/
theorem composite_tags_join_digests :
    (∀ pieces : List Bytes, ofParts (pieces.map ofData) =
      ofDigests (pieces.flatMap Md5.digest) pieces.length) ∧
    (∀ data, (Md5.digest data).length = 16 ∧ (md5 data).toList.length = 32 ∧
      (∀ c ∈ (md5 data).toList, Hex.IsLowerDigit c) ∧
      Hex.decode? (md5 data).toList = some (Md5.digest data) ∧
      digest? (ofData data) = some (Md5.digest data)) ∧
    (∀ first second : List String, List.Forall₂ Alike first second →
      ofParts first = ofParts second) ∧
    ∀ etags : List String,
      ofParts etags = ofDigests (etags.filterMap digest?).flatten etags.length ∧
      ∀ etag ∈ etags, ∃ cs, Quoted etag cs ∧ (digest? etag = none ↔ ¬Hex.IsPairs cs) ∧
        ∀ digest, digest? etag = some digest ↔ Hex.encode digest = cs.map Char.toLower := by
  refine ⟨fun pieces ↦ ?_, fun data ↦ ?_, fun first second h ↦ ?_, fun etags ↦ ?_⟩
  · rw [ofParts_eq_ofDigests, filterMap_digest?_ofData, List.length_map, ← List.flatMap_def]
  · have hmd5 : (md5 data).toList = Hex.encode (Md5.digest data) := String.toList_ofList
    rw [hmd5, Hex.length_encode, Md5.length_digest]
    exact ⟨rfl, rfl, fun c ↦ Hex.isLowerDigit_of_mem_encode, Hex.decode?_encode _,
      digest?_ofData data⟩
  · rw [ofParts_eq_ofDigests, ofParts_eq_ofDigests, filterMap_digest?_congr h, h.length_eq]
  · refine ⟨ofParts_eq_ofDigests etags, fun etag _ ↦ ?_⟩
    obtain ⟨cs, hquoted, hdigest⟩ := exists_quoted etag
    refine ⟨cs, hquoted, ?_, fun digest ↦ ?_⟩
    · rw [hdigest, ← Hex.decode?_isSome_iff, Option.not_isSome_iff_eq_none]
    · rw [hdigest, Hex.decode?_eq_some_iff]

/-- Two spellings of one tag, and a text that is no tag. -/
theorem respelled_tags_make_one_tag :
    List.Forall₂ Alike ["\"0aB1\"", "not hex"] ["0Ab1\"\"", "\"NOT hex"] ∧
      ofParts ["\"0aB1\"", "not hex"] = ofParts ["0Ab1\"\"", "\"NOT hex"] := by
  have hfirst : Alike "\"0aB1\"" "0Ab1\"\"" :=
    .respelled 1 1 0 2 (show ['0', 'a', 'B', '1'].map _ = ['0', 'A', 'b', '1'].map _ by decide)
  have hsecond : Alike "not hex" "\"NOT hex" :=
    .respelled 0 0 1 0 (show "not hex".toList.map _ = "NOT hex".toList.map _ by decide)
  have halike : List.Forall₂ Alike ["\"0aB1\"", "not hex"] ["0Ab1\"\"", "\"NOT hex"] :=
    .cons hfirst (.cons hsecond .nil)
  exact ⟨halike, composite_tags_join_digests.2.2.1 _ _ halike⟩

end ETag

end MultipartUpload
