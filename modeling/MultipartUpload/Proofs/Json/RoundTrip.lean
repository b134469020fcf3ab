import Mathlib.Tactic
import MultipartUpload.Json.Config
import MultipartUpload.Json.Metadata
import MultipartUpload.Json.Options
import MultipartUpload.Proofs.Json.Reading
import MultipartUpload.Proofs.Json.Record
import MultipartUpload.Proofs.Options.LastSetting
import MultipartUpload.Proofs.Text.Numeral

/-!
# Documents

Options, metadata and configurations are read back from the JSON text they are written in. Only the
name of an algorithm goes through a check on its way back: it is trimmed, so a document may have
white space around it and still say the same.
-/

namespace MultipartUpload

/-- What a JSON text is read as. -/
def Json.readAs? (ofJson? : Json → Option α) (document : String) : Option α :=
  (parse? document).bind ofJson?

theorem Json.readAs?_render {ofJson? : Json → Option α} (json : Json) :
    readAs? ofJson? json.render = ofJson? json := by
  rw [readAs?, parse?_render, Option.bind_some]

/-- A change to values that a reader does not notice may be made to documents. -/
theorem Json.readAs?_eq_of_map {ofJson? : Json → Option α} {change : Json → Json}
    (hchange : ∀ json, ofJson? (change json) = ofJson? json) {first second : String}
    (h : (parse? first).map change = parse? second) :
    readAs? ofJson? first = readAs? ofJson? second := by
  rw [readAs?, readAs?, ← h]
  cases parse? first with
  | none => rfl
  | some json => exact (hchange json).symm

theorem Json.optional?_map_ofString (value : Option String) :
    optional? string? (value.map ofString) = some value := by
  cases value <;> rfl

/-! ## Configurations -/

namespace Config

/-- The fields of a configuration, all of them with a value. -/
def fields (c : Config) : List (String × Option Json) :=
  [("partSize", some (.natural c.partSize.toNat)),
    ("partCountCeiling", some (.natural c.partCountCeiling.toNat)),
    ("minPartSize", some (.natural c.minPartSize.toNat)),
    ("maxPartSize", some (.natural c.maxPartSize.toNat)),
    ("maxPartCount", some (.natural c.maxPartCount.toNat)),
    ("headerTag", some (.ofString c.headerTag)),
    ("logLevel", some (.ofString c.logLevel))]

theorem toJson_eq_ofFields (c : Config) : c.toJson = .ofFields c.fields :=
  rfl

theorem ofJson?_toJson (c : Config) : ofJson? c.toJson = some c := by
  have hnames : c.fields.map Prod.fst = fieldNames := rfl
  rw [toJson_eq_ofFields, ofJson?, Json.fields?_ofFields hnames (by decide)]
  simp [fields, Json.required?, Json.word64?, Json.word32?, Json.natural?,
    Json.string?, Json.ofString]

end Config

/-! ## Metadata -/

namespace Metadata

/-- An object with the entries in the order they are listed in. -/
def listingToJson (listing : List (String × String)) : Json :=
  .ofMembers (listing.map fun entry ↦ (entry.1, .ofString entry.2))

/-- A listing of all entries gives the entries, whatever their order. -/
theorem ofList_of_perm {listing : List (String × String)} {entries : Std.ExtTreeMap String String}
    (h : listing.Perm entries.toList) : Std.ExtTreeMap.ofList listing = entries := by
  have hdistinct : listing.Pairwise fun a b ↦ ¬compare a.1 b.1 = .eq :=
    (h.pairwise_iff fun hab hba ↦ hab (Std.OrientedCmp.eq_symm hba)).mpr
      Std.ExtTreeMap.distinct_keys_toList
  have hmem (name value : String) : (name, value) ∈ listing ↔ entries[name]? = some value :=
    h.mem_iff.trans Std.ExtTreeMap.mem_toList_iff_getElem?_eq_some
  apply Std.ExtTreeMap.ext_getElem?
  intro name
  cases hvalue : entries[name]? with
  | some value =>
    exact Std.ExtTreeMap.getElem?_ofList_of_mem Std.ReflCmp.compare_self hdistinct
      ((hmem name value).mpr hvalue)
  | none =>
    apply Std.ExtTreeMap.getElem?_ofList_of_contains_eq_false
    rw [← Bool.not_eq_true, List.contains_iff_mem, List.mem_map]
    rintro ⟨⟨_, value⟩, hentry, rfl⟩
    rw [(hmem _ value).mp hentry] at hvalue
    nomatch hvalue

theorem entriesOfJson?_listingToJson (listing : List (String × String)) :
    entriesOfJson? (listingToJson listing) = some (.ofList listing) := by
  have hread : entriesOfJson? (listingToJson listing) =
      some (listing.foldl (fun entries entry ↦ entries.insert entry.1 entry.2) ∅) := by
    rw [listingToJson, Json.ofMembers, entriesOfJson?, List.map_map, List.foldlM_map]
    exact List.foldlM_pure
  rw [hread, Std.ExtTreeMap.ofList_eq_foldl]

/-- The fields of metadata, where a value is given for the entries of the owner. -/
def fields (metadata : Metadata) (user : Json) : List (String × Option Json) :=
  [("name", some (.ofString metadata.name)),
    ("contentType", metadata.contentType.map .ofString),
    ("contentDisposition", metadata.contentDisposition.map .ofString),
    ("contentEncoding", metadata.contentEncoding.map .ofString),
    ("contentLanguage", metadata.contentLanguage.map .ofString),
    ("userMetadata", some user)]

theorem toJson_eq_ofFields (metadata : Metadata) :
    metadata.toJson = .ofFields (metadata.fields (listingToJson metadata.user.toList)) := by
  simp only [toJson, Json.ofFields, Json.membersOf, fields, List.flatMap_cons, List.flatMap_nil,
    List.append_assoc, List.append_nil]
  rfl

/-- Metadata is read back, in whatever order the entries of the owner are listed. -/
theorem ofJson?_ofFields {metadata : Metadata} {listing : List (String × String)}
    (h : listing.Perm metadata.user.toList) :
    ofJson? (.ofFields (metadata.fields (listingToJson listing))) = some metadata := by
  have hnames : (metadata.fields (listingToJson listing)).map Prod.fst = fieldNames := rfl
  have huser : entriesOfJson? (listingToJson listing) = some metadata.user := by
    rw [entriesOfJson?_listingToJson, ofList_of_perm h]
  rw [ofJson?, Json.fields?_ofFields hnames (by decide)]
  simp [fields, Json.required?, Json.string?, Json.ofString, Json.optional?_map_ofString, huser]

end Metadata

/-! ## Options -/

theorem Acl.ofJson?_toJson (acl : Acl) : ofJson? acl.toJson = some acl := by
  cases acl <;> rfl

theorem StorageClass.ofJson?_toJson (storageClass : StorageClass) :
    ofJson? storageClass.toJson = some storageClass := by
  cases storageClass <;> rfl

theorem Encryption.ofJson?_toJson (encryption : Encryption) :
    ofJson? encryption.toJson = some encryption := by
  rw [ofJson?, toJson, Json.ofString, Json.string?, Option.bind_some, ofName_algorithm]
  rfl

theorem Encryption.optional?_map_toJson (encryption : Option Encryption) :
    Json.optional? ofJson? (encryption.map toJson) = some encryption := by
  cases encryption with
  | none => rfl
  | some encryption => exact congrArg (Option.map some) encryption.ofJson?_toJson

namespace UploadOptions

def fields (options : UploadOptions) : List (String × Option Json) :=
  [("serverSideEncryption", options.encryption.map Encryption.toJson),
    ("acl", some options.acl.toJson),
    ("storageClass", some options.storageClass.toJson)]

theorem toJson_eq_ofFields (options : UploadOptions) :
    options.toJson = .ofFields options.fields := by
  simp only [toJson, Json.ofFields, Json.membersOf, fields, List.flatMap_cons, List.flatMap_nil,
    List.append_nil]
  rfl

theorem ofJson?_toJson (options : UploadOptions) : ofJson? options.toJson = some options := by
  have hnames : options.fields.map Prod.fst = fieldNames := rfl
  rw [toJson_eq_ofFields, ofJson?, Json.fields?_ofFields hnames (by decide)]
  simp [fields, Json.required?, Encryption.optional?_map_toJson, Acl.ofJson?_toJson,
    StorageClass.ofJson?_toJson]

end UploadOptions

/-! ## Names with white space around them -/

theorem Text.trim_trim (s : String) : trim (trim s) = trim s := by
  obtain ⟨⟨front, back, hfront, hback, hs⟩, -⟩ := strip_spec isBlank s.toList
  rw [trim, trim, String.toList_ofList, ← strip_append_append hfront hback, ← hs]

/-- A text without the white space around its content. -/
def Json.trimmed : Json → Json
  | .text content => .text (content.map Text.trim)
  | value => value

namespace Encryption

/-- The algorithm of an encryption is accepted as it stands. -/
structure KeepsName (encryption : Encryption) : Prop where
  ne_empty : encryption.algorithm ≠ ""
  trim_eq : Text.trim encryption.algorithm = encryption.algorithm
  isGraphic : ∀ c ∈ encryption.algorithm.toList, isGraphic c
  ofName_eq : ofName encryption.algorithm = .ok encryption

theorem keepsName (encryption : Encryption) : encryption.KeepsName where
  ne_empty := encryption.isAlgorithmName.1
  trim_eq := (ofName_eq_ok_iff.mp encryption.ofName_algorithm).2.symm
  isGraphic _ := encryption.isGraphic_of_mem_algorithm
  ofName_eq := encryption.ofName_algorithm

theorem toOption_ofName_trim (name : String) :
    (ofName (Text.trim name)).toOption = (ofName name).toOption := by
  simp only [ofName, Text.trim_trim]
  split_ifs <;> rfl

theorem ofJson?_trimmed (json : Json) : ofJson? json.trimmed = ofJson? json := by
  match json with
  | .null | .bool _ | .natural _ | .otherNumber | .list _ | .object _ | .text none => rfl
  | .text (some name) =>
    rw [Json.trimmed, ofJson?, ofJson?, Json.string?, Json.string?, Option.map_some,
      Option.bind_some, Option.bind_some, toOption_ofName_trim]

theorem optional?_map_trimmed (field : Option Json) :
    Json.optional? ofJson? (field.map Json.trimmed) = Json.optional? ofJson? field := by
  match field with
  | none | some .null | some (.bool _) | some (.natural _) | some .otherNumber | some (.list _)
  | some (.object _) => rfl
  | some (.text content) => exact congrArg (Option.map some) (ofJson?_trimmed (.text content))

/-- An encryption that is read has the name in the document, without the white space around it. -/
theorem exists_name_of_ofJson? {json : Json} {encryption : Encryption}
    (h : ofJson? json = some encryption) :
    ∃ name, json = .ofString name ∧ encryption.algorithm = Text.trim name := by
  obtain ⟨name, htext, hread⟩ := Option.bind_eq_some_iff.mp h
  refine ⟨name, ?_, ?_⟩
  · match json with
    | .text (some _) => exact congrArg Json.ofString (Option.some_inj.mp htext)
  · cases hname : ofName name with
    | error fault =>
      rw [hname] at hread
      nomatch hread
    | ok read =>
      simp only [hname, Except.toOption, Option.some.injEq] at hread
      exact hread ▸ (ofName_eq_ok_iff.mp hname).2

theorem exists_name_of_optional? {field : Option Json} {encryption : Encryption}
    (h : Json.optional? ofJson? field = some (some encryption)) :
    ∃ name, field = some (.ofString name) ∧ encryption.algorithm = Text.trim name := by
  match field with
  | some (.text content) =>
    obtain ⟨read, hread, heq⟩ := Option.map_eq_some_iff.mp h
    obtain ⟨name, hname, halgorithm⟩ := exists_name_of_ofJson? hread
    exact ⟨name, congrArg some hname, Option.some_inj.mp heq ▸ halgorithm⟩

end Encryption

/-- The encryption of options that are read has the name in the first field, without the white space
around it. -/
theorem UploadOptions.exists_name_of_ofJson? {json : Json} {options : UploadOptions}
    {encryption : Encryption} (h : ofJson? json = some options)
    (hencryption : options.encryption = some encryption) :
    ∃ name acl storageClass,
      json.fields? fieldNames 0 = some [some (.ofString name), acl, storageClass] ∧
        encryption.algorithm = Text.trim name := by
  unfold ofJson? at h
  split at h
  · rename_i field acl storageClass hfields
    obtain ⟨read, hread, h⟩ := Option.bind_eq_some_iff.mp h
    obtain ⟨_, -, h⟩ := Option.bind_eq_some_iff.mp h
    obtain ⟨_, -, h⟩ := Option.bind_eq_some_iff.mp h
    obtain rfl : read = some encryption := by
      rw [← hencryption, ← Option.some_inj.mp h]
    obtain ⟨name, rfl, halgorithm⟩ := Encryption.exists_name_of_optional? hread
    exact ⟨name, acl, storageClass, hfields, halgorithm⟩
  · nomatch h

/-- The options of a document, with the name of the algorithm trimmed. -/
def UploadOptions.trimName : Json → Json :=
  Json.mapFirstField "serverSideEncryption" Json.trimmed

theorem UploadOptions.ofJson?_trimName (json : Json) : ofJson? (trimName json) = ofJson? json := by
  have hname : "serverSideEncryption" ∉ ["acl", "storageClass"] := by decide
  rw [ofJson?, ofJson?, trimName, fieldNames, Json.fields?_mapFirstField hname]
  match json.fields? fieldNames 0 with
  | none | some [] | some [_] | some [_, _] | some (_ :: _ :: _ :: _ :: _) => rfl
  | some [encryption, acl, storageClass] =>
    simp only [Option.map_some, List.modifyHead_cons, Encryption.optional?_map_trimmed]

/-- Options, metadata and configurations are read back from the documents they are written in. An
algorithm that is read from a document is accepted as it stands, so that white space around its name
in the document makes no difference. -/
theorem documents_round_trip :
    (∀ options : UploadOptions,
      Json.readAs? UploadOptions.ofJson? options.toJson.render = some options) ∧
    (∀ metadata : Metadata,
      Json.readAs? Metadata.ofJson? metadata.toJson.render = some metadata ∧
        ∀ listing : List (String × String), listing.Perm metadata.user.toList →
          Json.readAs? Metadata.ofJson?
            (Json.ofFields (metadata.fields (Metadata.listingToJson listing))).render =
              some metadata) ∧
    (∀ config : Config, Json.readAs? Config.ofJson? config.toJson.render = some config) ∧
    (∀ document encryption, Json.readAs? Encryption.ofJson? document = some encryption →
      encryption.KeepsName ∧ ∃ name, Json.parse? document = some (.ofString name) ∧
        encryption.algorithm = Text.trim name) ∧
    (∀ document options encryption, Json.readAs? UploadOptions.ofJson? document = some options →
      options.encryption = some encryption → encryption.KeepsName ∧ ∃ name acl storageClass,
        (Json.parse? document).bind (·.fields? UploadOptions.fieldNames 0) =
            some [some (.ofString name), acl, storageClass] ∧
          encryption.algorithm = Text.trim name) ∧
    (∀ padded plain, (Json.parse? padded).map Json.trimmed = Json.parse? plain →
      Json.readAs? Encryption.ofJson? padded = Json.readAs? Encryption.ofJson? plain) ∧
    ∀ padded plain, (Json.parse? padded).map UploadOptions.trimName = Json.parse? plain →
      Json.readAs? UploadOptions.ofJson? padded = Json.readAs? UploadOptions.ofJson? plain := by
  refine ⟨fun options ↦ ?_, fun metadata ↦ ⟨?_, fun listing hlisting ↦ ?_⟩, fun config ↦ ?_,
    fun document encryption hread ↦ ⟨encryption.keepsName, ?_⟩,
    fun document options encryption hread hencryption ↦ ⟨encryption.keepsName, ?_⟩,
    fun _ _ ↦ Json.readAs?_eq_of_map Encryption.ofJson?_trimmed,
    fun _ _ ↦ Json.readAs?_eq_of_map UploadOptions.ofJson?_trimName⟩
  · rw [Json.readAs?_render, options.ofJson?_toJson]
  · rw [Json.readAs?_render, metadata.toJson_eq_ofFields, Metadata.ofJson?_ofFields (.refl _)]
  · rw [Json.readAs?_render, Metadata.ofJson?_ofFields hlisting]
  · rw [Json.readAs?_render, config.ofJson?_toJson]
  · obtain ⟨json, hparse, hjson⟩ := Option.bind_eq_some_iff.mp hread
    obtain ⟨name, rfl, hname⟩ := Encryption.exists_name_of_ofJson? hjson
    exact ⟨name, hparse, hname⟩
  · obtain ⟨json, hparse, hjson⟩ := Option.bind_eq_some_iff.mp hread
    rw [hparse, Option.bind_some]
    exact UploadOptions.exists_name_of_ofJson? hjson hencryption

theorem padded_algorithm_names_are_read_trimmed :
    Json.readAs? UploadOptions.ofJson? "[\"aws:kms\",\"private\",\"STANDARD\"]" =
      some { encryption := some .awsKms } ∧
    Json.readAs? UploadOptions.ofJson? "[\" aws:kms\\t\", \"private\", \"STANDARD\"]" =
      some { encryption := some .awsKms } ∧
    Encryption.awsKms.KeepsName := by
  obtain ⟨-, -, -, -, hkept, -, hpadded⟩ := documents_round_trip
  have hplain : Json.readAs? UploadOptions.ofJson? "[\"aws:kms\",\"private\",\"STANDARD\"]" =
      some { encryption := some .awsKms } := by decide +kernel
  exact ⟨hplain, (hpadded _ _ rfl).trans hplain, (hkept _ _ _ hplain rfl).1⟩

end MultipartUpload
