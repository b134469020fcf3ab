import MultipartUpload.Options.PutConfiguration
import MultipartUpload.Proofs.Options.Algorithm

/-!
# Last settings

Of a sequence of settings the last one of each kind counts, and whether multipart was asked for. So
settings of different kinds can change places, and a setting that is followed by another one of its
kind can be left out. A draft can be built if its dialect carries all that was asked for, and the
configuration then holds exactly that.
-/

namespace MultipartUpload

namespace PutConfiguration

/-! ## What counts of a sequence of settings -/

namespace Setting

/-- What a setting sets. -/
inductive Kind where
  | dialect
  | multipart
  | encryption
  | acl
  | storageClass
  deriving DecidableEq, Repr

def kind : Setting → Kind
  | .dialect _ => .dialect
  | .multipart => .multipart
  | .encryption _ => .encryption
  | .acl _ => .acl
  | .storageClass _ => .storageClass

def dialect? : Setting → Option Dialect
  | .dialect chosen => some chosen
  | _ => none

def encryption? : Setting → Option EncryptionRequest
  | .encryption request => some request
  | _ => none

def acl? : Setting → Option Acl
  | .acl chosen => some chosen
  | _ => none

def storageClass? : Setting → Option StorageClass
  | .storageClass chosen => some chosen
  | _ => none

/-- Whether a value is read from the settings of one kind, and from no others. -/
def Reads (read : Setting → Option α) (kind : Kind) : Prop :=
  ∀ setting, (read setting).isSome ↔ setting.kind = kind

theorem reads_dialect? : Reads dialect? .dialect := by
  intro setting
  cases setting <;> simp [dialect?, kind]

theorem reads_encryption? : Reads encryption? .encryption := by
  intro setting
  cases setting <;> simp [encryption?, kind]

theorem reads_acl? : Reads acl? .acl := by
  intro setting
  cases setting <;> simp [acl?, kind]

theorem reads_storageClass? : Reads storageClass? .storageClass := by
  intro setting
  cases setting <;> simp [storageClass?, kind]

theorem kind_eq_multipart {setting : Setting} :
    setting.kind = .multipart ↔ setting = .multipart := by
  cases setting <;> simp [kind]

/-- The last value that is read from some settings. -/
def last? (read : Setting → Option α) (settings : List Setting) : Option α :=
  settings.reverse.findSome? read

variable {read : Setting → Option α} {kind : Kind}

theorem last?_append (read : Setting → Option α) (first second : List Setting) :
    last? read (first ++ second) = (last? read second).or (last? read first) := by
  rw [last?, List.reverse_append, List.findSome?_append]
  rfl

theorem last?_singleton (read : Setting → Option α) (setting : Setting) :
    last? read [setting] = read setting := by
  cases h : read setting <;> simp [last?, h]

theorem last?_cons (read : Setting → Option α) (setting : Setting) (rest : List Setting) :
    last? read (setting :: rest) = (last? read rest).or (read setting) := by
  rw [← List.singleton_append, last?_append, last?_singleton]

theorem last?_isSome_of_mem (hread : Reads read kind) {settings : List Setting} {setting : Setting}
    (hmem : setting ∈ settings) (hkind : setting.kind = kind) : (last? read settings).isSome := by
  rw [last?, List.findSome?_isSome_iff]
  exact ⟨setting, List.mem_reverse.mpr hmem, (hread setting).mpr hkind⟩

/-- Settings of other kinds do not matter to the last one of a kind. -/
theorem last?_filter_kind (hread : Reads read kind) (settings : List Setting) :
    last? read (settings.filter (·.kind = kind)) = last? read settings := by
  induction settings with
  | nil => rfl
  | cons setting rest ih =>
    by_cases hkind : setting.kind = kind
    · rw [List.filter_cons_of_pos (by simpa using hkind), last?_cons, last?_cons, ih]
    · have hnone : read setting = none :=
        Option.not_isSome_iff_eq_none.mp fun hsome ↦ hkind ((hread setting).mp hsome)
      rw [List.filter_cons_of_neg (by simpa using hkind), last?_cons, ih, hnone, Option.or_none]

/-- A setting does not matter to the last one of a kind if another one of its kind follows it. -/
theorem last?_overwritten (hread : Reads read kind) (before after : List Setting)
    {overwritten later : Setting} (hmem : later ∈ after) (hkind : later.kind = overwritten.kind) :
    last? read (before ++ overwritten :: after) = last? read (before ++ after) := by
  rw [last?_append, last?_append, last?_cons]
  by_cases hown : overwritten.kind = kind
  · obtain ⟨value, hvalue⟩ :=
      Option.isSome_iff_exists.mp (last?_isSome_of_mem hread hmem (hkind.trans hown))
    rw [hvalue, Option.some_or]
  · have hnone : read overwritten = none :=
      Option.not_isSome_iff_eq_none.mp fun hsome ↦ hown ((hread overwritten).mp hsome)
    rw [hnone, Option.or_none]

end Setting

namespace Draft

open Setting

/-- The last setting of each kind, on top of the dialect to begin with. -/
def lastOfEach (dialect : Dialect) (settings : List Setting) : Draft where
  dialect := (last? dialect? settings).getD dialect
  multipart := Setting.multipart ∈ settings
  encryption := last? Setting.encryption? settings
  acl := last? acl? settings
  storageClass := last? storageClass? settings

/-- The last setting of each kind is what is left of a sequence of settings. -/
theorem foldl_set (dialect : Dialect) (settings : List Setting) :
    settings.foldl set { dialect } = lastOfEach dialect settings := by
  induction settings using List.reverseRecOn with
  | nil => rfl
  | append_singleton settings setting ih =>
    rw [List.foldl_append, ih]
    cases setting <;> simp [set, lastOfEach, last?_append, last?_singleton, dialect?,
      Setting.encryption?, acl?, storageClass?]

variable {dialect other : Dialect} {settings reordered before after : List Setting}

/-- Settings of different kinds can change places. -/
theorem lastOfEach_reorder
    (h : ∀ kind, reordered.filter (·.kind = kind) = settings.filter (·.kind = kind)) :
    lastOfEach dialect reordered = lastOfEach dialect settings := by
  have hlast {α : Type} {read : Setting → Option α} {kind : Kind} (hread : Reads read kind) :
      last? read reordered = last? read settings := by
    rw [← last?_filter_kind hread reordered, h, last?_filter_kind hread]
  have hmultipart : Setting.multipart ∈ reordered ↔ Setting.multipart ∈ settings := by
    have hmem (settings : List Setting) : Setting.multipart ∈ settings ↔
        Setting.multipart ∈ settings.filter (·.kind = .multipart) := by
      simp [List.mem_filter, kind]
    rw [hmem reordered, h, ← hmem]
  simp only [lastOfEach, hlast reads_dialect?, hlast reads_encryption?, hlast reads_acl?,
    hlast reads_storageClass?, hmultipart]

/-- A setting can be left out if another one of its kind follows it. -/
theorem lastOfEach_overwritten {overwritten : Setting}
    (h : ∃ later ∈ after, later.kind = overwritten.kind) :
    lastOfEach dialect (before ++ overwritten :: after) = lastOfEach dialect (before ++ after) := by
  obtain ⟨later, hmem, hkind⟩ := h
  have hlast {α : Type} {read : Setting → Option α} {kind : Kind} (hread : Reads read kind) :=
    last?_overwritten hread before after hmem hkind
  have hmultipart : Setting.multipart ∈ before ++ overwritten :: after ↔
      Setting.multipart ∈ before ++ after := by
    have hlater : overwritten = .multipart → Setting.multipart ∈ after := by
      rintro rfl
      rwa [← kind_eq_multipart.mp hkind]
    simp only [List.mem_append, List.mem_cons]
    tauto
  simp only [lastOfEach, hlast reads_dialect?, hlast reads_encryption?, hlast reads_acl?,
    hlast reads_storageClass?, hmultipart]

/-- The dialect to begin with does not matter if another one is set. -/
theorem lastOfEach_dialect (h : ∃ setting ∈ settings, setting.kind = .dialect) :
    lastOfEach other settings = lastOfEach dialect settings := by
  obtain ⟨setting, hmem, hkind⟩ := h
  obtain ⟨last, hlast⟩ :=
    Option.isSome_iff_exists.mp (last?_isSome_of_mem reads_dialect? hmem hkind)
  simp only [lastOfEach, hlast, Option.getD_some]

end Draft

/-! ## What can be built -/

end PutConfiguration

theorem Dialect.supportsEncryption_iff {dialect : Dialect} :
    dialect.supportsEncryption ↔ dialect ≠ .generic := by
  cases dialect <;> simp [supportsEncryption]

theorem Dialect.supportsAcl_iff {dialect : Dialect} : dialect.supportsAcl ↔ dialect ≠ .generic := by
  cases dialect <;> simp [supportsAcl]

theorem Dialect.supportsStorageClass_iff {dialect : Dialect} :
    dialect.supportsStorageClass ↔ dialect = .storageClassAware := by
  cases dialect <;> simp [supportsStorageClass]

/-- A name is accepted if it can name an algorithm once it is trimmed, and then it names that
one. -/
theorem Encryption.ofName_eq_ok_iff {name : String} {encryption : Encryption} :
    ofName name = .ok encryption ↔
      IsAlgorithmName (Text.trim name) ∧ encryption.algorithm = Text.trim name := by
  unfold ofName
  split_ifs with hempty hname
  · simp [IsAlgorithmName, hempty]
  · rw [Except.ok.injEq, ← algorithm_injective.eq_iff, eq_comm]
    simp [hname]
  · simp [hname]

theorem Encryption.eq_aes256_iff {encryption : Encryption} :
    encryption = .aes256 ↔ encryption.algorithm = "AES256" :=
  algorithm_injective.eq_iff.symm

namespace PutConfiguration

/-- The algorithm that is asked for. The flag asks for the default one. -/
def EncryptionRequest.algorithm : EncryptionRequest → String
  | .flag => "AES256"
  | .named name => Text.trim name

namespace Draft

/-- Whether the dialect of a draft carries everything that the draft asks for. -/
structure Carriable (draft : Draft) : Prop where
  encryption : draft.encryption.isSome → draft.dialect ≠ .generic
  algorithm : ∀ name, draft.encryption = some (.named name) →
    IsAlgorithmName (Text.trim name) ∧
      (draft.dialect.supportsNamedAlgorithm ∨ Text.trim name = "AES256")
  acl : draft.acl.isSome → draft.dialect ≠ .generic
  storageClass : draft.storageClass.isSome → draft.dialect = .storageClassAware

/-- Whether a configuration holds what a draft asks for, and the defaults for everything else. -/
structure HeldBy (draft : Draft) (config : PutConfiguration) : Prop where
  dialect : config.dialect = draft.dialect
  multipart : config.multipart = draft.multipart
  encryption : config.encryption.map (·.algorithm) = draft.encryption.map (·.algorithm)
  acl : config.acl = draft.acl.getD .privateAccess
  storageClass : config.storageClass = draft.storageClass.getD .standard

variable {draft : Draft} {encryption : Option Encryption} {name : String}

theorem encryption?_of_none (h : draft.encryption = none) : draft.encryption? = .ok none := by
  simp only [encryption?, h]

theorem encryption?_eq_ok_iff_of_flag (h : draft.encryption = some .flag) :
    draft.encryption? = .ok encryption ↔
      draft.dialect ≠ .generic ∧ encryption = some .aes256 := by
  rw [← Dialect.supportsEncryption_iff]
  simp only [encryption?, h]
  split_ifs with hsupported
  · simp [hsupported, eq_comm]
  · simp [hsupported]

theorem encryption?_eq_ok_iff_of_named (h : draft.encryption = some (.named name)) :
    draft.encryption? = .ok encryption ↔
      draft.dialect ≠ .generic ∧ ∃ e, encryption = some e ∧ Encryption.ofName name = .ok e ∧
        (draft.dialect.supportsNamedAlgorithm ∨ e = .aes256) := by
  rw [← Dialect.supportsEncryption_iff]
  simp only [encryption?, h]
  split_ifs with hsupported
  · cases hname : Encryption.ofName name with
    | error fault => simp
    | ok e =>
      dsimp only
      by_cases halgorithm : draft.dialect.supportsNamedAlgorithm ∨ e = .aes256
      · have hcarried : ¬(¬draft.dialect.supportsNamedAlgorithm ∧ e ≠ .aes256) :=
          fun ⟨hnamed, hother⟩ ↦ halgorithm.elim hnamed hother
        rw [if_neg hcarried, Except.ok.injEq]
        constructor
        · rintro rfl
          exact ⟨hsupported, e, rfl, rfl, halgorithm⟩
        · rintro ⟨-, _, rfl, ⟨⟩, -⟩
          rfl
      · rw [if_pos (not_or.mp halgorithm)]
        simp [hsupported, halgorithm]
  · simp [hsupported]

/-- The encryption that passes the check is the one asked for. -/
theorem algorithm_of_encryption? (h : draft.encryption? = .ok encryption) :
    encryption.map (·.algorithm) = draft.encryption.map (·.algorithm) := by
  cases hrequest : draft.encryption with
  | none =>
    rw [encryption?_of_none hrequest, Except.ok.injEq] at h
    rw [← h]
    rfl
  | some request =>
    cases request with
    | flag =>
      obtain ⟨-, rfl⟩ := (encryption?_eq_ok_iff_of_flag hrequest).mp h
      rfl
    | named name =>
      obtain ⟨-, e, rfl, hname, -⟩ := (encryption?_eq_ok_iff_of_named hrequest).mp h
      exact congrArg some (Encryption.ofName_eq_ok_iff.mp hname).2

/-- What the check of the encryption asks for. -/
theorem encryption?_isOk_iff : (∃ encryption, draft.encryption? = .ok encryption) ↔
    (draft.encryption.isSome → draft.dialect ≠ .generic) ∧
      ∀ name, draft.encryption = some (.named name) → IsAlgorithmName (Text.trim name) ∧
        (draft.dialect.supportsNamedAlgorithm ∨ Text.trim name = "AES256") := by
  cases hrequest : draft.encryption with
  | none => simp [encryption?_of_none hrequest]
  | some request =>
    cases request with
    | flag => simp [encryption?_eq_ok_iff_of_flag hrequest]
    | named name =>
      simp only [encryption?_eq_ok_iff_of_named hrequest, Encryption.ofName_eq_ok_iff,
        Encryption.eq_aes256_iff, Option.some.injEq, EncryptionRequest.named.injEq,
        forall_eq', Option.isSome_some, true_implies]
      constructor
      · rintro ⟨_, hsupported, e, -, ⟨hname, halgorithm⟩, hnamed⟩
        exact ⟨hsupported, hname, halgorithm ▸ hnamed⟩
      · rintro ⟨hsupported, hname, hnamed⟩
        exact ⟨_, hsupported, ⟨_, hname⟩, rfl, ⟨hname, rfl⟩, hnamed⟩

/-- A draft can be built if each of its options passes its check. -/
theorem build_isOk_iff_checks : (∃ config, draft.build = .ok config) ↔
    (∃ encryption, draft.encryption? = .ok encryption) ∧
      (draft.acl.isSome → draft.dialect.supportsAcl) ∧
        (draft.storageClass.isSome → draft.dialect.supportsStorageClass) := by
  unfold build
  split
  next e herror => simp [herror]
  next encryption hok =>
    split_ifs with hacl hclass
    · simp [hacl]
    · simp [hclass]
    · simp only [hok, Except.ok.injEq, exists_eq', true_and, true_iff]
      exact ⟨not_and_not_right.mp hacl, not_and_not_right.mp hclass⟩

/-- A draft can be built if its dialect carries everything that it asks for. -/
theorem build_isOk_iff : (∃ config, draft.build = .ok config) ↔ draft.Carriable := by
  rw [build_isOk_iff_checks, encryption?_isOk_iff, Dialect.supportsAcl_iff,
    Dialect.supportsStorageClass_iff]
  constructor
  · rintro ⟨⟨hencryption, halgorithm⟩, hacl, hclass⟩
    exact ⟨hencryption, halgorithm, hacl, hclass⟩
  · rintro ⟨hencryption, halgorithm, hacl, hclass⟩
    exact ⟨⟨hencryption, halgorithm⟩, hacl, hclass⟩

theorem heldBy_of_build {config : PutConfiguration} (h : draft.build = .ok config) :
    draft.HeldBy config := by
  unfold build at h
  split at h
  next e herror => cases h
  next encryption hok =>
    split_ifs at h with hacl hclass
    cases h
    exact ⟨rfl, rfl, algorithm_of_encryption? hok, rfl, rfl⟩

end Draft

/-- What is built depends on the last setting of each kind alone: it can be built if its dialect
carries them, and it then holds them. Settings of different kinds can change places, a setting that
another one of its kind follows can be left out, and a dialect that is set leaves nothing of the one
to begin with. -/
theorem last_settings_decide (dialect : Dialect) (settings : List Setting) :
    let build (dialect : Dialect) (settings : List Setting) : Except Error PutConfiguration :=
      (settings.foldl Draft.set { dialect }).build
    let last := Draft.lastOfEach dialect settings
    build dialect settings = last.build ∧
    ((∃ config, build dialect settings = .ok config) ↔ last.Carriable) ∧
    (∀ config, build dialect settings = .ok config → last.HeldBy config) ∧
    (∀ reordered, (∀ kind, reordered.filter (·.kind = kind) = settings.filter (·.kind = kind)) →
      build dialect reordered = build dialect settings) ∧
    (∀ before overwritten after, settings = before ++ overwritten :: after →
      (∃ later ∈ after, later.kind = overwritten.kind) →
      build dialect (before ++ after) = build dialect settings) ∧
    ((∃ setting ∈ settings, setting.kind = .dialect) →
      ∀ other, build other settings = build dialect settings) := by
  intro build last
  have hbuild (dialect : Dialect) (settings : List Setting) :
      build dialect settings = (Draft.lastOfEach dialect settings).build :=
    congrArg Draft.build (Draft.foldl_set dialect settings)
  refine ⟨hbuild dialect settings, ?_, ?_, ?_, ?_, ?_⟩
  · rw [hbuild]
    exact Draft.build_isOk_iff
  · intro config h
    rw [hbuild] at h
    exact Draft.heldBy_of_build h
  · intro reordered hreordered
    rw [hbuild, hbuild, Draft.lastOfEach_reorder hreordered]
  · rintro before overwritten after rfl hlater
    rw [hbuild, hbuild, Draft.lastOfEach_overwritten hlater]
  · intro hdialect other
    rw [hbuild, hbuild, Draft.lastOfEach_dialect hdialect]

/-- A blank name of an algorithm, and a dialect that cannot ask for any, do not matter once they are
overwritten. -/
theorem last_settings_decide_after_change_of_dialect :
    let blank : Setting := .encryption (.named " ")
    let rest : List Setting := [.acl .publicRead, .dialect .storageClassAware,
      .encryption (.named " aws:kms "), .storageClass .glacier, .multipart]
    let reordered : List Setting := [.multipart, blank, .storageClass .glacier,
      .encryption (.named " aws:kms "), .dialect .storageClassAware, .acl .publicRead]
    let build (dialect : Dialect) (settings : List Setting) : Except Error PutConfiguration :=
      (settings.foldl Draft.set { dialect }).build
    ∃ config, build .generic (blank :: rest) = .ok config ∧
      config.encryption.map (·.algorithm) = some "aws:kms" ∧ config.acl = .publicRead ∧
      config.storageClass = .glacier ∧ config.multipart ∧ config.dialect = .storageClassAware ∧
      build .generic reordered = .ok config ∧ build .generic rest = .ok config ∧
      build .encryptionFlag (blank :: rest) = .ok config := by
  intro blank rest reordered build
  obtain ⟨-, hok, hheld, hreordered, hoverwritten, hdialect⟩ :=
    last_settings_decide .generic (blank :: rest)
  have hcarriable : (Draft.lastOfEach .generic (blank :: rest)).Carriable := by
    refine ⟨by decide, fun name hname ↦ ?_, by decide, by decide⟩
    cases hname
    decide
  obtain ⟨config, hconfig⟩ := hok.mpr hcarriable
  have held := hheld config hconfig
  refine ⟨config, hconfig, held.encryption, held.acl, held.storageClass, held.multipart,
    held.dialect, ?_, ?_, ?_⟩
  · rw [← hconfig]
    exact hreordered reordered fun kind ↦ by cases kind <;> rfl
  · rw [← hconfig]
    exact hoverwritten [] blank rest rfl ⟨.encryption (.named " aws:kms "), by decide, rfl⟩
  · rw [← hconfig]
    exact hdialect ⟨.dialect .storageClassAware, by decide, rfl⟩ .encryptionFlag

end PutConfiguration

end MultipartUpload
