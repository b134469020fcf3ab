import MultipartUpload.Options.Directory
import MultipartUpload.Proofs.Options.Algorithm

/-!
# Put configurations that can be obtained

A caller obtains a put configuration by drafting one, from the options of a directory marker, or
ready-made. Every configuration whose dialect can carry it is obtained in one of these ways: it is
built from a draft that names its algorithm and sets what is not the default. So what holds of all
configurations holds of those that can be obtained, and of no others.
-/

namespace MultipartUpload

section

variable {α : Type*} [DecidableEq α] [Inhabited α] (value : α)

/-- A setting that is left out if it is the default. -/
def unlessDefault : Option α :=
  if value = default then none else some value

@[simp]
theorem getD_unlessDefault : (unlessDefault value).getD default = value := by
  unfold unlessDefault
  split_ifs with h
  · exact h.symm
  · rfl

@[simp]
theorem isSome_unlessDefault : (unlessDefault value).isSome ↔ value ≠ default := by
  unfold unlessDefault
  split_ifs with h <;> simp [h]

end

namespace PutConfiguration

/-- Put configurations, or the lack of one, as a caller can obtain them. -/
inductive Obtainable : Option PutConfiguration → Prop where
  | absent : Obtainable none
  | generic (multipart : Bool) : Obtainable (some (.generic multipart))
  | default : Obtainable (some {})
  | directory (options : DirectoryOptions) : Obtainable options.putConfiguration?
  | built {dialect : Dialect} {settings : List Setting} {config : PutConfiguration}
      (h : (settings.foldl Draft.set { dialect }).build = .ok config) : Obtainable (some config)

variable (config : PutConfiguration)

/-- The settings that ask for what a configuration has beyond the defaults of its dialect. -/
def settings : List Setting :=
  (if config.multipart then [.multipart] else []) ++
  (config.encryption.toList.map fun encryption ↦ .encryption (.named encryption.algorithm)) ++
  (unlessDefault config.acl).toList.map .acl ++
  (unlessDefault config.storageClass).toList.map .storageClass

/-- The draft that these settings make up. -/
def draft : Draft where
  dialect := config.dialect
  multipart := config.multipart
  encryption := config.encryption.map fun encryption ↦ .named encryption.algorithm
  acl := unlessDefault config.acl
  storageClass := unlessDefault config.storageClass

theorem foldl_settings :
    config.settings.foldl Draft.set { dialect := config.dialect } = config.draft := by
  simp only [settings, draft, List.foldl_append]
  rcases config.multipart <;> rcases config.encryption <;>
    rcases unlessDefault config.acl <;> rcases unlessDefault config.storageClass <;>
    rfl

theorem encryption?_draft : config.draft.encryption? = .ok config.encryption := by
  obtain ⟨dialect, _, encryption, acl, storageClass, hcarried⟩ := config
  cases encryption with
  | none => rfl
  | some encryption =>
    obtain ⟨hsupported, halgorithm⟩ := hcarried.encryption encryption rfl
    have hnamed : ¬(¬dialect.supportsNamedAlgorithm ∧ encryption ≠ .aes256) := by tauto
    simp only [draft, Draft.encryption?, Option.map_some, hsupported, not_true_eq_false, if_false,
      encryption.ofName_algorithm]
    exact if_neg hnamed

/-- A configuration is built from its draft. -/
theorem build_draft : config.draft.build = .ok config := by
  have hencryption := config.encryption?_draft
  have hacl : ¬(config.draft.acl.isSome ∧ ¬config.draft.dialect.supportsAcl) := by
    simp only [draft, isSome_unlessDefault, not_and_not_right]
    exact config.carried.acl
  have hclass :
      ¬(config.draft.storageClass.isSome ∧ ¬config.draft.dialect.supportsStorageClass) := by
    simp only [draft, isSome_unlessDefault, not_and_not_right]
    exact config.carried.storageClass
  unfold Draft.build
  split
  · rename_i hrefused
    rw [hencryption] at hrefused
    cases hrefused
  · rename_i encryption haccepted
    rw [hencryption] at haccepted
    cases haccepted
    rw [dif_neg hacl, dif_neg hclass]
    simp only [draft, getD_unlessDefault]

/-- Every configuration can be obtained. -/
theorem obtainable (config : Option PutConfiguration) : Obtainable config := by
  cases config with
  | none => exact .absent
  | some config =>
    apply Obtainable.built
    rw [foldl_settings, build_draft]

end PutConfiguration

end MultipartUpload
