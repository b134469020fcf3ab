import MultipartUpload.Config.Environment
import MultipartUpload.Proofs.Text.Numeral

/-!
# Configurations written to the environment

Every setting of a configuration is read from one variable and from no other. What comes of it is
stated once, for a setting that has a name, a default and perhaps a bound, and the seven settings
are instances of it. So a configuration can be written to the environment and read back, and a
setting keeps its default in exactly the cases in which its variable says nothing else. What is not
a text says nothing, not even of the settings that take every text.
-/

namespace MultipartUpload

namespace Config

inductive Setting where
  | partSize
  | partCountCeiling
  | minPartSize
  | maxPartSize
  | maxPartCount
  | headerTag
  | logLevel
  deriving DecidableEq, Repr

/-- The value of a setting. -/
inductive Value where
  | number (n : ℕ)
  | text (s : String)
  deriving DecidableEq, Repr

/-- The texts from which a value is read. -/
def Value.SpelledBy : Value → String → Prop
  | .number n, s => Numeral.Spells n s
  | .text t, s => s = t

namespace Setting

/-- The variable that a setting is read from. -/
def variableName : Setting → String
  | .partSize => "MPU_PART_SIZE"
  | .partCountCeiling => "MPU_PART_COUNT_CEILING"
  | .minPartSize => "MPU_MIN_PART_SIZE"
  | .maxPartSize => "MPU_MAX_PART_SIZE"
  | .maxPartCount => "MPU_MAX_PART_COUNT"
  | .headerTag => "MPU_HEADER_TAG"
  | .logLevel => "LOG_LEVEL"

/-- The bound of the numbers that a setting can hold. There is none if it holds a text. -/
def bound? : Setting → Option ℕ
  | .partSize | .minPartSize | .maxPartSize => some UInt64.size
  | .partCountCeiling | .maxPartCount => some UInt32.size
  | .headerTag | .logLevel => none

def value (c : Config) : Setting → Value
  | .partSize => .number c.partSize.toNat
  | .partCountCeiling => .number c.partCountCeiling.toNat
  | .minPartSize => .number c.minPartSize.toNat
  | .maxPartSize => .number c.maxPartSize.toNat
  | .maxPartCount => .number c.maxPartCount.toNat
  | .headerTag => .text c.headerTag
  | .logLevel => .text c.logLevel

/-- What the text of a variable says about a setting, if it says anything. -/
def read? (setting : Setting) : String → Option Value :=
  match setting.bound? with
  | some bound => fun text ↦ ((Numeral.ofSetting? text).filter (· < bound)).map .number
  | none => fun text ↦ some (.text text)

/-! ## Reading single settings -/

/-- A number that no word of the setting's size holds is passed over. -/
theorem number_getD {α : Type} {toNat : α → ℕ} {word? : ℕ → Option α} {bound : ℕ}
    (hword : ∀ n, (word? n).map toNat = if n < bound then some n else none)
    (text? : Option String) (fallback : α) :
    Value.number (toNat (((text?.bind Numeral.ofSetting?).bind word?).getD fallback)) =
      (text?.bind fun text ↦ ((Numeral.ofSetting? text).filter (· < bound)).map .number).getD
        (.number (toNat fallback)) := by
  rcases text? with - | text
  · rfl
  rcases hread : Numeral.ofSetting? text with - | n
  · simp [hread]
  · have hmap := congrArg (fun n? ↦ Value.number (n?.getD (toNat fallback))) (hword n)
    simp only [Option.getD_map] at hmap
    simp only [Option.bind_some, hread, Option.filter, decide_eq_true_eq, hmap]
    split_ifs <;> rfl

/-- A setting has what its variable says, and else its default. -/
theorem value_ofEnvironment (setting : Setting) (env : Environment) :
    setting.value (ofEnvironment env) =
      ((env.text? setting.variableName).bind setting.read?).getD (setting.value {}) := by
  cases setting with
  | partSize | minPartSize | maxPartSize => exact number_getD Numeral.map_toNat_word64? _ _
  | partCountCeiling | maxPartCount => exact number_getD Numeral.map_toNat_word32? _ _
  | headerTag | logLevel =>
    simp only [value, ofEnvironment, variableName]
    cases env.text? _ <;> rfl

theorem eq_of_value_eq {c c' : Config}
    (h : ∀ setting : Setting, setting.value c = setting.value c') : c = c' := by
  have hnumber {n n' : ℕ} (h : Value.number n = .number n') : n = n' := Value.number.inj h
  have htext {s s' : String} (h : Value.text s = .text s') : s = s' := Value.text.inj h
  cases c
  cases c'
  rw [Config.mk.injEq]
  exact ⟨UInt64.toNat_inj.mp (hnumber (h .partSize)),
    UInt32.toNat_inj.mp (hnumber (h .partCountCeiling)),
    UInt64.toNat_inj.mp (hnumber (h .minPartSize)), UInt64.toNat_inj.mp (hnumber (h .maxPartSize)),
    UInt32.toNat_inj.mp (hnumber (h .maxPartCount)), htext (h .headerTag), htext (h .logLevel)⟩

/-- A setting holds a number below its bound, or else a text. -/
theorem value_cases (setting : Setting) (c : Config) :
    (∃ bound n, setting.bound? = some bound ∧ setting.value c = .number n ∧ n < bound) ∨
      ∃ s, setting.bound? = none ∧ setting.value c = .text s := by
  cases setting with
  | partSize => exact .inl ⟨_, _, rfl, rfl, c.partSize.toNat_lt⟩
  | minPartSize => exact .inl ⟨_, _, rfl, rfl, c.minPartSize.toNat_lt⟩
  | maxPartSize => exact .inl ⟨_, _, rfl, rfl, c.maxPartSize.toNat_lt⟩
  | partCountCeiling => exact .inl ⟨_, _, rfl, rfl, c.partCountCeiling.toNat_lt⟩
  | maxPartCount => exact .inl ⟨_, _, rfl, rfl, c.maxPartCount.toNat_lt⟩
  | headerTag | logLevel => exact .inr ⟨_, rfl, rfl⟩

variable {setting : Setting} {text : String}

/-- A variable says a value that its setting can hold if and only if the text is a spelling of
it. -/
theorem read?_value_iff (c : Config) :
    setting.read? text = some (setting.value c) ↔ (setting.value c).SpelledBy text := by
  rcases setting.value_cases c with ⟨bound, n, hbound, hvalue, hn⟩ | ⟨s, hbound, hvalue⟩
  · simp only [read?, hbound, hvalue, Value.SpelledBy, ← Numeral.ofSetting?_eq_some_iff]
    simp [hn]
  · simp [read?, hbound, hvalue, Value.SpelledBy]

/-- A variable says nothing if and only if the setting holds a number and the text has none that
fits. -/
theorem read?_eq_none_iff :
    setting.read? text = none ↔
      ∃ bound, setting.bound? = some bound ∧ ¬Numeral.Fits bound text := by
  rcases hbound : setting.bound? with - | bound
  · simp [read?, hbound]
  · simp only [read?, hbound, Numeral.fits_iff, Option.some.injEq, exists_eq_left',
      Option.map_eq_none_iff]
    rcases Numeral.ofSetting? text with - | n <;> simp [Option.filter]

end Setting

end Config

/-- An environment in which every variable spells the setting of a configuration. -/
def Environment.Spells (env : Environment) (c : Config) : Prop :=
  ∀ setting : Config.Setting,
    ∃ text, env setting.variableName = some (.text text) ∧ (setting.value c).SpelledBy text

end MultipartUpload
