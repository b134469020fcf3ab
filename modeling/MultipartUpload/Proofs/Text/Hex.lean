import Mathlib.Tactic
import MultipartUpload.Text.Hex

/-!
# Reading hexadecimal digits

Bytes are read back from the digits they are written in, and the case of the digits does not matter.
So digits can be read if and only if they come in pairs, and up to case they are those in which the
bytes are written.
-/

namespace MultipartUpload

namespace Text

/-- What holds for every ASCII character can be tried out. -/
theorem of_ascii {p : Char → Prop} (h : ∀ k < 128, p (Char.ofNat k)) {c : Char}
    (hc : c.toNat < 128) : p c := by
  have hp := h c.toNat hc
  rwa [Char.ofNat_toNat] at hp

theorem toLower_of_not_ascii {c : Char} (hc : 128 ≤ c.toNat) : c.toLower = c := by
  have hupper : ¬(c.val ≥ 'A'.val ∧ c.val ≤ 'Z'.val) := by
    rintro ⟨-, hz⟩
    have hle : c.toNat ≤ 'Z'.toNat := UInt32.le_iff_toNat_le.mp hz
    exact absurd (hc.trans hle) (by decide)
  exact dif_neg hupper

/-- Where the case of ASCII letters does not matter, case does not matter. -/
theorem comp_toLower {α : Type} {f : Char → α}
    (h : ∀ k < 128, f (Char.ofNat k).toLower = f (Char.ofNat k)) (c : Char) :
    f c.toLower = f c := by
  rcases Nat.lt_or_ge c.toNat 128 with hascii | hbeyond
  · exact of_ascii (p := fun c ↦ f c.toLower = f c) h hascii
  · rw [toLower_of_not_ascii hbeyond]

end Text

namespace Hex

/-- The digits in which bytes are written. -/
def IsLowerDigit (c : Char) : Prop :=
  ('0' ≤ c ∧ c ≤ '9') ∨ ('a' ≤ c ∧ c ≤ 'f')

/-- The digits that can be read. -/
def IsDigit (c : Char) : Prop :=
  IsLowerDigit c ∨ ('A' ≤ c ∧ c ≤ 'F')

instance (c : Char) : Decidable (IsLowerDigit c) :=
  inferInstanceAs (Decidable (_ ∨ _))

instance (c : Char) : Decidable (IsDigit c) :=
  inferInstanceAs (Decidable (_ ∨ _))

/-- Digits of whole bytes. -/
def IsPairs (cs : List Char) : Prop :=
  cs.length % 2 = 0 ∧ ∀ c ∈ cs, IsDigit c

variable {cs : List Char} {bytes : Bytes}

/-! ## Single digits -/

theorem value?_digit {n : ℕ} (h : n < 16) : value? (digit n) = some n := by
  interval_cases n <;> rfl

theorem isLowerDigit_digit {n : ℕ} (h : n < 16) : IsLowerDigit (digit n) := by
  interval_cases n <;> decide

theorem value?_isSome_iff {c : Char} : (value? c).isSome ↔ IsDigit c := by
  unfold value? IsDigit IsLowerDigit
  split_ifs <;> simp_all

theorem IsDigit.toNat_lt {c : Char} (h : IsDigit c) : c.toNat < 128 := by
  simp only [IsDigit, IsLowerDigit, Char.le_def, UInt32.le_iff_toNat_le] at h
  rcases h with (⟨-, h⟩ | ⟨-, h⟩) | ⟨-, h⟩ <;> exact h.trans_lt (by decide)

/-- A digit is written in lower case. -/
theorem digit_of_value? {c : Char} {n : ℕ} (h : value? c = some n) :
    n < 16 ∧ digit n = c.toLower := by
  have hdigit : IsDigit c := value?_isSome_iff.mp (by rw [h]; rfl)
  exact Text.of_ascii (p := fun c ↦ ∀ n ∈ value? c, n < 16 ∧ digit n = c.toLower) (by decide)
    hdigit.toNat_lt n h

theorem value?_toLower (c : Char) : value? c.toLower = value? c :=
  Text.comp_toLower (by decide) c

/-! ## Runs of digits -/

theorem encode_cons (byte : UInt8) (bytes : Bytes) : encode (byte :: bytes) =
    digit (byte.toNat / 16) :: digit (byte.toNat % 16) :: encode bytes := rfl

theorem length_encode (bytes : Bytes) : (encode bytes).length = 2 * bytes.length := by
  induction bytes with
  | nil => rfl
  | cons byte bytes ih =>
    rw [encode_cons, List.length_cons, List.length_cons, List.length_cons, ih]
    omega

theorem isLowerDigit_of_mem_encode {c : Char} (h : c ∈ encode bytes) : IsLowerDigit c := by
  obtain ⟨byte, -, hc⟩ := List.mem_flatMap.mp h
  have hbyte := byte.toNat_lt
  simp only [List.mem_cons, List.not_mem_nil, or_false] at hc
  rcases hc with rfl | rfl <;> exact isLowerDigit_digit (by omega)

/-- Bytes are read back from the digits in which they are written. -/
@[simp]
theorem decode?_encode (bytes : Bytes) : decode? (encode bytes) = some bytes := by
  induction bytes with
  | nil => rfl
  | cons byte bytes ih =>
    have hbyte := byte.toNat_lt
    have hjoined : byte.toNat / 16 * 16 + byte.toNat % 16 = byte.toNat := by omega
    rw [encode_cons, decode?, value?_digit (by omega), value?_digit (by omega), ih]
    simp only [Option.bind_eq_bind, Option.bind_some, hjoined, UInt8.ofNat_toNat, Option.pure_def]

theorem decode?_map_toLower (cs : List Char) : decode? (cs.map Char.toLower) = decode? cs := by
  fun_induction decode? cs with
  | case1 | case2 => rfl
  | case3 high low rest ih => simp only [List.map_cons, decode?, value?_toLower, ih]

/-- Digits stand for bytes if and only if the bytes are written in them, up to case. -/
theorem decode?_eq_some_iff : decode? cs = some bytes ↔ encode bytes = cs.map Char.toLower := by
  constructor
  · intro h
    fun_induction decode? cs generalizing bytes with
    | case1 =>
      cases h
      rfl
    | case2 => cases h
    | case3 high low rest ih =>
      simp only [Option.bind_eq_bind, Option.bind_eq_some_iff, Option.pure_def,
        Option.some.injEq] at h
      obtain ⟨first, hfirst, second, hsecond, tail, htail, rfl⟩ := h
      obtain ⟨hfirst, hhigh⟩ := digit_of_value? hfirst
      obtain ⟨hsecond, hlow⟩ := digit_of_value? hsecond
      have hbyte : (UInt8.ofNat (first * 16 + second)).toNat = first * 16 + second :=
        UInt8.toNat_ofNat_of_lt' (by simp only [UInt8.size]; omega)
      have hquotient : (first * 16 + second) / 16 = first := by omega
      have hremainder : (first * 16 + second) % 16 = second := by omega
      rw [encode_cons, hbyte, hquotient, hremainder, hhigh, hlow, ih htail, List.map_cons,
        List.map_cons]
  · intro h
    rw [← decode?_map_toLower, ← h, decode?_encode]

/-- Digits can be read if and only if they come in pairs. -/
theorem decode?_isSome_iff : (decode? cs).isSome ↔ IsPairs cs := by
  fun_induction decode? cs with
  | case1 => simp [IsPairs]
  | case2 => simp [IsPairs]
  | case3 high low rest ih =>
    have hread : (value? high).isSome ∧ (value? low).isSome ∧ (decode? rest).isSome ↔
        IsPairs (high :: low :: rest) := by
      rw [value?_isSome_iff, value?_isSome_iff, ih]
      simp only [IsPairs, List.length_cons, List.forall_mem_cons, Nat.add_assoc, Nat.reduceAdd,
        Nat.add_mod_right]
      tauto
    rw [← hread]
    rcases value? high with - | first <;> rcases value? low with - | second <;>
      rcases decode? rest with - | tail <;> simp

end Hex

end MultipartUpload
