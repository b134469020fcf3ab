import MultipartUpload.Proofs.Text.Strip
import MultipartUpload.Text.Numeral

/-!
# Reading numerals

A run of digits is read as a number if and only if it is the decimal numeral of this number with any
zeros in front. So a setting is read as a number if and only if it spells the number, with a plus
sign and white space where they are allowed.
-/

namespace MultipartUpload.Numeral

variable {n bound : ℕ} {cs : List Char} {s : String}

/-! ## Runs of digits -/

theorem value_eq_ofDigitChars (cs : List Char) : value cs = Nat.ofDigitChars 10 cs 0 := by
  simp only [value, Nat.ofDigitChars_eq_foldl, Nat.mul_comm 10]

theorem digits_ne_nil (n : ℕ) : digits n ≠ [] :=
  Nat.toDigits_ne_nil

theorem isDigit_of_mem_digits {c : Char} (h : c ∈ digits n) : c.isDigit :=
  Nat.isDigit_of_mem_toDigits (by decide) le_rfl h

theorem toNat_bounds_of_isDigit {c : Char} (h : c.isDigit) : 48 ≤ c.toNat ∧ c.toNat ≤ 57 := by
  simp only [Char.isDigit, ge_iff_le, Bool.and_eq_true, decide_eq_true_eq, UInt32.le_iff_toNat_le]
    at h
  exact h

/-- A digit is the numeral of its value. -/
theorem digitChar_of_isDigit {c : Char} (h : c.isDigit) :
    c.toNat - '0'.toNat < 10 ∧ Nat.digitChar (c.toNat - '0'.toNat) = c := by
  obtain ⟨hlow, hhigh⟩ := toNat_bounds_of_isDigit h
  have hsmall : c.toNat - '0'.toNat < 10 := by
    simp only [Char.reduceToNat]
    omega
  refine ⟨hsmall, Char.toNat_inj.mp ?_⟩
  rw [Nat.toNat_digitChar_of_lt_ten hsmall]
  exact Nat.add_sub_cancel' hlow

theorem digits_of_lt {d : ℕ} (h : d < 10) : digits d = [Nat.digitChar d] :=
  Nat.toDigits_of_lt_base h

/-- The last digit of a number is what is left when it is divided by ten. -/
theorem digits_ten_mul_add {d : ℕ} (hn : 0 < n) (hd : d < 10) :
    digits (10 * n + d) = digits n ++ [Nat.digitChar d] := by
  rw [← digits_of_lt hd]
  exact (Nat.toDigits_append_toDigits (by decide) hn hd).symm

/-- The numeral of a number does not begin with a zero, unless the number is zero. -/
theorem head?_digits_ne (hn : 0 < n) : (digits n).head? ≠ some '0' := by
  induction n using Nat.base_induction 10 (by decide) with
  | single d hd =>
    rw [digits_of_lt hd, List.head?_cons, ne_eq, Option.some.injEq, Nat.digitChar_eq_zero]
    exact hn.ne'
  | digit m d hd hm ih =>
    rw [digits_ten_mul_add hm hd, List.head?_append_of_ne_nil _ (digits_ne_nil m)]
    exact ih hm

theorem read?_isSome_iff : (read? cs).isSome ↔ cs ≠ [] ∧ ∀ c ∈ cs, c.isDigit := by
  rw [read?]
  split_ifs with h <;> simpa using h

theorem value_of_read? (h : read? cs = some n) : value cs = n := by
  rw [read?] at h
  split_ifs at h
  exact Option.some.inj h

/-- A run of digits is the numeral of its value with zeros in front. -/
theorem exists_zeros_append_digits (hne : cs ≠ []) (hdigits : ∀ c ∈ cs, c.isDigit) :
    ∃ zeros, cs = List.replicate zeros '0' ++ digits (value cs) := by
  -- The value grows at the end of the run, so the run is taken apart from there.
  induction cs using List.reverseRecOn with
  | nil => exact absurd rfl hne
  | append_singleton front c ih =>
    obtain ⟨hsmall, hc⟩ := digitChar_of_isDigit (hdigits c (by simp))
    have hvalue : value (front ++ [c]) = 10 * value front + (c.toNat - '0'.toNat) := by
      simp [value, Nat.mul_comm]
    rcases eq_or_ne front [] with rfl | hfront
    · refine ⟨0, ?_⟩
      rw [hvalue, value, List.foldl_nil, Nat.mul_zero, Nat.zero_add, digits_of_lt hsmall, hc]
      rfl
    · obtain ⟨zeros, hzeros⟩ := ih hfront fun d hd ↦ hdigits d (List.mem_append_left _ hd)
      rcases Nat.eq_zero_or_pos (value front) with hzero | hpos
      · refine ⟨zeros + 1, ?_⟩
        rw [hzero] at hzeros
        rw [hvalue, hzero, Nat.mul_zero, Nat.zero_add, digits_of_lt hsmall, hc,
          List.replicate_succ']
        exact congrArg (· ++ [c]) hzeros
      · refine ⟨zeros, ?_⟩
        rw [hvalue, digits_ten_mul_add hpos hsmall, hc, ← List.append_assoc]
        exact congrArg (· ++ [c]) hzeros

theorem value_zeros_append_digits (zeros n : ℕ) :
    value (List.replicate zeros '0' ++ digits n) = n := by
  rw [value_eq_ofDigitChars, Nat.ofDigitChars_append, Nat.ofDigitChars_replicate_zero, Nat.mul_zero,
    digits, Nat.ofDigitChars_ten_toDigits]

/-- A run of digits is read as a number if and only if it is the numeral of the number with any
zeros in front. -/
theorem read?_eq_some_iff :
    read? cs = some n ↔ ∃ zeros, cs = List.replicate zeros '0' ++ digits n := by
  constructor
  · intro h
    obtain ⟨hne, hdigits⟩ := read?_isSome_iff.mp (Option.isSome_of_eq_some h)
    rw [← value_of_read? h]
    exact exists_zeros_append_digits hne hdigits
  · rintro ⟨zeros, rfl⟩
    have hdigits : ∀ c ∈ List.replicate zeros '0' ++ digits n, c.isDigit := by
      intro c hc
      rcases List.mem_append.mp hc with hzero | hdigit
      · rw [List.eq_of_mem_replicate hzero]
        rfl
      · exact isDigit_of_mem_digits hdigit
    have hread : (List.replicate zeros '0' ++ digits n) ≠ [] ∧
        (List.replicate zeros '0' ++ digits n).all Char.isDigit :=
      ⟨by simp [digits_ne_nil], List.all_eq_true.mpr hdigits⟩
    rw [read?, if_pos hread, value_zeros_append_digits]

/-! ## Settings -/

/-- What may stand in front of the digits. -/
def IsSign (sign : List Char) : Prop :=
  sign = [] ∨ sign = ['+']

theorem readSigned?_eq_some_iff : readSigned? cs = some n ↔
    ∃ sign run, cs = sign ++ run ∧ IsSign sign ∧ read? run = some n := by
  constructor
  · intro h
    unfold readSigned? at h
    split at h
    · exact ⟨['+'], _, rfl, .inr rfl, h⟩
    · exact ⟨[], cs, rfl, .inl rfl, h⟩
  · rintro ⟨sign, run, rfl, rfl | rfl, h⟩
    · rw [List.nil_append]
      unfold readSigned?
      split
      · -- A plus sign is no digit.
        obtain ⟨-, hdigits⟩ := read?_isSome_iff.mp (Option.isSome_of_eq_some h)
        exact absurd (hdigits '+' List.mem_cons_self) (by decide)
      · exact h
    · exact h

/-- Texts that spell a number: its decimal numeral with any zeros in front, behind a plus sign or
none, and with any white space around it. -/
def Spells (n : ℕ) (s : String) : Prop :=
  ∃ front sign zeros back, (∀ c ∈ front, Text.isBlank c) ∧ (∀ c ∈ back, Text.isBlank c) ∧
    IsSign sign ∧ s.toList = front ++ (sign ++ List.replicate zeros '0' ++ digits n) ++ back

theorem isBlank_eq_false_of_isDigit {c : Char} (h : c.isDigit) : Text.isBlank c = false := by
  obtain ⟨hlow, hhigh⟩ := toNat_bounds_of_isDigit h
  simp only [Text.isBlank, Bool.or_eq_false_iff, Bool.and_eq_false_iff, decide_eq_false_iff_not,
    beq_eq_false_iff_ne]
  omega

/-- A setting is read as a number if and only if it spells the number. -/
theorem ofSetting?_eq_some_iff : ofSetting? s = some n ↔ Spells n s := by
  rw [ofSetting?, readSigned?_eq_some_iff]
  constructor
  · rintro ⟨sign, run, hstrip, hsign, hread⟩
    obtain ⟨⟨front, back, hfront, hback, hs⟩, -⟩ := Text.strip_spec Text.isBlank s.toList
    obtain ⟨zeros, rfl⟩ := read?_eq_some_iff.mp hread
    refine ⟨front, sign, zeros, back, hfront, hback, hsign, ?_⟩
    rw [List.append_assoc sign, ← hstrip]
    exact hs
  · rintro ⟨front, sign, zeros, back, hfront, hback, hsign, hs⟩
    have hread : read? (List.replicate zeros '0' ++ digits n) = some n :=
      read?_eq_some_iff.mpr ⟨zeros, rfl⟩
    refine ⟨sign, _, ?_, hsign, hread⟩
    rw [hs, Text.strip_append_append hfront hback, List.append_assoc]
    apply Text.strip_eq_self
    intro c hc
    rcases List.mem_append.mp hc with hc | hc
    · rcases hsign with rfl | rfl
      · cases hc
      · rw [List.mem_singleton.mp hc]
        decide
    · exact isBlank_eq_false_of_isDigit
        ((read?_isSome_iff.mp (Option.isSome_of_eq_some hread)).2 c hc)

/-- Texts that hold a number below a bound: with the white space around them removed they are a
nonempty run of digits behind a plus sign or none. -/
def Fits (bound : ℕ) (s : String) : Prop :=
  ∃ sign run, (Text.trim s).toList = sign ++ run ∧ IsSign sign ∧ run ≠ [] ∧
    (∀ c ∈ run, c.isDigit) ∧ Nat.ofDigitChars 10 run 0 < bound

theorem fits_iff : Fits bound s ↔ ∃ n < bound, ofSetting? s = some n := by
  simp only [Fits, ofSetting?, readSigned?_eq_some_iff, Text.trim, String.toList_ofList]
  constructor
  · rintro ⟨sign, run, hstrip, hsign, hne, hdigits, hlt⟩
    obtain ⟨n, hread⟩ := Option.isSome_iff_exists.mp (read?_isSome_iff.mpr ⟨hne, hdigits⟩)
    rw [← value_eq_ofDigitChars, value_of_read? hread] at hlt
    exact ⟨n, hlt, sign, run, hstrip, hsign, hread⟩
  · rintro ⟨n, hlt, sign, run, hstrip, hsign, hread⟩
    obtain ⟨hne, hdigits⟩ := read?_isSome_iff.mp (Option.isSome_of_eq_some hread)
    rw [← value_of_read? hread, value_eq_ofDigitChars] at hlt
    exact ⟨sign, run, hstrip, hsign, hne, hdigits, hlt⟩

/-! ## Words -/

theorem map_toNat_word64? (n : ℕ) :
    (word64? n).map UInt64.toNat = if n < UInt64.size then some n else none := by
  rw [word64?]
  split_ifs with hn
  · rw [Option.map_some, UInt64.toNat_ofNat_of_lt' hn]
  · rfl

theorem map_toNat_word32? (n : ℕ) :
    (word32? n).map UInt32.toNat = if n < UInt32.size then some n else none := by
  rw [word32?]
  split_ifs with hn
  · rw [Option.map_some, UInt32.toNat_ofNat_of_lt' hn]
  · rfl

@[simp]
theorem word64?_toNat (word : UInt64) : word64? word.toNat = some word := by
  rw [word64?, if_pos word.toNat_lt, UInt64.ofNat_toNat]

@[simp]
theorem word32?_toNat (word : UInt32) : word32? word.toNat = some word := by
  rw [word32?, if_pos word.toNat_lt, UInt32.ofNat_toNat]

end MultipartUpload.Numeral
