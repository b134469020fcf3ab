import MultipartUpload.Text.Hex
import MultipartUpload.Text.Numeral

/-!
# Identifiers of uploads

Uploads are counted from one in the order in which they begin, and the identifier of an upload
spells its number. How it does so is left open, as long as different numbers have different
spellings. So no identifier is issued twice.
-/

namespace MultipartUpload

namespace Hex

/-- The number that digits stand for. -/
def number (digits : List Char) : Nat :=
  digits.foldl (fun n digit ↦ 16 * n + (value? digit).getD 0) 0

theorem number_zeros_append (count : Nat) (digits : List Char) :
    number (List.replicate count '0' ++ digits) = number digits := by
  induction count with
  | zero => rfl
  | succ count ih =>
    rw [List.replicate_succ, List.cons_append, number, List.foldl_cons]
    exact ih

theorem value?_digitChar : ∀ d < 16, value? (Nat.digitChar d) = some d := by
  decide

@[simp]
theorem number_digits (n : Nat) : number (digits n) = n := by
  unfold digits
  induction n using Nat.base_induction 16 (by decide) with
  | single m hm => simp [Nat.toDigits_of_lt_base hm, number, value?_digitChar m hm]
  | digit m k hk hm ih =>
    have hnumber : number (Nat.toDigits 16 m ++ [Nat.digitChar k]) =
        16 * number (Nat.toDigits 16 m) + k := by
      simp [number, value?_digitChar k hk]
    rw [← Nat.toDigits_append_toDigits (by decide) hm hk, Nat.toDigits_of_lt_base hk, hnumber, ih]

end Hex

namespace UploadId

/-- How numbers are spelled. -/
structure Spelling where
  spell : Nat → String
  /-- Different numbers are told apart by their spellings. -/
  injective {m n : Nat} : spell m = spell n → m = n

namespace Spelling

/-- In hexadecimal, with zeros in front of numbers of less than 32 digits. -/
def hexadecimal : Spelling where
  spell number :=
    let digits := Hex.digits number
    String.ofList (List.replicate (32 - digits.length) '0' ++ digits)
  injective h := by
    have hlists := congrArg String.toList h
    simp only [String.toList_ofList] at hlists
    have hnumbers := congrArg Hex.number hlists
    simpa only [Hex.number_zeros_append, Hex.number_digits] using hnumbers

/-- In decimal, behind a label. -/
def labelled (label : String) : Spelling where
  spell number := label ++ String.ofList (Numeral.digits number)
  injective h := by
    have hlists := congrArg String.toList h
    simp only [String.toList_append, String.toList_ofList, List.append_cancel_left_eq] at hlists
    have hnumbers := congrArg (Nat.ofDigitChars 10 · 0) hlists
    simpa only [Numeral.digits, Nat.ofDigitChars_ten_toDigits] using hnumbers

end Spelling

end UploadId

end MultipartUpload
