import Mathlib.Tactic
import MultipartUpload.Options.Encryption
import MultipartUpload.Options.Header
import MultipartUpload.Proofs.Text.Strip

/-!
# Names of algorithms

The name of an algorithm has neither white space nor control characters. So it is kept when it is
checked once more, and it can be read from the header that carries it.
-/

namespace MultipartUpload

theorem isBlank_eq_false_of_isGraphic {c : Char} (h : isGraphic c) : Text.isBlank c = false := by
  simp only [isGraphic, Bool.and_eq_true, decide_eq_true_eq, Char.le_def, UInt32.le_iff_toNat_le]
    at h
  have hlow : 0x21 ≤ c.toNat := h.1
  have hhigh : c.toNat ≤ 0x7e := h.2
  simp only [Text.isBlank, Bool.or_eq_false_iff, Bool.and_eq_false_iff, decide_eq_false_iff_not,
    beq_eq_false_iff_ne]
  omega

namespace Encryption

variable (encryption : Encryption)

theorem isGraphic_of_mem_algorithm {c : Char} (h : c ∈ encryption.algorithm.toList) :
    isGraphic c :=
  List.all_eq_true.mp encryption.isAlgorithmName.2 c h

theorem algorithm_injective : Function.Injective algorithm := by
  rintro ⟨first, _⟩ ⟨second, _⟩ rfl
  rfl

/-- The name of an algorithm is accepted unchanged. -/
theorem ofName_algorithm : ofName encryption.algorithm = .ok encryption := by
  have htrim : Text.trim encryption.algorithm = encryption.algorithm := by
    rw [Text.trim, Text.strip_eq_self fun c hc ↦
      isBlank_eq_false_of_isGraphic (encryption.isGraphic_of_mem_algorithm hc), String.ofList_toList]
  simp only [ofName, htrim, encryption.isAlgorithmName.1, encryption.isAlgorithmName, if_false,
    dif_pos]

/-- The name of an algorithm can be read from its header. -/
theorem isText_algorithm : Header.isText encryption.algorithm := by
  rw [Header.isText, List.all_eq_true]
  intro c hc
  have hgraphic := encryption.isGraphic_of_mem_algorithm hc
  simp only [isGraphic, Bool.and_eq_true, decide_eq_true_eq] at hgraphic
  have hspace : ' ' ≤ c := Char.le_trans (show ' ' ≤ '!' by decide) hgraphic.1
  simp [hspace, hgraphic.2]

end Encryption

end MultipartUpload
