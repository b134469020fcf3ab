import Mathlib.Data.List.TakeWhile
import Mathlib.Tactic
import MultipartUpload.Text.Strip

/-!
# What stripping leaves

A text is what stripping leaves of it, between stretches of the class. So it makes no difference how
much of the class stands at the ends.
-/

namespace MultipartUpload.Text

variable {p : Char → Bool} {cs front back : List Char}

theorem not_of_mem_head?_dropWhile {c : Char} (h : c ∈ (cs.dropWhile p).head?) : p c = false := by
  rw [← List.find?_not_eq_head?_dropWhile] at h
  simpa using List.find?_some h

/-- What is dropped at the end is a stretch of the class, and what is left does not end with the
class. -/
theorem dropEnd_spec (p : Char → Bool) (cs : List Char) :
    (∃ back, (∀ c ∈ back, p c) ∧ cs = dropEnd p cs ++ back) ∧
      ∀ c ∈ (dropEnd p cs).getLast?, p c = false := by
  constructor
  · refine ⟨(cs.reverse.takeWhile p).reverse, fun c hc ↦ ?_, ?_⟩
    · exact List.mem_takeWhile_imp (List.mem_reverse.mp hc)
    · rw [dropEnd, ← List.reverse_append, List.takeWhile_append_dropWhile, List.reverse_reverse]
  · intro c hc
    rw [dropEnd, List.getLast?_reverse] at hc
    exact not_of_mem_head?_dropWhile hc

theorem dropEnd_append (hback : ∀ c ∈ back, p c) : dropEnd p (cs ++ back) = dropEnd p cs := by
  have hreverse : ∀ c ∈ back.reverse, p c := fun c hc ↦ hback c (List.mem_reverse.mp hc)
  rw [dropEnd, List.reverse_append, List.dropWhile_append_of_pos hreverse, dropEnd]

/-- What is stripped at either end is a stretch of the class, and what is left neither begins nor
ends with the class. -/
theorem strip_spec (p : Char → Bool) (cs : List Char) :
    (∃ front back, (∀ c ∈ front, p c) ∧ (∀ c ∈ back, p c) ∧ cs = front ++ strip p cs ++ back) ∧
      (∀ c ∈ (strip p cs).head?, p c = false) ∧ ∀ c ∈ (strip p cs).getLast?, p c = false := by
  obtain ⟨⟨back, hback, hcs⟩, hlast⟩ := dropEnd_spec p (cs.dropWhile p)
  change cs.dropWhile p = strip p cs ++ back at hcs
  refine ⟨⟨cs.takeWhile p, back, fun c ↦ List.mem_takeWhile_imp, hback, ?_⟩, fun c hc ↦ ?_, hlast⟩
  · rw [List.append_assoc, ← hcs, List.takeWhile_append_dropWhile]
  · have hhead : c ∈ (cs.dropWhile p).head? := by
      rw [hcs, List.head?_append, Option.mem_def.mp hc]
      rfl
    exact not_of_mem_head?_dropWhile hhead

/-- Characters of the class that are added at the ends are stripped again. -/
theorem strip_append_append (hfront : ∀ c ∈ front, p c) (hback : ∀ c ∈ back, p c) :
    strip p (front ++ cs ++ back) = strip p cs := by
  rw [strip, List.append_assoc, List.dropWhile_append_of_pos hfront, List.dropWhile_append, strip]
  split_ifs with hempty
  · rw [List.isEmpty_iff.mp hempty, List.dropWhile_eq_nil_iff.mpr hback]
  · exact dropEnd_append hback

/-- Where the class does not occur, there is nothing to strip. -/
theorem strip_eq_self (h : ∀ c ∈ cs, p c = false) : strip p cs = cs := by
  have hkept : ∀ {cs : List Char}, (∀ c ∈ cs, p c = false) → cs.dropWhile p = cs := by
    intro cs hcs
    cases cs with
    | nil => rfl
    | cons c cs => exact List.dropWhile_cons_of_neg (by simp [hcs c List.mem_cons_self])
  rw [strip, dropEnd, hkept h, hkept (fun c hc ↦ h c (List.mem_reverse.mp hc)), List.reverse_reverse]

/-- A change of characters that keeps the class changes nothing about what is stripped. -/
theorem map_strip {f : Char → Char} (hf : ∀ c, p (f c) = p c) :
    (strip p cs).map f = strip p (cs.map f) := by
  have hcomp : p ∘ f = p := funext hf
  simp only [strip, dropEnd, ← List.map_reverse, List.dropWhile_map, hcomp]

/-! ## Stretches of one character -/

/-- A character a number of times. -/
def stretch (c : Char) (count : ℕ) : String :=
  String.ofList (.replicate count c)

theorem beq_of_mem_stretch {c d : Char} {count : ℕ} (h : d ∈ (stretch c count).toList) :
    (d == c) = true := by
  rw [stretch, String.toList_ofList] at h
  exact beq_iff_eq.mpr (List.eq_of_mem_replicate h)

theorem ofList_eq_stretch {c : Char} (h : ∀ d ∈ cs, (d == c) = true) :
    String.ofList cs = stretch c cs.length := by
  rw [stretch, ← List.eq_replicate_of_mem fun d hd ↦ eq_of_beq (h d hd)]

end MultipartUpload.Text
