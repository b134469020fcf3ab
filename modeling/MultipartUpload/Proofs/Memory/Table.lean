import Mathlib.Tactic
import Std.Data.ExtTreeMap

/-!
# Tables

Facts about the tables of a store: what is left after an entry was replaced or taken out, and the
order in which the entries of a table are listed.
-/

namespace MultipartUpload

section

variable {κ α : Type*} [Ord κ] [Std.TransOrd κ] [Std.LawfulEqOrd κ]

theorem insert_insert_self (table : Std.ExtTreeMap κ α) (key : κ) (first second : α) :
    (table.insert key first).insert key second = table.insert key second := by
  ext1 other
  grind

theorem erase_insert_self (table : Std.ExtTreeMap κ α) (key : κ) (value : α) :
    (table.insert key value).erase key = table.erase key := by
  ext1 other
  grind

theorem erase_of_not_mem {table : Std.ExtTreeMap κ α} {key : κ} (hfresh : key ∉ table) :
    table.erase key = table := by
  ext1 other
  grind

theorem modify_modify (table : Std.ExtTreeMap κ α) (key : κ) (first second : α → α) :
    (table.modify key first).modify key second =
      table.modify key fun value ↦ second (first value) := by
  ext1 other
  by_cases hother : key = other
  · subst hother
    simp only [Std.ExtTreeMap.getElem?_modify_self, Option.map_map, Function.comp_def]
  · simp [Std.ExtTreeMap.getElem?_modify, hother]

theorem mem_values {table : Std.ExtTreeMap κ α} {value : α} :
    value ∈ table.values ↔ ∃ key : κ, table[key]? = some value := by
  have hfold : table.values = table.foldr (fun _ value values ↦ value :: values) [] := by
    obtain ⟨⟨_⟩⟩ := table
    rfl
  have hlist : table.values = table.toList.map Prod.snd := by
    rw [hfold, Std.ExtTreeMap.foldr_eq_foldr_toList, List.map_eq_foldr]
  simp only [hlist, List.mem_map, Prod.exists, exists_eq_right,
    Std.ExtTreeMap.mem_toList_iff_getElem?_eq_some]

end

/-- Entries in ascending order of their keys are listed as they were inserted. -/
theorem toList_insertMany_of_ascending {entries : List (ℕ × α)}
    (h : entries.Pairwise fun first second ↦ first.1 < second.1) :
    ((∅ : Std.ExtTreeMap ℕ α).insertMany entries).toList = entries := by
  have hdistinct : entries.Pairwise fun first second ↦ ¬compare first.1 second.1 = .eq :=
    h.imp fun hlt ↦ by simpa using hlt.ne
  have hordered : ((∅ : Std.ExtTreeMap ℕ α).insertMany entries).toList.Pairwise
      fun first second ↦ first.1 < second.1 :=
    Std.ExtTreeMap.ordered_keys_toList.imp fun hlt ↦ compare_lt_iff_lt.mp hlt
  refine List.Perm.eq_of_pairwise (fun first second _ _ hlt hgt ↦ absurd hgt hlt.asymm)
    hordered h ?_
  rw [List.perm_ext_iff_of_nodup (hordered.imp fun hlt heq ↦ by simp [heq] at hlt)
    (h.imp fun hlt heq ↦ by simp [heq] at hlt)]
  rintro ⟨key, value⟩
  rw [Std.ExtTreeMap.mem_toList_iff_getElem?_eq_some]
  have hget : ∀ value, (key, value) ∈ entries →
      ((∅ : Std.ExtTreeMap ℕ α).insertMany entries)[key]? = some value := fun value hmem ↦
    Std.ExtTreeMap.getElem?_insertMany_list_of_mem (by simp) hdistinct hmem
  constructor
  · intro hvalue
    have hkey : key ∈ (∅ : Std.ExtTreeMap ℕ α).insertMany entries :=
      Std.ExtTreeMap.mem_iff_isSome_getElem?.mpr (by rw [hvalue]; rfl)
    simp only [Std.ExtTreeMap.mem_insertMany_list, Std.ExtTreeMap.not_mem_empty, false_or,
      List.contains_iff_mem, List.mem_map] at hkey
    obtain ⟨⟨_, found⟩, hmem, rfl⟩ := hkey
    rw [hget found hmem] at hvalue
    cases hvalue
    exact hmem
  · exact hget value

end MultipartUpload
