import Mathlib.Tactic
import MultipartUpload.Memory.Stored

/-!
# Manifests

A manifest lists parts in ascending order of their numbers, each number once. The parts that it
collects are those that an upload has under the listed numbers, with the listed checksums.
-/

namespace MultipartUpload

/-- What a list of numbers and checksums collects from an upload. -/
theorem StoredUpload.collect_eq_ok_iff {upload : StoredUpload} {entries : List (ℕ × String)}
    {parts : List StoredPart} : upload.collect entries = .ok parts ↔
      List.Forall₂ (fun entry part ↦ upload.parts[entry.1]? = some part ∧ part.etag = entry.2)
        entries parts := by
  induction entries generalizing parts with
  | nil =>
    rw [List.forall₂_nil_left_iff, collect, Except.ok.injEq, eq_comm]
  | cons entry entries ih =>
    obtain ⟨number, etag⟩ := entry
    rw [List.forall₂_cons_left_iff, collect]
    rcases hfound : upload.parts[number]? with - | part
    · simp
    · by_cases hetag : part.etag = etag
      · rcases hrest : upload.collect entries with e | rest
        · simp [hetag, Except.map, ← ih, hrest]
        · simp only [hetag, if_true, Except.map, ← ih, hrest, Option.some.injEq, Except.ok.injEq]
          constructor
          · rintro rfl
            exact ⟨part, rest, ⟨rfl, hetag⟩, rfl, rfl⟩
          · rintro ⟨_, _, ⟨rfl, -⟩, rfl, rfl⟩
            rfl
      · simp [hetag]

/-- A list is collected if every entry of it is there. -/
theorem StoredUpload.collect_isOk_iff {upload : StoredUpload} {entries : List (ℕ × String)} :
    (∃ parts, upload.collect entries = .ok parts) ↔
      ∀ entry ∈ entries, ∃ part, upload.parts[entry.1]? = some part ∧ part.etag = entry.2 := by
  simp only [collect_eq_ok_iff]
  induction entries with
  | nil => simp
  | cons entry entries ih =>
    simp only [List.forall₂_cons_left_iff, List.forall_mem_cons, ← ih]
    constructor
    · rintro ⟨_, part, parts, hpart, hparts, -⟩
      exact ⟨⟨part, hpart⟩, parts, hparts⟩
    · rintro ⟨⟨part, hpart⟩, parts, hparts⟩
      exact ⟨part :: parts, part, parts, hpart, hparts, rfl⟩

/-- Only parts of the upload are collected. -/
theorem StoredUpload.exists_number_of_collect {upload : StoredUpload}
    {entries : List (ℕ × String)} {parts : List StoredPart}
    (h : upload.collect entries = .ok parts) {part : StoredPart} (hpart : part ∈ parts) :
    ∃ number : ℕ, upload.parts[number]? = some part := by
  rw [collect_eq_ok_iff] at h
  induction h with
  | nil => cases hpart
  | @cons entry first _ _ hfirst _ ih =>
    rcases List.mem_cons.mp hpart with rfl | hrest
    · exact ⟨entry.1, hfirst.1⟩
    · exact ih hrest

/-- Parts that are in an upload under their numbers are collected as they are listed. -/
theorem StoredUpload.collect_map {upload : StoredUpload} {parts : List StoredPart}
    (h : ∀ part ∈ parts, upload.parts[part.number]? = some part) :
    upload.collect (parts.map fun part ↦ (part.number, part.etag)) = .ok parts := by
  rw [collect_eq_ok_iff, List.forall₂_map_left_iff, List.forall₂_same]
  exact fun part hmem ↦ ⟨h part hmem, rfl⟩

namespace Manifest

variable {manifest : Manifest}

/-- A manifest has no more entries than there are numbers to list. -/
theorem size_le {bound : ℕ} (h : ∀ number ∈ manifest, 1 ≤ number ∧ number ≤ bound) :
    manifest.size ≤ bound := by
  have hdistinct : manifest.keys.Nodup :=
    Std.ExtTreeMap.distinct_keys.imp fun hne heq ↦ hne (Std.compare_eq_iff_eq.mpr heq)
  have hsubset : manifest.keys ⊆ List.range' 1 bound := by
    intro number hnumber
    have hbounds := h number (Std.ExtTreeMap.mem_keys.mp hnumber)
    rw [List.mem_range'_1]
    omega
  calc manifest.size
    _ = manifest.keys.length := Std.ExtTreeMap.length_keys.symm
    _ ≤ (List.range' 1 bound).length := (hdistinct.subperm hsubset).length_le
    _ = bound := List.length_range'

theorem size_pos (h : ¬manifest.isEmpty) : 1 ≤ manifest.size := by
  rw [Std.ExtTreeMap.isEmpty_eq_size_beq_zero, beq_iff_eq] at h
  omega

end Manifest

end MultipartUpload
