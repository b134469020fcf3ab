import Mathlib.Tactic
import MultipartUpload.Json.Record

/-!
# Fields that were written

An object holds the fields of a record that have a value, each under its own name. So every field is
read back, those without a value as missing, and whatever a record asks of one field depends on that
field alone.
-/

namespace MultipartUpload.Json

variable {fields : List (String × Option Json)} {members : List (String × Json)}

/-! ## Objects with distinct names -/

theorem lookup_ofMembers (name : String) :
    (members.map fun m ↦ ((some m.1 : Content), m.2)).lookup (some name) = members.lookup name := by
  induction members with
  | nil => rfl
  | cons member members ih =>
    obtain ⟨first, value⟩ := member
    simp only [List.map_cons, List.lookup_cons, ih, Option.some_beq_some]

/-- An object in which no name stands twice can be read, with the value of each name. -/
theorem memberFields?_ofMembers (names : List String) (h : (members.map Prod.fst).Nodup) :
    memberFields? names (members.map fun m ↦ (some m.1, m.2)) =
      some (names.map fun name ↦ members.lookup name) := by
  have hcount (name : String) :
      (members.map fun m ↦ ((some m.1 : Content), m.2)).countP (·.1 == some name) ≤ 1 := by
    rw [List.countP_map]
    calc members.countP _ = (members.map Prod.fst).count name := by
          simp only [List.count, List.countP_map, Function.comp_def, Option.some_beq_some]
      _ ≤ 1 := List.nodup_iff_count_le_one.mp h name
  rw [memberFields?, if_pos ⟨by simp, by simpa using fun name _ ↦ hcount name⟩]
  simp only [lookup_ofMembers]

/-! ## Fields with and without a value -/

/-- The members that are written for fields. -/
def membersOf (fields : List (String × Option Json)) : List (String × Json) :=
  fields.flatMap fun field ↦ optionalMember field.1 field.2

/-- An object with the fields that have a value. -/
def ofFields (fields : List (String × Option Json)) : Json :=
  .ofMembers (membersOf fields)

theorem map_fst_membersOf_sublist (fields : List (String × Option Json)) :
    ((membersOf fields).map Prod.fst).Sublist (fields.map Prod.fst) := by
  induction fields with
  | nil => exact .refl _
  | cons field fields ih =>
    obtain ⟨name, - | value⟩ := field
    · exact ih.cons name
    · exact ih.cons_cons name

theorem lookup_membersOf_eq_none {name : String} (h : name ∉ fields.map Prod.fst) :
    (membersOf fields).lookup name = none := by
  rw [List.lookup_eq_none_iff]
  intro member hmember
  have hname := (map_fst_membersOf_sublist fields).subset (List.mem_map_of_mem hmember)
  exact bne_iff_ne.mpr fun heq ↦ h (heq ▸ hname)

/-- The value of a field is found under its name. -/
theorem lookup_membersOf (hnames : (fields.map Prod.fst).Nodup) {field : String × Option Json}
    (h : field ∈ fields) : (membersOf fields).lookup field.1 = field.2 := by
  induction fields with
  | nil => nomatch h
  | cons first fields ih =>
    obtain ⟨hfirst, hrest⟩ := List.nodup_cons.mp hnames
    have hsplit (name : String) : (membersOf (first :: fields)).lookup name =
        ((optionalMember first.1 first.2).lookup name).or ((membersOf fields).lookup name) :=
      List.lookup_append
    rcases List.mem_cons.mp h with rfl | h
    · rw [hsplit, lookup_membersOf_eq_none hfirst, Option.or_none]
      cases hvalue : field.2 with
      | none => rfl
      | some value => exact List.lookup_cons_self
    · have hne : field.1 ≠ first.1 := fun heq ↦ hfirst (heq ▸ List.mem_map_of_mem h)
      have hskip : (optionalMember first.1 first.2).lookup field.1 = none := by
        cases first.2 <;> simp [optionalMember, hne]
      rw [hsplit, hskip, Option.none_or, ih hrest h]

/-- The fields of a record are read back from the object they are written in. -/
theorem fields?_ofFields {names : List String} (hnames : fields.map Prod.fst = names)
    (hdistinct : names.Nodup) (omissible : Nat) :
    (ofFields fields).fields? names omissible = some (fields.map Prod.snd) := by
  subst hnames
  have hwritten := (map_fst_membersOf_sublist fields).nodup hdistinct
  rw [ofFields, ofMembers, fields?, memberFields?_ofMembers _ hwritten, List.map_map]
  congr 1
  apply List.map_congr_left
  intro field hfield
  exact lookup_membersOf hdistinct hfield

/-! ## A change to one field -/

/-- A record with a change to the value of its first field, which has the given name. -/
def mapFirstField (name : String) (f : Json → Json) : Json → Json
  | .object members => .object (members.map fun m ↦ if m.1 = some name then (m.1, f m.2) else m)
  | .list items => .list (items.modifyHead f)
  | value => value

variable {name : String} {f : Json → Json}

theorem lookup_map_change (members : List (Content × Json)) (content : Content) :
    (members.map fun m ↦ if m.1 = some name then (m.1, f m.2) else m).lookup content =
      if content = some name then (members.lookup content).map f else members.lookup content := by
  induction members with
  | nil => simp
  | cons member members ih =>
    obtain ⟨first, value⟩ := member
    rw [List.map_cons, List.lookup_cons]
    by_cases hcontent : content = first
    · subst hcontent
      split_ifs <;> simp
    · have hkept : (content == (if first = some name then (first, f value) else (first, value)).1) =
          false := by
        split_ifs <;> exact beq_false_of_ne hcontent
      simp only [hkept, ih, List.lookup_cons, beq_false_of_ne hcontent]

/-- A change to the first field of a record changes nothing else. -/
theorem fields?_mapFirstField {names : List String} (h : name ∉ names) (omissible : Nat)
    (json : Json) : (mapFirstField name f json).fields? (name :: names) omissible =
      (json.fields? (name :: names) omissible).map (List.modifyHead (Option.map f)) := by
  match json with
  | .null | .bool _ | .natural _ | .otherNumber | .text _ => rfl
  | .list items =>
    rw [mapFirstField, fields?, fields?, List.length_modifyHead]
    split_ifs with hlength
    · cases items <;> simp [List.replicate_succ]
    · rfl
  | .object members =>
    have hfst (m : Content × Json) : (if m.1 = some name then (m.1, f m.2) else m).1 = m.1 := by
      split_ifs <;> rfl
    have hrest : ∀ other ∈ names, (some other : Content) ≠ some name :=
      fun other hother heq ↦ h (Option.some_inj.mp heq ▸ hother)
    simp only [mapFirstField, fields?, memberFields?, List.all_map, List.countP_map,
      Function.comp_def, hfst, lookup_map_change]
    split_ifs with hread
    · simp only [List.map_cons, if_true, Option.map_some, List.modifyHead_cons]
      congr 2
      exact List.map_congr_left fun other hother ↦ if_neg (hrest other hother)
    · rfl

end MultipartUpload.Json
