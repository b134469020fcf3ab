import MultipartUpload.Proofs.Memory.Run
import MultipartUpload.Proofs.Text.Hex

/-!
# Labels of container names

A container name is a sequence of labels joined by single dots. That no label is empty is what the
checks of the edges and of double dots come to: the dots are neither first nor last nor side by
side.
-/

namespace MultipartUpload.ContainerName

/-- The characters of labels: lower-case letters, digits and hyphens. -/
def IsLabelChar (c : Char) : Prop :=
  ('a' ≤ c ∧ c ≤ 'z') ∨ ('0' ≤ c ∧ c ≤ '9') ∨ c = '-'

instance (c : Char) : Decidable (IsLabelChar c) :=
  inferInstanceAs (Decidable (_ ∨ _))

/-- Whether a text is spelled by labels with dots between them. -/
structure Spells (labels : List (List Char)) (s : String) : Prop where
  joined : s.toList = ['.'].intercalate labels
  nonempty : labels ≠ []
  label : ∀ label ∈ labels, label ≠ [] ∧ ∀ c ∈ label, IsLabelChar c
  first : ∀ label ∈ labels.head?, label.head? ≠ some '-'
  last : ∀ label ∈ labels.getLast?, label.getLast? ≠ some '-'

/-- The names that containers can have. -/
def IsAllowed (s : String) : Prop :=
  3 ≤ s.utf8ByteSize ∧ s.utf8ByteSize ≤ 63 ∧ ∃ labels, Spells labels s

variable {c : Char} {cs ds label : List Char} {labels : List (List Char)} {s : String}

/-! ## Characters -/

theorem not_isLabelChar_dot : ¬IsLabelChar '.' := by decide

theorem isEdge_iff : isEdge c ↔ IsLabelChar c ∧ c ≠ '-' := by
  have hedge : isEdge c ↔ ('a' ≤ c ∧ c ≤ 'z') ∨ ('0' ≤ c ∧ c ≤ '9') := by
    change ((decide ('a'.val ≤ c.val) && decide (c.val ≤ 'z'.val)) ||
      (decide ('0'.val ≤ c.val) && decide (c.val ≤ '9'.val))) = true ↔ _
    simp only [Bool.or_eq_true, Bool.and_eq_true, decide_eq_true_eq, Char.le_def]
  have hhyphen : ¬isEdge '-' := by decide
  rw [IsLabelChar, ← or_assoc, ← hedge]
  by_cases hc : c = '-'
  · simp [hc, hhyphen]
  · simp [hc]

theorem isNameChar_iff : isNameChar c ↔ IsLabelChar c ∨ c = '.' := by
  have hhyphen : IsLabelChar '-' := by decide
  simp only [isNameChar, Bool.or_eq_true, beq_iff_eq, isEdge_iff]
  by_cases hc : c = '-'
  · simp [hc, hhyphen]
  · simp [hc]

/-! ## Dots between labels -/

theorem hasDoubleDot_cons (h : c ≠ '.') : hasDoubleDot (c :: ds) = hasDoubleDot ds := by
  rw [hasDoubleDot]
  rintro cs ⟨⟩
  contradiction

theorem hasDoubleDot_dot_cons :
    hasDoubleDot ('.' :: ds) ↔ ds.head? = some '.' ∨ hasDoubleDot ds := by
  rcases ds with - | ⟨d, ds⟩
  · simp [hasDoubleDot]
  · by_cases hd : d = '.'
    · subst hd
      simp [hasDoubleDot]
    · rw [hasDoubleDot] <;> simp [hd]

theorem hasDoubleDot_append (h : ∀ c ∈ label, c ≠ '.') :
    hasDoubleDot (label ++ ds) = hasDoubleDot ds := by
  induction label with
  | nil => rfl
  | cons c label ih =>
    obtain ⟨hc, hlabel⟩ := List.forall_mem_cons.mp h
    rw [List.cons_append, hasDoubleDot_cons hc, ih hlabel]

theorem head?_intercalate (h : ∀ label ∈ labels, label ≠ []) :
    (['.'].intercalate labels).head? = labels.head?.bind List.head? := by
  match labels with
  | [] => rfl
  | [label] => simp
  | label :: next :: rest =>
    obtain ⟨c, cs, rfl⟩ := List.exists_cons_of_ne_nil (h label (by simp))
    simp

theorem intercalate_ne_nil (h : ∀ label ∈ labels, label ≠ []) (hlabels : labels ≠ []) :
    ['.'].intercalate labels ≠ [] := by
  obtain ⟨label, rest, rfl⟩ := List.exists_cons_of_ne_nil hlabels
  have hhead := head?_intercalate h
  rw [List.head?_cons, Option.bind_some] at hhead
  rw [ne_eq, ← List.head?_eq_none_iff, hhead, List.head?_eq_none_iff]
  exact h label (by simp)

theorem getLast?_intercalate (h : ∀ label ∈ labels, label ≠ []) :
    (['.'].intercalate labels).getLast? = labels.getLast?.bind List.getLast? := by
  induction labels with
  | nil => rfl
  | cons label rest ih =>
    obtain ⟨-, hrest⟩ := List.forall_mem_cons.mp h
    cases rest with
    | nil => simp
    | cons next rest =>
      have hne := intercalate_ne_nil hrest (by simp)
      rw [List.intercalate_cons_cons, List.getLast?_append_of_ne_nil _ hne, ih hrest,
        List.getLast?_cons_cons]

/-- Labels that are not empty stand between single dots. -/
theorem not_hasDoubleDot_intercalate
    (h : ∀ label ∈ labels, label ≠ [] ∧ ∀ c ∈ label, c ≠ '.') :
    ¬hasDoubleDot (['.'].intercalate labels) := by
  induction labels with
  | nil => simp [hasDoubleDot]
  | cons label rest ih =>
    obtain ⟨⟨-, hdots⟩, hrest⟩ := List.forall_mem_cons.mp h
    cases rest with
    | nil =>
      rw [List.intercalate_singleton, ← label.append_nil, hasDoubleDot_append hdots]
      simp [hasDoubleDot]
    | cons next rest =>
      rw [List.intercalate_cons_cons, List.append_assoc, hasDoubleDot_append hdots,
        List.singleton_append, hasDoubleDot_dot_cons,
        head?_intercalate fun label hlabel ↦ (hrest label hlabel).1]
      rintro (hdot | hdouble)
      · obtain ⟨-, hnext⟩ := hrest next (by simp)
        rw [List.head?_cons, Option.bind_some] at hdot
        exact hnext '.' (List.mem_of_mem_head? hdot) rfl
      · exact ih hrest hdouble

/-- Characters fall into labels if no dot is first, last or beside another. -/
theorem exists_labels : ∀ {cs : List Char}, cs ≠ [] → (∀ c ∈ cs, IsLabelChar c ∨ c = '.') →
    cs.head? ≠ some '.' → cs.getLast? ≠ some '.' → ¬hasDoubleDot cs →
    ∃ labels, cs = ['.'].intercalate labels ∧ labels ≠ [] ∧
      ∀ label ∈ labels, label ≠ [] ∧ ∀ c ∈ label, IsLabelChar c
  | [], hne, _, _, _, _ => absurd rfl hne
  | [c], _, hchars, hhead, _, _ => by
    have hc : IsLabelChar c := (hchars c (by simp)).resolve_right (by simpa using hhead)
    exact ⟨[[c]], by simp, by simp, by simpa using hc⟩
  | c :: d :: ds, _, hchars, hhead, hlast, hdots => by
    obtain ⟨hc, hchars⟩ := List.forall_mem_cons.mp hchars
    have hdot : c ≠ '.' := by simpa using hhead
    replace hc := hc.resolve_right hdot
    rw [hasDoubleDot_cons hdot] at hdots
    rw [List.getLast?_cons_cons] at hlast
    by_cases hd : d = '.'
    · -- the first label is whole, and another begins behind the dot
      subst hd
      rw [hasDoubleDot_dot_cons, not_or] at hdots
      have hne : ds ≠ [] := by
        rintro rfl
        simp at hlast
      rw [List.getLast?_cons_of_ne_nil hne] at hlast
      obtain ⟨labels, rfl, hlabels, hlabel⟩ :=
        exists_labels hne (List.forall_mem_cons.mp hchars).2 hdots.1 hlast hdots.2
      obtain ⟨next, rest, rfl⟩ := List.exists_cons_of_ne_nil hlabels
      refine ⟨[c] :: next :: rest, by simp, by simp, ?_⟩
      exact List.forall_mem_cons.mpr ⟨by simpa using hc, hlabel⟩
    · obtain ⟨labels, hjoined, hlabels, hlabel⟩ :=
        exists_labels (by simp) hchars (by simpa using hd) hlast hdots
      obtain ⟨first, rest, rfl⟩ := List.exists_cons_of_ne_nil hlabels
      obtain ⟨⟨-, hfirst⟩, hrest⟩ := List.forall_mem_cons.mp hlabel
      refine ⟨(c :: first) :: rest, ?_, by simp, ?_⟩
      · rw [hjoined, List.intercalate_cons_cons_left]
      · exact List.forall_mem_cons.mpr ⟨⟨by simp, List.forall_mem_cons.mpr ⟨hc, hfirst⟩⟩, hrest⟩

/-! ## Checks -/

theorem isLabelChar_of_mem_intercalate
    (h : ∀ label ∈ labels, label ≠ [] ∧ ∀ c ∈ label, IsLabelChar c)
    (hc : c ∈ ['.'].intercalate labels) : IsLabelChar c ∨ c = '.' := by
  induction labels with
  | nil => contradiction
  | cons label rest ih =>
    obtain ⟨⟨-, hlabel⟩, hrest⟩ := List.forall_mem_cons.mp h
    cases rest with
    | nil =>
      rw [List.intercalate_singleton] at hc
      exact .inl (hlabel c hc)
    | cons next rest =>
      rw [List.intercalate_cons_cons, List.append_assoc, List.mem_append, List.mem_append,
        List.mem_singleton] at hc
      rcases hc with hc | hc | hc
      · exact .inl (hlabel c hc)
      · exact .inr hc
      · exact ih hrest hc

/-- At the end of a label, the hyphen is what an edge excludes. -/
theorem all_isEdge_iff {o : Option (List Char)} {end? : List Char → Option Char}
    (h : ∀ label ∈ o, ∀ c ∈ end? label, IsLabelChar c) :
    (o.bind end?).all isEdge ↔ ∀ label ∈ o, end? label ≠ some '-' := by
  rcases o with - | label
  · simp
  · rcases hend : end? label with - | c
    · simp [hend]
    · have hc : IsLabelChar c := h label rfl c hend
      simp [hend, isEdge_iff, hc]

/-- The edges of joined labels are those of the first label and of the last. -/
theorem edges_iff (h : ∀ label ∈ labels, label ≠ [] ∧ ∀ c ∈ label, IsLabelChar c) :
    ((['.'].intercalate labels).head?.all isEdge ↔
      ∀ label ∈ labels.head?, label.head? ≠ some '-') ∧
    ((['.'].intercalate labels).getLast?.all isEdge ↔
      ∀ label ∈ labels.getLast?, label.getLast? ≠ some '-') := by
  have hne := fun label hlabel ↦ (h label hlabel).1
  rw [head?_intercalate hne, getLast?_intercalate hne]
  constructor
  · apply all_isEdge_iff
    exact fun label hlabel c hc ↦
      (h label (List.mem_of_mem_head? hlabel)).2 c (List.mem_of_mem_head? hc)
  · apply all_isEdge_iff
    exact fun label hlabel c hc ↦
      (h label (List.mem_of_mem_getLast? hlabel)).2 c (List.mem_of_mem_getLast? hc)

/-- The checks of characters, edges and dots come to a sequence of labels. -/
theorem exists_spells_iff : (∃ labels, Spells labels s) ↔
    s.toList ≠ [] ∧ s.toList.all isNameChar ∧ s.toList.head?.all isEdge ∧
      s.toList.getLast?.all isEdge ∧ ¬hasDoubleDot s.toList := by
  constructor
  · rintro ⟨labels, h⟩
    obtain ⟨hhead, hlast⟩ := edges_iff h.label
    rw [h.joined, hhead, hlast]
    refine ⟨intercalate_ne_nil (fun label hlabel ↦ (h.label label hlabel).1) h.nonempty, ?_,
      h.first, h.last, ?_⟩
    · rw [List.all_eq_true]
      exact fun c hc ↦ isNameChar_iff.mpr (isLabelChar_of_mem_intercalate h.label hc)
    · apply not_hasDoubleDot_intercalate
      intro label hlabel
      refine ⟨(h.label label hlabel).1, ?_⟩
      rintro c hc rfl
      exact not_isLabelChar_dot ((h.label label hlabel).2 _ hc)
  · rintro ⟨hne, hchars, hhead, hlast, hdots⟩
    have hdot : isEdge '.' = false := rfl
    rw [List.all_eq_true] at hchars
    obtain ⟨labels, hjoined, hlabels, hlabel⟩ := exists_labels hne
      (fun c hc ↦ isNameChar_iff.mp (hchars c hc))
      (by intro h; simp [h, hdot] at hhead) (by intro h; simp [h, hdot] at hlast) hdots
    rw [hjoined] at hhead hlast
    exact ⟨labels, hjoined, hlabels, hlabel, (edges_iff hlabel).1.mp hhead,
      (edges_iff hlabel).2.mp hlast⟩

/-- A name is accepted if and only if it is allowed. -/
theorem ofString_eq_ok_iff {name : ContainerName} :
    ofString s = .ok name ↔ IsAllowed s ∧ name = ⟨s⟩ := by
  have hne (h : 3 ≤ s.utf8ByteSize) : s.toList ≠ [] := by
    rintro hnil
    rw [String.toList_eq_nil_iff] at hnil
    subst hnil
    exact absurd h (by decide)
  rw [IsAllowed, exists_spells_iff, ofString]
  split_ifs with hlength hchars hedges hdots
  · simp only [false_iff]
    omega
  · simp [hdots]
  · have hsize : 3 ≤ s.utf8ByteSize ∧ s.utf8ByteSize ≤ 63 := by omega
    simp [hsize, hne hsize.1, hchars, hedges, hdots, eq_comm]
  · simp only [false_iff]
    tauto
  · simp [hchars]

/-! ## Bytes -/

/-- The checks of a name on its bytes, with the edges looked up by their positions. There is no
outcome if a position is out of range. -/
def ofBytes? (s : String) : Option (Except NameError ContainerName) := do
  let bytes := Bytes.ofString s
  if bytes.length < 3 ∨ 63 < bytes.length then return .error ⟨.containerLength, s⟩
  if ¬bytes.all (isNameChar ∘ Char.ofUInt8) then return .error ⟨.containerAlphabet, s⟩
  let first ← bytes[0]?
  let last ← bytes[bytes.length - 1]?
  if ¬(isEdge (.ofUInt8 first) ∧ isEdge (.ofUInt8 last)) then
    return .error ⟨.containerEdges, s⟩
  if hasDoubleDot s.toList then return .error ⟨.containerDots, s⟩
  return .ok ⟨s⟩

theorem bytes_ofString (s : String) :
    Bytes.ofString s = s.toList.flatMap String.utf8EncodeChar := by
  rw [Bytes.ofString, String.toUTF8, ← String.utf8Encode_toList, List.utf8Encode,
    List.data_toByteArray, List.toList_toArray]

theorem length_bytes_ofString (s : String) : (Bytes.ofString s).length = s.utf8ByteSize := rfl

theorem toNat_lt_of_isNameChar (h : isNameChar c) : c.toNat < 128 := by
  simp only [isNameChar_iff, IsLabelChar, Char.le_def, UInt32.le_iff_toNat_le] at h
  rcases h with (⟨-, h⟩ | ⟨-, h⟩ | rfl) | rfl
  · exact h.trans_lt (by decide)
  · exact h.trans_lt (by decide)
  · decide
  · decide

theorem utf8EncodeChar_of_ascii (h : c.toNat < 128) :
    (String.utf8EncodeChar c).map Char.ofUInt8 = [c] :=
  Text.of_ascii (p := fun c ↦ (String.utf8EncodeChar c).map Char.ofUInt8 = [c]) (by decide) h

theorem exists_mem_utf8EncodeChar (h : 128 ≤ c.toNat) :
    ∃ byte ∈ String.utf8EncodeChar c, 128 ≤ byte.toNat := by
  have hc : ¬c.val.toNat ≤ 127 := by
    change ¬c.toNat ≤ 127
    omega
  simp only [String.utf8EncodeChar, hc, if_false]
  split_ifs <;> exact ⟨_, List.mem_cons_self, by simp only [UInt8.toNat_ofNat']; omega⟩

/-- A character is allowed in names if and only if its bytes are. -/
theorem all_utf8EncodeChar (c : Char) :
    (String.utf8EncodeChar c).all (isNameChar ∘ Char.ofUInt8) = isNameChar c := by
  rcases Nat.lt_or_ge c.toNat 128 with hascii | hbeyond
  · rw [← List.all_map, utf8EncodeChar_of_ascii hascii, List.all_cons, List.all_nil, Bool.and_true]
  · have hchar : isNameChar c = false :=
      Bool.eq_false_iff.mpr fun h ↦ absurd (toNat_lt_of_isNameChar h) (by omega)
    obtain ⟨byte, hmem, hbyte⟩ := exists_mem_utf8EncodeChar hbeyond
    rw [hchar, List.all_eq_false]
    refine ⟨byte, hmem, fun h ↦ ?_⟩
    have hlt : (Char.ofUInt8 byte).toNat < 128 := toNat_lt_of_isNameChar h
    have htoNat : (Char.ofUInt8 byte).toNat = byte.toNat := rfl
    omega

theorem all_bytes_ofString (s : String) :
    (Bytes.ofString s).all (isNameChar ∘ Char.ofUInt8) = s.toList.all isNameChar := by
  rw [bytes_ofString, List.all_flatMap, funext all_utf8EncodeChar]

/-- A text of allowed characters has one byte for each of them. -/
theorem map_bytes_ofString (h : s.toList.all isNameChar) :
    (Bytes.ofString s).map Char.ofUInt8 = s.toList := by
  rw [List.all_eq_true] at h
  rw [bytes_ofString, List.map_flatMap]
  calc
    _ = s.toList.flatMap fun c ↦ [c] := List.flatMap_congr fun c hc ↦
      utf8EncodeChar_of_ascii (toNat_lt_of_isNameChar (h c hc))
    _ = s.toList := List.flatMap_singleton' _

/-- No position is out of range, and the checks of bytes are those of characters. -/
theorem ofBytes?_eq (s : String) : ofBytes? s = some (ofString s) := by
  simp only [ofBytes?, ofString, length_bytes_ofString, all_bytes_ofString]
  by_cases hlength : s.utf8ByteSize < 3 ∨ 63 < s.utf8ByteSize
  · simp only [if_pos hlength]
    rfl
  · by_cases hchars : s.toList.all isNameChar
    · have hbytes := map_bytes_ofString hchars
      have hsize : s.utf8ByteSize - 1 < (Bytes.ofString s).length := by
        rw [length_bytes_ofString]
        omega
      obtain ⟨first, hfirst⟩ : ∃ first, (Bytes.ofString s)[0]? = some first :=
        ⟨_, List.getElem?_eq_getElem (Nat.zero_lt_of_lt hsize)⟩
      obtain ⟨last, hlast⟩ : ∃ last, (Bytes.ofString s)[s.utf8ByteSize - 1]? = some last :=
        ⟨_, List.getElem?_eq_getElem hsize⟩
      have hhead : s.toList.head? = some (.ofUInt8 first) := by
        rw [← hbytes, List.head?_map, List.head?_eq_getElem?, hfirst, Option.map_some]
      have hend : s.toList.getLast? = some (.ofUInt8 last) := by
        rw [← hbytes, List.getLast?_map, List.getLast?_eq_getElem?, length_bytes_ofString, hlast,
          Option.map_some]
      simp only [if_neg hlength, if_neg (not_not_intro hchars), hfirst, hlast, hhead, hend,
        Option.bind_eq_bind, Option.bind_some, Option.all_some, Option.pure_def]
      split_ifs <;> rfl
    · simp only [if_neg hlength, if_pos hchars]
      rfl

/-- A container is created if and only if its name has 3 to 63 bytes and is spelled by labels with
single dots between them, and the name is kept as it is. The checks never look beyond the bytes of a
name, a name that is refused changes nothing, and in the end there are the containers whose names
were accepted. -/
theorem containers_are_named_by_labels (s : String) :
    ofBytes? s = some (ofString s) ∧
    (∀ name, ofString s = .ok name ↔ IsAllowed s ∧ name = ⟨s⟩) ∧
    (∀ store : Store, ((∃ next, store.createContainer s = .ok next) ↔ IsAllowed s) ∧
      (¬IsAllowed s → store.act (.createContainer s) = store)) ∧
    ∀ c lag spelling actions, s ∈ ((Store.empty c lag spelling).run actions).containers ↔
      .createContainer s ∈ actions ∧ IsAllowed s := by
  have haccepted : (∃ name, ofString s = .ok name) ↔ IsAllowed s := by
    simp only [ofString_eq_ok_iff, exists_and_left, exists_eq, and_true]
  refine ⟨ofBytes?_eq s, fun name ↦ ofString_eq_ok_iff, fun store ↦ ⟨?_, fun h ↦ ?_⟩, ?_⟩
  · rw [← haccepted, Store.createContainer]
    rcases ofString s with e | name <;> simp
  · rw [← haccepted, not_exists] at h
    rcases hname : ofString s with e | name
    · rw [Store.act, Store.createContainer, hname]
      rfl
    · exact absurd hname (h name)
  · intro c lag spelling actions
    rw [Store.mem_containers_run, haccepted]
    simp [Store.empty]

theorem two_dots_in_a_row_are_refused :
    let actions := ["my.bucket-01", "two..dots", "abc", "abc"].map Store.Action.createContainer
    let store := (Store.empty {} 0 .hexadecimal).run actions
    "my.bucket-01" ∈ store.containers ∧ ¬IsAllowed "two..dots" ∧
      store.act (.createContainer "two..dots") = store := by
  have haccepted : IsAllowed "my.bucket-01" :=
    (((containers_are_named_by_labels "my.bucket-01").2.1 ⟨"my.bucket-01"⟩).mp (by decide)).1
  have hrefused : ¬IsAllowed "two..dots" := fun h ↦
    absurd (((containers_are_named_by_labels "two..dots").2.1 _).mpr ⟨h, rfl⟩) (by decide)
  exact ⟨((containers_are_named_by_labels "my.bucket-01").2.2.2 _ _ _ _).mpr ⟨by simp, haccepted⟩,
    hrefused, ((containers_are_named_by_labels "two..dots").2.2.1 _).2 hrefused⟩

end MultipartUpload.ContainerName
