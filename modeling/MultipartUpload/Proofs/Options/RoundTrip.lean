import MultipartUpload.Memory.Stored
import MultipartUpload.Proofs.Options.Algorithm

/-!
# Round trip of option headers

The options of a request arrive as they were sent. Only what differs from the defaults has a header,
each option has a header of its own, and an option without a header is read as its default. Options
can be sent if their headers have valid names: their values can always be sent and read.
-/

namespace MultipartUpload

/-- What a service keeps of the options of a request. -/
def UploadOptions.stored (options : UploadOptions) : StoredOptions :=
  ⟨options.encryption.map (·.algorithm), options.acl, options.storageClass⟩

@[simp]
theorem Acl.ofName_name (acl : Acl) : Acl.ofName acl.name = .ok acl := by
  cases acl <;> rfl

@[simp]
theorem StorageClass.ofName_name (storageClass : StorageClass) :
    StorageClass.ofName storageClass.name = .ok storageClass := by
  cases storageClass <;> rfl

/-! ## Looking up headers -/

/-- Whether an option is named in the form under which headers are stored. -/
def Header.IsFolded (option : String) : Prop :=
  Header.fold option = option

instance (option : String) : Decidable (Header.IsFolded option) :=
  inferInstanceAs (Decidable (_ = _))

/-- Options that are named in lower case have headers of their own under every tag. -/
theorem Header.fold_name_inj {tag first second : String} (hfirst : IsFolded first)
    (hsecond : IsFolded second) :
    fold (name tag first) = fold (name tag second) ↔ first = second := by
  constructor
  · intro h
    have hlists := congrArg String.toList h
    simp only [fold, name, String.toList_append, String.toList_ofList, List.map_append,
      List.append_cancel_left_eq] at hlists
    rw [← hfirst, ← hsecond, fold, fold, hlists]
  · rintro rfl
    rfl

namespace Headers

variable {tag option : String}

theorem find?_add {headers added : Headers} {name value : String} (hname : Header.IsFolded name)
    (hoption : Header.IsFolded option) (h : headers.add tag name value = .ok added) :
    added.find? tag option = if name = option then some value else headers.find? tag option := by
  simp only [add] at h
  split_ifs at h
  cases h
  simp only [find?, Std.ExtTreeMap.getElem?_insert, Std.compare_eq_iff_eq,
    Header.fold_name_inj hname hoption]

/-- The last header that was added for an option counts. -/
theorem find?_foldlM_add {entries : List (String × String)} {start headers : Headers}
    (hentries : ∀ entry ∈ entries, Header.IsFolded entry.1) (hoption : Header.IsFolded option)
    (h : entries.foldlM (fun headers (name, value) ↦ headers.add tag name value) start =
      .ok headers) :
    headers.find? tag option = (entries.reverse.lookup option).or (start.find? tag option) := by
  induction entries generalizing start with
  | nil =>
    cases h
    rfl
  | cons entry entries ih =>
    obtain ⟨name, value⟩ := entry
    rw [List.foldlM_cons] at h
    rcases hadded : start.add tag name value with e | added
    · simp only [hadded] at h
      cases h
    · simp only [hadded] at h
      have hname : Header.IsFolded name := hentries (name, value) List.mem_cons_self
      rw [ih (fun entry hmem ↦ hentries entry (List.mem_cons_of_mem _ hmem)) h,
        find?_add hname hoption hadded, List.reverse_cons, List.lookup_append, Option.or_assoc]
      congr 1
      by_cases heq : name = option
      · simp [heq]
      · have hne : (option == name) = false := beq_false_of_ne (Ne.symm heq)
        simp [heq, List.lookup_cons, hne]

/-! ## Adding headers -/

theorem add_isOk_iff {headers : Headers} {value : String} :
    (∃ added, headers.add tag option value = .ok added) ↔
      Header.isName (Header.name tag option) ∧ Header.isValue value := by
  simp only [add]
  split_ifs <;> simp_all

theorem eq_of_add_eq_error {headers : Headers} {value : String} {e : Header.Error}
    (h : headers.add tag option value = .error e) :
    e.name = Header.name tag option ∧
      (e.fault = .name ∧ ¬Header.isName e.name ∨ e.fault = .value ∧ ¬Header.isValue value) := by
  simp only [add] at h
  split at h
  · rename_i hname
    cases h
    exact ⟨rfl, .inl ⟨rfl, hname⟩⟩
  · split at h
    · rename_i hvalue
      cases h
      exact ⟨rfl, .inr ⟨rfl, hvalue⟩⟩
    · cases h

/-- All headers can be added exactly if each of them can be sent. -/
theorem foldlM_add_isOk_iff {entries : List (String × String)} {start : Headers} :
    (∃ headers, entries.foldlM (fun headers (name, value) ↦ headers.add tag name value) start =
      .ok headers) ↔
      ∀ entry ∈ entries, Header.isName (Header.name tag entry.1) ∧ Header.isValue entry.2 := by
  induction entries generalizing start with
  | nil => simp [pure, Except.pure]
  | cons entry entries ih =>
    obtain ⟨name, value⟩ := entry
    have hhead : (∃ added, start.add tag name value = .ok added) ↔ _ := add_isOk_iff
    rw [List.foldlM_cons, List.forall_mem_cons, ← hhead]
    rcases hadded : start.add tag name value with e | added
    · simp [hadded, bind, Except.bind]
    · simpa [hadded, bind, Except.bind] using ih

/-- Only a header that cannot be sent is blamed. -/
theorem eq_of_foldlM_add_eq_error {entries : List (String × String)} {start : Headers}
    {e : Header.Error} (h : entries.foldlM
      (fun headers (name, value) ↦ headers.add tag name value) start = .error e) :
    ∃ entry ∈ entries, e.name = Header.name tag entry.1 ∧
      (e.fault = .name ∧ ¬Header.isName e.name ∨ e.fault = .value ∧ ¬Header.isValue entry.2) := by
  induction entries generalizing start with
  | nil => cases h
  | cons entry entries ih =>
    obtain ⟨name, value⟩ := entry
    rw [List.foldlM_cons] at h
    rcases hadded : start.add tag name value with e' | added
    · simp only [hadded] at h
      cases h
      exact ⟨_, List.mem_cons_self, eq_of_add_eq_error hadded⟩
    · simp only [hadded] at h
      obtain ⟨blamed, hmem, hblamed⟩ := ih h
      exact ⟨blamed, List.mem_cons_of_mem _ hmem, hblamed⟩

end Headers

/-! ## The headers of options -/

theorem Acl.isText_name (acl : Acl) : Header.isText acl.name := by
  cases acl <;> decide

theorem StorageClass.isText_name (storageClass : StorageClass) :
    Header.isText storageClass.name := by
  cases storageClass <;> decide

/-- What can be read as text can be sent. -/
theorem Header.isValue_of_isText {value : String} (h : isText value) : isValue value := by
  simp only [isText, isValue, List.all_eq_true, Bool.or_eq_true, Bool.and_eq_true,
    decide_eq_true_eq] at h ⊢
  intro c hc
  rcases h c hc with ⟨hspace, htilde⟩ | htab
  · refine .inl ⟨hspace, ?_⟩
    rintro rfl
    exact absurd htilde (by decide)
  · exact .inr htab

namespace UploadOptions

variable {options : UploadOptions} {tag : String} {headers : Headers}

/-- Every header is of one of the three options, and has a value that can be read. -/
theorem of_mem_entries {entry : String × String} (h : entry ∈ options.entries) :
    Header.IsFolded entry.1 ∧ Header.isText entry.2 := by
  simp only [entries, List.mem_append] at h
  rcases h with (h | h) | h
  all_goals
    split at h
    all_goals simp only [List.mem_singleton, List.not_mem_nil] at h
    all_goals subst h
  · exact ⟨(by decide : Header.IsFolded encryptionHeader), Encryption.isText_algorithm _⟩
  · exact ⟨(by decide : Header.IsFolded aclHeader), Acl.isText_name _⟩
  · exact ⟨(by decide : Header.IsFolded storageClassHeader), StorageClass.isText_name _⟩

theorem lookup_entries (options : UploadOptions) :
    options.entries.reverse.lookup encryptionHeader = options.encryption.map (·.algorithm) ∧
    options.entries.reverse.lookup aclHeader =
      (if options.acl = default then none else some options.acl.name) ∧
    options.entries.reverse.lookup storageClassHeader =
      (if options.storageClass = default then none else some options.storageClass.name) := by
  obtain ⟨encryption, acl, storageClass⟩ := options
  cases encryption <;> by_cases hacl : acl = default <;>
    by_cases hclass : storageClass = default <;>
    simp [entries, encryptionHeader, aclHeader, storageClassHeader, hacl, hclass, List.lookup_cons]

theorem find?_headers (h : options.headers tag = .ok headers) {option : String}
    (hoption : Header.IsFolded option) :
    headers.find? tag option = options.entries.reverse.lookup option := by
  rw [Headers.find?_foldlM_add (fun entry hentry ↦ (of_mem_entries hentry).1) hoption h]
  simp [Headers.find?]

theorem isText_of_find?_headers (h : options.headers tag = .ok headers) {option value : String}
    (hoption : Header.IsFolded option) (hfound : headers.find? tag option = some value) :
    Header.isText value := by
  rw [find?_headers h hoption, List.lookup_eq_some_iff] at hfound
  obtain ⟨before, after, hsplit, -⟩ := hfound
  have hmem : (option, value) ∈ options.entries := by
    rw [← List.mem_reverse, hsplit]
    simp
  exact (of_mem_entries hmem).2

/-- Options can be sent exactly if their headers have valid names. -/
theorem headers_isOk_iff : (∃ headers, options.headers tag = .ok headers) ↔
    ∀ entry ∈ options.entries, Header.isName (Header.name tag entry.1) := by
  rw [headers, Headers.foldlM_add_isOk_iff]
  constructor
  · exact fun h entry hentry ↦ (h entry hentry).1
  · intro h entry hentry
    exact ⟨h entry hentry, Header.isValue_of_isText (of_mem_entries hentry).2⟩

/-- It is never the value of a header that cannot be sent. -/
theorem eq_of_headers_eq_error {e : Header.Error} (h : options.headers tag = .error e) :
    ∃ entry ∈ options.entries, e = ⟨.name, Header.name tag entry.1⟩ ∧ ¬Header.isName e.name := by
  obtain ⟨fault, name⟩ := e
  obtain ⟨entry, hentry, rfl, ⟨rfl, hname⟩ | ⟨-, hvalue⟩⟩ := Headers.eq_of_foldlM_add_eq_error h
  · exact ⟨entry, hentry, rfl, hname⟩
  · exact absurd (Header.isValue_of_isText (of_mem_entries hentry).2) hvalue

theorem entries_eq_nil_iff : options.entries = [] ↔ options = default := by
  obtain ⟨encryption, acl, storageClass⟩ := options
  have hdefault : (default : UploadOptions) = ⟨none, default, default⟩ := rfl
  rw [hdefault]
  cases encryption <;> simp [entries]

theorem stored_injective : Function.Injective stored := by
  rintro ⟨encryption, acl, storageClass⟩ ⟨encryption', acl', storageClass'⟩ h
  simp only [stored, StoredOptions.mk.injEq] at h
  obtain ⟨hencryption, rfl, rfl⟩ := h
  rw [Option.map_injective Encryption.algorithm_injective hencryption]

end UploadOptions

/-! ## Reading options back -/

theorem readHeader_eq {tag option : String} {headers : Headers} {value? : Option String}
    (h : headers.find? tag option = value?) (htext : ∀ value ∈ value?, Header.isText value)
    (fallback : α) (read : String → Except ServiceError α) :
    readHeader tag headers option fallback read = value?.elim (.ok fallback) read := by
  subst h
  unfold readHeader
  rcases hfound : headers.find? tag option with - | value
  · rfl
  · simp [htext value hfound]

/-- The options of a request are read back as they were sent. -/
theorem StoredOptions.ofHeaders_headers {options : UploadOptions} {tag : String}
    {headers : Headers} (h : options.headers tag = .ok headers) :
    StoredOptions.ofHeaders tag headers = .ok options.stored := by
  have htext {option : String} (hoption : Header.IsFolded option) :
      ∀ value ∈ options.entries.reverse.lookup option, Header.isText value := by
    rw [← UploadOptions.find?_headers h hoption]
    exact fun value ↦ UploadOptions.isText_of_find?_headers h hoption
  obtain ⟨hencryption, hacl, hclass⟩ := options.lookup_entries
  rw [ofHeaders, readHeader_eq (UploadOptions.find?_headers h (by decide)) (htext (by decide)),
    readHeader_eq (UploadOptions.find?_headers h (by decide)) (htext (by decide)),
    readHeader_eq (UploadOptions.find?_headers h (by decide)) (htext (by decide)),
    hencryption, hacl, hclass, UploadOptions.stored]
  cases options.encryption <;> split_ifs with hdefaultAcl hdefaultClass hdefaultClass <;>
    simp [*, bind, Except.bind, pure, Except.pure, Except.mapError]

/-- No headers are sent for the defaults, and only for them. -/
theorem UploadOptions.headers_isEmpty_iff {options : UploadOptions} {tag : String}
    {headers : Headers} (h : options.headers tag = .ok headers) :
    headers.isEmpty ↔ options = default := by
  have hdefault : (default : UploadOptions).headers tag = .ok ∅ := rfl
  constructor
  · intro hempty
    have hread := StoredOptions.ofHeaders_headers h
    rw [Std.ExtTreeMap.isEmpty_iff.mp hempty, StoredOptions.ofHeaders_headers hdefault] at hread
    exact (stored_injective (Except.ok.inj hread)).symm
  · rintro rfl
    rw [hdefault] at h
    cases h
    rfl

/-- Headers are read back as the options they were made from, so they are empty for the defaults
only, and no other options have the same headers. Options that are not the defaults cannot be sent
exactly if a header of theirs has no valid name, and the name is what is blamed. -/
theorem option_headers_round_trip (options : UploadOptions) (tag : String) :
    (∀ headers, options.headers tag = .ok headers →
      StoredOptions.ofHeaders tag headers =
        .ok ⟨options.encryption.map (·.algorithm), options.acl, options.storageClass⟩ ∧
      (headers.isEmpty ↔ options = default) ∧
      ∀ other : UploadOptions, other.headers tag = .ok headers → other = options) ∧
    ((∃ e, options.headers tag = .error e) ↔
      options ≠ default ∧ ∃ entry ∈ options.entries, ¬Header.isName (Header.name tag entry.1)) ∧
    ∀ e, options.headers tag = .error e →
      ∃ entry ∈ options.entries, e = ⟨.name, Header.name tag entry.1⟩ ∧ ¬Header.isName e.name := by
  refine ⟨fun headers h ↦ ⟨StoredOptions.ofHeaders_headers h,
    UploadOptions.headers_isEmpty_iff h, fun other hother ↦ ?_⟩, ?_, fun e ↦
    UploadOptions.eq_of_headers_eq_error⟩
  · have hread := StoredOptions.ofHeaders_headers hother
    rw [StoredOptions.ofHeaders_headers h] at hread
    exact (UploadOptions.stored_injective (Except.ok.inj hread)).symm
  · have hfails : (∃ e, options.headers tag = .error e) ↔
        ¬∃ headers, options.headers tag = .ok headers := by
      rcases options.headers tag with e | headers <;> simp
    have hsent : options ≠ default ↔ options.entries ≠ [] :=
      UploadOptions.entries_eq_nil_iff.not.symm
    rw [hfails, UploadOptions.headers_isOk_iff, hsent]
    push Not
    constructor
    · rintro ⟨entry, hentry, hname⟩
      exact ⟨List.ne_nil_of_mem hentry, entry, hentry, hname⟩
    · exact And.right

/-- All three options are read back from their headers. -/
theorem glacier_headers_are_read_back :
    ∃ headers, (⟨some .awsKms, .publicRead, .glacier⟩ : UploadOptions).headers "amz" = .ok headers ∧
      StoredOptions.ofHeaders "amz" headers = .ok ⟨some "aws:kms", .publicRead, .glacier⟩ :=
  ⟨_, rfl, ((option_headers_round_trip ⟨some .awsKms, .publicRead, .glacier⟩ "amz").1 _ rfl).1⟩

end MultipartUpload
