import MultipartUpload.Json.Writer
import MultipartUpload.Proofs.Text.Hex
import MultipartUpload.Proofs.Text.Numeral

/-!
# Tokens of written texts

Tokens that are written side by side are read back one by one, as long as no word stands right next
to another. A word ends only with what follows it, so the lexer is followed up to the point where at
most the end of a word is still open.
-/

namespace MultipartUpload.Json

/-! ## Texts -/

/-- No character has the number of a surrogate. -/
theorem ofCodePoints?_map_toNat (cs : List Char) : ofCodePoints? (cs.map Char.toNat) = some cs := by
  have hplain : ∀ c : Char, isHighSurrogate c.toNat = false ∧ isLowSurrogate c.toNat = false := by
    intro c
    have hvalid : c.toNat < 0xd800 ∨ (0xdfff < c.toNat ∧ c.toNat < 0x110000) := c.valid
    simp only [isHighSurrogate, isLowSurrogate, Bool.and_eq_false_iff, decide_eq_false_iff_not]
    omega
  induction cs with
  | nil => rfl
  | cons c cs ih =>
    obtain ⟨hhigh, hlow⟩ := hplain c
    cases cs with
    | nil => simp [ofCodePoints?, hhigh, hlow]
    | cons d cs =>
      simp only [List.map_cons] at ih ⊢
      simp [ofCodePoints?, hhigh, hlow, ih]

theorem content_map_toNat (s : String) :
    Lexer.content (s.toList.map Char.toNat).reverse = some s := by
  rw [Lexer.content, List.reverse_reverse, ofCodePoints?_map_toNat, Option.map_some,
    String.ofList_toList]

/-- A character is read back as it was written. -/
theorem foldlM_escapeChar (c : Char) (points : List ℕ) (tokens : List Token) :
    (escapeChar c).foldlM Lexer.step ⟨.inside points, tokens⟩ =
      some ⟨.inside (c.toNat :: points), tokens⟩ := by
  unfold escapeChar
  split_ifs with hquote hbackslash hb hf hn hr ht hcontrol
  any_goals
    subst c
    rfl
  · have hhigh : Hex.value? (Hex.digit (c.toNat / 16)) = some (c.toNat / 16) :=
      Hex.value?_digit (by omega)
    have hlow : Hex.value? (Hex.digit (c.toNat % 16)) = some (c.toNat % 16) :=
      Hex.value?_digit (by omega)
    have hjoined : c.toNat / 16 * 16 + c.toNat % 16 = c.toNat := by omega
    have hzero : Hex.value? '0' = some 0 := rfl
    simp [Lexer.step, hzero, hhigh, hlow, hjoined]
  · simp [Lexer.step, hquote, hbackslash, hcontrol]

theorem foldlM_flatMap_escapeChar (cs : List Char) (points : List ℕ) (tokens : List Token) :
    (cs.flatMap escapeChar).foldlM Lexer.step ⟨.inside points, tokens⟩ =
      some ⟨.inside ((cs.map Char.toNat).reverse ++ points), tokens⟩ := by
  induction cs generalizing points with
  | nil => rfl
  | cons c cs ih =>
    rw [List.flatMap_cons, List.foldlM_append, foldlM_escapeChar]
    simp only [Option.bind_eq_bind, Option.bind_some, ih, List.map_cons, List.reverse_cons,
      List.append_assoc, List.cons_append, List.nil_append]

theorem foldlM_spellContent (content : Content) (tokens : List Token) :
    (spellContent content).foldlM Lexer.step ⟨.outside, tokens⟩ =
      some ⟨.outside, .text content :: tokens⟩ := by
  cases content with
  | none => rfl
  | some s =>
    have hopen (cs : List Char) : ('"' :: cs).foldlM Lexer.step ⟨.outside, tokens⟩ =
        cs.foldlM Lexer.step ⟨.inside [], tokens⟩ := rfl
    have hclose (points : List ℕ) : ['"'].foldlM Lexer.step ⟨.inside points, tokens⟩ =
        some ⟨.outside, .text (Lexer.content points) :: tokens⟩ := rfl
    rw [spellContent, List.cons_append, hopen, List.foldlM_append, foldlM_flatMap_escapeChar,
      List.append_nil]
    simp only [Option.bind_eq_bind, Option.bind_some, hclose, content_map_toNat]

/-! ## Words -/

/-- The values that are written as single words. -/
def IsAtom : Json → Prop
  | .null | .bool _ | .natural _ | .otherNumber => True
  | _ => False

theorem Lexer.isWordChar_of_isDigit {c : Char} (h : c.isDigit) : isWordChar c := by
  simp [isWordChar, Char.isAlphanum, h]

theorem afterInteger?_digits (n : ℕ) : afterInteger? (Numeral.digits n) = some [] := by
  rcases Nat.eq_zero_or_pos n with rfl | hn
  · rfl
  · have hdigits : ∀ c ∈ Numeral.digits n, c.isDigit := fun c ↦ Numeral.isDigit_of_mem_digits
    have hhead := Numeral.head?_digits_ne hn
    obtain ⟨c, cs, hcons⟩ := List.exists_cons_of_ne_nil (Numeral.digits_ne_nil n)
    rw [hcons] at hdigits hhead ⊢
    obtain ⟨hc, hcs⟩ := List.forall_mem_cons.mp hdigits
    have hzero : c ≠ '0' := by simpa using hhead
    have hrest : cs.dropWhile Char.isDigit = [] := List.dropWhile_eq_nil_iff.mpr hcs
    rw [afterInteger?, if_pos hc, hrest]
    exact hzero

/-- A word that begins with a digit is none of the literals. -/
theorem ofWord?_digits (n : ℕ) : ofWord? (Numeral.digits n) = some (.natural n) := by
  have hliteral : ∀ (c : Char) (cs : List Char), ¬c.isDigit → Numeral.digits n ≠ c :: cs := by
    intro c cs hc h
    exact hc (Numeral.isDigit_of_mem_digits (h ▸ List.mem_cons_self))
  have hvalue : Numeral.value (Numeral.digits n) = n := Numeral.value_zeros_append_digits 0 n
  rw [ofWord?, if_neg (hliteral _ _ (by decide)), if_neg (hliteral _ _ (by decide)),
    if_neg (hliteral _ _ (by decide)), afterInteger?_digits, hvalue]
  rfl

/-- A single word is read as the value it was written for. -/
theorem spellAtom_spec {value : Json} (h : value.IsAtom) :
    spellAtom value ≠ [] ∧ (∀ c ∈ spellAtom value, Lexer.isWordChar c) ∧
      ofWord? (spellAtom value) = some value := by
  cases value with
  | null => exact ⟨by decide, List.all_eq_true.mp rfl, rfl⟩
  | bool value => cases value <;> exact ⟨by decide, List.all_eq_true.mp rfl, rfl⟩
  | natural n =>
    exact ⟨Numeral.digits_ne_nil n, fun c hc ↦
      Lexer.isWordChar_of_isDigit (Numeral.isDigit_of_mem_digits hc), ofWord?_digits n⟩
  | otherNumber => exact ⟨by decide, List.all_eq_true.mp rfl, rfl⟩
  | text | list | object => exact h.elim

namespace Lexer

theorem stepOutside_of_isWordChar {c : Char} (h : isWordChar c) (tokens : List Token) :
    stepOutside tokens c = some ⟨.word [c], tokens⟩ := by
  have hdelimiters : [' ', '\t', '\n', '\r', '[', ']', '{', '}', ':', ',', '"'].all
      fun d ↦ !isWordChar d := rfl
  have hne : ∀ d ∈ [' ', '\t', '\n', '\r', '[', ']', '{', '}', ':', ',', '"'], c ≠ d := by
    rintro d hd rfl
    simpa [h] using List.all_eq_true.mp hdelimiters c hd
  simp only [List.forall_mem_cons] at hne
  simp [stepOutside, isBlank, hne, h]

theorem foldlM_isWordChar {cs : List Char} (h : ∀ c ∈ cs, isWordChar c) (read : List Char)
    (tokens : List Token) :
    cs.foldlM step ⟨.word read, tokens⟩ = some ⟨.word (cs.reverse ++ read), tokens⟩ := by
  induction cs generalizing read with
  | nil => rfl
  | cons c cs ih =>
    obtain ⟨hc, hcs⟩ := List.forall_mem_cons.mp h
    have hstep : step ⟨.word read, tokens⟩ c = some ⟨.word (c :: read), tokens⟩ := if_pos hc
    rw [List.foldlM_cons, hstep, List.reverse_cons, List.append_assoc]
    exact ih hcs (c :: read)

/-- The tokens that have been read, where the last one may be a word that has not ended yet. -/
def Stands (lexer : Lexer) (tokens : List Token) : Prop :=
  lexer = ⟨.outside, tokens⟩ ∨ ∃ read value rest,
    lexer = ⟨.word read, rest⟩ ∧ ofWord? read.reverse = some value ∧ tokens = .atom value :: rest

variable {lexer : Lexer} {tokens : List Token}

theorem Stands.finish? (h : lexer.Stands tokens) : lexer.finish? = some tokens.reverse := by
  rcases h with rfl | ⟨read, value, rest, rfl, hword, rfl⟩
  · rfl
  · simp [Lexer.finish?, endWord?, hword]

/-- A delimiter ends what was being read. -/
theorem Stands.step_eq (h : lexer.Stands tokens) {c : Char} (hc : ¬isWordChar c) :
    lexer.step c = step ⟨.outside, tokens⟩ c := by
  rcases h with rfl | ⟨read, value, rest, rfl, hword, rfl⟩
  · rfl
  · simp [step, hc, endWord?, hword]

end Lexer

/-! ## Sequences of tokens -/

namespace Token

/-- Tokens that end a word. -/
def Delimits : Token → Prop
  | .atom _ => False
  | _ => True

/-- Whether tokens can be told apart when they are written side by side: every word is a single
one, and what follows it is a delimiter. -/
def Separated : List Token → Prop
  | [] => True
  | .atom value :: rest => value.IsAtom ∧ (∀ token ∈ rest.head?, token.Delimits) ∧ Separated rest
  | _ :: rest => Separated rest

variable {token : Token} {lexer : Lexer} {tokens read : List Token}

theorem Separated.of_cons (h : Separated (token :: tokens)) : Separated tokens := by
  cases token with
  | atom => exact h.2.2
  | _ => exact h

theorem Separated.append {first second : List Token} (hfirst : Separated first)
    (hsecond : Separated second) (hhead : ∀ token ∈ second.head?, token.Delimits) :
    Separated (first ++ second) := by
  induction first with
  | nil => exact hsecond
  | cons token first ih =>
    cases token with
    | atom value =>
      obtain ⟨hatom, hnext, hrest⟩ := hfirst
      refine ⟨hatom, ?_, ih hrest⟩
      cases first with
      | nil => exact hhead
      | cons next first => exact hnext
    | _ => exact ih hfirst

theorem foldlM_spell_of_delimits (h : token.Delimits) (hread : lexer.Stands read) :
    token.spell.foldlM Lexer.step lexer = some ⟨.outside, token :: read⟩ := by
  have hdelimiter (c : Char) (cs : List Char) (hc : ¬Lexer.isWordChar c) :
      (c :: cs).foldlM Lexer.step lexer = (c :: cs).foldlM Lexer.step ⟨.outside, read⟩ := by
    rw [List.foldlM_cons, List.foldlM_cons, hread.step_eq hc]
  cases token with
  | atom => exact h.elim
  | text content =>
    rw [← foldlM_spellContent content read]
    cases content <;> exact hdelimiter '"' _ (by decide)
  | beginList | endList | beginObject | endObject | colon | comma =>
    exact hdelimiter _ [] (by decide)

theorem foldlM_spell_atom {value : Json} (h : value.IsAtom) (read : List Token) :
    ∃ lexer : Lexer, (Token.atom value).spell.foldlM Lexer.step ⟨.outside, read⟩ = some lexer ∧
      lexer.Stands (.atom value :: read) := by
  obtain ⟨hne, hchars, hword⟩ := spellAtom_spec h
  obtain ⟨c, cs, hcons⟩ := List.exists_cons_of_ne_nil hne
  rw [hcons] at hchars hword
  obtain ⟨hc, hcs⟩ := List.forall_mem_cons.mp hchars
  refine ⟨⟨.word (cs.reverse ++ [c]), read⟩, ?_, .inr ⟨_, value, read, rfl, ?_, rfl⟩⟩
  · have hstep : Lexer.step ⟨.outside, read⟩ c = some ⟨.word [c], read⟩ :=
      Lexer.stepOutside_of_isWordChar hc read
    rw [spell, hcons, List.foldlM_cons, hstep]
    exact Lexer.foldlM_isWordChar hcs [c] read
  · rw [List.reverse_append, List.reverse_reverse]
    exact hword

/-- Separated tokens are read one by one, if the first of them is a delimiter or no word is open. -/
theorem exists_stands_of_separated (h : Separated tokens) (hread : lexer.Stands read)
    (hfirst : lexer = ⟨.outside, read⟩ ∨ ∀ token ∈ tokens.head?, token.Delimits) :
    ∃ lexer' : Lexer, (tokens.flatMap spell).foldlM Lexer.step lexer = some lexer' ∧
      lexer'.Stands (tokens.reverse ++ read) := by
  induction tokens generalizing lexer read with
  | nil => exact ⟨lexer, rfl, hread⟩
  | cons token tokens ih =>
    -- After the first token either no word is open, or a delimiter comes next.
    obtain ⟨next, hnext, hstands, hsecond, hrest⟩ : ∃ next : Lexer,
        token.spell.foldlM Lexer.step lexer = some next ∧ next.Stands (token :: read) ∧
          (next = ⟨.outside, token :: read⟩ ∨ ∀ token ∈ tokens.head?, token.Delimits) ∧
          Separated tokens := by
      by_cases hdelimits : token.Delimits
      · exact ⟨_, foldlM_spell_of_delimits hdelimits hread, .inl rfl, .inl rfl, h.of_cons⟩
      · cases token with
        | atom value =>
          obtain ⟨hatom, hhead, hrest⟩ := h
          obtain rfl : lexer = ⟨.outside, read⟩ := hfirst.resolve_right fun hnone ↦ hnone _ rfl
          obtain ⟨next, hnext, hstands⟩ := foldlM_spell_atom hatom read
          exact ⟨next, hnext, hstands, .inr hhead, hrest⟩
        | _ => exact absurd trivial hdelimits
    obtain ⟨last, hlast, hend⟩ := ih hrest hstands hsecond
    refine ⟨last, ?_, ?_⟩
    · rw [List.flatMap_cons, List.foldlM_append, hnext]
      exact hlast
    · rw [List.reverse_cons, List.append_assoc]
      exact hend

/-- Separated tokens are read back as they were written. -/
theorem tokens?_flatMap_spell (h : Separated tokens) :
    tokens? (tokens.flatMap spell) = some tokens := by
  have hstart : Lexer.start.Stands [] := .inl rfl
  obtain ⟨lexer, hlexer, hstands⟩ := exists_stands_of_separated h hstart (.inl rfl)
  rw [tokens?, hlexer, Option.bind_some, hstands.finish?, List.append_nil, List.reverse_reverse]

end Token

end MultipartUpload.Json
