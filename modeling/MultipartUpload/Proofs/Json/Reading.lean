import MultipartUpload.Json.Reader
import MultipartUpload.Proofs.Json.Lexing

/-!
# Reading what was written

A value that was written is read back, however deep it is nested. The reader takes the tokens of a
value as a whole: it ends up where it would be if the finished value were handed to the innermost
unfinished list or object at once.
-/

namespace MultipartUpload.Json

/-! ## Tokens of a value -/

namespace Reader

/-- The first item of a list is read as any other value. -/
theorem foldlM_firstItem (value : Json) (stack : List Frame) :
    value.tokens.foldlM step ⟨stack, .firstItem⟩ =
      value.tokens.foldlM step ⟨.list [] :: stack, .value⟩ := by
  rcases value with - | value | n | - | content | (- | ⟨item, items⟩) | (- | ⟨member, members⟩) <;>
    rfl

mutual

/-- The tokens of a value are read as the value. -/
theorem foldlM_tokens (value : Json) (stack : List Frame) :
    value.tokens.foldlM step ⟨stack, .value⟩ = some (deliver value stack) :=
  match value with
  | .null | .bool _ | .natural _ | .otherNumber | .text _ | .list [] | .object [] => rfl
  | .list (item :: items) => by
    have hopen : (.beginList :: (item.tokens ++ itemTokens items)).foldlM step ⟨stack, .value⟩ =
        (item.tokens ++ itemTokens items).foldlM step ⟨.list [] :: stack, .value⟩ := by
      rw [List.foldlM_append, ← foldlM_firstItem, ← List.foldlM_append]
      rfl
    rw [tokens, List.cons_append, hopen, List.foldlM_append, foldlM_tokens item]
    simp only [Option.bind_eq_bind, Option.bind_some, deliver]
    rw [foldlM_itemTokens items]
    rfl
  | .object ((name, value) :: members) => by
    have hopen (tokens : List Token) :
        (.beginObject :: .text name :: .colon :: tokens).foldlM step ⟨stack, .value⟩ =
          tokens.foldlM step ⟨.object [] name :: stack, .value⟩ := rfl
    rw [tokens, List.cons_append, List.cons_append, List.cons_append, hopen, List.foldlM_append,
      foldlM_tokens value]
    simp only [Option.bind_eq_bind, Option.bind_some, deliver]
    rw [foldlM_memberTokens members]
    rfl

theorem foldlM_itemTokens (items read : List Json) (stack : List Frame) :
    (itemTokens items).foldlM step ⟨stack, .afterItem read⟩ =
      some (deliver (.list (read.reverse ++ items)) stack) :=
  match items with
  | [] => by
    rw [List.append_nil]
    rfl
  | item :: items => by
    have hcomma (tokens : List Token) : (.comma :: tokens).foldlM step ⟨stack, .afterItem read⟩ =
        tokens.foldlM step ⟨.list read :: stack, .value⟩ := rfl
    rw [itemTokens, List.cons_append, hcomma, List.foldlM_append, foldlM_tokens item]
    simp only [Option.bind_eq_bind, Option.bind_some, deliver]
    rw [foldlM_itemTokens items, List.reverse_cons, List.append_assoc]
    rfl

theorem foldlM_memberTokens (members read : List (Content × Json)) (stack : List Frame) :
    (memberTokens members).foldlM step ⟨stack, .afterMember read⟩ =
      some (deliver (.object (read.reverse ++ members)) stack) :=
  match members with
  | [] => by
    rw [List.append_nil]
    rfl
  | (name, value) :: members => by
    have hname (tokens : List Token) :
        (.comma :: .text name :: .colon :: tokens).foldlM step ⟨stack, .afterMember read⟩ =
          tokens.foldlM step ⟨.object read name :: stack, .value⟩ := rfl
    rw [memberTokens, List.cons_append, List.cons_append, List.cons_append, hname,
      List.foldlM_append, foldlM_tokens value]
    simp only [Option.bind_eq_bind, Option.bind_some, deliver]
    rw [foldlM_memberTokens members, List.reverse_cons, List.append_assoc]
    rfl

end

end Reader

theorem ofTokens?_tokens (value : Json) : ofTokens? value.tokens = some value := by
  rw [ofTokens?, Reader.start, Reader.foldlM_tokens]
  rfl

/-! ## Words of a value -/

theorem delimits_head?_itemTokens (items : List Json) :
    ∀ token ∈ (itemTokens items).head?, token.Delimits := by
  cases items <;> rintro _ ⟨⟩ <;> trivial

theorem delimits_head?_memberTokens (members : List (Content × Json)) :
    ∀ token ∈ (memberTokens members).head?, token.Delimits := by
  rcases members with - | ⟨⟨name, value⟩, members⟩ <;> rintro _ ⟨⟩ <;> trivial

mutual

/-- No two words of a value stand side by side. -/
theorem separated_tokens (value : Json) : Token.Separated value.tokens :=
  match value with
  | .null | .bool _ | .natural _ | .otherNumber => ⟨trivial, nofun, trivial⟩
  | .text _ | .list [] | .object [] => trivial
  | .list (item :: items) =>
    (separated_tokens item).append (separated_itemTokens items) (delimits_head?_itemTokens items)
  | .object ((_, value) :: members) =>
    (separated_tokens value).append (separated_memberTokens members)
      (delimits_head?_memberTokens members)

theorem separated_itemTokens (items : List Json) : Token.Separated (itemTokens items) :=
  match items with
  | [] => trivial
  | item :: items =>
    (separated_tokens item).append (separated_itemTokens items) (delimits_head?_itemTokens items)

theorem separated_memberTokens (members : List (Content × Json)) :
    Token.Separated (memberTokens members) :=
  match members with
  | [] => trivial
  | (_, value) :: members =>
    (separated_tokens value).append (separated_memberTokens members)
      (delimits_head?_memberTokens members)

end

/-- A value is read back from the text it is written in. -/
theorem parse?_render (value : Json) : parse? value.render = some value := by
  rw [parse?, render, String.toList_ofList, Token.tokens?_flatMap_spell (separated_tokens value),
    Option.bind_some, ofTokens?_tokens]

end MultipartUpload.Json
