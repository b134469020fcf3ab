import MultipartUpload.Json.Token

/-!
# Reading JSON

Tokens are read one at a time against a stack of unfinished lists and objects, so values may nest to
any depth. A text is accepted only if it holds exactly one value.
-/

namespace MultipartUpload.Json

/-- A list or an object in which a value is being read. What came before is kept with the latest in
front. -/
inductive Frame where
  | list (items : List Json)
  | object (members : List (Content × Json)) (name : Content)

/-- What may come next. -/
inductive Expected where
  | value
  /-- Just after an opening bracket. -/
  | firstItem
  | afterItem (items : List Json)
  /-- Just after an opening brace. -/
  | firstName
  | name (members : List (Content × Json))
  | colon (members : List (Content × Json)) (name : Content)
  | afterMember (members : List (Content × Json))
  | ended (value : Json)

structure Reader where
  stack : List Frame
  expected : Expected

namespace Reader

def start : Reader :=
  ⟨[], .value⟩

/-- Hands a finished value to the innermost unfinished list or object. -/
def deliver (value : Json) : List Frame → Reader
  | [] => ⟨[], .ended value⟩
  | .list items :: stack => ⟨stack, .afterItem (value :: items)⟩
  | .object members name :: stack => ⟨stack, .afterMember ((name, value) :: members)⟩

/-- Reads the first token of a value. -/
def stepValue (stack : List Frame) : Token → Option Reader
  | .atom value => some (deliver value stack)
  | .text content => some (deliver (.text content) stack)
  | .beginList => some ⟨stack, .firstItem⟩
  | .beginObject => some ⟨stack, .firstName⟩
  | _ => none

def step (reader : Reader) (token : Token) : Option Reader :=
  match reader.expected, token with
  | .value, token => stepValue reader.stack token
  | .firstItem, .endList => some (deliver (.list []) reader.stack)
  | .firstItem, token => stepValue (.list [] :: reader.stack) token
  | .afterItem items, .comma => some ⟨.list items :: reader.stack, .value⟩
  | .afterItem items, .endList => some (deliver (.list items.reverse) reader.stack)
  | .firstName, .endObject => some (deliver (.object []) reader.stack)
  | .firstName, .text name => some ⟨reader.stack, .colon [] name⟩
  | .name members, .text name => some ⟨reader.stack, .colon members name⟩
  | .colon members name, .colon => some ⟨.object members name :: reader.stack, .value⟩
  | .afterMember members, .comma => some ⟨reader.stack, .name members⟩
  | .afterMember members, .endObject => some (deliver (.object members.reverse) reader.stack)
  | _, _ => none

/-- The value read, if the text may end here. -/
def finish? (reader : Reader) : Option Json :=
  match reader.expected with
  | .ended value => some value
  | _ => none

end Reader

/-- The value that a sequence of tokens stands for. -/
def ofTokens? (tokens : List Token) : Option Json :=
  (tokens.foldlM Reader.step Reader.start).bind Reader.finish?

/-- Reads a text that holds one JSON value. -/
def parse? (s : String) : Option Json :=
  (tokens? s.toList).bind ofTokens?

end MultipartUpload.Json
