import MultipartUpload.Json.Basic
import MultipartUpload.Text.Numeral

/-!
# Records and choices in JSON

A record is an object with named fields, or the list of their values in order. In an object unknown
names are ignored, and a known name may stand once. An optional field may be left out of an object
or be null. A choice is the name of a variant, or an object with that name as its only member and
null as the value.
-/

namespace MultipartUpload.Json

/-! ## Records -/

/-- The values of the named fields in an object. -/
def memberFields? (names : List String) (members : List (Content × Json)) :
    Option (List (Option Json)) :=
  if members.all (·.1.isSome) ∧
      names.all (fun name ↦ members.countP (·.1 == some name) ≤ 1) then
    some (names.map fun name ↦ members.lookup (some name))
  else none

/-- The values of a record's fields. A list may leave off the given number of fields at its
end. -/
def fields? (names : List String) (omissible : Nat) : Json → Option (List (Option Json))
  | .object members => memberFields? names members
  | .list items =>
    if names.length ≤ items.length + omissible ∧ items.length ≤ names.length then
      some (items.map some ++ List.replicate (names.length - items.length) none)
    else none
  | _ => none

/-- A field that has to be there. -/
def required? (read : Json → Option α) (field : Option Json) : Option α :=
  field.bind read

/-- A field that may be missing or null. -/
def optional? (read : Json → Option α) : Option Json → Option (Option α)
  | none | some .null => some none
  | some value => (read value).map some

/-- The member of an optional field, left out when there is no value. -/
def optionalMember (name : String) (value : Option Json) : List (String × Json) :=
  match value with
  | some value => [(name, value)]
  | none => []

/-! ## Values -/

def string? : Json → Option String
  | .text content => content
  | _ => none

def natural? : Json → Option Nat
  | .natural n => some n
  | _ => none

def word64? (value : Json) : Option UInt64 :=
  value.natural?.bind Numeral.word64?

def word32? (value : Json) : Option UInt32 :=
  value.natural?.bind Numeral.word32?

/-- The variant whose name is given. -/
def choice? (ofName? : String → Option α) : Json → Option α
  | .text (some name) => ofName? name
  | .object [(some name, .null)] => ofName? name
  | _ => none

end MultipartUpload.Json
