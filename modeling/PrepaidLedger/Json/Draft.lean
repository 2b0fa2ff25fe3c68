import PrepaidLedger.Json.Basic

/-!
What a JSON text says before anyone has asked for its values. A leaf that stands for no value, such
as a string with half a surrogate pair or a number beyond the range of floating point, is kept as
`none`: a member that nobody reads cannot spoil the rest. Names may repeat.
-/
namespace PrepaidLedger

inductive Json.Draft
  | null
  | bool (b : Bool)
  | number (n : Option Json.Number)
  | string (s : Option String)
  | array (items : List Json.Draft)
  | object (members : List (Option String × Json.Draft))

namespace Json.Draft

def depthLimit : Nat := 127

mutual

def value? (depth : Nat) : Draft → Option Json
  | .null => some .null
  | .bool b => some (.bool b)
  | .number n => n.map .number
  | .string s => s.map .string
  | .array items =>
    match depth with
    | 0 => none
    | d + 1 => (values? d items).map .array
  | .object members =>
    match depth with
    | 0 => none
    | d + 1 => (memberValues? d members).map Json.ofMembers

def values? (depth : Nat) : List Draft → Option (List Json)
  | [] => some []
  | item :: rest =>
    match item.value? depth, values? depth rest with
    | some v, some vs => some (v :: vs)
    | _, _ => none

def memberValues? (depth : Nat) : List (Option String × Draft) → Option (List (String × Json))
  | [] => some []
  | (name, item) :: rest =>
    match name, item.value? depth, memberValues? depth rest with
    | some n, some v, some vs => some ((n, v) :: vs)
    | _, _, _ => none

end

mutual

def ofValue : Json → Draft
  | .null => .null
  | .bool b => .bool b
  | .number n => .number (some n)
  | .string s => .string (some s)
  | .array items => .array (ofValues items)
  | .object members => .object (ofMemberValues members)

def ofValues : List Json → List Draft
  | [] => []
  | v :: vs => ofValue v :: ofValues vs

def ofMemberValues : List (String × Json) → List (Option String × Draft)
  | [] => []
  | (n, v) :: vs => (some n, ofValue v) :: ofMemberValues vs

end

end Json.Draft
end PrepaidLedger
