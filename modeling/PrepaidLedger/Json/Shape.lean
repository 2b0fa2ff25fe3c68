import PrepaidLedger.Json.Draft
import PrepaidLedger.Vocabulary

/-!
Reading typed data out of a draft. A structure is an object, whose unknown members do not matter, or
an array of its fields in declaration order. Nothing is converted: text is not a number and a float
is not a whole number.
-/
namespace PrepaidLedger.Json.Draft

inductive Presence
  | required
  /-- May be absent from an object, and null anywhere. -/
  | optional
  /-- May be absent from an object and from the end of an array. -/
  | defaulted
deriving DecidableEq, Repr

structure Field where
  name : String
  presence : Presence
deriving DecidableEq, Repr

def required (name : String) : Field := ⟨name, .required⟩
def optional (name : String) : Field := ⟨name, .optional⟩
def defaulted (name : String) : Field := ⟨name, .defaulted⟩

def memberOf? (members : List (Option String × Draft)) (f : Field) : Option (Option Draft) :=
  match members.filter (·.1 = some f.name) with
  | [] => if f.presence = .required then none else some none
  | [(_, d)] => some (some d)
  | _ => none

def fieldsOfItems? : List Field → List Draft → Option (List (Option Draft))
  | [], [] => some []
  | [], _ :: _ => none
  | f :: fs, [] =>
    if f.presence = .defaulted then (fieldsOfItems? fs []).map (none :: ·) else none
  | _ :: fs, d :: ds => (fieldsOfItems? fs ds).map (some d :: ·)

def fields? (fields : List Field) : Draft → Option (List (Option Draft))
  | .array items => fieldsOfItems? fields items
  | .object members =>
    if members.any (·.1.isNone) then none else fields.mapM (memberOf? members)
  | _ => none

/-! ## Fields -/

def text? : Draft → Option String
  | .string s => s
  | _ => none

def int64? : Draft → Option Int
  | .number (some n) => n.toInt64?
  | _ => none

def float? : Draft → Option Binary64
  | .number (some n) => some n.toBinary64
  | _ => none

/-- A word of a vocabulary, also as the name of an object's only member, which is null. -/
def word? {α : Type} [Vocabulary α] : Draft → Option α
  | .string (some s) => Vocabulary.ofWord? s
  | .object [(some name, .null)] => Vocabulary.ofWord? name
  | _ => none

def maybe? {α : Type} (read : Draft → Option α) : Option Draft → Option (Option α)
  | none => some none
  | some .null => some none
  | some d => (read d).map some

def orDefault? {α : Type} (default : α) (read : Draft → Option α) : Option Draft → Option α
  | none => some default
  | some d => read d

def present? {α : Type} (read : Draft → Option α) (d : Option Draft) : Option α := d.bind read

end PrepaidLedger.Json.Draft
