import PrepaidLedger.Json.Basic
import PrepaidLedger.Uuid
import PrepaidLedger.Vocabulary

/-!
Reading the members of an object by name. A member that is null is as good as absent, and a
complaint is the name of the first field that is missing or of another kind.
-/
namespace PrepaidLedger.Json

abbrev Read (α : Type) := Except String α

class Readable (α : Type) where
  read? : Json → Option α

instance : Readable Json where
  read? := some

instance : Readable String where
  read? := string?

def int? : Json → Option Int
  | .number (.int n) => some n
  | _ => none

instance : Readable Int where
  read? := int?

def nat? (j : Json) : Option Nat := j.int?.bind Int.toNat?

instance : Readable Nat where
  read? := nat?

def bool? : Json → Option Bool
  | .bool b => some b
  | _ => none

instance : Readable Bool where
  read? := bool?

instance : Readable Uuid where
  read? j := j.string?.bind Uuid.ofText?

instance {α : Type} [Vocabulary α] : Readable α where
  read? j := j.string?.bind Vocabulary.ofWord?

def list? {α : Type} [Readable α] : Json → Option (List α)
  | .array items => items.mapM Readable.read?
  | _ => none

instance {α : Type} [Readable α] : Readable (List α) where
  read? := list?

/-! ## Fields -/

def member? (j : Json) (name : String) : Option Json :=
  match j.get? name with
  | some .null => none
  | m => m

def require (name : String) {α : Type} : Option α → Read α
  | some a => .ok a
  | none => .error name

variable {α : Type} [Readable α]

def field (j : Json) (name : String) : Read α :=
  require name ((j.member? name).bind Readable.read?)

def field? (j : Json) (name : String) : Read (Option α) :=
  match j.member? name with
  | none => .ok none
  | some m => (require name (Readable.read? m)).map some

def fieldD (j : Json) (name : String) (default : α) : Read α := do
  return (← j.field? name).getD default

end PrepaidLedger.Json
