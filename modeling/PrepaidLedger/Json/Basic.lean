import PrepaidLedger.Number.Binary64

/-!
JSON values. Whole numbers of 64 bits stay exact, every other number is binary floating point. An
object lists its members in order and holds each name once.
-/
namespace PrepaidLedger

inductive Json.Number
  | int (n : Int)
  | float (x : Binary64)
deriving DecidableEq, Repr

inductive Json
  | null
  | bool (b : Bool)
  | number (n : Json.Number)
  | string (s : String)
  | array (items : List Json)
  | object (members : List (String × Json))
deriving Repr

namespace Json

def Number.toBinary64 : Number → Binary64
  | .int n => .ofInt n
  | .float x => x

def minInt64 : Int := -9223372036854775808
def maxInt64 : Int := 9223372036854775807

def Number.toInt64? : Number → Option Int
  | .int n => if minInt64 ≤ n ∧ n ≤ maxInt64 then some n else none
  | .float _ => none

/-- A later value for a name takes the earlier one's place. -/
def setMember (name : String) (value : Json) : List (String × Json) → List (String × Json)
  | [] => [(name, value)]
  | m :: rest => if m.1 = name then (name, value) :: rest else m :: setMember name value rest

def ofMembers (members : List (String × Json)) : Json :=
  .object (members.foldl (fun ms m => setMember m.1 m.2 ms) [])

def get? (name : String) : Json → Option Json
  | .object ms => (ms.find? (·.1 = name)).map (·.2)
  | _ => none

def isNull : Json → Bool
  | .null => true
  | _ => false

def string? : Json → Option String
  | .string s => some s
  | _ => none

instance : Coe String Json := ⟨.string⟩
instance : Coe Bool Json := ⟨.bool⟩
instance : Coe Int Json := ⟨fun n => .number (.int n)⟩

def ofOption {α : Type} (f : α → Json) : Option α → Json
  | some a => f a
  | none => .null

def int (n : Int) : Json := .number (.int n)

/-! ## The order of members

The order in which members were written means nothing. Two values are the same if they are so once
all members are sorted by their names. -/

mutual

def sorted : Json → Json
  | .array items => .array (sortedItems items)
  | .object members => .object ((sortedMembers members).mergeSort fun m m' => m.1 ≤ m'.1)
  | v => v

def sortedItems : List Json → List Json
  | [] => []
  | v :: vs => v.sorted :: sortedItems vs

def sortedMembers : List (String × Json) → List (String × Json)
  | [] => []
  | (name, v) :: ms => (name, v.sorted) :: sortedMembers ms

end

end Json
end PrepaidLedger
