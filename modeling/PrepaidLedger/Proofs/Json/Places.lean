import Mathlib.Data.List.Basic
import PrepaidLedger.Json.Basic

/-! Places in a value. A place is reached from the top step by step; a value is determined by what
stands at its places. -/

namespace PrepaidLedger.Json

inductive Step
  | item (i : Nat)
  | member (i : Nat) (name : String)
deriving DecidableEq, Repr

inductive Node
  | null
  | bool (b : Bool)
  | number (n : Number)
  | text (s : String)
  | array (length : Nat)
  | object (names : List String)
deriving DecidableEq, Repr

def node : Json → Node
  | .null => .null
  | .bool b => .bool b
  | .number n => .number n
  | .string s => .text s
  | .array items => .array items.length
  | .object members => .object (members.map (·.1))

def valueAt? : List Step → Json → Option Json
  | [], v => some v
  | .item i :: path, .array items => items[i]?.bind (valueAt? path)
  | .member i name :: path, .object members =>
    members[i]?.bind fun m => if m.1 = name then valueAt? path m.2 else none
  | _ :: _, _ => none

def nodeAt? (path : List Step) (v : Json) : Option Node := (valueAt? path v).map node

theorem nodeAt?_item {items : List Json} {i : Nat} (hi : i < items.length) (path : List Step) :
    nodeAt? (.item i :: path) (.array items) = nodeAt? path items[i] := by
  simp [nodeAt?, valueAt?, hi]

theorem nodeAt?_member {members : List (String × Json)} {i : Nat} (hi : i < members.length)
    (path : List Step) :
    nodeAt? (.member i members[i].1 :: path) (.object members) = nodeAt? path members[i].2 := by
  simp [nodeAt?, valueAt?, hi]

theorem eq_of_nodeAt? (v w : Json) (h : ∀ path, nodeAt? path v = nodeAt? path w) : v = w := by
  have hroot : v.node = w.node := Option.some.inj (h [])
  match v, w, hroot with
  | .null, .null, _ => rfl
  | .bool _, .bool _, hroot => cases hroot; rfl
  | .number _, .number _, hroot => cases hroot; rfl
  | .string _, .string _, hroot => cases hroot; rfl
  | .array items, .array items', hroot =>
    have hlength : items.length = items'.length := Node.array.inj hroot
    refine congrArg array (List.ext_getElem hlength fun i hi hi' => ?_)
    refine eq_of_nodeAt? items[i] items'[i] fun path => ?_
    rw [← nodeAt?_item hi, ← nodeAt?_item hi', h]
  | .object members, .object members', hroot =>
    have hnames : members.map (·.1) = members'.map (·.1) := Node.object.inj hroot
    have hlength : members.length = members'.length := by simpa using congrArg List.length hnames
    refine congrArg object (List.ext_getElem hlength fun i hi hi' => ?_)
    have hname : members[i].1 = members'[i].1 := by
      simpa [hi, hi'] using congrArg (·[i]?) hnames
    refine Prod.ext hname (eq_of_nodeAt? members[i].2 members'[i].2 fun path => ?_)
    rw [← nodeAt?_member hi, ← nodeAt?_member hi', h, hname]
termination_by sizeOf v
decreasing_by
  · have hlt := List.sizeOf_lt_of_mem (List.getElem_mem hi)
    simp only [array.sizeOf_spec]
    omega
  · have hlt := List.sizeOf_lt_of_mem (List.getElem_mem hi)
    have hvalue : sizeOf members[i].2 < sizeOf members[i] := by
      rcases members[i] with ⟨name, v⟩
      simp only [Prod.mk.sizeOf_spec]
      omega
    simp only [object.sizeOf_spec]
    omega

end PrepaidLedger.Json
