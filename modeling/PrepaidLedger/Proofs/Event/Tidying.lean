import Mathlib.Data.Option.Defs
import PrepaidLedger.Event.Envelope
import PrepaidLedger.Proofs.Json.Places
import PrepaidLedger.Proofs.Text.Trimming

/-! The clean-up of a body, place by place. Texts at or under a personal name are trimmed, or null
if they are blank; everything else stays where and as it is. Nothing but the tidied body is so
described, and there is nothing to tidy in it a second time. -/

namespace PrepaidLedger

open Json

/-! ## Places of personal data -/

def IsPersonal (path : List Step) : Prop :=
  ∃ i name, Step.member i name ∈ path ∧
    ("merchant".toList <+: name.toList ∨ "user".toList <+: name.toList)

def entersPersonal : Step → Bool
  | .item _ => false
  | .member _ name => isPersonalName name

theorem any_entersPersonal {path : List Step} :
    path.any entersPersonal = true ↔ IsPersonal path := by
  unfold IsPersonal
  rw [List.any_eq_true]
  constructor
  · rintro ⟨step, hmem, henters⟩
    cases step with
    | item i => cases henters
    | member i name =>
      refine ⟨i, name, hmem, ?_⟩
      simpa [entersPersonal, isPersonalName] using henters
  · rintro ⟨i, name, hmem, hname⟩
    exact ⟨_, hmem, by simpa [entersPersonal, isPersonalName] using hname⟩

/-! ## Values at their places -/

theorem tidyItems_eq_map (inside : Bool) (items : List Json) :
    tidyItems inside items = items.map (tidy inside) := by
  induction items with
  | nil => rfl
  | cons v vs ih => rw [tidyItems, ih, List.map_cons]

theorem tidyMembers_eq_map (inside : Bool) (members : List (String × Json)) :
    tidyMembers inside members =
      members.map fun m => (m.1, tidy (inside || isPersonalName m.1) m.2) := by
  induction members with
  | nil => rfl
  | cons m ms ih => rw [tidyMembers, ih, List.map_cons]

theorem valueAt?_tidy (inside : Bool) (path : List Step) (v : Json) :
    valueAt? path (tidy inside v) =
      (valueAt? path v).map (tidy (inside || path.any entersPersonal)) := by
  induction path generalizing inside v with
  | nil => simp [valueAt?]
  | cons step path ih =>
    cases v with
    | array items =>
      cases step with
      | item i =>
        rw [tidy, tidyItems_eq_map]
        cases h : items[i]? <;> simp [valueAt?, h, ih, entersPersonal]
      | member i name => rw [tidy]; rfl
    | object members =>
      cases step with
      | item i => rw [tidy]; rfl
      | member i name =>
        rw [tidy, tidyMembers_eq_map]
        cases h : members[i]? with
        | none => simp [valueAt?, h]
        | some m =>
          by_cases hname : m.1 = name <;>
            simp [valueAt?, h, ih, entersPersonal, hname, Bool.or_assoc]
    | string s =>
      have hleaf : valueAt? (step :: path) (tidy inside (.string s)) = none := by
        unfold tidy tidyText
        split
        · split <;> cases step <;> rfl
        · cases step <;> rfl
      rw [hleaf]
      cases step <;> rfl
    | _ => cases step <;> rfl

/-! ## Nodes -/

/-- What comes of a node: only texts change, and only where the data are personal. -/
inductive Becomes (personal : Prop) : Node → Node → Prop
  | other {n : Node} (h : ∀ s, n ≠ .text s) : Becomes personal n n
  | outside {s : String} (h : ¬ personal) : Becomes personal (.text s) (.text s)
  | blank {s : String} (h : personal) (hs : ∀ c ∈ s.toList, Text.isBlank c) :
    Becomes personal (.text s) .null
  | trimmed {s t : String} (h : personal) (hs : ¬ ∀ c ∈ s.toList, Text.isBlank c)
    (ht : Text.TrimsTo s t) : Becomes personal (.text s) (.text t)

variable {personal : Prop} {n m m' : Node}

theorem Becomes.unique (h : Becomes personal n m) (h' : Becomes personal n m') : m = m' := by
  cases h with
  | other hn =>
    cases h' with
    | other => rfl
    | outside | blank | trimmed => exact absurd rfl (hn _)
  | outside hout =>
    cases h' with
    | other => rfl
    | outside => rfl
    | blank hin | trimmed hin => exact absurd hin hout
  | blank hin hblank =>
    cases h' with
    | other hn => exact absurd rfl (hn _)
    | outside hout => exact absurd hin hout
    | blank => rfl
    | trimmed _ hs => exact absurd hblank hs
  | trimmed hin hs ht =>
    cases h' with
    | other hn => exact absurd rfl (hn _)
    | outside hout => exact absurd hin hout
    | blank _ hblank => exact absurd hblank hs
    | trimmed _ _ ht' =>
      have hsame := (Text.trimsTo_iff.mp ht).symm.trans (Text.trimsTo_iff.mp ht')
      rw [String.toList_inj.mp hsame]

theorem Becomes.again (h : Becomes personal n m) : Becomes personal m m := by
  cases h with
  | other hn => exact .other hn
  | outside hout => exact .outside hout
  | blank => exact .other fun s => Node.noConfusion
  | trimmed hin hs ht => exact .trimmed hin (fun hblank => hs (ht.blank_iff.mp hblank)) ht.self

theorem becomes_tidyText (h : personal) (s : String) :
    Becomes personal (.text s) (tidyText s).node := by
  unfold tidyText
  split
  next hnil => exact .blank h (Text.trimChars_eq_nil.mp hnil)
  next hne =>
    have hlist : (String.ofList (Text.trimChars s.toList)).toList = Text.trimChars s.toList :=
      String.toList_ofList
    exact .trimmed h (fun hblank => hne (Text.trimChars_eq_nil.mpr hblank))
      (Text.trimsTo_iff.mpr hlist.symm)

theorem becomes_tidy (inside : Bool) (v : Json) :
    Becomes (inside = true) v.node (tidy inside v).node := by
  cases v with
  | string s =>
    cases inside with
    | true => exact becomes_tidyText rfl s
    | false => exact .outside Bool.false_ne_true
  | array items =>
    have hsame : (tidy inside (.array items)).node = (Json.array items).node := by
      rw [tidy, tidyItems_eq_map, node, node, List.length_map]
    rw [hsame]
    exact .other fun s => Node.noConfusion
  | object members =>
    have hsame : (tidy inside (.object members)).node = (Json.object members).node := by
      rw [tidy, tidyMembers_eq_map, node, node, List.map_map]
      rfl
    rw [hsame]
    exact .other fun s => Node.noConfusion
  | _ => exact .other fun s => Node.noConfusion

theorem rel_nodeAt?_normalizeBody (v : Json) (path : List Step) :
    Option.Rel (Becomes (IsPersonal path)) (nodeAt? path v) (nodeAt? path (normalizeBody v)) := by
  unfold nodeAt? normalizeBody
  rw [valueAt?_tidy, Bool.false_or, ← any_entersPersonal]
  cases valueAt? path v with
  | none => exact .none
  | some w => exact .some (becomes_tidy _ w)

theorem Becomes.unique_rel {a b b' : Option Node} (h : Option.Rel (Becomes personal) a b)
    (h' : Option.Rel (Becomes personal) a b') : b = b' := by
  cases h with
  | some hb =>
    cases h' with
    | some hb' => rw [hb.unique hb']
  | none =>
    cases h' with
    | none => rfl

theorem Becomes.again_rel {a b : Option Node} (h : Option.Rel (Becomes personal) a b) :
    Option.Rel (Becomes personal) b b := by
  cases h with
  | some hb => exact .some hb.again
  | none => exact .none

theorem eq_normalizeBody_iff {v w : Json} :
    w = normalizeBody v ↔
      ∀ path, Option.Rel (Becomes (IsPersonal path)) (nodeAt? path v) (nodeAt? path w) := by
  constructor
  · rintro rfl
    exact rel_nodeAt?_normalizeBody v
  · intro h
    exact eq_of_nodeAt? _ _ fun path => Becomes.unique_rel (h path) (rel_nodeAt?_normalizeBody v path)

/-- The tidied body is the one value whose every node is what becomes of the node in its place, and
tidying it leaves it as it is. -/
theorem body_tidied_by_places (v : Json) :
    (∀ w, w = normalizeBody v ↔
      ∀ path, Option.Rel (Becomes (IsPersonal path)) (nodeAt? path v) (nodeAt? path w)) ∧
    normalizeBody (normalizeBody v) = normalizeBody v :=
  ⟨fun _ => eq_normalizeBody_iff,
    (eq_normalizeBody_iff.mpr fun path => Becomes.again_rel (rel_nodeAt?_normalizeBody v path)).symm⟩

example : normalizeBody (.object [("id", .string " tx_1 "), ("merchants",
      .array [.string " Coffee Shop\n", .object [("city", .string " ")]])]) =
    .object [("id", .string " tx_1 "), ("merchants",
      .array [.string "Coffee Shop", .object [("city", .null)]])] := by rfl

end PrepaidLedger
