import PrepaidLedger.Proofs.Sql.Changes
import PrepaidLedger.Proofs.Store.View

/-! A database and a store in memory that hold the same ledger: whatever the one finds by an
identity converts to what the other finds by it. Times are each side's own, and so are the
identities of lines and entries. An edit of what is found on both sides, and an addition, leave them
the same. -/

namespace PrepaidLedger

/-! ## What both sides know -/

def Card.bare (c : Card) : Card := { c with createdAt := ⟨0⟩, updatedAt := ⟨0⟩ }

def CardUser.bare (u : CardUser) : CardUser := { u with createdAt := ⟨0⟩, updatedAt := ⟨0⟩ }

def Line.bare (l : Line) : Line :=
  { l with id := .assigned .nil, createdAt := ⟨0⟩, updatedAt := ⟨0⟩ }

def Entry.bare (e : Entry) : Entry :=
  { e with id := .assigned .nil, createdAt := ⟨0⟩, updatedAt := ⟨0⟩ }

namespace Sql

/-! ## One table -/

section Shows

variable {α : Type}

def Shows (ofRow : Row → Except StoreError α) (bare : α → α) (rows : List Row)
    (look : Uuid → Option α) : Prop :=
  ∀ id, Option.Rel (fun r a => ∃ b, ofRow r = .ok b ∧ bare b = bare a)
    (rows.find? (Row.hasId id)) (look id)

variable {ofRow : Row → Except StoreError α} {bare : α → α} {rows : List Row}
  {look : Uuid → Option α}

theorem Shows.find?_eq_none (h : Shows ofRow bare rows look) {id : Uuid} (hnone : look id = none) :
    rows.find? (Row.hasId id) = none := by
  have hat := h id
  rw [hnone] at hat
  cases hrow : rows.find? (Row.hasId id) with
  | none => rfl
  | some r =>
    rw [hrow] at hat
    cases hat

theorem Shows.find?_eq_some (h : Shows ofRow bare rows look) {id : Uuid} {a : α}
    (hsome : look id = some a) :
    ∃ r b, rows.find? (Row.hasId id) = some r ∧ ofRow r = .ok b ∧ bare b = bare a := by
  have hat := h id
  rw [hsome] at hat
  cases hrow : rows.find? (Row.hasId id) with
  | none =>
    rw [hrow] at hat
    cases hat
  | some r =>
    rw [hrow] at hat
    cases hat with
    | some hr =>
      obtain ⟨b, hb, hbare⟩ := hr
      exact ⟨r, b, rfl, hb, hbare⟩

theorem first?_eq (ofRow : Row → Except StoreError α) (rows : List Row) :
    first? ofRow rows = match rows.head? with
      | none => .ok none
      | some r => (ofRow r).map some := by
  cases rows <;> rfl

theorem hasId_unique {r : Row} {id id' : Uuid} (h : r.hasId id = true) (h' : r.hasId id' = true) :
    id' = id :=
  Option.some.inj ((of_decide_eq_true h').symm.trans (of_decide_eq_true h))

theorem Shows.update (h : Shows ofRow bare rows look) {change : Row → Row} {id : Uuid}
    {edit edit' : α → α} (hid : ∀ r id', (change r).hasId id' = r.hasId id')
    (hrow : ∀ r b a, look id = some a → bare b = bare a → ofRow r = .ok b →
      ofRow (change r) = .ok (edit b))
    (hedit : ∀ b a, bare b = bare a → bare (edit b) = bare (edit' a)) :
    (∃ found, first? ofRow (updateRows change id rows).1 = .ok found ∧
      found.map bare = ((look id).map edit').map bare) ∧
    Shows ofRow bare (updateRows change id rows).2
      (Function.update look id ((look id).map edit')) := by
  -- Nothing is found before an update by another identity that is not found after it.
  constructor
  · -- The row that is returned is the row that is found by the identity.
    rw [first?_eq, head?_updateRows]
    cases hlook : look id with
    | none =>
      rw [h.find?_eq_none hlook]
      exact ⟨none, rfl, rfl⟩
    | some a =>
      obtain ⟨r, b, hfind, hb, hbare⟩ := h.find?_eq_some hlook
      have hafter : ofRow (change r) = .ok (edit b) := hrow r b a hlook hbare hb
      rw [hfind, Option.map_some]
      dsimp only
      rw [hafter]
      exact ⟨some (edit b), rfl, congrArg some (hedit b a hbare)⟩
  · -- The change keeps identities, so what was found is found again.
    intro id'
    rw [find?_updateRows id' fun r _ => hid r]
    cases hlook : look id' with
    | none =>
      have hafter : Function.update look id ((look id).map edit') id' = none := by
        by_cases hsame : id' = id
        · rw [hsame, Function.update_self, ← hsame, hlook, Option.map_none]
        · rw [Function.update_of_ne hsame, hlook]
      rw [h.find?_eq_none hlook, hafter]
      exact .none
    | some a =>
      obtain ⟨r, b, hfind, hb, hbare⟩ := h.find?_eq_some hlook
      have hhas : r.hasId id' = true := List.find?_some hfind
      rw [hfind, Option.map_some]
      by_cases hsame : id' = id
      · subst hsame
        rw [if_pos hhas, Function.update_self, hlook]
        exact .some ⟨edit b, hrow r b a hlook hbare hb, hedit b a hbare⟩
      · have hother : ¬ r.hasId id = true := fun hhas' => hsame (hasId_unique hhas' hhas)
        rw [if_neg hother, Function.update_of_ne hsame, hlook]
        exact .some ⟨b, hb, hbare⟩

theorem Shows.insert (h : Shows ofRow bare rows look) {row : Row} {fresh : Uuid} {b a : α}
    (hid : row.hasId fresh = true) (hrow : ofRow row = .ok b) (hbare : bare b = bare a)
    (hnew : rows.find? (Row.hasId fresh) = none) :
    Shows ofRow bare (rows ++ [row]) (Function.update look fresh (some a)) := by
  intro id
  rw [List.find?_append]
  by_cases hsame : id = fresh
  · subst hsame
    rw [Function.update_self, hnew, Option.none_or, List.find?_cons_of_pos hid]
    exact .some ⟨b, hrow, hbare⟩
  · have hother : ¬ row.hasId id = true := fun hhas => hsame (hasId_unique hid hhas)
    rw [Function.update_of_ne hsame, List.find?_cons_of_neg hother, List.find?_nil,
      Option.or_none]
    exact h id

end Shows

/-! ## One statement -/

section Statements

variable {α : Type} {ofRow : Row → Except StoreError α} {bare : α → α} {look : Uuid → Option α}
  {p : Prepared} {now : Timestamp} {fresh id : Uuid} {db : Database} {table : String} {t : Table}

theorem Prepared.write?_update {sets : List (String × Source)}
    (hp : p.statement = .update table sets) (ht : tableNamed? table = some t)
    (hid : parameter p.params 1 = text id.text) :
    p.write? now fresh db = some ((updateRows (p.change t now) id (db table)).1,
      Function.update db table (updateRows (p.change t now) id (db table)).2) := by
  have hread : Row.uuid? (parameter p.params 1) = some id := hid ▸ Row.uuid?_text id
  unfold write?
  rw [hp]
  dsimp only
  rw [ht, hread]
  rfl

theorem Prepared.write?_insert {columns : List String}
    (hp : p.statement = .insert table columns none) (ht : tableNamed? table = some t) :
    p.write? now fresh db = some ([p.newRow t now fresh],
      Function.update db table (db table ++ [p.newRow t now fresh])) := by
  unfold write?
  rw [hp]
  dsimp only
  rw [ht]
  rfl

theorem Shows.write?_update (h : Shows ofRow bare (db table) look) {sets : List (String × Source)}
    (hp : p.statement = .update table sets) (ht : tableNamed? table = some t)
    (hid : parameter p.params 1 = text id.text)
    (hkeep : ∀ r id', (p.change t now r).hasId id' = r.hasId id') {edit edit' : α → α}
    (hrow : ∀ r b a, look id = some a → bare b = bare a → ofRow r = .ok b →
      ofRow (p.change t now r) = .ok (edit b))
    (hedit : ∀ b a, bare b = bare a → bare (edit b) = bare (edit' a)) :
    ∃ rows after found, p.write? now fresh db = some (rows, Function.update db table after) ∧
      first? ofRow rows = .ok found ∧ found.map bare = ((look id).map edit').map bare ∧
      Shows ofRow bare after (Function.update look id ((look id).map edit')) := by
  obtain ⟨⟨found, hfound, hbare⟩, hafter⟩ := h.update hkeep hrow hedit
  exact ⟨_, _, found, Prepared.write?_update hp ht hid, hfound, hbare, hafter⟩

end Statements

/-! ## All tables -/

structure Naming where
  line : Uuid → RowId
  entry : Uuid → RowId

structure Mirrors (name : Naming) (db : Database) (v : View) : Prop where
  cards : Shows cardOfRow Card.bare (db Sql.cards) v.card
  cardUsers : Shows cardUserOfRow CardUser.bare (db Sql.cardUsers) v.cardUser
  lines : Shows lineOfRow Line.bare (db Sql.lines) (v.line ∘ name.line)
  journal : Shows entryOfRow Entry.bare (db Sql.journal) (v.entry ∘ name.entry)
  line_injective : Function.Injective name.line
  entry_injective : Function.Injective name.entry

namespace Mirrors

variable {name : Naming} {db : Database} {v : View} {rows : List Row}

theorem withCards (h : Mirrors name db v) {look : Uuid → Option Card}
    (hrows : Shows cardOfRow Card.bare rows look) :
    Mirrors name (Function.update db Sql.cards rows) { v with card := look } := by
  refine ⟨?_, ?_, ?_, ?_, h.line_injective, h.entry_injective⟩
  · rwa [Function.update_self]
  · rw [Function.update_of_ne (by decide)]
    exact h.cardUsers
  · rw [Function.update_of_ne (by decide)]
    exact h.lines
  · rw [Function.update_of_ne (by decide)]
    exact h.journal

theorem withCardUsers (h : Mirrors name db v) {look : Uuid → Option CardUser}
    (hrows : Shows cardUserOfRow CardUser.bare rows look) :
    Mirrors name (Function.update db Sql.cardUsers rows) { v with cardUser := look } := by
  refine ⟨?_, ?_, ?_, ?_, h.line_injective, h.entry_injective⟩
  · rw [Function.update_of_ne (by decide)]
    exact h.cards
  · rwa [Function.update_self]
  · rw [Function.update_of_ne (by decide)]
    exact h.lines
  · rw [Function.update_of_ne (by decide)]
    exact h.journal

theorem withLines (h : Mirrors name db v) {label : Uuid → RowId} {look : RowId → Option Line}
    (hlabel : Function.Injective label)
    (hrows : Shows lineOfRow Line.bare rows (look ∘ label)) :
    Mirrors { name with line := label } (Function.update db Sql.lines rows)
      { v with line := look } := by
  refine ⟨?_, ?_, ?_, ?_, hlabel, h.entry_injective⟩
  · rw [Function.update_of_ne (by decide)]
    exact h.cards
  · rw [Function.update_of_ne (by decide)]
    exact h.cardUsers
  · rwa [Function.update_self]
  · rw [Function.update_of_ne (by decide)]
    exact h.journal

theorem withJournal (h : Mirrors name db v) {label : Uuid → RowId} {look : RowId → Option Entry}
    (hlabel : Function.Injective label)
    (hrows : Shows entryOfRow Entry.bare rows (look ∘ label)) :
    Mirrors { name with entry := label } (Function.update db Sql.journal rows)
      { v with entry := look } := by
  refine ⟨?_, ?_, ?_, ?_, h.line_injective, hlabel⟩
  · rw [Function.update_of_ne (by decide)]
    exact h.cards
  · rw [Function.update_of_ne (by decide)]
    exact h.cardUsers
  · rw [Function.update_of_ne (by decide)]
    exact h.lines
  · rwa [Function.update_self]

end Mirrors

/-! ## New identities -/

section Naming

variable {β κ : Type} {label : Uuid → κ} {fresh : Uuid} {new : κ}

theorem injective_update (h : Function.Injective label) (hnew : ∀ id, label id ≠ new) :
    Function.Injective (Function.update label fresh new) := by
  intro a b hab
  by_cases ha : a = fresh <;> by_cases hb : b = fresh
  · exact ha.trans hb.symm
  · rw [ha, Function.update_self, Function.update_of_ne hb] at hab
    exact absurd hab.symm (hnew b)
  · rw [hb, Function.update_self, Function.update_of_ne ha] at hab
    exact absurd hab (hnew a)
  · rw [Function.update_of_ne ha, Function.update_of_ne hb] at hab
    exact h hab

theorem update_comp_update [DecidableEq κ] (look : κ → β) (hnew : ∀ id, label id ≠ new)
    (b : β) :
    Function.update look new b ∘ Function.update label fresh new =
      Function.update (look ∘ label) fresh b := by
  funext id
  rw [Function.comp_apply]
  by_cases hid : id = fresh
  · rw [hid, Function.update_self, Function.update_self, Function.update_self]
  · rw [Function.update_of_ne hid, Function.update_of_ne hid, Function.update_of_ne (hnew id)]
    rfl

end Naming

end Sql
end PrepaidLedger
