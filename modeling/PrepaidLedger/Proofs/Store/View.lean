import PrepaidLedger.Proofs.Engine.Transaction

/-! What the store in memory finds by identities, and what becomes of it when a record is written:
the record is found as it was edited, and every other as before. -/

namespace PrepaidLedger

structure View where
  card : Uuid → Option Card
  cardUser : Uuid → Option CardUser
  line : RowId → Option Line
  entry : RowId → Option Entry

namespace View

def editCard (v : View) (id : Uuid) (edit : Card → Card) : View :=
  { v with card := Function.update v.card id ((v.card id).map edit) }

def editCardUser (v : View) (id : Uuid) (edit : CardUser → CardUser) : View :=
  { v with cardUser := Function.update v.cardUser id ((v.cardUser id).map edit) }

def editLine (v : View) (id : RowId) (edit : Line → Line) : View :=
  { v with line := Function.update v.line id ((v.line id).map edit) }

def editEntry (v : View) (id : RowId) (edit : Entry → Entry) : View :=
  { v with entry := Function.update v.entry id ((v.entry id).map edit) }

def addLine (v : View) (l : Line) : View :=
  { v with line := Function.update v.line l.id (some l) }

def addEntry (v : View) (e : Entry) : View :=
  { v with entry := Function.update v.entry e.id (some e) }

end View

section Finding

variable {α κ : Type} [DecidableEq κ] {key : α → κ}

theorem key_of_found {k : κ} {rows rows' : List α} {row : α}
    (h : (rowOf? key k rows <|> rowOf? key k rows') = some row) : key row = k := by
  cases hfirst : rowOf? key k rows with
  | some r =>
    rw [hfirst] at h
    exact key_of_rowOf? (hfirst.trans h)
  | none =>
    rw [hfirst] at h
    exact key_of_rowOf? h

theorem rowOf?_putRow_eq_update (row : α) (rows : List α) :
    (fun k => rowOf? key k (putRow key row rows)) =
      Function.update (fun k => rowOf? key k rows) (key row) (some row) := by
  funext k
  rw [rowOf?_putRow]
  by_cases h : k = key row
  · rw [h, Function.update_self, if_pos rfl]
  · rw [Function.update_of_ne h, if_neg (Ne.symm h)]

theorem rowOf?_putRow_or (row : α) (rows : List α) (elsewhere : κ → Option α) :
    (fun k => rowOf? key k (putRow key row rows) <|> elsewhere k) =
      Function.update (fun k => rowOf? key k rows <|> elsewhere k) (key row) (some row) := by
  funext k
  rw [rowOf?_putRow]
  by_cases h : k = key row
  · rw [h, Function.update_self, if_pos rfl]
    rfl
  · rw [Function.update_of_ne h, if_neg (Ne.symm h)]

theorem update_none {look : κ → Option α} {k : κ} (h : look k = none) :
    Function.update look k none = look := by
  rw [← h, Function.update_eq_self]

end Finding

namespace Memory

def view (m : Memory) : View :=
  ⟨m.pending.card? m.tables, m.pending.cardUser? m.tables, m.pending.line? m.tables,
    m.pending.entry? m.tables⟩

/-! ## Within a transaction -/

section Writing

variable {m : Memory} {id : Uuid} {label : RowId}

theorem view_putCard {c : Card} (h : c.id = id) :
    ({ m with pending := m.pending.withCard c } : Memory).view =
      { m.view with card := Function.update m.view.card id (some c) } :=
  h ▸ congrArg (fun look => { m.view with card := look }) (rowOf?_putRow_or c _ m.tables.card?)

theorem view_putCardUser {u : CardUser} (h : u.id = id) :
    ({ m with pending := m.pending.withCardUser u } : Memory).view =
      { m.view with cardUser := Function.update m.view.cardUser id (some u) } :=
  h ▸ congrArg (fun look => { m.view with cardUser := look })
    (rowOf?_putRow_or u _ m.tables.cardUser?)

theorem view_putLine {l : Line} (h : l.id = label) :
    ({ m with pending := m.pending.putLine l } : Memory).view =
      { m.view with line := Function.update m.view.line label (some l) } :=
  h ▸ congrArg (fun look => { m.view with line := look }) (rowOf?_putRow_or l _ m.tables.line?)

theorem view_putEntry {e : Entry} (h : e.id = label) :
    ({ m with pending := m.pending.putEntry e } : Memory).view =
      { m.view with entry := Function.update m.view.entry label (some e) } :=
  h ▸ congrArg (fun look => { m.view with entry := look }) (rowOf?_putRow_or e _ m.tables.entry?)

theorem view_writeCard (m : Memory) (id : Uuid) (change : Card → Card)
    (hid : ∀ c, (change c).id = c.id) :
    (m.pending.writeCard m.tables id change).1 =
        (m.view.card id).map (fun c => { change c with updatedAt := m.tables.now }) ∧
      ({ m with pending := (m.pending.writeCard m.tables id change).2 } : Memory).view =
        m.view.editCard id fun c => { change c with updatedAt := m.tables.now } := by
  unfold View.editCard
  -- Where nothing is found nothing is written.
  cases h : m.view.card id with
  | none =>
    rw [Pending.writeCard, show m.pending.card? m.tables id = none from h, Option.map_none,
      update_none h]
    exact ⟨rfl, rfl⟩
  | some c =>
    rw [Pending.writeCard_eq h]
    exact ⟨rfl, view_putCard ((hid c).trans (key_of_found h))⟩

theorem view_writeCardUser (m : Memory) (id : Uuid) (change : CardUser → CardUser)
    (hid : ∀ u, (change u).id = u.id) :
    (m.pending.writeCardUser m.tables id change).1 =
        (m.view.cardUser id).map (fun u => { change u with updatedAt := m.tables.now }) ∧
      ({ m with pending := (m.pending.writeCardUser m.tables id change).2 } : Memory).view =
        m.view.editCardUser id fun u => { change u with updatedAt := m.tables.now } := by
  unfold View.editCardUser
  cases h : m.view.cardUser id with
  | none =>
    rw [Pending.writeCardUser, show m.pending.cardUser? m.tables id = none from h,
      Option.map_none, update_none h]
    exact ⟨rfl, rfl⟩
  | some u =>
    rw [Pending.writeCardUser, show m.pending.cardUser? m.tables id = some u from h]
    exact ⟨rfl, view_putCardUser ((hid u).trans (key_of_found h))⟩

theorem view_patchLine (m : Memory) (label : RowId) (p : LinePatch) :
    (m.pending.call m.tables (.patchLine label p)).1 =
        .ok ((m.view.line label).map fun l => { p.apply l with updatedAt := m.tables.now }) ∧
      ({ m with pending := (m.pending.call m.tables (.patchLine label p)).2 } : Memory).view =
        m.view.editLine label fun l => { p.apply l with updatedAt := m.tables.now } := by
  unfold View.editLine
  cases h : m.view.line label with
  | none =>
    rw [Pending.call, show m.pending.line? m.tables label = none from h, Option.map_none,
      update_none h]
    exact ⟨rfl, rfl⟩
  | some l =>
    have hid : l.id = label := key_of_found h
    rw [Pending.call, show m.pending.line? m.tables label = some l from h]
    exact ⟨rfl, view_putLine hid⟩

theorem view_patchEntry (m : Memory) (label : RowId) (p : EntryPatch) :
    (m.pending.call m.tables (.patchEntry label p)).1 =
        .ok ((m.view.entry label).map fun e => { p.apply e with updatedAt := m.tables.now }) ∧
      ({ m with pending := (m.pending.call m.tables (.patchEntry label p)).2 } : Memory).view =
        m.view.editEntry label fun e => { p.apply e with updatedAt := m.tables.now } := by
  unfold View.editEntry
  cases h : m.view.entry label with
  | none =>
    rw [Pending.call, show m.pending.entry? m.tables label = none from h, Option.map_none,
      update_none h]
    exact ⟨rfl, rfl⟩
  | some e =>
    have hid : e.id = label := key_of_found h
    rw [Pending.call, show m.pending.entry? m.tables label = some e from h]
    exact ⟨rfl, view_putEntry hid⟩

theorem view_createLine (m : Memory) {n : NewLine}
    (hnew : m.pending.lineByRef? m.tables n.reference = none) :
    (m.pending.call m.tables (.createLine n)).1 =
        .ok (n.toLine m.pending.freshId m.tables.now) ∧
      ({ m with pending := (m.pending.call m.tables (.createLine n)).2 } : Memory).view =
        m.view.addLine (n.toLine m.pending.freshId m.tables.now) := by
  rw [Pending.call, hnew]
  exact ⟨rfl, view_putLine rfl⟩

theorem view_createEntry (m : Memory) (n : NewEntry) :
    (m.pending.call m.tables (.createEntry n)).1 =
        .ok (n.toEntry m.pending.freshId m.tables.now) ∧
      ({ m with pending := (m.pending.call m.tables (.createEntry n)).2 } : Memory).view =
        m.view.addEntry (n.toEntry m.pending.freshId m.tables.now) :=
  ⟨rfl, view_putEntry rfl⟩

end Writing

/-! ## Standing alone -/

section Alone

variable (t : Tables) (batch : Nat)

theorem view_alone :
    (Memory.mk t (.empty batch)).view = ⟨t.card?, t.cardUser?, t.line?, t.entry?⟩ := rfl

theorem view_patchCard (id : Uuid) (p : CardPatch) :
    (t.call (.patchCard id p)).1 =
        (t.card? id).map (fun c => { p.apply c with updatedAt := t.now }) ∧
      (Memory.mk (t.call (.patchCard id p)).2 (.empty batch)).view =
        (Memory.mk t (.empty batch)).view.editCard id
          fun c => { p.apply c with updatedAt := t.now } := by
  unfold View.editCard
  rw [view_alone, view_alone]
  dsimp only
  cases h : t.card? id with
  | none =>
    rw [Tables.call, h, Option.map_none, update_none h]
    exact ⟨rfl, rfl⟩
  | some c =>
    have hid : c.id = id := key_of_rowOf? h
    subst hid
    rw [Tables.call, h]
    exact ⟨rfl, congrArg (fun look => View.mk look _ _ _) (rowOf?_putRow_eq_update _ t.cards)⟩

theorem view_setCardUserStatus (id : Uuid) (status : String) :
    (t.call (.setCardUserStatus id status)).1 =
        (t.cardUser? id).map (fun u => { u with status := status, updatedAt := t.now }) ∧
      (Memory.mk (t.call (.setCardUserStatus id status)).2 (.empty batch)).view =
        (Memory.mk t (.empty batch)).view.editCardUser id
          fun u => { u with status := status, updatedAt := t.now } := by
  unfold View.editCardUser
  rw [view_alone, view_alone]
  dsimp only
  cases h : t.cardUser? id with
  | none =>
    rw [Tables.call, h, Option.map_none, update_none h]
    exact ⟨rfl, rfl⟩
  | some u =>
    have hid : u.id = id := key_of_rowOf? h
    subst hid
    rw [Tables.call, h]
    exact ⟨rfl, congrArg (fun look => View.mk _ look _ _) (rowOf?_putRow_eq_update _ t.cardUsers)⟩

theorem view_settleFee (label : RowId) (chargeRef : Option String) :
    (t.call (.settleFee label chargeRef)).1 =
        (t.line? label).map (fun l => { l with
          feeSettled := true, feeChargeRef := chargeRef <|> l.feeChargeRef, updatedAt := t.now }) ∧
      (Memory.mk (t.call (.settleFee label chargeRef)).2 (.empty batch)).view =
        (Memory.mk t (.empty batch)).view.editLine label fun l => { l with
          feeSettled := true
          feeChargeRef := chargeRef <|> l.feeChargeRef
          updatedAt := t.now } := by
  unfold View.editLine
  rw [view_alone, view_alone]
  dsimp only
  cases h : t.line? label with
  | none =>
    rw [Tables.call, h, Option.map_none, update_none h]
    exact ⟨rfl, rfl⟩
  | some l =>
    have hid : l.id = label := key_of_rowOf? h
    subst hid
    rw [Tables.call, h]
    exact ⟨rfl, congrArg (fun look => View.mk _ _ look _) (rowOf?_putRow_eq_update _ t.lines)⟩

end Alone
end Memory
end PrepaidLedger
