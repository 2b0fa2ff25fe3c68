import PrepaidLedger.Proofs.Specimen
import PrepaidLedger.Proofs.Sql.Holding
import PrepaidLedger.Proofs.Sql.Mirror

/-! The store in memory and the statements that are sent to a database write alike. Where what is
found on the one side shows what is found on the other, a write is answered alike by both, and
afterwards it is so again. Metadata must stand being written as text and read again, which moves the
last digit of some numbers. -/

namespace PrepaidLedger.Sql

/-! ## Writes -/

inductive Write
  | patchCard (id : Uuid) (patch : CardPatch)
  | setCardBalance (id : Uuid) (balance : Int) (resetDeclineCount : Bool)
  | countDecline (id : Uuid)
  | setCardStatus (id : Uuid) (status : CardStatus)
  | setCardUserStatus (id : Uuid) (status : String)
  | setCardUserBalance (id : Uuid) (balance : Int)
  | settleFee (id : Uuid) (chargeRef : Option String)
  | createLine (line : NewLine)
  | patchLine (id : Uuid) (patch : LinePatch)
  | createEntry (entry : NewEntry)
  | patchEntry (id : Uuid) (patch : EntryPatch)

inductive Record
  | card (c : Card)
  | cardUser (u : CardUser)
  | line (l : Line)
  | entry (e : Entry)

def Record.bare : Record → Record
  | .card c => .card c.bare
  | .cardUser u => .cardUser u.bare
  | .line l => .line l.bare
  | .entry e => .entry e.bare

namespace Write

def prepared : Write → Prepared
  | .patchCard id patch => prepare (.patchCard id patch)
  | .setCardBalance id balance reset => prepareTx (.setCardBalance id balance reset)
  | .countDecline id => prepareTx (.countDecline id)
  | .setCardStatus id status => prepareTx (.setCardStatus id status)
  | .setCardUserStatus id status => prepare (.setCardUserStatus id status)
  | .setCardUserBalance id balance => prepareTx (.setCardUserBalance id balance)
  | .settleFee id chargeRef => prepare (.settleFee (.assigned id) chargeRef)
  | .createLine n => prepareTx (.createLine n)
  | .patchLine id patch => prepareTx (.patchLine (.assigned id) patch)
  | .createEntry n => prepareTx (.createEntry n)
  | .patchEntry id patch => prepareTx (.patchEntry (.assigned id) patch)

section Told

variable {α : Type} (kind : α → Record)

def told (found : Except StoreError (Option α)) : Except StoreError (Option Record) :=
  found.map (·.map kind)

def toldNew (made : Except StoreError α) : Except StoreError (Option Record) :=
  made.map fun a => some (kind a)

end Told

def answered (w : Write) (rows : List Row) : Except StoreError (Option Record) :=
  match w with
  | .patchCard id patch => told .card (answer (.patchCard id patch) rows)
  | .setCardBalance id balance reset =>
    told .card (answerTx (.setCardBalance id balance reset) rows)
  | .countDecline id => told .card (answerTx (.countDecline id) rows)
  | .setCardStatus id status => told .card (answerTx (.setCardStatus id status) rows)
  | .setCardUserStatus id status => told .cardUser (answer (.setCardUserStatus id status) rows)
  | .setCardUserBalance id balance =>
    told .cardUser (answerTx (.setCardUserBalance id balance) rows)
  | .settleFee id chargeRef => told .line (answer (.settleFee (.assigned id) chargeRef) rows)
  | .createLine n => toldNew .line (answerTx (.createLine n) rows)
  | .patchLine id patch => told .line (answerTx (.patchLine (.assigned id) patch) rows)
  | .createEntry n => toldNew .entry (answerTx (.createEntry n) rows)
  | .patchEntry id patch => told .entry (answerTx (.patchEntry (.assigned id) patch) rows)

def inMemory (refusal : LockKey → Option LockError) (name : Naming) (m : Memory) :
    Write → Except StoreError (Option Record) × Memory
  | .patchCard id patch => first (told .card) (call (.patchCard id patch))
  | .setCardBalance id balance reset => first (told .card) (tx (.setCardBalance id balance reset))
  | .countDecline id => first (told .card) (tx (.countDecline id))
  | .setCardStatus id status => first (told .card) (tx (.setCardStatus id status))
  | .setCardUserStatus id status => first (told .cardUser) (call (.setCardUserStatus id status))
  | .setCardUserBalance id balance => first (told .cardUser) (tx (.setCardUserBalance id balance))
  | .settleFee id chargeRef => first (told .line) (call (.settleFee (name.line id) chargeRef))
  | .createLine n => first (toldNew .line) (tx (.createLine n))
  | .patchLine id patch => first (told .line) (tx (.patchLine (name.line id) patch))
  | .createEntry n => first (toldNew .entry) (tx (.createEntry n))
  | .patchEntry id patch => first (told .entry) (tx (.patchEntry (name.entry id) patch))
where
  call (c : StoreCall) := (Memory.backend refusal).call c m
  tx (c : TxCall) := (Memory.backend refusal).tx c m
  first {α : Type} (tell : α → Except StoreError (Option Record)) (result : α × Memory) :=
    (tell result.1, result.2)

def naming (name : Naming) (m : Memory) (fresh : Uuid) : Write → Naming
  | .createLine _ => { name with line := Function.update name.line fresh m.pending.freshId }
  | .createEntry _ => { name with entry := Function.update name.entry fresh m.pending.freshId }
  | _ => name

/-- What a write may be asked for. Numbers are of 64 bits, and the counter of declines of 32. The
calls that stand alone find no transaction open. A new row has an identity that is new on both
sides, and a new line a new reference as well. -/
def Admitted (name : Naming) (db : Database) (m : Memory) (fresh : Uuid) : Write → Prop
  | .patchCard _ patch => patch.InWords ∧ ∃ batch, m.pending = .empty batch
  | .setCardBalance _ balance _ => IsInt64 balance
  | .countDecline id => ∀ c ∈ m.view.card id, c.declineCount < 2 ^ 31 - 1
  | .setCardStatus .. => True
  | .setCardUserStatus .. => ∃ batch, m.pending = .empty batch
  | .setCardUserBalance _ balance => IsInt64 balance
  | .settleFee .. => ∃ batch, m.pending = .empty batch
  | .createLine n => n.InWords ∧ m.pending.lineByRef? m.tables n.reference = none ∧
    (db lines).find? (Row.hasId fresh) = none ∧ ∀ id, name.line id ≠ m.pending.freshId
  | .patchLine _ patch => patch.InWords
  | .createEntry n => n.InWords ∧ (db journal).find? (Row.hasId fresh) = none ∧
    ∀ id, name.entry id ≠ m.pending.freshId
  | .patchEntry _ patch => patch.InWords

def IsPlain : Write → Prop
  | .createEntry n => Row.document n.metadata = n.metadata
  | _ => True

end Write

/-! ## Writing alike -/

/-- A write is answered alike on both sides, and what they find is alike afterwards. -/
def Alike (name : Naming) (written : Option (List Row × Database))
    (answered : List Row → Except StoreError (Option Record))
    (inMemory : Except StoreError (Option Record) × Memory) : Prop :=
  ∃ rows db found found', written = some (rows, db) ∧ answered rows = .ok found ∧
    inMemory.1 = .ok found' ∧ found.map Record.bare = found'.map Record.bare ∧
    Mirrors name db inMemory.2.view

theorem map_bare {α : Type} (kind : α → Record) (bare : α → α)
    (hkind : ∀ a, (kind a).bare = kind (bare a)) {found found' : Option α}
    (h : found.map bare = found'.map bare) :
    (found.map kind).map Record.bare = (found'.map kind).map Record.bare := by
  have hcomp : Record.bare ∘ kind = kind ∘ bare := funext hkind
  rw [Option.map_map, Option.map_map, hcomp, ← Option.map_map, ← Option.map_map, h]

theorem hasId_of_assigned {r : Row} {id : Uuid}
    (h : (Row.uuid? (r.cell "id")).map RowId.assigned = some (.assigned id)) :
    r.hasId id = true := by
  obtain ⟨u, hu, hassigned⟩ := Option.map_eq_some_iff.mp h
  exact decide_eq_true (RowId.assigned.inj hassigned ▸ hu)

section OneWrite

variable {α : Type} {ofRow : Row → Except StoreError α} {kind : α → Record} {bare : α → α}
  {look : Uuid → Option α} {name : Naming} {db : Database} {p : Prepared} {now : Timestamp}
  {fresh id : Uuid} {table : String} {t : Table}
  {result : Except StoreError (Option Record) × Memory}

theorem alike_of_update (h : Shows ofRow bare (db table) look)
    (hkind : ∀ a, (kind a).bare = kind (bare a)) {sets : List (String × Source)}
    (hp : p.statement = .update table sets) (ht : tableNamed? table = some t)
    (hid : parameter p.params 1 = text id.text)
    (hkeep : ∀ r id', (p.change t now r).hasId id' = r.hasId id') {edit edit' : α → α}
    (hrow : ∀ r b a, look id = some a → bare b = bare a → ofRow r = .ok b →
      ofRow (p.change t now r) = .ok (edit b))
    (hedit : ∀ b a, bare b = bare a → bare (edit b) = bare (edit' a))
    (hanswer : result.1 = .ok (((look id).map edit').map kind))
    (hafter : ∀ rows, Shows ofRow bare rows (Function.update look id ((look id).map edit')) →
      Mirrors name (Function.update db table rows) result.2.view) :
    Alike name (p.write? now fresh db) (fun rows => Write.told kind (first? ofRow rows))
      result := by
  obtain ⟨rows, after, found, hwrite, hfound, hbare, hshows⟩ :=
    h.write?_update hp ht hid hkeep hrow hedit
  exact ⟨rows, _, found.map kind, _, hwrite, congrArg (Write.told kind) hfound, hanswer,
    map_bare kind bare hkind hbare, hafter after hshows⟩

theorem alike_of_insert {κ : Type} [DecidableEq κ] {label : Uuid → κ} {look : κ → Option α} {new : κ}
    (h : Shows ofRow bare (db table) (look ∘ label)) (hkind : ∀ a, (kind a).bare = kind (bare a))
    {columns : List String} (hp : p.statement = .insert table columns none)
    (ht : tableNamed? table = some t)
    (hfree : (db table).find? (Row.hasId fresh) = none) (hnew : ∀ id, label id ≠ new) {b a : α}
    (hrow : ofRow (p.newRow t now fresh) = .ok b)
    (hid : (p.newRow t now fresh).hasId fresh = true) (hbare : bare b = bare a)
    (hanswer : result.1 = .ok (some (kind a)))
    (hafter : ∀ rows, Shows ofRow bare rows
        (Function.update look new (some a) ∘ Function.update label fresh new) →
      Mirrors name (Function.update db table rows) result.2.view) :
    Alike name (p.write? now fresh db) (fun rows => Write.toldNew kind (first ofRow rows))
      result := by
  have hsame : (some b).map bare = (some a).map bare := congrArg some hbare
  refine ⟨_, _, _, _, Prepared.write?_insert hp ht, congrArg (Write.toldNew kind) hrow, hanswer,
    map_bare kind bare hkind hsame, hafter _ ?_⟩
  rw [update_comp_update _ hnew]
  exact h.insert hid hrow hbare hfree

end OneWrite

namespace Mirrors

variable {name : Naming} {db : Database} {m : Memory} {p : Prepared} {now : Timestamp}
  {fresh id : Uuid} {sets : List (String × Source)} {columns : List String}
  {result : Except StoreError (Option Record) × Memory}

theorem alike_card (h : Mirrors name db m.view) (hp : p.statement = .update Sql.cards sets)
    (hid : parameter p.params 1 = text id.text)
    (hkeep : ∀ r id', (p.change cardsTable now r).hasId id' = r.hasId id')
    {edit edit' : Card → Card}
    (hanswer : result.1 = .ok (((m.view.card id).map edit').map .card))
    (hview : result.2.view = m.view.editCard id edit')
    (hrow : ∀ r b a, m.view.card id = some a → b.bare = a.bare → CardIn r.cell b →
      CardIn (p.change cardsTable now r).cell (edit b))
    (hedit : ∀ b a, b.bare = a.bare → (edit b).bare = (edit' a).bare) :
    Alike name (p.write? now fresh db) (fun rows => Write.told .card (first? cardOfRow rows))
      result :=
  alike_of_update h.cards (fun _ => rfl) hp rfl hid hkeep
    (fun r b a ha hba hb => cardOfRow_eq_ok.mpr (hrow r b a ha hba (cardOfRow_eq_ok.mp hb))) hedit
    hanswer fun _ hrows => hview ▸ h.withCards hrows

theorem alike_cardUser (h : Mirrors name db m.view)
    (hp : p.statement = .update Sql.cardUsers sets)
    (hid : parameter p.params 1 = text id.text)
    (hkeep : ∀ r id', (p.change cardUsersTable now r).hasId id' = r.hasId id')
    {edit edit' : CardUser → CardUser}
    (hanswer : result.1 = .ok (((m.view.cardUser id).map edit').map .cardUser))
    (hview : result.2.view = m.view.editCardUser id edit')
    (hrow : ∀ r b, CardUserIn r.cell b →
      CardUserIn (p.change cardUsersTable now r).cell (edit b))
    (hedit : ∀ b a, b.bare = a.bare → (edit b).bare = (edit' a).bare) :
    Alike name (p.write? now fresh db)
      (fun rows => Write.told .cardUser (first? cardUserOfRow rows)) result :=
  alike_of_update h.cardUsers (fun _ => rfl) hp rfl hid hkeep
    (fun r b _ _ _ hb => cardUserOfRow_eq_ok.mpr (hrow r b (cardUserOfRow_eq_ok.mp hb))) hedit
    hanswer fun _ hrows => hview ▸ h.withCardUsers hrows

theorem alike_line (h : Mirrors name db m.view) (hp : p.statement = .update Sql.lines sets)
    (hid : parameter p.params 1 = text id.text)
    (hkeep : ∀ r id', (p.change linesTable now r).hasId id' = r.hasId id')
    {edit edit' : Line → Line}
    (hanswer : result.1 = .ok (((m.view.line (name.line id)).map edit').map .line))
    (hview : result.2.view = m.view.editLine (name.line id) edit')
    (hrow : ∀ r b, LineIn r.cell b → LineIn (p.change linesTable now r).cell (edit b))
    (hedit : ∀ b a, b.bare = a.bare → (edit b).bare = (edit' a).bare) :
    Alike name (p.write? now fresh db) (fun rows => Write.told .line (first? lineOfRow rows))
      result := by
  refine alike_of_update h.lines (fun _ => rfl) hp rfl hid hkeep
    (fun r b _ _ _ hb => lineOfRow_eq_ok.mpr (hrow r b (lineOfRow_eq_ok.mp hb))) hedit hanswer
    fun _ hrows => hview ▸ h.withLines h.line_injective ?_
  rwa [Function.update_comp_eq_of_injective _ h.line_injective]

theorem alike_entry (h : Mirrors name db m.view) (hp : p.statement = .update Sql.journal sets)
    (hid : parameter p.params 1 = text id.text)
    (hkeep : ∀ r id', (p.change journalTable now r).hasId id' = r.hasId id')
    {edit edit' : Entry → Entry}
    (hanswer : result.1 = .ok (((m.view.entry (name.entry id)).map edit').map .entry))
    (hview : result.2.view = m.view.editEntry (name.entry id) edit')
    (hrow : ∀ r b, EntryIn r.cell b → EntryIn (p.change journalTable now r).cell (edit b))
    (hedit : ∀ b a, b.bare = a.bare → (edit b).bare = (edit' a).bare) :
    Alike name (p.write? now fresh db) (fun rows => Write.told .entry (first? entryOfRow rows))
      result := by
  refine alike_of_update h.journal (fun _ => rfl) hp rfl hid hkeep
    (fun r b _ _ _ hb => entryOfRow_eq_ok.mpr (hrow r b (entryOfRow_eq_ok.mp hb))) hedit hanswer
    fun _ hrows => hview ▸ h.withJournal h.entry_injective ?_
  rwa [Function.update_comp_eq_of_injective _ h.entry_injective]

theorem alike_newLine (h : Mirrors name db m.view)
    (hp : p.statement = .insert Sql.lines columns none)
    (hfree : (db Sql.lines).find? (Row.hasId fresh) = none) {b a : Line}
    (hname : ∀ id, name.line id ≠ a.id) (hanswer : result.1 = .ok (some (.line a)))
    (hview : result.2.view = m.view.addLine a)
    (hrow : LineIn (p.newRow linesTable now fresh).cell b) (hid : b.id = .assigned fresh)
    (hbare : b.bare = a.bare) :
    Alike { name with line := Function.update name.line fresh a.id } (p.write? now fresh db)
      (fun rows => Write.toldNew .line (first lineOfRow rows)) result :=
  alike_of_insert h.lines (fun _ => rfl) hp rfl hfree hname (lineOfRow_eq_ok.mpr hrow)
    (hasId_of_assigned (hrow.id.trans (congrArg some hid))) hbare hanswer
    fun _ hrows => hview ▸ h.withLines (injective_update h.line_injective hname) hrows

theorem alike_newEntry (h : Mirrors name db m.view)
    (hp : p.statement = .insert Sql.journal columns none)
    (hfree : (db Sql.journal).find? (Row.hasId fresh) = none) {b a : Entry}
    (hname : ∀ id, name.entry id ≠ a.id) (hanswer : result.1 = .ok (some (.entry a)))
    (hview : result.2.view = m.view.addEntry a)
    (hrow : EntryIn (p.newRow journalTable now fresh).cell b) (hid : b.id = .assigned fresh)
    (hbare : b.bare = a.bare) :
    Alike { name with entry := Function.update name.entry fresh a.id } (p.write? now fresh db)
      (fun rows => Write.toldNew .entry (first entryOfRow rows)) result :=
  alike_of_insert h.journal (fun _ => rfl) hp rfl hfree hname (entryOfRow_eq_ok.mpr hrow)
    (hasId_of_assigned (hrow.id.trans (congrArg some hid))) hbare hanswer
    fun _ hrows => hview ▸ h.withJournal (injective_update h.entry_injective hname) hrows

end Mirrors

theorem Write.alike (refusal : LockKey → Option LockError) {name : Naming} {db : Database}
    {m : Memory} {now : Timestamp} {fresh : Uuid} (h : Mirrors name db m.view)
    (hskew : m.tables.balanceSkew = 0) (hnow : IsInt64 now.seconds) (w : Write)
    (hw : w.Admitted name db m fresh) (hplain : w.IsPlain) :
    Alike (w.naming name m fresh) (w.prepared.write? now fresh db) w.answered
      (w.inMemory refusal name m) := by
  -- In each case first what the store in memory finds afterwards, then what becomes of the row.
  cases w with
  | patchCard id patch =>
    obtain ⟨hwords, batch, hpending⟩ := hw
    obtain ⟨t, pending⟩ := m
    subst hpending
    obtain ⟨hfound, hview⟩ := Memory.view_patchCard t batch id patch
    exact h.alike_card rfl rfl (fun _ _ => rfl)
      (congrArg (fun o => Write.told .card (.ok o)) hfound) hview
      (fun _ _ _ _ _ hb => hb.patchCard id hwords hnow) (fun _ _ hba => congrArg patch.apply hba)
  | setCardBalance id balance reset =>
    -- Only the store in memory adds a skew.
    have hbalance : balance = balance + m.tables.balanceSkew := by rw [hskew, Int.add_zero]
    obtain ⟨hfound, hview⟩ := m.view_writeCard id (fun c =>
      { c with
        balance := balance + m.tables.balanceSkew
        declineCount := if reset then 0 else c.declineCount }) fun _ => rfl
    exact h.alike_card rfl rfl (fun _ _ => rfl)
      (congrArg (fun o => Write.told .card (.ok o)) hfound) hview
      (fun _ _ _ _ _ hb => hb.setCardBalance id hw reset hnow)
      (fun _ _ hba => congrArg₂ (fun (c : Card) balance => { c with
        balance := balance, declineCount := if reset then 0 else c.declineCount }) hba hbalance)
  | countDecline id =>
    obtain ⟨hfound, hview⟩ := m.view_writeCard id (fun c =>
      { c with declineCount := c.declineCount + 1 }) fun _ => rfl
    have hcount : ∀ b a : Card, m.view.card id = some a → b.bare = a.bare →
        b.declineCount < Json.maxInt64 := fun b a ha hba => by
      have hsame : b.bare.declineCount = a.bare.declineCount := congrArg Card.declineCount hba
      change b.declineCount = a.declineCount at hsame
      have hsmall : a.declineCount < 2 ^ 31 - 1 := hw a ha
      unfold Json.maxInt64
      omega
    exact h.alike_card rfl rfl (fun _ _ => rfl)
      (congrArg (fun o => Write.told .card (.ok o)) hfound) hview
      (fun _ b a ha hba hb => hb.countDecline id (hcount b a ha hba) hnow)
      (fun _ _ hba => congrArg (fun c : Card => { c with declineCount := c.declineCount + 1 }) hba)
  | setCardStatus id status =>
    obtain ⟨hfound, hview⟩ := m.view_writeCard id (fun c => { c with status := status })
      fun _ => rfl
    exact h.alike_card rfl rfl (fun _ _ => rfl)
      (congrArg (fun o => Write.told .card (.ok o)) hfound) hview
      (fun _ _ _ _ _ hb => hb.setCardStatus id status hnow)
      (fun _ _ hba => congrArg (fun c : Card => { c with status := status }) hba)
  | setCardUserStatus id status =>
    obtain ⟨batch, hpending⟩ := hw
    obtain ⟨t, pending⟩ := m
    subst hpending
    obtain ⟨hfound, hview⟩ := Memory.view_setCardUserStatus t batch id status
    exact h.alike_cardUser rfl rfl (fun _ _ => rfl)
      (congrArg (fun o => Write.told .cardUser (.ok o)) hfound) hview
      (fun _ _ hb => hb.setCardUserStatus id status hnow)
      (fun _ _ hba => congrArg (fun u : CardUser => { u with status := status }) hba)
  | setCardUserBalance id balance =>
    obtain ⟨hfound, hview⟩ := m.view_writeCardUser id (fun u => { u with balance := balance })
      fun _ => rfl
    exact h.alike_cardUser rfl rfl (fun _ _ => rfl)
      (congrArg (fun o => Write.told .cardUser (.ok o)) hfound) hview
      (fun _ _ hb => hb.setCardUserBalance id hw hnow)
      (fun _ _ hba => congrArg (fun u : CardUser => { u with balance := balance }) hba)
  | settleFee id chargeRef =>
    obtain ⟨batch, hpending⟩ := hw
    obtain ⟨t, pending⟩ := m
    subst hpending
    obtain ⟨hfound, hview⟩ := Memory.view_settleFee t batch (name.line id) chargeRef
    exact h.alike_line rfl rfl (fun _ _ => rfl)
      (congrArg (fun o => Write.told .line (.ok o)) hfound) hview
      (fun _ _ hb => hb.settleFee _ chargeRef hnow)
      (fun _ _ hba => congrArg (fun l : Line => { l with
        feeSettled := true, feeChargeRef := chargeRef <|> l.feeChargeRef }) hba)
  | createLine n =>
    obtain ⟨hwords, hreference, hnew, hname⟩ := hw
    obtain ⟨hmade, hview⟩ := m.view_createLine hreference
    exact h.alike_newLine (a := n.toLine m.pending.freshId m.tables.now) rfl hnew hname
      (congrArg (Write.toldNew .line) hmade) hview (lineIn_createLine hwords fresh hnow) rfl rfl
  | patchLine id patch =>
    obtain ⟨hfound, hview⟩ := m.view_patchLine (name.line id) patch
    exact h.alike_line rfl rfl (fun _ _ => rfl) (congrArg (Write.told .line) hfound) hview
      (fun _ _ hb => hb.patchLine _ hw hnow) (fun _ _ hba => congrArg patch.apply hba)
  | createEntry n =>
    obtain ⟨hwords, hnew, hname⟩ := hw
    obtain ⟨hmade, hview⟩ := m.view_createEntry n
    have hdocument : Row.document n.metadata = n.metadata := hplain
    have hrow := entryIn_createEntry hwords fresh hnow
    rw [hdocument] at hrow
    exact h.alike_newEntry (a := n.toEntry m.pending.freshId m.tables.now) rfl hnew hname
      (congrArg (Write.toldNew .entry) hmade) hview hrow rfl rfl
  | patchEntry id patch =>
    obtain ⟨hfound, hview⟩ := m.view_patchEntry (name.entry id) patch
    exact h.alike_entry rfl rfl (fun _ _ => rfl) (congrArg (Write.told .entry) hfound) hview
      (fun _ _ hb => hb.patchEntry _ hw hnow) (fun _ _ hba => congrArg patch.apply hba)

theorem Shows.nil {α : Type} (ofRow : Row → Except StoreError α) (bare : α → α) :
    Shows ofRow bare [] fun _ => none := fun _ => .none

def fraction (parts : Nat) : Json := .number (.float (.finite false parts (-120)))

end PrepaidLedger.Sql
