import PrepaidLedger.Proofs.Card.Declines
import PrepaidLedger.Proofs.Engine.Leavings
import PrepaidLedger.Proofs.Ledger.Journal
import PrepaidLedger.Proofs.Ledger.Mirror

/-! Which rows an envelope can touch. Of each table it is one at most, whatever comes in and
wherever the store fails on the way: a posting touches the card and the card-user it is for and the
line and the entry of its reference, a profile event one row of its own table. -/

namespace PrepaidLedger

/-! ## One row of a table -/

/-- One row may be another than before: a new one at the end, or one that turned into another. -/
inductive OneRow {α : Type} (isNew : α → Prop) (turns : α → α → Prop) : List α → List α → Prop
  | same (rows : List α) : OneRow isNew turns rows rows
  | added (rows : List α) (row : α) (h : isNew row) : OneRow isNew turns rows (rows ++ [row])
  | replaced (before after : List α) (row row' : α) (h : turns row row') :
    OneRow isNew turns (before ++ row :: after) (before ++ row' :: after)

namespace OneRow

variable {α κ : Type} [DecidableEq κ] {key : α → κ} {isNew isNew' : α → Prop}
  {turns turns' : α → α → Prop} {rows rows' : List α}

omit [DecidableEq κ] in
theorem of_eq (h : rows' = rows) : OneRow isNew turns rows rows' := by
  rw [h]
  exact .same rows

omit [DecidableEq κ] in
theorem mono (h : OneRow isNew turns rows rows') (hnew : ∀ r, isNew r → isNew' r)
    (hturns : ∀ r r', turns r r' → turns' r r') : OneRow isNew' turns' rows rows' := by
  cases h with
  | same => exact .same rows
  | added _ row h => exact .added rows row (hnew row h)
  | replaced before after row row' h => exact .replaced before after row row' (hturns row row' h)

omit [DecidableEq κ] in
theorem cons (h : OneRow isNew turns rows rows') (r : α) :
    OneRow isNew turns (r :: rows) (r :: rows') := by
  cases h with
  | same => exact .same (r :: rows)
  | added _ row h => exact .added (r :: rows) row h
  | replaced before after row row' h => exact .replaced (r :: before) after row row' h

theorem of_putRow {row : α} (hnew : rowOf? key (key row) rows = none → isNew row)
    (hturns : ∀ stored, rowOf? key (key row) rows = some stored → turns stored row) :
    OneRow isNew turns rows (putRow key row rows) := by
  induction rows with
  | nil => exact .added [] row (hnew rfl)
  | cons r rest ih =>
    simp only [rowOf?_cons] at hnew hturns
    by_cases hr : key r = key row
    · rw [if_pos hr] at hturns
      rw [putRow, if_pos hr]
      exact .replaced [] rest r row (hturns r rfl)
    · rw [if_neg hr] at hnew hturns
      rw [putRow, if_neg hr]
      exact (ih hnew hturns).cons r

theorem of_putRow_stored {row stored : α} (hstored : rowOf? key (key row) rows = some stored)
    (h : turns stored row) : OneRow isNew turns rows (putRow key row rows) := by
  refine of_putRow (fun hnone => ?_) fun other hother => ?_
  · rw [hstored] at hnone
    cases hnone
  · rw [hstored] at hother
    exact Option.some.inj hother ▸ h

end OneRow

/-! ## Footprints -/

/-- What may be new in the tables, and what a row may turn into. Cards and card-users are never
new. -/
structure Footprint where
  card : Card → Card → Prop
  cardUser : CardUser → CardUser → Prop
  newLine : Line → Prop
  line : Line → Line → Prop
  newEntry : Entry → Prop
  entry : Entry → Entry → Prop
  newAddress : DepositAddress → Prop
  address : DepositAddress → DepositAddress → Prop

structure Tables.Within (f : Footprint) (t t' : Tables) : Prop where
  cards : OneRow (fun _ => False) f.card t.cards t'.cards
  cardUsers : OneRow (fun _ => False) f.cardUser t.cardUsers t'.cardUsers
  lines : OneRow f.newLine f.line t.lines t'.lines
  journal : OneRow f.newEntry f.entry t.journal t'.journal
  addresses : OneRow f.newAddress f.address t.addresses t'.addresses

theorem Tables.SameRows.within {t t' : Tables} (h : t.SameRows t') (f : Footprint) :
    t.Within f t' where
  cards := .of_eq h.cards
  cardUsers := .of_eq h.cardUsers
  lines := .of_eq h.lines
  journal := .of_eq h.journal
  addresses := .of_eq h.addresses

structure Card.PostsTo (c c' : Card) : Prop where
  others : c' = { c with
    balance := c'.balance, declineCount := c'.declineCount, status := c'.status,
    updatedAt := c'.updatedAt }
  status : c'.status = c.status ∨ c'.status = .blocked

namespace Footprint

def posting (reference : String) (card : Card) (owner : CardUser) : Footprint where
  card c c' := c = card ∧ c.PostsTo c'
  cardUser u u' := u = owner ∧ u' = { u with balance := u'.balance, updatedAt := u'.updatedAt }
  newLine l := l.reference = reference
  line l l' := l'.id = l.id ∧ l.reference = reference ∧ l'.reference = reference
  newEntry e := e.reference = reference
  entry e e' := e'.id = e.id ∧ e.reference = reference ∧ e'.reference = reference
  newAddress _ := False
  address _ _ := False

/-- A profile event of the resource: balances, owners and the provider's names stay, and an address
goes over to no one but the card-user that a contract names. -/
def profile (resource : String) (userId? : Option Uuid) : Footprint where
  card c c' := resource = "card" ∧ c.Steady c'
  cardUser u u' := resource = "user" ∧ u.Steady u'
  newLine _ := False
  line _ _ := False
  newEntry _ := False
  entry _ _ := False
  newAddress a := resource = "contract" ∧ userId? = some a.userId
  address a a' := resource = "contract" ∧ userId? = some a'.userId ∧
    a' = { a with userId := a'.userId }

end Footprint

/-! ## Rows that can be told apart -/

/-- Identities are not given twice, and new numbers are new. References may be shared. -/
structure Tables.Identified (t : Tables) : Prop extends t.Distinct, t.JournalKeyed where
  lines : (t.lines.map Line.id).Nodup
  linesNumbered : ∀ l ∈ t.lines, l.id.IsBefore t.batches
  addresses : (t.addresses.map DepositAddress.id).Nodup
  addressesNumbered : ∀ a ∈ t.addresses, a.id.IsBefore t.batches

/-! ## Postings -/

section Postings

variable {s : Settings} {t t' : Tables} {p : Posting} {card : Card} {owner : CardUser}
  {reference : String} {ev : LedgerEvent} {d : Delivery}

theorem Tables.MayNote.eq_apply {c : Change} (h : (t.apply c).MayNote c.applied.line t') :
    ∃ l, c.applied.line.SettlesTo l ∧
      t' = { t.apply c with lines := putRow Line.id l t.lines } := by
  -- The line of a committed change is put once, settled or not.
  rcases h with rfl | ⟨receipt, rfl⟩
  · exact ⟨c.applied.line, .refl _, rfl⟩
  · have hline : (t.apply c).line? c.applied.line.id = some c.applied.line := by
      change rowOf? Line.id c.applied.line.id (putRow Line.id c.applied.line t.lines) = _
      rw [rowOf?_putRow, if_pos rfl]
    let l := { c.applied.line with
      feeSettled := true, feeChargeRef := some receipt, updatedAt := t.now }
    refine ⟨l, rfl, ?_⟩
    unfold Tables.call
    dsimp only
    rw [hline]
    have hid : Line.id c.applied.line = Line.id l := rfl
    rw [← putRow_putRow hid t.lines]
    rfl

theorem Tables.JournalKeyed.entry?_entryOf (hj : t.JournalKeyed) :
    t.entry? (t.entryOf p card owner).id = t.entryByRef? p.reference := by
  cases h : t.entryByRef? p.reference with
  | none =>
    rw [entryOf_of_new h]
    exact rowOf?_eq_none.mpr (hj.id_ne_fresh _)
  | some e =>
    rw [hj.entryOf_of_stored h]
    exact rowOf?_of_mem hj.ids (mem_of_rowOf? h)

theorem Tables.postsTo_cardOf : card.PostsTo (t.cardOf s p card).card where
  others := by
    unfold cardOf
    dsimp only
    split
    · rw [DeclinePolicy.card_record]
      rfl
    · rfl
  status := by
    rw [status_cardOf]
    split
    · exact .inr rfl
    · exact .inl rfl

theorem LedgerEvent.Commits.within (h : ev.Commits s t reference d card owner)
    (ht : t.Identified)
    (hnoted : (t.apply (t.changeOf s d.posting card owner)).MayNote
      (t.changeOf s d.posting card owner).applied.line t') :
    t.Within (.posting reference card owner) t' := by
  have hposts := h.posts ht.toDistinct
  obtain ⟨l, hsettles, rfl⟩ := hnoted.eq_apply
  have hreference : l.reference = reference := by
    rw [hsettles]
    exact (Tables.reference_lineOf ht.lines).trans hposts.reference_eq
  have hline : t.line? l.id = t.storedFor d.posting := by
    rw [hsettles.id_eq]
    exact Tables.line?_lineOf ht.lines ht.linesNumbered
  have hentry : (t.entryOf d.posting card owner).reference = reference :=
    ht.reference_entryOf.trans hposts.reference_eq
  constructor
  · have hcard : t.card? (t.cardOf s d.posting card).card.id = some card := by
      rw [Tables.id_cardOf]
      exact hposts.card_eq ht.toDistinct
    exact OneRow.of_putRow_stored hcard ⟨rfl, Tables.postsTo_cardOf⟩
  · exact OneRow.of_putRow_stored (hposts.owner_eq ht.toDistinct) ⟨rfl, rfl⟩
  · refine OneRow.of_putRow (fun _ => hreference) fun stored hstored => ?_
    have hstored' : t.storedFor d.posting = some stored := hline.symm.trans hstored
    refine ⟨(key_of_rowOf? hstored).symm, ?_, hreference⟩
    exact (key_of_rowOf? hstored').trans hposts.reference_eq
  · refine OneRow.of_putRow (fun _ => hentry) fun stored hstored => ?_
    have hstored' : t.entryByRef? d.posting.reference = some stored :=
      ht.entry?_entryOf.symm.trans hstored
    refine ⟨(key_of_rowOf? hstored).symm, ?_, hentry⟩
    exact (key_of_rowOf? hstored').trans hposts.reference_eq
  · exact .same _

end Postings

/-! ## Profile events -/

section Profiles

variable {t : Tables} {resource : String} {userId? : Option Uuid}

theorem Tables.within_patchCard (hresource : resource = "card") (id : Uuid) (patch : CardPatch) :
    t.Within (.profile resource userId?) (t.call (.patchCard id patch)).2 := by
  cases hcard : t.card? id with
  | none =>
    simp only [call, hcard]
    exact (SameRows.refl t).within _
  | some card =>
    simp only [call, hcard]
    obtain rfl : card.id = id := key_of_rowOf? hcard
    exact ⟨OneRow.of_putRow_stored hcard ⟨hresource, patch.steady card t.now⟩, .same _, .same _,
      .same _, .same _⟩

theorem Tables.within_setCardUserStatus (hresource : resource = "user") (id : Uuid)
    (status : String) :
    t.Within (.profile resource userId?) (t.call (.setCardUserStatus id status)).2 := by
  cases howner : t.cardUser? id with
  | none =>
    simp only [call, howner]
    exact (SameRows.refl t).within _
  | some owner =>
    simp only [call, howner]
    obtain rfl : owner.id = id := key_of_rowOf? howner
    exact ⟨.same _, OneRow.of_putRow_stored howner ⟨hresource, ⟨rfl, rfl, rfl, rfl⟩, rfl⟩, .same _,
      .same _, .same _⟩

theorem Tables.within_registerAddress (ht : t.Identified) (hresource : resource = "contract")
    (userId : Uuid) (chainId : Int) (address : String) :
    t.Within (.profile resource (some userId))
      (t.call (.registerAddress userId chainId address)).2 := by
  cases ha : t.address? chainId address with
  | none =>
    simp only [call, registerAddress, ha]
    refine ⟨.same _, .same _, .same _, .same _, ?_⟩
    refine OneRow.of_putRow (fun _ => ⟨hresource, rfl⟩) fun stored hstored => ?_
    -- A new number is the number of no stored address.
    have hbefore := ht.addressesNumbered stored (mem_of_rowOf? hstored)
    rw [show stored.id = .numbered t.batches 0 from key_of_rowOf? hstored] at hbefore
    exact absurd hbefore (Nat.lt_irrefl _)
  | some a =>
    simp only [call, registerAddress, ha]
    have hstored : rowOf? DepositAddress.id a.id t.addresses = some a :=
      rowOf?_of_mem ht.addresses (List.mem_of_find?_eq_some ha)
    exact ⟨.same _, .same _, .same _, .same _,
      OneRow.of_putRow_stored hstored ⟨hresource, rfl, rfl⟩⟩

end Profiles

/-! ## Dispatch -/

def Envelope.contractUser? (e : Envelope) (t : Tables) : Option Uuid :=
  match e.incoming with
  | .contract event => (t.cardUserByRef? event.userRef).map (·.userId)
  | _ => none

/-- Whatever the store fails at and whatever the parties outside answer, an envelope touches at most
one row of each table and takes none away. A transaction touches the rows that its own event is for,
and any other envelope a row of the table that it is about. -/
theorem dispatch_touches_one_row_each {σ : Type} {B : Backend σ} {view : σ → Memory}
    (hB : B.Falters view) (C : Collaborators) (s : Settings) (e : Envelope) (w : World σ)
    (ht : (view w.store).tables.Identified) :
    let t := (view w.store).tables
    let t' := (view ((dispatch s e).runIn B C w).2.store).tables
    (e.resource = "transaction" → t.SameRows t' ∨ ∃ reference ev card owner,
      e.incoming.ledgerEvent? = some (reference, ev) ∧ ev.Resolves t card owner ∧
        card.cardUserId = owner.id ∧ t.Within (.posting reference card owner) t') ∧
    (e.resource ≠ "transaction" → t.Within (.profile e.resource (e.contractUser? t)) t') := by
  intro t t'
  have hleaves : e.Leaves s t t' := e.leaves_dispatch hB s
  generalize t' = t' at hleaves ⊢
  have hresource (name : String) (h : e.incoming.resource? = some name) : e.resource = name :=
    Envelope.resource_of_incoming h
  cases hleaves with
  | same hrows => exact ⟨fun _ => .inl hrows, fun _ => hrows.within _⟩
  | posted reference ev d card owner hev hcommits hnoted =>
    obtain ⟨hresolves, hown, -⟩ :=
      LedgerEvent.parties_eq_ok.mp (hcommits.posts ht.toDistinct).parties_eq
    refine ⟨fun _ => .inr ⟨reference, ev, card, owner, hev, hresolves, hown,
      hcommits.within ht hnoted⟩, fun hne => ?_⟩
    have hposts := Incoming.posts?_of_ledgerEvent? hev
    rw [Envelope.posts?_eq_none hne] at hposts
    cases hposts
  | card event card he hcard =>
    have hname : e.resource = "card" := hresource _ (by rw [he]; rfl)
    refine ⟨fun h => ?_, fun _ => Tables.within_patchCard hname _ _⟩
    rw [hname] at h
    exact absurd h (by decide)
  | user event owner status he howner =>
    have hname : e.resource = "user" := hresource _ (by rw [he]; rfl)
    refine ⟨fun h => ?_, fun _ => Tables.within_setCardUserStatus hname _ _⟩
    rw [hname] at h
    exact absurd h (by decide)
  | contract event owner he howner =>
    have hname : e.resource = "contract" := hresource _ (by rw [he]; rfl)
    have huser : e.contractUser? t = some owner.userId := by
      unfold Envelope.contractUser?
      rw [he]
      dsimp only
      rw [howner]
      rfl
    refine ⟨fun h => ?_, fun _ => ?_⟩
    · rw [hname] at h
      exact absurd h (by decide)
    · rw [huser]
      exact Tables.within_registerAddress ht hname _ _ _

namespace Specimen

def secondOwner : CardUser := ⟨⟨6⟩, ⟨8⟩, "other", "approved", 0, ⟨0⟩, ⟨0⟩⟩

def address : DepositAddress := ⟨.assigned ⟨7⟩, ⟨8⟩, 8453, "0xabc", ⟨0⟩⟩

def contractEnvelope : Envelope where
  id := "envelope"
  resource := "contract"
  action := "updated"
  body := .object [("id", "contract"), ("userId", "owner"), ("chainId", (8453 : Int)),
    ("depositAddress", "0xABC")]

def addressed : Tables :=
  { tables with cardUsers := [owner 50, secondOwner], addresses := [address] }

theorem identified_addressed : addressed.Identified where
  toDistinct := ⟨by decide, by decide⟩
  toJournalKeyed := Tables.journalKeyed_of_no_entries rfl
  lines := List.nodup_nil
  linesNumbered _ hl := nomatch hl
  addresses := List.nodup_singleton _
  addressesNumbered a ha := by
    obtain rfl := List.mem_singleton.mp ha
    exact trivial

end Specimen

theorem spend_touches_its_own_rows :
    let e := Specimen.spendEnvelope "t" "first" "completed" 10
    let t := Specimen.addressed
    let t' := ((dispatch Specimen.settings e).runIn (Memory.backend fun _ => none)
      Specimen.refusing (.ofStore (.ofTables t))).2.store.tables
    t.Identified ∧ ∃ reference ev card owner,
      e.incoming.ledgerEvent? = some (reference, ev) ∧ ev.Resolves t card owner ∧
        card.cardUserId = owner.id ∧ t.Within (.posting reference card owner) t' := by
  intro e t t'
  have ht := Specimen.identified_addressed
  have hframe := dispatch_touches_one_row_each (Memory.backend_falters fun _ => none)
    Specimen.refusing Specimen.settings e (.ofStore (.ofTables t)) ht
  dsimp only [id] at hframe
  have hline : t'.lines.length = 1 := by decide +kernel
  refine ⟨ht, (hframe.1 rfl).resolve_left fun hrows => ?_⟩
  have hnone : t'.lines.length = t.lines.length := congrArg List.length hrows.lines
  rw [hline] at hnone
  exact absurd hnone Nat.one_ne_zero

/-- The owner of an address is changed by a contract event, which moves nothing else. -/
theorem contract_hands_address_over :
    let t := Specimen.addressed
    let t' := ((dispatch Specimen.settings Specimen.contractEnvelope).runIn
      (Memory.backend fun _ => none) Specimen.refusing (.ofStore (.ofTables t))).2.store.tables
    Specimen.contractEnvelope.resource = "contract" ∧ t.Identified ∧
      t.addresses = [Specimen.address] ∧
      t'.addresses = [{ Specimen.address with userId := (Specimen.owner 50).userId }] ∧
      Specimen.address.userId ≠ (Specimen.owner 50).userId :=
  ⟨rfl, Specimen.identified_addressed, rfl, rfl, by decide⟩

end PrepaidLedger
