import PrepaidLedger.Store.Call
import PrepaidLedger.Text.LowerCase

/-!
The store in memory: five tables, and the writes that an open transaction keeps to itself until it
commits. A row is replaced by the row put with its key; a new one goes to the end.
-/
namespace PrepaidLedger

/-! ## Rows by key -/

section Rows

variable {α κ : Type} [DecidableEq κ]

def rowOf? (key : α → κ) (k : κ) (rows : List α) : Option α := rows.find? (key · = k)

def putRow (key : α → κ) (row : α) : List α → List α
  | [] => [row]
  | r :: rest => if key r = key row then row :: rest else r :: putRow key row rest

def putRows (key : α → κ) (new rows : List α) : List α :=
  new.foldl (fun acc row => putRow key row acc) rows

end Rows

/-! ## Tables -/

structure Tables where
  cards : List Card
  cardUsers : List CardUser
  lines : List Line
  journal : List Entry
  addresses : List DepositAddress
  /-- Added to every card balance written, to put the read-back to the test. -/
  balanceSkew : Int
  batches : Nat
  now : Timestamp

namespace Tables

def empty : Tables := ⟨[], [], [], [], [], 0, 0, ⟨0⟩⟩

def card? (t : Tables) (id : Uuid) : Option Card := rowOf? Card.id id t.cards

def cardUser? (t : Tables) (id : Uuid) : Option CardUser := rowOf? CardUser.id id t.cardUsers

def line? (t : Tables) (id : RowId) : Option Line := rowOf? Line.id id t.lines

def entry? (t : Tables) (id : RowId) : Option Entry := rowOf? Entry.id id t.journal

def lineByRef? (t : Tables) (reference : String) : Option Line :=
  rowOf? Line.reference reference t.lines

def entryByRef? (t : Tables) (reference : String) : Option Entry :=
  rowOf? Entry.reference reference t.journal

def putCard (t : Tables) (c : Card) : Tables := { t with cards := putRow Card.id c t.cards }

def putCardUser (t : Tables) (u : CardUser) : Tables :=
  { t with cardUsers := putRow CardUser.id u t.cardUsers }

def putLine (t : Tables) (l : Line) : Tables := { t with lines := putRow Line.id l t.lines }

def putAddress (t : Tables) (a : DepositAddress) : Tables :=
  { t with addresses := putRow DepositAddress.id a t.addresses }

/-- Active cards come after all others, and among equals the newer one after the older. -/
def primaryOrder (a b : Card) : Bool :=
  if decide (a.status = .active) = decide (b.status = .active) then
    a.createdAt.seconds ≤ b.createdAt.seconds
  else b.status = .active

def primaryCard? (t : Tables) (cardUserId : Uuid) : Option Card :=
  ((t.cards.filter fun c => c.cardUserId = cardUserId ∧ c.status ≠ .canceled).mergeSort
    primaryOrder).getLast?

def address? (t : Tables) (chainId : Int) (address : String) : Option DepositAddress :=
  t.addresses.find? fun a => a.chainId = chainId && Text.sameUpToAsciiCase a.address address

def isSweepable (l : Line) : Bool :=
  0 < l.fee && !l.feeSettled && (l.status = .successful || l.status = .declined)

def unsettled (t : Tables) (limit : Int) : List Line :=
  ((t.lines.filter isSweepable).mergeSort
    fun a b => a.createdAt.seconds ≤ b.createdAt.seconds).take limit.toNat

/-- An address known in any spelling keeps its row and goes over to the new user. -/
def registerAddress (t : Tables) (userId : Uuid) (chainId : Int) (address : String) :
    DepositAddress × Tables :=
  match t.address? chainId address with
  | some a =>
    let a := { a with userId := userId }
    (a, t.putAddress a)
  | none =>
    let a : DepositAddress := ⟨.numbered t.batches 0, userId, chainId, address, t.now⟩
    (a, { t.putAddress a with batches := t.batches + 1 })

def call (t : Tables) : (c : StoreCall) → c.Answer × Tables
  | .ping => ((), t)
  | .cardByRef ref => (rowOf? Card.providerRef ref t.cards, t)
  | .primaryCard cardUserId => (t.primaryCard? cardUserId, t)
  | .cardUserById id => (t.cardUser? id, t)
  | .cardUserByRef ref => (rowOf? CardUser.providerRef ref t.cardUsers, t)
  | .cardUserByUser userId => (rowOf? CardUser.userId userId t.cardUsers, t)
  | .lineByRef reference => (t.lineByRef? reference, t)
  | .depositAddress chainId address => (t.address? chainId address, t)
  | .registerAddress userId chainId address =>
    let (a, t) := t.registerAddress userId chainId address
    (a, t)
  | .patchCard id patch =>
    match t.card? id with
    | none => (none, t)
    | some c =>
      let c := { patch.apply c with updatedAt := t.now }
      (some c, t.putCard c)
  | .setCardUserStatus id status =>
    match t.cardUser? id with
    | none => (none, t)
    | some u =>
      let u := { u with status := status, updatedAt := t.now }
      (some u, t.putCardUser u)
  | .settleFee id chargeRef =>
    match t.line? id with
    | none => (none, t)
    | some l =>
      let l := { l with
        feeSettled := true, feeChargeRef := chargeRef <|> l.feeChargeRef, updatedAt := t.now }
      (some l, t.putLine l)
  | .unsettledFees limit => (t.unsettled limit, t)

end Tables

/-! ## Transactions -/

structure Pending where
  batch : Nat
  made : Nat
  cards : List Card
  cardUsers : List CardUser
  lines : List Line
  journal : List Entry

namespace Pending

def empty (batch : Nat) : Pending := ⟨batch, 0, [], [], [], []⟩

/-! A transaction sees its own rows before the committed ones. -/

def card? (p : Pending) (t : Tables) (id : Uuid) : Option Card :=
  rowOf? Card.id id p.cards <|> t.card? id

def cardUser? (p : Pending) (t : Tables) (id : Uuid) : Option CardUser :=
  rowOf? CardUser.id id p.cardUsers <|> t.cardUser? id

def line? (p : Pending) (t : Tables) (id : RowId) : Option Line :=
  rowOf? Line.id id p.lines <|> t.line? id

def entry? (p : Pending) (t : Tables) (id : RowId) : Option Entry :=
  rowOf? Entry.id id p.journal <|> t.entry? id

def lineByRef? (p : Pending) (t : Tables) (reference : String) : Option Line :=
  rowOf? Line.reference reference p.lines <|> t.lineByRef? reference

def entryByRef? (p : Pending) (t : Tables) (reference : String) : Option Entry :=
  rowOf? Entry.reference reference p.journal <|> t.entryByRef? reference

def writeCard (p : Pending) (t : Tables) (id : Uuid) (change : Card → Card) :
    Option Card × Pending :=
  match p.card? t id with
  | none => (none, p)
  | some c =>
    let c := { change c with updatedAt := t.now }
    (some c, { p with cards := putRow Card.id c p.cards })

def writeCardUser (p : Pending) (t : Tables) (id : Uuid) (change : CardUser → CardUser) :
    Option CardUser × Pending :=
  match p.cardUser? t id with
  | none => (none, p)
  | some u =>
    let u := { change u with updatedAt := t.now }
    (some u, { p with cardUsers := putRow CardUser.id u p.cardUsers })

def putLine (p : Pending) (l : Line) : Pending := { p with lines := putRow Line.id l p.lines }

def putEntry (p : Pending) (e : Entry) : Pending :=
  { p with journal := putRow Entry.id e p.journal }

def freshId (p : Pending) : RowId := .numbered p.batch p.made

/-- A second line for a reference is refused, as a unique index would refuse it. -/
def duplicateLine (reference : String) : StoreError :=
  .corruptRow "card_transactions" ("duplicate provider_ref " ++ reference)

def call (p : Pending) (t : Tables) : (c : TxCall) → Except StoreError c.Answer × Pending
  | .card id => (.ok (p.card? t id), p)
  | .cardUser id => (.ok (p.cardUser? t id), p)
  | .lineByRef reference => (.ok (p.lineByRef? t reference), p)
  | .entryByRef reference => (.ok (p.entryByRef? t reference), p)
  | .setCardBalance id balance reset =>
    let (c, p) := p.writeCard t id fun c =>
      { c with
        balance := balance + t.balanceSkew
        declineCount := if reset then 0 else c.declineCount }
    (.ok c, p)
  | .setCardUserBalance id balance =>
    let (u, p) := p.writeCardUser t id fun u => { u with balance := balance }
    (.ok u, p)
  | .countDecline id =>
    let (c, p) := p.writeCard t id fun c => { c with declineCount := c.declineCount + 1 }
    (.ok c, p)
  | .setCardStatus id status =>
    let (c, p) := p.writeCard t id fun c => { c with status := status }
    (.ok c, p)
  | .createLine new =>
    match p.lineByRef? t new.reference with
    | some _ => (.error (duplicateLine new.reference), p)
    | none =>
      let l := new.toLine p.freshId t.now
      (.ok l, { p.putLine l with made := p.made + 1 })
  | .patchLine id patch =>
    match p.line? t id with
    | none => (.ok none, p)
    | some l =>
      let l := { patch.apply l with updatedAt := t.now }
      (.ok (some l), p.putLine l)
  | .createEntry new =>
    let e := new.toEntry p.freshId t.now
    (.ok e, { p.putEntry e with made := p.made + 1 })
  | .patchEntry id patch =>
    match p.entry? t id with
    | none => (.ok none, p)
    | some e =>
      let e := { patch.apply e with updatedAt := t.now }
      (.ok (some e), p.putEntry e)

end Pending

def Tables.commit (t : Tables) (p : Pending) : Tables :=
  { t with
    cards := putRows Card.id p.cards t.cards
    cardUsers := putRows CardUser.id p.cardUsers t.cardUsers
    lines := putRows Line.id p.lines t.lines
    journal := putRows Entry.id p.journal t.journal }

end PrepaidLedger
