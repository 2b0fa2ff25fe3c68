import PrepaidLedger.Proofs.Sql.Cells

/-! What each write makes of a row: the row of the record that it is about. Parameters stand for the
columns they are bound to, and every column that is not written says what it said before. -/

namespace PrepaidLedger

/-! ## Arguments in words -/

structure CardPatch.InWords (p : CardPatch) : Prop where
  spendingLimit : ∀ n ∈ p.spendingLimit, IsInt64 n
  expirationMonth : ∀ n ∈ p.expirationMonth, IsInt64 n
  expirationYear : ∀ n ∈ p.expirationYear, IsInt64 n

structure LinePatch.InWords (p : LinePatch) : Prop where
  amount : ∀ n ∈ p.amount, IsInt64 n
  fee : ∀ n ∈ p.fee, IsInt64 n
  balanceBefore : ∀ n ∈ p.balanceBefore, IsInt64 n
  balanceAfter : ∀ n ∈ p.balanceAfter, IsInt64 n

structure EntryPatch.InWords (p : EntryPatch) : Prop where
  amount : ∀ n ∈ p.amount, IsInt64 n
  fee : ∀ n ∈ p.fee, IsInt64 n
  balanceBefore : ∀ n ∈ p.balanceBefore, IsInt64 n
  balanceAfter : ∀ n ∈ p.balanceAfter, IsInt64 n

structure NewLine.InWords (n : NewLine) : Prop where
  amount : IsInt64 n.amount
  fee : IsInt64 n.fee
  balanceBefore : ∀ balance ∈ n.balanceBefore, IsInt64 balance
  balanceAfter : ∀ balance ∈ n.balanceAfter, IsInt64 balance

structure NewEntry.InWords (n : NewEntry) : Prop where
  amount : IsInt64 n.amount
  fee : IsInt64 n.fee
  balanceBefore : ∀ balance ∈ n.balanceBefore, IsInt64 balance
  balanceAfter : ∀ balance ∈ n.balanceAfter, IsInt64 balance

namespace Sql

open Row

variable {r : Row} {now : Timestamp}

/-! ## Cards -/

section Cards

variable {c : Card}

theorem cardIn_row {f : String → Json} (h : CardIn f c) : CardIn (cardsTable.row f).cell c :=
  ⟨h.id, h.userId, h.cardUserId, h.providerRef, h.status, h.balance, h.spendingLimit,
    h.limitFrequency, h.isFrozen, h.declineCount, h.expirationMonth, h.expirationYear, h.lastFour,
    h.createdAt, h.updatedAt⟩

theorem CardIn.patchCard (h : CardIn r.cell c) (id : Uuid) {p : CardPatch} (hp : p.InWords)
    (hnow : IsInt64 now.seconds) :
    CardIn ((prepare (.patchCard id p)).change cardsTable now r).cell
      { p.apply c with updatedAt := now } :=
  cardIn_row {
    h with
    status := word?_coalesce p.status h.status
    spendingLimit := optInt_coalesce hp.spendingLimit h.spendingLimit
    limitFrequency := optText_coalesce p.limitFrequency h.limitFrequency
    isFrozen := bool?_coalesce p.isFrozen h.isFrozen
    declineCount := int?_zeroed p.resetDeclineCount h.declineCount
    expirationMonth := optInt_coalesce hp.expirationMonth h.expirationMonth
    expirationYear := optInt_coalesce hp.expirationYear h.expirationYear
    lastFour := optText_coalesce p.lastFour h.lastFour
    updatedAt := time?_int hnow }

theorem CardIn.setCardBalance (h : CardIn r.cell c) (id : Uuid) {balance : Int}
    (hbalance : IsInt64 balance) (reset : Bool) (hnow : IsInt64 now.seconds) :
    CardIn ((prepareTx (.setCardBalance id balance reset)).change cardsTable now r).cell
      { c with
        balance := balance
        declineCount := if reset then 0 else c.declineCount
        updatedAt := now } :=
  cardIn_row {
    h with
    balance := int?_int hbalance
    declineCount := int?_zeroed reset h.declineCount
    updatedAt := time?_int hnow }

theorem CardIn.countDecline (h : CardIn r.cell c) (id : Uuid)
    (hcount : c.declineCount < Json.maxInt64) (hnow : IsInt64 now.seconds) :
    CardIn ((prepareTx (.countDecline id)).change cardsTable now r).cell
      { c with declineCount := c.declineCount + 1, updatedAt := now } :=
  cardIn_row {
    h with
    declineCount := int?_successor h.declineCount hcount
    updatedAt := time?_int hnow }

theorem CardIn.setCardStatus (h : CardIn r.cell c) (id : Uuid) (status : CardStatus)
    (hnow : IsInt64 now.seconds) :
    CardIn ((prepareTx (.setCardStatus id status)).change cardsTable now r).cell
      { c with status := status, updatedAt := now } :=
  cardIn_row { h with status := word?_text status, updatedAt := time?_int hnow }

end Cards

/-! ## Card-users -/

section CardUsers

variable {u : CardUser}

theorem cardUserIn_row {f : String → Json} (h : CardUserIn f u) :
    CardUserIn (cardUsersTable.row f).cell u :=
  ⟨h.id, h.userId, h.providerRef, h.status, h.balance, h.createdAt, h.updatedAt⟩

theorem CardUserIn.setCardUserStatus (h : CardUserIn r.cell u) (id : Uuid) (status : String)
    (hnow : IsInt64 now.seconds) :
    CardUserIn ((prepare (.setCardUserStatus id status)).change cardUsersTable now r).cell
      { u with status := status, updatedAt := now } :=
  cardUserIn_row { h with status := rfl, updatedAt := time?_int hnow }

theorem CardUserIn.setCardUserBalance (h : CardUserIn r.cell u) (id : Uuid) {balance : Int}
    (hbalance : IsInt64 balance) (hnow : IsInt64 now.seconds) :
    CardUserIn ((prepareTx (.setCardUserBalance id balance)).change cardUsersTable now r).cell
      { u with balance := balance, updatedAt := now } :=
  cardUserIn_row { h with balance := int?_int hbalance, updatedAt := time?_int hnow }

end CardUsers

/-! ## Lines -/

section Lines

variable {l : Line}

theorem lineIn_row {f : String → Json} (h : LineIn f l) : LineIn (linesTable.row f).cell l :=
  ⟨h.id, h.cardId, h.cardUserId, h.userId, h.reference, h.kind, h.status, h.amount, h.fee,
    h.currency, h.balanceBefore, h.balanceAfter, h.name, h.city, h.country, h.category,
    h.categoryCode, h.declineReason, h.feeChargeRef, h.feeSettled, h.createdAt, h.updatedAt⟩

theorem LineIn.settleFee (h : LineIn r.cell l) (id : RowId) (chargeRef : Option String)
    (hnow : IsInt64 now.seconds) :
    LineIn ((prepare (.settleFee id chargeRef)).change linesTable now r).cell
      { l with
        feeSettled := true, feeChargeRef := chargeRef <|> l.feeChargeRef, updatedAt := now } :=
  lineIn_row {
    h with
    feeSettled := rfl
    feeChargeRef := optText_coalesce chargeRef h.feeChargeRef
    updatedAt := time?_int hnow }

theorem LineIn.patchLine (h : LineIn r.cell l) (id : RowId) {p : LinePatch} (hp : p.InWords)
    (hnow : IsInt64 now.seconds) :
    LineIn ((prepareTx (.patchLine id p)).change linesTable now r).cell
      { p.apply l with updatedAt := now } :=
  lineIn_row {
    h with
    status := word?_coalesce p.status h.status
    amount := int?_coalesce hp.amount h.amount
    fee := int?_coalesce hp.fee h.fee
    balanceBefore := optInt_coalesce hp.balanceBefore h.balanceBefore
    balanceAfter := optInt_coalesce hp.balanceAfter h.balanceAfter
    declineReason := optText_coalesce p.declineReason h.declineReason
    feeSettled := bool?_coalesce p.feeSettled h.feeSettled
    updatedAt := time?_int hnow }

theorem lineIn_createLine {n : NewLine} (hn : n.InWords) (fresh : Uuid)
    (hnow : IsInt64 now.seconds) :
    LineIn ((prepareTx (.createLine n)).newRow linesTable now fresh).cell
      (n.toLine (.assigned fresh) now) :=
  lineIn_row {
    id := congrArg (Option.map RowId.assigned) (uuid?_text fresh)
    cardId := uuid?_text n.cardId
    cardUserId := uuid?_text n.cardUserId
    userId := uuid?_text n.userId
    reference := rfl
    kind := word?_text n.kind
    status := word?_text n.status
    amount := int?_int hn.amount
    fee := int?_int hn.fee
    currency := rfl
    balanceBefore := orNull_optInt hn.balanceBefore
    balanceAfter := orNull_optInt hn.balanceAfter
    name := orNull_optText n.merchant.name
    city := orNull_optText n.merchant.city
    country := orNull_optText n.merchant.country
    category := orNull_optText n.merchant.category
    categoryCode := orNull_optText n.merchant.categoryCode
    declineReason := orNull_optText n.declineReason
    feeChargeRef := rfl
    feeSettled := rfl
    createdAt := time?_int hnow
    updatedAt := time?_int hnow }

end Lines

/-! ## Entries -/

section Entries

variable {e : Entry}

theorem entryIn_row {f : String → Json} (h : EntryIn f e) :
    EntryIn (journalTable.row f).cell e :=
  ⟨h.id, h.userId, h.reference, h.kind, h.status, h.amount, h.fee, h.currency, h.balanceBefore,
    h.balanceAfter, h.metadata, h.createdAt, h.updatedAt⟩

theorem EntryIn.patchEntry (h : EntryIn r.cell e) (id : RowId) {p : EntryPatch} (hp : p.InWords)
    (hnow : IsInt64 now.seconds) :
    EntryIn ((prepareTx (.patchEntry id p)).change journalTable now r).cell
      { p.apply e with updatedAt := now } :=
  entryIn_row {
    h with
    status := word?_coalesce p.status h.status
    amount := int?_coalesce hp.amount h.amount
    fee := int?_coalesce hp.fee h.fee
    balanceBefore := optInt_coalesce hp.balanceBefore h.balanceBefore
    balanceAfter := optInt_coalesce hp.balanceAfter h.balanceAfter
    updatedAt := time?_int hnow }

theorem entryIn_createEntry {n : NewEntry} (hn : n.InWords) (fresh : Uuid)
    (hnow : IsInt64 now.seconds) :
    EntryIn ((prepareTx (.createEntry n)).newRow journalTable now fresh).cell
      { n.toEntry (.assigned fresh) now with metadata := document n.metadata } :=
  entryIn_row {
    id := congrArg (Option.map RowId.assigned) (uuid?_text fresh)
    userId := uuid?_text n.userId
    reference := rfl
    kind := word?_text n.kind
    status := word?_text n.status
    amount := int?_int hn.amount
    fee := int?_int hn.fee
    currency := rfl
    balanceBefore := orNull_optInt hn.balanceBefore
    balanceAfter := orNull_optInt hn.balanceAfter
    metadata := rfl
    createdAt := time?_int hnow
    updatedAt := time?_int hnow }

end Entries
end Sql
end PrepaidLedger
