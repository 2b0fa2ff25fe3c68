import PrepaidLedger.Error
import PrepaidLedger.Json.Parser
import PrepaidLedger.Json.Printer
import PrepaidLedger.Sql.Table

/-!
Rows as the database gives them, and what they say about the domain. Statuses and kinds are stored
as words; a word outside its vocabulary makes the row corrupt, never a default.
-/
namespace PrepaidLedger.Sql

abbrev Row := List (String × Json)

def undecodable (column : String) : String := "error occurred while decoding column " ++ column

def missingValue (column : String) : StoreError :=
  .database (undecodable column ++ ": unexpected null; try decoding as an \x60Option\x60")

def columnNamed (name : String) : String := "\"" ++ name ++ "\""

namespace Row

def cell (r : Row) (column : String) : Json := (r.lookup column).getD .null

def read {α : Type} (value? : Json → Option α) (r : Row) (column : String) : Except StoreError α :=
  match value? (r.cell column) with
  | some a => .ok a
  | none => .error (.database (undecodable (columnNamed column)))

def orNull {α : Type} (value? : Json → Option α) : Json → Option (Option α)
  | .null => some none
  | v => (value? v).map some

def int? : Json → Option Int
  | .number n => n.toInt64?
  | _ => none

def bool? : Json → Option Bool
  | .bool b => some b
  | _ => none

/-- A document is stored as the text that it was sent as. To read that text again may move a number
that is not whole by a last digit. -/
def document (j : Json) : Json := (Json.ofText? j.text).getD j

def uuid? (j : Json) : Option Uuid := j.string?.bind Uuid.ofText?

def uuid : Row → String → Except StoreError Uuid := read uuid?
def text : Row → String → Except StoreError String := read Json.string?
def int : Row → String → Except StoreError Int := read int?
def bool : Row → String → Except StoreError Bool := read bool?
def text? : Row → String → Except StoreError (Option String) := read (orNull Json.string?)
def optInt : Row → String → Except StoreError (Option Int) := read (orNull int?)
def time : Row → String → Except StoreError Timestamp := read fun j => (int? j).map (⟨·⟩)

def word {α : Type} [StoredVocabulary α] (table : String) (r : Row) (column : String) :
    Except StoreError α := do
  (StoredVocabulary.read (← r.text column)).mapError (.corruptRow table)

end Row

def Table.firstMissing? (t : Table) (r : Row) : Option Column :=
  t.columns.find? fun c => !c.admitsNull && (r.cell c.name).isNull

def Table.check (t : Table) (r : Row) : Except StoreError Unit :=
  match t.firstMissing? r with
  | some c => .error (missingValue (columnNamed c.name))
  | none => .ok ()

/-! ## Rows of the tables

That nothing is missing in a row is settled before the words in it are read. -/

def cardOfRow (r : Row) : Except StoreError Card := do
  cardsTable.check r
  return {
    id := ← r.uuid "id"
    userId := ← r.uuid "user_id"
    cardUserId := ← r.uuid "card_user_id"
    providerRef := ← r.text "provider_ref"
    status := ← r.word cards "status"
    balance := ← r.int "balance"
    spendingLimit := ← r.optInt "spending_limit"
    limitFrequency := ← r.text? "limit_frequency"
    isFrozen := ← r.bool "is_frozen"
    declineCount := ← r.int "insufficient_funds_decline_count"
    expirationMonth := ← r.optInt "expiration_month"
    expirationYear := ← r.optInt "expiration_year"
    lastFour := ← r.text? "last_four"
    createdAt := ← r.time "created_at"
    updatedAt := ← r.time "updated_at" }

def cardUserOfRow (r : Row) : Except StoreError CardUser := do
  cardUsersTable.check r
  return {
    id := ← r.uuid "id"
    userId := ← r.uuid "user_id"
    providerRef := ← r.text "provider_ref"
    status := ← r.text "status"
    balance := ← r.int "balance"
    createdAt := ← r.time "created_at"
    updatedAt := ← r.time "updated_at" }

def lineOfRow (r : Row) : Except StoreError Line := do
  linesTable.check r
  return {
    id := .assigned (← r.uuid "id")
    cardId := ← r.uuid "card_id"
    cardUserId := ← r.uuid "card_user_id"
    userId := ← r.uuid "user_id"
    reference := ← r.text "provider_ref"
    kind := ← r.word lines "kind"
    status := ← r.word lines "status"
    amount := ← r.int "amount"
    fee := ← r.int "fee"
    currency := ← r.text "currency"
    balanceBefore := ← r.optInt "balance_before"
    balanceAfter := ← r.optInt "balance_after"
    merchant := {
      name := ← r.text? "merchant_name"
      city := ← r.text? "merchant_city"
      country := ← r.text? "merchant_country"
      category := ← r.text? "merchant_category"
      categoryCode := ← r.text? "merchant_category_code" }
    declineReason := ← r.text? "decline_reason"
    feeChargeRef := ← r.text? "fee_provider_ref"
    feeSettled := ← r.bool "fee_settled"
    createdAt := ← r.time "created_at"
    updatedAt := ← r.time "updated_at" }

def entryOfRow (r : Row) : Except StoreError Entry := do
  journalTable.check r
  return {
    id := .assigned (← r.uuid "id")
    userId := ← r.uuid "user_id"
    reference := ← r.text "reference"
    kind := ← r.word journal "kind"
    status := ← r.word journal "status"
    amount := ← r.int "amount"
    fee := ← r.int "fee"
    currency := ← r.text "currency"
    balanceBefore := ← r.optInt "balance_before"
    balanceAfter := ← r.optInt "balance_after"
    metadata := Row.document (r.cell "metadata")
    createdAt := ← r.time "created_at"
    updatedAt := ← r.time "updated_at" }

def addressOfRow (r : Row) : Except StoreError DepositAddress := do
  addressesTable.check r
  return {
    id := .assigned (← r.uuid "id")
    userId := ← r.uuid "user_id"
    chainId := ← r.int "chain_id"
    address := ← r.text "address"
    createdAt := ← r.time "created_at" }

end PrepaidLedger.Sql
