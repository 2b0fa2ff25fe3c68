import PrepaidLedger.Card.Basic
import PrepaidLedger.Json.Fields
import PrepaidLedger.Ledger.Transition

/-!
Rows and patches written down in JSON, to set a stage with and to call the store by. What a row does
not say has a plain default.
-/
namespace PrepaidLedger

open Json (Read Readable)

def Card.read (j : Json) : Read Card := do
  return {
    id := ← j.field "id"
    userId := ← j.field "user_id"
    cardUserId := ← j.field "card_user_id"
    providerRef := ← j.field "provider_ref"
    status := ← j.fieldD "status" .active
    balance := ← j.fieldD "balance" 0
    spendingLimit := ← j.field? "spending_limit"
    limitFrequency := ← j.field? "limit_frequency"
    isFrozen := ← j.fieldD "is_frozen" false
    declineCount := ← j.fieldD "decline_count" 0
    expirationMonth := ← j.field? "expiration_month"
    expirationYear := ← j.field? "expiration_year"
    lastFour := ← j.field? "last_four"
    createdAt := ⟨← j.fieldD "created_at" 0⟩
    updatedAt := ⟨0⟩ }

instance : Readable Card where
  read? j := (Card.read j).toOption

def CardUser.read (j : Json) : Read CardUser := do
  return {
    id := ← j.field "id"
    userId := ← j.field "user_id"
    providerRef := ← j.field "provider_ref"
    status := ← j.fieldD "status" "approved"
    balance := ← j.fieldD "balance" 0
    createdAt := ⟨0⟩
    updatedAt := ⟨0⟩ }

instance : Readable CardUser where
  read? j := (CardUser.read j).toOption

def Merchant.read (j : Json) : Read Merchant := do
  return {
    name := ← j.field? "name"
    city := ← j.field? "city"
    country := ← j.field? "country"
    category := ← j.field? "category"
    categoryCode := ← j.field? "category_code" }

instance : Readable Merchant where
  read? j := (Merchant.read j).toOption

def Line.read (j : Json) : Read Line := do
  return {
    id := .assigned .nil
    cardId := .nil
    cardUserId := .nil
    userId := ← j.fieldD "user_id" .nil
    reference := ← j.fieldD "provider_ref" ""
    kind := ← j.field "kind"
    status := ← j.field "status"
    amount := ← j.fieldD "amount" 0
    fee := ← j.fieldD "fee" 0
    currency := ← j.fieldD "currency" "USD"
    balanceBefore := ← j.field? "balance_before"
    balanceAfter := ← j.field? "balance_after"
    merchant := ← j.fieldD "merchant" .unknown
    declineReason := ← j.field? "decline_reason"
    feeChargeRef := none
    feeSettled := ← j.fieldD "fee_settled" false
    createdAt := ⟨0⟩
    updatedAt := ⟨0⟩ }

instance : Readable Line where
  read? j := (Line.read j).toOption

instance : Readable Snapshot where
  read? j := do return ⟨← (j.field "status").toOption, ← (j.field "amount").toOption⟩

def CardPatch.read (j : Json) : Read CardPatch := do
  return {
    status := ← j.field? "status"
    isFrozen := ← j.field? "is_frozen"
    spendingLimit := ← j.field? "spending_limit"
    limitFrequency := ← j.field? "limit_frequency"
    expirationMonth := ← j.field? "expiration_month"
    expirationYear := ← j.field? "expiration_year"
    lastFour := ← j.field? "last_four"
    resetDeclineCount := ← j.fieldD "reset_decline_count" false }

def NewLine.read (cardId cardUserId userId : Uuid) (j : Json) : Read NewLine := do
  let fee ← j.fieldD "fee" 0
  return {
    cardId := cardId
    cardUserId := cardUserId
    userId := userId
    reference := ← j.field "ref"
    kind := ← j.field "kind"
    status := ← j.field "status"
    amount := ← j.field "amount"
    fee := fee
    currency := ← j.fieldD "currency" "USD"
    balanceBefore := ← j.field? "balance_before"
    balanceAfter := ← j.field? "balance_after"
    merchant := ← j.fieldD "merchant" .unknown
    declineReason := ← j.field? "decline_reason"
    feeSettled := ← j.fieldD "fee_settled" (fee = 0 : Bool) }

def LinePatch.read (j : Json) : Read LinePatch := do
  return {
    status := ← j.field? "status"
    amount := ← j.field? "amount"
    fee := ← j.field? "fee"
    balanceBefore := ← j.field? "balance_before"
    balanceAfter := ← j.field? "balance_after"
    declineReason := ← j.field? "decline_reason"
    feeSettled := ← j.field? "fee_settled" }

def NewEntry.read (j : Json) : Read NewEntry := do
  return {
    userId := ← j.field "user_id"
    reference := ← j.field "ref"
    kind := ← j.field "kind"
    status := ← j.field "status"
    amount := ← j.field "amount"
    fee := ← j.fieldD "fee" 0
    currency := ← j.fieldD "currency" "USD"
    balanceBefore := ← j.field? "balance_before"
    balanceAfter := ← j.field? "balance_after"
    metadata := (j.get? "metadata").getD .null }

def EntryPatch.read (j : Json) : Read EntryPatch := do
  return {
    status := ← j.field? "status"
    amount := ← j.field? "amount"
    fee := ← j.field? "fee"
    balanceBefore := ← j.field? "balance_before"
    balanceAfter := ← j.field? "balance_after" }

end PrepaidLedger
