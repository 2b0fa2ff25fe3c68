import PrepaidLedger.Event.Envelope
import PrepaidLedger.Event.Profile
import PrepaidLedger.Event.Transaction
import PrepaidLedger.Ledger.Json
import PrepaidLedger.Number.Shortest

/-!
Events as they are shown: every field under its name, absent ones as null.
-/
namespace PrepaidLedger

def SpendEvent.toJson (e : SpendEvent) : Json :=
  .object [
    ("amount", .string e.amount.text),
    ("currency", Json.ofOption .string e.currency),
    ("card_id", .string e.cardRef),
    ("user_id", Json.ofOption .string e.userRef),
    ("status", .string e.status.word),
    ("declined_reason", Json.ofOption .string e.declinedReason),
    ("merchant", e.merchant.toJson)]

def CollateralEvent.toJson (e : CollateralEvent) : Json :=
  .object [
    ("amount", .string e.amount.text),
    ("currency", Json.ofOption .string e.currency),
    ("user_id", Json.ofOption .string e.userRef),
    ("chain_id", Json.ofOption .int e.chainId),
    ("wallet_address", Json.ofOption .string e.walletAddress),
    ("transaction_hash", Json.ofOption .string e.transactionHash),
    ("status", .string e.status.word)]

def TransactionEvent.toJson (e : TransactionEvent) : Json :=
  .object [
    ("id", .string e.id),
    ("type", .string e.kind),
    ("spend", Json.ofOption SpendEvent.toJson e.spend),
    ("collateral", Json.ofOption CollateralEvent.toJson e.collateral)]

def CardLimit.toJson (l : CardLimit) : Json :=
  .object [("amount", .int l.amount), ("frequency", Json.ofOption .string l.frequency)]

def CardEvent.toJson (e : CardEvent) : Json :=
  .object [
    ("id", .string e.cardRef),
    ("status", Json.ofOption (fun s => .string s.word) e.status),
    ("limit", Json.ofOption CardLimit.toJson e.limit),
    ("expiration_month", e.expirationMonth.getD .null),
    ("expiration_year", e.expirationYear.getD .null),
    ("last4", Json.ofOption .string e.lastFour)]

def UserEvent.toJson (e : UserEvent) : Json :=
  .object [
    ("id", .string e.userRef),
    ("application_status", Json.ofOption .string e.applicationStatus)]

def ContractEvent.toJson (e : ContractEvent) : Json :=
  .object [
    ("id", .string e.id),
    ("user_id", .string e.userRef),
    ("chain_id", .int e.chainId),
    ("deposit_address", .string e.depositAddress)]

def Envelope.toJson (e : Envelope) : Json :=
  .object [
    ("id", .string e.id),
    ("resource", .string e.resource),
    ("action", .string e.action),
    ("body", e.body)]

end PrepaidLedger
