import PrepaidLedger.Ledger.Line

/-!
Lines, journal entries and deposit addresses as they are shown.
-/
namespace PrepaidLedger

def Merchant.toJson (m : Merchant) : Json :=
  .object [
    ("name", Json.ofOption .string m.name),
    ("city", Json.ofOption .string m.city),
    ("country", Json.ofOption .string m.country),
    ("category", Json.ofOption .string m.category),
    ("category_code", Json.ofOption .string m.categoryCode)]

def Line.toJson (l : Line) : Json :=
  .object [
    ("id", .string l.id.text),
    ("card_id", .string l.cardId.text),
    ("card_user_id", .string l.cardUserId.text),
    ("user_id", .string l.userId.text),
    ("provider_ref", .string l.reference),
    ("kind", .string l.kind.word),
    ("status", .string l.status.word),
    ("amount", .int l.amount),
    ("fee", .int l.fee),
    ("currency", .string l.currency),
    ("balance_before", Json.ofOption .int l.balanceBefore),
    ("balance_after", Json.ofOption .int l.balanceAfter),
    ("merchant", l.merchant.toJson),
    ("decline_reason", Json.ofOption .string l.declineReason),
    ("fee_provider_ref", Json.ofOption .string l.feeChargeRef),
    ("fee_settled", .bool l.feeSettled),
    ("created_at", .string l.createdAt.text),
    ("updated_at", .string l.updatedAt.text)]

def Entry.toJson (e : Entry) : Json :=
  .object [
    ("id", .string e.id.text),
    ("user_id", .string e.userId.text),
    ("reference", .string e.reference),
    ("kind", .string e.kind.word),
    ("status", .string e.status.word),
    ("amount", .int e.amount),
    ("fee", .int e.fee),
    ("currency", .string e.currency),
    ("balance_before", Json.ofOption .int e.balanceBefore),
    ("balance_after", Json.ofOption .int e.balanceAfter),
    ("metadata", e.metadata),
    ("created_at", .string e.createdAt.text),
    ("updated_at", .string e.updatedAt.text)]

def DepositAddress.toJson (a : DepositAddress) : Json :=
  .object [
    ("id", .string a.id.text),
    ("user_id", .string a.userId.text),
    ("chain_id", .int a.chainId),
    ("address", .string a.address),
    ("created_at", .string a.createdAt.text)]

end PrepaidLedger
