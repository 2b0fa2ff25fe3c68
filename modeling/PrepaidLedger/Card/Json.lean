import PrepaidLedger.Card.Basic
import PrepaidLedger.Json.Basic

/-!
Cards and card-users as they are shown.
-/
namespace PrepaidLedger

def Card.toJson (c : Card) : Json :=
  .object [
    ("id", .string c.id.text),
    ("user_id", .string c.userId.text),
    ("card_user_id", .string c.cardUserId.text),
    ("provider_ref", .string c.providerRef),
    ("status", .string c.status.word),
    ("balance", .int c.balance),
    ("spending_limit", Json.ofOption .int c.spendingLimit),
    ("limit_frequency", Json.ofOption .string c.limitFrequency),
    ("is_frozen", .bool c.isFrozen),
    ("insufficient_funds_decline_count", .int c.declineCount),
    ("expiration_month", Json.ofOption .int c.expirationMonth),
    ("expiration_year", Json.ofOption .int c.expirationYear),
    ("last_four", Json.ofOption .string c.lastFour),
    ("created_at", .string c.createdAt.text),
    ("updated_at", .string c.updatedAt.text)]

def CardUser.toJson (u : CardUser) : Json :=
  .object [
    ("id", .string u.id.text),
    ("user_id", .string u.userId.text),
    ("provider_ref", .string u.providerRef),
    ("status", .string u.status),
    ("balance", .int u.balance),
    ("created_at", .string u.createdAt.text),
    ("updated_at", .string u.updatedAt.text)]

def CardPatch.toJson (p : CardPatch) : Json :=
  .object [
    ("status", Json.ofOption (fun s => .string s.word) p.status),
    ("is_frozen", Json.ofOption .bool p.isFrozen),
    ("spending_limit", Json.ofOption .int p.spendingLimit),
    ("limit_frequency", Json.ofOption .string p.limitFrequency),
    ("expiration_month", Json.ofOption .int p.expirationMonth),
    ("expiration_year", Json.ofOption .int p.expirationYear),
    ("last_four", Json.ofOption .string p.lastFour),
    ("reset_decline_count", .bool p.resetDeclineCount)]

end PrepaidLedger
