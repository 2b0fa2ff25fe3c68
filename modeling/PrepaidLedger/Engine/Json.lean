import PrepaidLedger.Engine.World

/-!
Messages to the parties outside as they are shown.
-/
namespace PrepaidLedger

def Charge.toJson (c : Charge) : Json :=
  .object [
    ("provider_user_ref", .string c.userRef),
    ("amount_minor", .int c.amount),
    ("description", .string c.description),
    ("idempotency_key", .string c.idempotencyKey)]

def Outbound.entry : Outbound → String × Json
  | .charge c _ => ("charges", c.toJson)
  | .cardLock ref _ =>
    ("status_updates", .object [("provider_card_ref", .string ref), ("status", .string "locked")])
  | .notice n _ =>
    ("notifications",
      .object [("channels", channelsJson n.kind.channels), ("notification", n.toJson)])
  | .balance c _ => ("balance_events", .object c.members)

def outboundMembers (messages : List Outbound) : List (String × Json) :=
  let entries := messages.map Outbound.entry
  ["charges", "status_updates", "notifications", "balance_events"].filterMap fun name =>
    match entries.filter (·.1 = name) with
    | [] => none
    | listed => some (name, .array (listed.map (·.2)))

end PrepaidLedger
