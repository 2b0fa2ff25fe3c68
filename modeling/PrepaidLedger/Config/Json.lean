import PrepaidLedger.Config

/-!
A config as it is shown to the operator.
-/
namespace PrepaidLedger

def LockBackend.title : LockBackend → String
  | .postgres => "Postgres"
  | .local => "Local"

def FeeSettlement.title : FeeSettlement → String
  | .providerCharge => "ProviderCharge"
  | .inline => "Inline"

def EffectTiming.title : EffectTiming → String
  | .background => "Background"
  | .inline => "Inline"

def FeeRule.toJson (r : FeeRule) : Json :=
  .object [("bps", .int r.bps), ("flat_minor", .int r.flat)]

def Config.toJson (c : Config) : Json :=
  .object [
    ("database_url", .string c.databaseUrl),
    ("server_port", .int c.serverPort),
    ("webhook_signing_secret", .string c.webhookSigningSecret),
    ("provider_api_url", .string c.providerApiUrl),
    ("provider_api_key", .string c.providerApiKey),
    ("notification_url", Json.ofOption .string c.notificationUrl),
    ("notification_secret", Json.ofOption .string c.notificationSecret),
    ("lock_backend", .string c.lockBackend.title),
    ("lock_wait_ms", .int c.lockWaitMs),
    ("fee_retry_interval_secs", Json.ofOption (fun n => .int n) c.feeRetryInterval?),
    ("deposit_fee", c.settings.fees.deposit.toJson),
    ("decline_fee", c.settings.fees.decline.toJson),
    ("fee_settlement", .string c.settings.fees.settlement.title),
    ("tolerance_bps", .int c.settings.tolerance.bps),
    ("block_threshold", .int c.settings.declinePolicy.blockThreshold),
    ("currency", .string c.settings.currency),
    ("side_effects", .string c.settings.effects.title)]

end PrepaidLedger
