import PrepaidLedger.Engine.Settings
import PrepaidLedger.Text.Integer
import PrepaidLedger.Url.Basic

/-!
What an operator sets through the environment. Names count without regard to case and unknown ones
not at all; a value that cannot be read, or is given twice, is reported before one that is missing,
and that before one that makes no sense.
-/
namespace PrepaidLedger

inductive LockBackend
  | postgres
  | local
deriving DecidableEq, Repr

def LockBackend.word : LockBackend → String
  | .postgres => "postgres"
  | .local => "local"

instance : Vocabulary LockBackend where
  all := [.postgres, .local]
  word := LockBackend.word

structure Config where
  databaseUrl : String
  serverPort : Nat
  webhookSigningSecret : String
  providerApiUrl : String
  providerApiKey : String
  notificationUrl : Option String
  notificationSecret : Option String
  lockBackend : LockBackend
  lockWaitMs : Nat
  toleranceBps : Nat
  blockThreshold : Int
  depositFee : FeeRule
  declineFee : FeeRule
  feeSettlement : FeeSettlement
  feeRetryIntervalSecs : Nat
  currency : String
deriving Repr

/-! ## Errors -/

inductive UrlFault
  | tooLong
  | malformed
  | insecure
  | unsupportedScheme
deriving DecidableEq, Repr

def UrlFault.message : UrlFault → String
  | .tooLong => "URL exceeds 2048 characters"
  | .malformed => "Invalid URL format"
  | .insecure => "HTTP is only allowed for localhost. Use HTTPS for production."
  | .unsupportedScheme => "URL must use HTTP or HTTPS"

inductive ConfigError
  | missing (field : String)
  | duplicate (field : String)
  | badNumber (fault : Text.IntegerFault) (value name : String)
  | badWord (value : String) (expected : List String)
  | badUrl (name : String) (fault : UrlFault)
  | emptySecret
  | thresholdTooLow
  | negativeFee
deriving DecidableEq, Repr

namespace ConfigError

def quoted (s : String) : String := "\x60" ++ s ++ "\x60"

def message : ConfigError → String
  | .missing field => "Failed to read environment: missing value for field " ++ field
  | .duplicate field => "Failed to read environment: duplicate field " ++ quoted field
  | .badNumber fault value name =>
    "Failed to read environment: " ++ fault.message ++ " while parsing value '" ++ value ++
      "' provided by " ++ name
  | .badWord value expected =>
    "Failed to read environment: unknown variant " ++ quoted value ++ ", expected " ++
      " or ".intercalate (expected.map quoted)
  | .badUrl name fault => name ++ ": " ++ fault.message
  | .emptySecret => "WEBHOOK_SIGNING_SECRET: must not be empty"
  | .thresholdTooLow => "DECLINE_BLOCK_THRESHOLD: must be at least 1"
  | .negativeFee => "DEPOSIT_FEE_FLAT_MINOR / DECLINE_FEE_MINOR: must not be negative"

end ConfigError

/-! ## Reading -/

structure Setting where
  name : String
  value : String
deriving DecidableEq, Repr

namespace Config

abbrev Env := List Setting

def readNumber (low high : Int) (s : Setting) : Except ConfigError Int :=
  (Text.readInteger low high s.value).mapError fun fault => .badNumber fault s.value s.name

def readUnsigned (bits : Nat) (s : Setting) : Except ConfigError Nat :=
  (readNumber 0 (Int.pow 2 bits - 1) s).map Int.toNat

def readSigned (bits : Nat) : Setting → Except ConfigError Int :=
  readNumber (-Int.pow 2 (bits - 1)) (Int.pow 2 (bits - 1) - 1)

def readWord {α : Type} [Vocabulary α] (s : Setting) : Except ConfigError α :=
  match Vocabulary.ofWord? s.value with
  | some a => .ok a
  | none => .error (.badWord s.value ((Vocabulary.all : List α).map Vocabulary.word))

def readText (s : Setting) : Except ConfigError String := .ok s.value

structure Draft where
  databaseUrl : Option String := none
  serverPort : Option Nat := none
  webhookSigningSecret : Option String := none
  providerApiUrl : Option String := none
  providerApiKey : Option String := none
  notificationUrl : Option String := none
  notificationSecret : Option String := none
  lockBackend : Option LockBackend := none
  lockWaitMs : Option Nat := none
  toleranceBps : Option Nat := none
  blockThreshold : Option Int := none
  depositFeeBps : Option Nat := none
  depositFeeFlat : Option Int := none
  declineFeeFlat : Option Int := none
  feeSettlement : Option FeeSettlement := none
  feeRetryIntervalSecs : Option Nat := none
  currency : Option String := none
deriving Repr

def once {α : Type} (field : String) (known : Option α) (read : Setting → Except ConfigError α)
    (s : Setting) : Except ConfigError (Option α) :=
  match known with
  | some _ => .error (.duplicate field)
  | none => (read s).map some

def Draft.add (d : Draft) (s : Setting) : Except ConfigError Draft := do
  let field := Text.lowerCase s.name
  match field with
  | "database_url" => return { d with databaseUrl := ← once field d.databaseUrl readText s }
  | "server_port" => return { d with serverPort := ← once field d.serverPort (readUnsigned 16) s }
  | "webhook_signing_secret" =>
    return { d with webhookSigningSecret := ← once field d.webhookSigningSecret readText s }
  | "provider_api_url" =>
    return { d with providerApiUrl := ← once field d.providerApiUrl readText s }
  | "provider_api_key" =>
    return { d with providerApiKey := ← once field d.providerApiKey readText s }
  | "notification_url" =>
    return { d with notificationUrl := ← once field d.notificationUrl readText s }
  | "notification_secret" =>
    return { d with notificationSecret := ← once field d.notificationSecret readText s }
  | "lock_backend" => return { d with lockBackend := ← once field d.lockBackend readWord s }
  | "lock_wait_ms" => return { d with lockWaitMs := ← once field d.lockWaitMs (readUnsigned 64) s }
  | "amount_tolerance_bps" =>
    return { d with toleranceBps := ← once field d.toleranceBps (readUnsigned 32) s }
  | "decline_block_threshold" =>
    return { d with blockThreshold := ← once field d.blockThreshold (readSigned 32) s }
  | "deposit_fee_bps" =>
    return { d with depositFeeBps := ← once field d.depositFeeBps (readUnsigned 32) s }
  | "deposit_fee_flat_minor" =>
    return { d with depositFeeFlat := ← once field d.depositFeeFlat (readSigned 64) s }
  | "decline_fee_minor" =>
    return { d with declineFeeFlat := ← once field d.declineFeeFlat (readSigned 64) s }
  | "fee_settlement" => return { d with feeSettlement := ← once field d.feeSettlement readWord s }
  | "fee_retry_interval_secs" =>
    return { d with
      feeRetryIntervalSecs := ← once field d.feeRetryIntervalSecs (readUnsigned 64) s }
  | "currency" => return { d with currency := ← once field d.currency readText s }
  | _ => return d

/-- Reads one variable after the other; the first that cannot be read decides. -/
def draft (env : Env) : Except ConfigError Draft := env.foldlM Draft.add {}

def required {α : Type} (field : String) (value : Option α) : Except ConfigError α :=
  value.elim (.error (.missing field)) .ok

def Draft.complete (d : Draft) : Except ConfigError Config := do
  return {
    databaseUrl := ← required "database_url" d.databaseUrl
    serverPort := d.serverPort.getD 3000
    webhookSigningSecret := ← required "webhook_signing_secret" d.webhookSigningSecret
    providerApiUrl := ← required "provider_api_url" d.providerApiUrl
    providerApiKey := ← required "provider_api_key" d.providerApiKey
    notificationUrl := d.notificationUrl
    notificationSecret := d.notificationSecret
    lockBackend := d.lockBackend.getD .postgres
    lockWaitMs := d.lockWaitMs.getD 10000
    toleranceBps := d.toleranceBps.getD 500
    blockThreshold := d.blockThreshold.getD 5
    depositFee := ⟨d.depositFeeBps.getD 100, d.depositFeeFlat.getD 0⟩
    declineFee := ⟨0, d.declineFeeFlat.getD 0⟩
    feeSettlement := d.feeSettlement.getD .providerCharge
    feeRetryIntervalSecs := d.feeRetryIntervalSecs.getD 300
    currency := d.currency.getD "USD" }

/-! ## Checking -/

def maxUrlBytes : Nat := 2048

def localHosts : List String := ["localhost", "127.0.0.1", "0.0.0.0"]

def checkUrl (url : String) : Except UrlFault Unit :=
  if maxUrlBytes < url.utf8ByteSize then .error .tooLong
  else
    match Url.ofText? url with
    | none => .error .malformed
    | some u =>
      if u.scheme = "https" then .ok ()
      else if u.scheme ≠ "http" then .error .unsupportedScheme
      else if u.host.text ∈ localHosts then .ok ()
      else .error .insecure

def checkNamedUrl (name url : String) : Except ConfigError Unit :=
  (checkUrl url).mapError (.badUrl name)

def check (c : Config) : Except ConfigError Unit := do
  checkNamedUrl "PROVIDER_API_URL" c.providerApiUrl
  match c.notificationUrl with
  | some url => checkNamedUrl "NOTIFICATION_URL" url
  | none => pure ()
  if c.webhookSigningSecret = "" then throw .emptySecret
  if c.blockThreshold < 1 then throw .thresholdTooLow
  if c.depositFee.flat < 0 ∨ c.declineFee.flat < 0 then throw .negativeFee

def ofEnv (env : Env) : Except ConfigError Config := do
  let c ← (← draft env).complete
  check c
  return c

def feeRetryInterval? (c : Config) : Option Nat :=
  if 0 < c.feeRetryIntervalSecs then some c.feeRetryIntervalSecs else none

def settings (c : Config) : Settings where
  tolerance := ⟨c.toleranceBps⟩
  declinePolicy := ⟨c.blockThreshold⟩
  currency := c.currency
  fees := ⟨c.depositFee, c.declineFee, c.feeSettlement⟩
  effects := .background

end Config
end PrepaidLedger
