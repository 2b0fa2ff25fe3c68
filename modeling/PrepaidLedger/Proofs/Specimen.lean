import PrepaidLedger.Proofs.Engine.Serial
import PrepaidLedger.Proofs.Traffic.Basic

/-! A small ledger to try statements on: one user with two cards, and parties outside that refuse
whatever they are asked. -/

namespace PrepaidLedger.Specimen

def card (id : BitVec 128) (ref : String) (balance : Int) : Card where
  id := ⟨id⟩
  userId := ⟨9⟩
  cardUserId := ⟨5⟩
  providerRef := ref
  status := .active
  balance := balance
  spendingLimit := none
  limitFrequency := none
  isFrozen := false
  declineCount := 0
  expirationMonth := none
  expirationYear := none
  lastFour := none
  createdAt := ⟨id.toNat⟩
  updatedAt := ⟨0⟩

def owner (balance : Int) : CardUser := ⟨⟨5⟩, ⟨9⟩, "owner", "approved", balance, ⟨0⟩, ⟨0⟩⟩

def tables : Tables :=
  { Tables.empty with
    cards := [card 1 "first" 20, card 2 "second" 30]
    cardUsers := [owner 50] }

def world : World Memory := .ofStore (.ofTables tables)

def settings : Settings := .standard ⟨⟨250, 0⟩, .none, .providerCharge⟩

def refusing : Collaborators :=
  ⟨fun _ _ => none, fun _ _ => false, fun _ _ => false, fun _ _ => false⟩

def spendEnvelope (reference cardRef status : String) (amount : Int) : Envelope where
  id := "envelope"
  resource := "transaction"
  action := "created"
  body := .object [("id", reference), ("type", "spend"),
    ("spend", .object [("amount", amount), ("cardId", cardRef), ("status", status)])]

def spendTurn (reference cardRef status : String) (amount : Int) : Turn :=
  ⟨fun _ => none, refusing, .event (spendEnvelope reference cardRef status amount)⟩

def spendEvent (cardRef : String) (status : SpendStatus) (amount : Nat) : SpendEvent where
  amount := .finite false amount 0
  currency := none
  cardRef := cardRef
  userRef := none
  status := status
  declinedReason := none
  merchant := .unknown

def turn (resource action : String) (body : Json) : Turn :=
  ⟨fun _ => none, refusing, .event ⟨"envelope", resource, action, body⟩⟩

def declinedTurn : Turn :=
  turn "transaction" "created" (.object [("id", "u"), ("type", "spend"),
    ("spend", .object [("amount", (20 : Int)), ("cardId", "first"), ("status", "declined"),
      ("declinedReason", "insufficient funds")])])

def collateralTurn (reference : String) (status : CollateralStatus) (amount : Int) : Turn :=
  turn "transaction" "created" (.object [("id", reference), ("type", "collateral"),
    ("collateral", .object [("amount", amount), ("userId", "owner"), ("status", status.word)])])

def cardTurn (cardRef : String) (status : ProviderCardStatus) : Turn :=
  turn "card" "updated" (.object [("id", cardRef), ("status", status.word)])

theorem not_posted_cardTurn (cardRef : String) (status : ProviderCardStatus) (reference : String)
    (kind : LineKind) : ¬ Posted [cardTurn cardRef status] reference kind := by
  refine not_posted_of_resource (fun turn hturn e he => ?_) reference kind
  obtain rfl := List.mem_singleton.mp hturn
  obtain rfl := Job.event.inj he
  exact (by decide : "card" ≠ "transaction")

def collateral (status : CollateralStatus) (amount : Int) : CollateralEvent where
  amount := .ofInt amount
  currency := none
  userRef := some "owner"
  chainId := none
  walletAddress := none
  transactionHash := none
  status := status

def deposit (status : CollateralStatus) (amount : Int) (fee : FeeQuote) : Posting where
  reference := "t"
  kind := .deposit
  status := status.toLine
  amount := amount
  fee := fee
  credit := amount - fee.fee
  currency := "USD"
  merchant := .unknown
  declineReason := none
  metadata := .object [("cardId", .string (card 2 "second" 30).id.text), ("chainId", .null),
    ("walletAddress", .null), ("transactionHash", .null)]
  countsDecline := false

def deposited (s : Settings) (status : CollateralStatus) (amount : Int) (fee : FeeQuote) :
    World Memory :=
  let c := tables.changeOf s (deposit status amount fee) (card 2 "second" 30) (owner 50)
  ((startEffects s c.applied).runIn (Memory.backend fun _ => none) refusing
    (world.resting (tables.apply c))).2

def move (act : Act) : Move := ⟨fun _ => none, refusing, act⟩

def held : List Move := [move (.spend "t" (spendEvent "first" .pending 20)), move (.write 0)]

def contradicted : List Move :=
  [move (.spend "t" (spendEvent "first" .completed 20)),
    move (.spend "t" (spendEvent "first" .declined 20)), move (.write 1), move (.write 0)]

/-- One reference on two cards, prepared before either is written, and the first one written. -/
def crossing : List Move :=
  [move (.spend "t" (spendEvent "first" .pending 10)),
    move (.spend "t" (spendEvent "second" .declined 10)), move (.write 0)]

end PrepaidLedger.Specimen
