import PrepaidLedger.Card.Basic
import PrepaidLedger.Error

/-!
What can be asked of the store: single calls that stand alone, and calls inside a transaction, whose
writes come into force together or not at all. Each call names the type of its answer.
-/
namespace PrepaidLedger

inductive StoreCall
  | ping
  | cardByRef (ref : String)
  /-- The most recent active card of a card-user, else the most recent one not canceled. -/
  | primaryCard (cardUserId : Uuid)
  | cardUserById (id : Uuid)
  | cardUserByRef (ref : String)
  | cardUserByUser (userId : Uuid)
  | lineByRef (reference : String)
  /-- Addresses are compared without regard to the case of ASCII letters. -/
  | depositAddress (chainId : Int) (address : String)
  | registerAddress (userId : Uuid) (chainId : Int) (address : String)
  | patchCard (id : Uuid) (patch : CardPatch)
  | setCardUserStatus (id : Uuid) (status : String)
  | settleFee (id : RowId) (chargeRef : Option String)
  /-- Successful and declined lines with an open fee, the oldest first. -/
  | unsettledFees (limit : Int)

@[reducible] def StoreCall.Answer : StoreCall → Type
  | .ping => Unit
  | .cardByRef _ | .primaryCard _ | .patchCard .. => Option Card
  | .cardUserById _ | .cardUserByRef _ | .cardUserByUser _ | .setCardUserStatus .. =>
    Option CardUser
  | .lineByRef _ | .settleFee .. => Option Line
  | .depositAddress .. => Option DepositAddress
  | .registerAddress .. => DepositAddress
  | .unsettledFees _ => List Line

inductive TxCall
  | card (id : Uuid)
  | cardUser (id : Uuid)
  | lineByRef (reference : String)
  | entryByRef (reference : String)
  | setCardBalance (id : Uuid) (balance : Int) (resetDeclineCount : Bool)
  | setCardUserBalance (id : Uuid) (balance : Int)
  | countDecline (id : Uuid)
  | setCardStatus (id : Uuid) (status : CardStatus)
  | createLine (line : NewLine)
  | patchLine (id : RowId) (patch : LinePatch)
  | createEntry (entry : NewEntry)
  | patchEntry (id : RowId) (patch : EntryPatch)

@[reducible] def TxCall.Answer : TxCall → Type
  | .card _ | .setCardBalance .. | .countDecline _ | .setCardStatus .. => Option Card
  | .cardUser _ | .setCardUserBalance .. => Option CardUser
  | .lineByRef _ | .patchLine .. => Option Line
  | .entryByRef _ | .patchEntry .. => Option Entry
  | .createLine _ => Line
  | .createEntry _ => Entry

end PrepaidLedger
