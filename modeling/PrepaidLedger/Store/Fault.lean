import PrepaidLedger.Store.Backend

/-!
A store that fails on command. A plan lists which operations misbehave, after how many good calls
and how often, so that every error path of a program can be walked.
-/
namespace PrepaidLedger

inductive Operation
  | ping
  | cardByRef
  | primaryCard
  | cardUserById
  | cardUserByRef
  | cardUserByUser
  | lineByRef
  | depositAddress
  | registerAddress
  | patchCard
  | setCardUserStatus
  | settleFee
  | unsettledFees
  | begin
  | txCard
  | txCardUser
  | txLineByRef
  | txEntryByRef
  | setCardBalance
  | setCardUserBalance
  | countDecline
  | setCardStatus
  | createLine
  | patchLine
  | createEntry
  | patchEntry
  | commit
  | rollback
deriving DecidableEq, Repr

namespace Operation

def all : List Operation :=
  [.ping, .cardByRef, .primaryCard, .cardUserById, .cardUserByRef, .cardUserByUser, .lineByRef,
    .depositAddress, .registerAddress, .patchCard, .setCardUserStatus, .settleFee, .unsettledFees,
    .begin, .txCard, .txCardUser, .txLineByRef, .txEntryByRef, .setCardBalance,
    .setCardUserBalance, .countDecline, .setCardStatus, .createLine, .patchLine, .createEntry,
    .patchEntry, .commit, .rollback]

def word : Operation → String
  | .ping => "ping"
  | .cardByRef => "find_card_by_provider_ref"
  | .primaryCard => "find_primary_card"
  | .cardUserById => "find_card_user_by_id"
  | .cardUserByRef => "find_card_user_by_provider_ref"
  | .cardUserByUser => "find_card_user_by_user_id"
  | .lineByRef => "find_card_transaction_by_ref"
  | .depositAddress => "find_deposit_address"
  | .registerAddress => "upsert_deposit_address"
  | .patchCard => "update_card_profile"
  | .setCardUserStatus => "update_card_user_status"
  | .settleFee => "mark_fee_settled"
  | .unsettledFees => "find_unsettled_fees"
  | .begin => "begin"
  | .txCard => "card_by_id"
  | .txCardUser => "card_user_by_id"
  | .txLineByRef => "card_transaction_by_ref"
  | .txEntryByRef => "main_transaction_by_ref"
  | .setCardBalance => "update_card_balance"
  | .setCardUserBalance => "update_card_user_balance"
  | .countDecline => "increment_decline_count"
  | .setCardStatus => "update_card_status"
  | .createLine => "create_card_transaction"
  | .patchLine => "update_card_transaction"
  | .createEntry => "create_main_transaction"
  | .patchEntry => "update_main_transaction"
  | .commit => "commit"
  | .rollback => "rollback"

end Operation

instance : Vocabulary Operation where
  all := Operation.all
  word := Operation.word

def StoreCall.operation : StoreCall → Operation
  | .ping => .ping
  | .cardByRef _ => .cardByRef
  | .primaryCard _ => .primaryCard
  | .cardUserById _ => .cardUserById
  | .cardUserByRef _ => .cardUserByRef
  | .cardUserByUser _ => .cardUserByUser
  | .lineByRef _ => .lineByRef
  | .depositAddress .. => .depositAddress
  | .registerAddress .. => .registerAddress
  | .patchCard .. => .patchCard
  | .setCardUserStatus .. => .setCardUserStatus
  | .settleFee .. => .settleFee
  | .unsettledFees _ => .unsettledFees

def TxCall.operation : TxCall → Operation
  | .card _ => .txCard
  | .cardUser _ => .txCardUser
  | .lineByRef _ => .txLineByRef
  | .entryByRef _ => .txEntryByRef
  | .setCardBalance .. => .setCardBalance
  | .setCardUserBalance .. => .setCardUserBalance
  | .countDecline _ => .countDecline
  | .setCardStatus .. => .setCardStatus
  | .createLine _ => .createLine
  | .patchLine .. => .patchLine
  | .createEntry _ => .createEntry
  | .patchEntry .. => .patchEntry

inductive FaultEffect
  | noRow
  | fail (e : StoreError)
  /-- A balance is read, or written, wrong by so much. -/
  | skew (amount : Int)
deriving DecidableEq, Repr

structure Fault where
  operation : Operation
  effect : FaultEffect
  -- Calls that still pass unharmed.
  skip : Nat
  -- Calls that will still be hit.
  times : Nat
deriving DecidableEq, Repr

/-- The effect on the next call of an operation: the first fault of that name with times left
decides, and is used up a little. -/
def strike (op : Operation) : List Fault → Option FaultEffect × List Fault
  | [] => (none, [])
  | f :: rest =>
    if f.operation = op ∧ f.times ≠ 0 then
      if f.skip ≠ 0 then (none, { f with skip := f.skip - 1 } :: rest)
      else (some f.effect, { f with times := f.times - 1 } :: rest)
    else
      let (e, rest) := strike op rest
      (e, f :: rest)

/-! ## What an effect does to a call -/

def StoreCall.noRow? : (c : StoreCall) → Option c.Answer
  | .ping | .registerAddress .. | .unsettledFees _ => none
  | .cardByRef _ | .primaryCard _ | .patchCard .. => some none
  | .cardUserById _ | .cardUserByRef _ | .cardUserByUser _ | .setCardUserStatus .. => some none
  | .lineByRef _ | .settleFee .. => some none
  | .depositAddress .. => some none

def TxCall.noRow? : (c : TxCall) → Option c.Answer
  | .createLine _ | .createEntry _ => none
  | .card _ | .setCardBalance .. | .countDecline _ | .setCardStatus .. => some none
  | .cardUser _ | .setCardUserBalance .. => some none
  | .lineByRef _ | .patchLine .. => some none
  | .entryByRef _ | .patchEntry .. => some none

def TxCall.skewAnswer (n : Int) : (c : TxCall) → c.Answer → c.Answer
  | .card _, a => a.map fun c => { c with balance := c.balance + n }
  | .cardUser _, a => a.map fun u => { u with balance := u.balance + n }
  | _, a => a

structure Faulty (σ : Type) where
  inner : σ
  faults : List Fault

namespace Faulty

variable {σ : Type}

def onInner (f : σ → σ) (s : Faulty σ) : Faulty σ := { s with inner := f s.inner }

def pass {α : Type} (f : σ → α × σ) (s : Faulty σ) : α × Faulty σ :=
  let (a, inner) := f s.inner
  (a, { s with inner := inner })

def plain (op : Operation) (f : σ → Except StoreError Unit × σ) (s : Faulty σ) :
    Except StoreError Unit × Faulty σ :=
  let (effect, faults) := strike op s.faults
  let s := { s with faults := faults }
  match effect with
  | some (.fail e) => (.error e, s)
  | _ => pass f s

def call (B : Backend σ) (c : StoreCall) (s : Faulty σ) :
    Except StoreError c.Answer × Faulty σ :=
  let (effect, faults) := strike c.operation s.faults
  let s := { s with faults := faults }
  match effect with
  | some (.fail e) => (.error e, s)
  | some .noRow =>
    match c.noRow? with
    | some a => (.ok a, s)
    | none => pass (B.call c) s
  | _ => pass (B.call c) s

def tx (B : Backend σ) (c : TxCall) (s : Faulty σ) : Except StoreError c.Answer × Faulty σ :=
  let (effect, faults) := strike c.operation s.faults
  let s := { s with faults := faults }
  match effect with
  | some (.fail e) => (.error e, s)
  | some .noRow =>
    match c.noRow? with
    | some a => (.ok a, s)
    | none => pass (B.tx c) s
  | some (.skew n) =>
    match c with
    | .setCardBalance id balance reset => pass (B.tx (.setCardBalance id (balance + n) reset)) s
    | .setCardUserBalance id balance => pass (B.tx (.setCardUserBalance id (balance + n))) s
    | c =>
      let (a, s) := pass (B.tx c) s
      (a.map (c.skewAnswer n), s)
  | none => pass (B.tx c) s

def backend (B : Backend σ) : Backend (Faulty σ) where
  call := call B
  begin := plain .begin B.begin
  tx := tx B
  commit := plain .commit B.commit
  rollback := plain .rollback B.rollback
  abandon := onInner B.abandon
  acquire key := pass (B.acquire key)
  release key := onInner (B.release key)

end Faulty
end PrepaidLedger
