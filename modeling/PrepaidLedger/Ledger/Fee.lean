import PrepaidLedger.Ledger.Line

/-!
Fees: what is asked for a deposit or for a decline for want of funds, whether it is charged at the
provider or only kept back, and which lines still owe one.
-/
namespace PrepaidLedger

inductive FeeSettlement
  /-- Collected by a charge at the provider once the line is written. -/
  | providerCharge
  /-- Kept back from the credit, and settled with that. -/
  | inline
deriving DecidableEq, Repr

def FeeSettlement.word : FeeSettlement → String
  | .providerCharge => "provider_charge"
  | .inline => "inline"

instance : Vocabulary FeeSettlement where
  all := [.providerCharge, .inline]
  word := FeeSettlement.word

structure FeeRule where
  bps : Nat
  flat : Int
deriving DecidableEq, Repr

def FeeRule.none : FeeRule := ⟨0, 0⟩

namespace FeeRule

def basisPoints : Int := 10000

def share (r : FeeRule) (amount : Int) : Int := max amount 0 * r.bps

/-- The share rounded to the nearest unit, a half upward, and the flat part if it is positive; never
above the greatest 64-bit number. -/
def rounded (r : FeeRule) (amount : Int) : Int :=
  min ((r.share amount + basisPoints / 2) / basisPoints + max r.flat 0) Json.maxInt64

def isPositive (r : FeeRule) (amount : Int) : Bool := 0 < r.share amount ∨ 0 < r.flat

end FeeRule

structure FeeSchedule where
  deposit : FeeRule
  decline : FeeRule
  settlement : FeeSettlement
deriving DecidableEq, Repr

inductive FeeKind
  | deposit
  | decline
deriving DecidableEq, Repr

def FeeKind.description : FeeKind → String
  | .deposit => "Deposit fee"
  | .decline => "Insufficient funds decline fee"

structure FeeQuote where
  fee : Int
  requiresCharge : Bool
deriving DecidableEq, Repr

def FeeQuote.free : FeeQuote := ⟨0, false⟩

def FeeQuote.settledOnWrite (q : FeeQuote) : Bool := !q.requiresCharge

def FeeSchedule.rule (s : FeeSchedule) : FeeKind → FeeRule
  | .deposit => s.deposit
  | .decline => s.decline

/-- A decline moves no money to keep a fee back from, so its fee is always charged. -/
def FeeSchedule.settlementOf (s : FeeSchedule) : FeeKind → FeeSettlement
  | .deposit => s.settlement
  | .decline => .providerCharge

/-- A fee to be charged is at least one unit if it is anything; one kept back may round to
nothing. -/
def FeeSchedule.quote (s : FeeSchedule) (kind : FeeKind) (amount : Int) : FeeQuote :=
  let rule := s.rule kind
  let rounded := rule.rounded amount
  match s.settlementOf kind with
  | .providerCharge =>
    if 0 < rounded then ⟨rounded, true⟩
    else if rule.isPositive amount then ⟨1, true⟩
    else .free
  | .inline => if 0 < rounded then ⟨rounded, false⟩ else .free

/-- Only successful deposits and declined spends owe a fee. -/
def Line.feeDue (l : Line) : Bool :=
  0 < l.fee && !l.feeSettled &&
    match l.kind, l.status with
    | .deposit, .successful => true
    | .spend, .declined => true
    | _, _ => false

def Line.feeKind (l : Line) : FeeKind :=
  match l.kind with
  | .deposit => .deposit
  | .spend => .decline

end PrepaidLedger
