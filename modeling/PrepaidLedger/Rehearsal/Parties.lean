import PrepaidLedger.Engine.World

/-!
Parties that do as they are told: a provider that numbers the charges put to it, and a receiver of
notices. Each may be told to refuse everything.
-/
namespace PrepaidLedger.Rehearsal

structure Parties where
  providerFails : Bool
  notifierFails : Bool
  logsNotices : Bool
  lockFailure : LockKey → Option LockError

def chargesAsked (messages : List Outbound) : Nat :=
  messages.countP fun
    | .charge .. => true
    | _ => false

namespace Parties

def willing : Parties := ⟨false, false, false, fun _ => none⟩

def acceptsNotices (p : Parties) : Bool := p.logsNotices || !p.notifierFails

def collaborators (p : Parties) : Collaborators where
  charge history _ :=
    if p.providerFails then none else some ("chg_" ++ toString (chargesAsked history + 1))
  lockCard _ _ := !p.providerFails
  notify _ _ := p.acceptsNotices
  announce _ _ := p.acceptsNotices

def witness (p : Parties) : Outbound → Bool
  | .charge .. => true
  | .cardLock .. => true
  | .notice _ accepted => accepted && !p.logsNotices
  | .balance _ accepted => accepted && !p.logsNotices

end Parties
end PrepaidLedger.Rehearsal
