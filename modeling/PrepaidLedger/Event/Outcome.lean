import PrepaidLedger.Json.Basic
import PrepaidLedger.Vocabulary

/-!
The uniform answer to every event: a status, the action it answers, and further fields.
-/
namespace PrepaidLedger

inductive OutcomeStatus
  | processed
  | approved
  | rejected
  | ignored
deriving DecidableEq, Repr

def OutcomeStatus.word : OutcomeStatus → String
  | .processed => "processed"
  | .approved => "approved"
  | .rejected => "rejected"
  | .ignored => "ignored"

instance : Vocabulary OutcomeStatus where
  all := [.processed, .approved, .rejected, .ignored]
  word := OutcomeStatus.word

structure Outcome where
  status : OutcomeStatus
  action : String
  fields : List (String × Json)
deriving Repr

namespace Outcome

def ofStatus (status : OutcomeStatus) (action : String) : Outcome := ⟨status, action, []⟩

def withField (o : Outcome) (name : String) (value : Json) : Outcome :=
  { o with fields := Json.setMember name value o.fields }

def processed (action : String) : Outcome := ofStatus .processed action

def rejected (action reason : String) : Outcome :=
  (ofStatus .rejected action).withField "reason" reason

def ignored (action reason : String) : Outcome :=
  (ofStatus .ignored action).withField "reason" reason

def textField? (o : Outcome) (name : String) : Option String :=
  (Json.object o.fields).get? name |>.bind Json.string?

def reason? (o : Outcome) : Option String := o.textField? "reason"

def error? (o : Outcome) : Option String := o.textField? "error"

def toJson (o : Outcome) : Json :=
  Json.ofMembers ([("status", .string o.status.word), ("action", .string o.action)] ++ o.fields)

end Outcome
end PrepaidLedger
