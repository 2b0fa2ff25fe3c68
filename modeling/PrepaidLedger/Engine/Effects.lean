import PrepaidLedger.Engine.Collection
import PrepaidLedger.Engine.World

/-!
What follows a committed change: the fee, the lock at the provider, and the messages. Nothing that
fails here is undone or reported.
-/
namespace PrepaidLedger

def notify (n : Notice) : Program Unit := do
  let _ ← Program.request (.notify n)

def lockAtProvider (card : Card) : Program Bool := .request (.lockCard card.providerRef)

def tellOfBlock (a : Applied) : Program Unit := do
  if a.cardBlocked then
    let _ ← lockAtProvider a.card
    notify (.cardBlocked a.card a.line.currency)

def tellOfLine (a : Applied) : Program Unit :=
  match NoticeKind.ofLine? a.line with
  | some kind => notify (.ofLine kind a.card a.line)
  | none => pure ()

def tellOfBalance (a : Applied) : Program Unit := do
  if a.delta ≠ 0 then
    let _ ← Program.request (.announce (.ofLine a.card a.line a.delta))

def runEffects (a : Applied) : Program Unit := do
  let _ ← collectFee a.line a.cardUser.providerRef
  tellOfBlock a
  tellOfLine a
  tellOfBalance a

/-- Runs the effects left for later, in the order of their changes. -/
def World.settle {σ : Type} (B : Backend σ) (C : Collaborators) (w : World σ) : World σ :=
  w.deferred.foldl (fun w a => ((runEffects a).runIn B C w).2) { w with deferred := [] }

end PrepaidLedger
