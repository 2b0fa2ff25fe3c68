import PrepaidLedger.Proofs.Engine.Requests

/-! Charges among the messages sent. The effects of a change send one at most, for the fee that its
line owes, and leave none for later unless they are left for later altogether. -/

namespace PrepaidLedger

def Outbound.charge? : Outbound → Option Charge
  | .charge c _ => some c
  | _ => none

variable {σ : Type}

/-- The fees asked of the provider so far, whatever it answered. -/
def World.charges (w : World σ) : List Charge := w.outbound.filterMap Outbound.charge?

theorem World.charges_send (w : World σ) (o : Outbound) :
    (w.send o).charges = w.charges ++ o.charge?.toList := by
  unfold charges send
  rw [List.filterMap_append]
  cases o <;> rfl

theorem World.charges_answer {B : Backend σ} {C : Collaborators} {r : Request} (h : r.IsTelling)
    (w : World σ) : (World.answer B C r w).2.charges = w.charges := by
  cases r with
  | lockCard | notify | announce => exact (charges_send w _).trans (List.append_nil _)
  | _ => exact h.elim

namespace Program

variable (B : Backend σ) (C : Collaborators)

theorem charges_of_telling {α : Type} {p : Program α} (hp : p.Asks Request.IsTelling)
    (w : World σ) : (p.runIn B C w).2.charges = w.charges :=
  hp.keeps (R := fun w w' : World σ => w'.charges = w.charges) (fun _ => rfl)
    (fun _ _ _ h h' => h'.trans h) (fun _ w h => World.charges_answer h w) w

theorem charges_collectFee (l : Line) (userRef : String) (w : World σ) :
    ((collectFee l userRef).runIn B C w).2.charges =
      w.charges ++ if l.feeDue then [.ofLine l userRef] else [] := by
  unfold collectFee
  split
  · have hsent (receipt : Option String) :
        (w.send (.charge (.ofLine l userRef) receipt)).charges =
          w.charges ++ [.ofLine l userRef] := World.charges_send w _
    rw [runIn_bind, runIn_request]
    dsimp only [World.answer]
    cases C.charge w.outbound (.ofLine l userRef) with
    | none => exact hsent _
    | some receipt =>
      dsimp only
      rw [runIn_bind, runIn_request]
      generalize hanswer : World.answer B C (.store (.settleFee l.id (some receipt))) _ = x
      have hstore : x.2.charges = w.charges ++ [.ofLine l userRef] := by
        rw [← hanswer]
        exact hsent _
      rcases x with ⟨e | line, w'⟩ <;> exact hstore
  · exact (List.append_nil _).symm

theorem charges_startEffects (s : Settings) (a : Applied) (w : World σ) :
    ((startEffects s a).runIn B C w).2.charges =
      w.charges ++ if s.effects = .inline ∧ a.line.feeDue then
        [.ofLine a.line a.cardUser.providerRef] else [] := by
  unfold startEffects
  cases s.effects with
  | background =>
    have hdefer : ((request (.defer a)).runIn B C w).2.charges = w.charges := rfl
    simpa using hdefer
  | inline =>
    unfold runEffects
    dsimp only
    rw [runIn_bind]
    refine (charges_of_telling B C (asks_tell a) _).trans ?_
    rw [charges_collectFee]
    simp

end Program
end PrepaidLedger
