import PrepaidLedger.Engine.Dispatch
import PrepaidLedger.Proofs.Engine.Running

/-! What a program can come to ask for, whatever it is answered. A relation between worlds that no
allowed request breaks holds between the two ends of every program of allowed requests. -/

namespace PrepaidLedger

variable {σ α β : Type} {allowed allowed' : Request → Prop}

def Program.Asks (allowed : Request → Prop) : Program α → Prop
  | .done _ => True
  | .ask r next => allowed r ∧ ∀ reply, (next reply).Asks allowed

def Task.Asks (allowed : Request → Prop) (t : Task α) : Prop := t.run.Asks allowed

namespace Request

def IsSingle : Request → Prop
  | .store _ => True
  | .charge _ => True
  | .lockCard _ => True
  | .notify _ => True
  | .announce _ => True
  | .defer _ => True
  | _ => False

def IsPlain : Request → Prop
  | .store _ => True
  | .charge _ => True
  | .notify _ => True
  | .announce _ => True
  | _ => False

def SparesCards : Request → Prop
  | .store (.patchCard ..) => False
  | r => r.IsPlain

def IsProfile : Request → Prop
  | .store (.lineByRef _) => False
  | .store (.settleFee ..) => False
  | .store (.unsettledFees _) => False
  | .store _ => True
  | _ => False

def IsMessage : Request → Prop
  | .notify _ => True
  | .announce _ => True
  | _ => False

def IsCollection : Request → Prop
  | .store (.settleFee ..) => True
  | .charge _ => True
  | _ => False

def IsSweep : Request → Prop
  | .store (.unsettledFees _) => True
  | .store (.cardUserById _) => True
  | r => r.IsCollection

def IsTelling : Request → Prop
  | .lockCard _ => True
  | .notify _ => True
  | .announce _ => True
  | _ => False

def IsEffect : Request → Prop
  | .store (.settleFee ..) => True
  | .charge _ => True
  | .defer _ => True
  | r => r.IsTelling

theorem isEffect_of_isTelling {r : Request} (h : r.IsTelling) : r.IsEffect := by
  cases r <;> first | exact h | exact h.elim

theorem isTelling_of_isMessage {r : Request} (h : r.IsMessage) : r.IsTelling := by
  cases r <;> first | exact h | exact h.elim

theorem isPlain_of_isMessage {r : Request} (h : r.IsMessage) : r.IsPlain := by
  cases r <;> first | exact trivial | exact h.elim

theorem isEffect_of_isCollection {r : Request} (h : r.IsCollection) : r.IsEffect := by
  cases r with
  | store c => cases c <;> first | exact trivial | exact h.elim
  | charge => exact trivial
  | _ => exact h.elim

theorem isSweep_of_isCollection {r : Request} (h : r.IsCollection) : r.IsSweep := by
  cases r with
  | store c => cases c <;> first | exact trivial | exact h.elim
  | charge => exact trivial
  | _ => exact h.elim

theorem isPlain_of_isProfile {r : Request} (h : r.IsProfile) : r.IsPlain := by
  cases r with
  | store => exact trivial
  | _ => exact h.elim

theorem isPlain_of_sparesCards {r : Request} (h : r.SparesCards) : r.IsPlain := by
  cases r with
  | store => exact trivial
  | _ => exact h

theorem sparesCards_of_isSweep {r : Request} (h : r.IsSweep) : r.SparesCards := by
  cases r with
  | store c => cases c <;> first | exact trivial | exact h.elim
  | charge => exact trivial
  | _ => exact h.elim

theorem isPlain_of_isCollection {r : Request} (h : r.IsCollection) : r.IsPlain :=
  isPlain_of_sparesCards (sparesCards_of_isSweep (isSweep_of_isCollection h))

theorem isSingle_of_isPlain {r : Request} (h : r.IsPlain) : r.IsSingle := by
  cases r <;> first | exact trivial | exact h.elim

theorem isSingle_of_isEffect {r : Request} (h : r.IsEffect) : r.IsSingle := by
  cases r <;> first | exact trivial | exact h.elim

end Request

namespace Program

variable {p : Program α} {f : α → Program β}

theorem asks_pure (a : α) : (pure a : Program α).Asks allowed := trivial

theorem asks_request {r : Request} (h : allowed r) : (request r).Asks allowed :=
  ⟨h, fun _ => trivial⟩

theorem Asks.bind (hp : p.Asks allowed) (hf : ∀ a, (f a).Asks allowed) :
    (p >>= f).Asks allowed := by
  induction p with
  | done a => exact hf a
  | ask r next ih => exact ⟨hp.1, fun reply => ih reply (hp.2 reply)⟩

theorem Asks.mono (h : ∀ r, allowed r → allowed' r) (hp : p.Asks allowed) : p.Asks allowed' := by
  induction p with
  | done a => exact trivial
  | ask r next ih => exact ⟨h r hp.1, fun reply => ih reply (hp.2 reply)⟩

theorem Asks.keeps {B : Backend σ} {C : Collaborators} {R : World σ → World σ → Prop}
    (hrefl : ∀ w, R w w) (htrans : ∀ w₁ w₂ w₃, R w₁ w₂ → R w₂ w₃ → R w₁ w₃)
    (hstep : ∀ r w, allowed r → R w (World.answer B C r w).2) (hp : p.Asks allowed)
    (w : World σ) : R w (p.runIn B C w).2 := by
  induction p generalizing w with
  | done a => exact hrefl w
  | ask r next ih => exact htrans _ _ _ (hstep r w hp.1) (ih _ (hp.2 _) _)

/-! ### Effects -/

theorem asks_collectFee (l : Line) (userRef : String) :
    (collectFee l userRef).Asks Request.IsCollection := by
  unfold collectFee
  split
  · refine (asks_request trivial).bind fun receipt => ?_
    cases receipt with
    | none => exact asks_pure _
    | some receipt =>
      refine (asks_request trivial).bind fun answer => ?_
      cases answer <;> exact asks_pure _
  · exact asks_pure _

theorem asks_notify (n : Notice) : (notify n).Asks Request.IsMessage :=
  (asks_request trivial).bind fun _ => asks_pure _

theorem asks_tellOfBlock (a : Applied) : (tellOfBlock a).Asks Request.IsTelling := by
  unfold tellOfBlock
  split
  · refine (asks_request trivial).bind fun _ => ?_
    exact (asks_notify _).mono fun _ => Request.isTelling_of_isMessage
  · exact asks_pure _

theorem asks_tellOfLine (a : Applied) : (tellOfLine a).Asks Request.IsMessage := by
  unfold tellOfLine
  split
  · exact asks_notify _
  · exact asks_pure _

theorem asks_tellOfBalance (a : Applied) : (tellOfBalance a).Asks Request.IsMessage := by
  unfold tellOfBalance
  split
  · exact (asks_request trivial).bind fun _ => asks_pure _
  · exact asks_pure _

theorem asks_messages (a : Applied) :
    (do
      tellOfLine a
      tellOfBalance a : Program Unit).Asks Request.IsMessage :=
  (asks_tellOfLine a).bind fun _ => asks_tellOfBalance a

theorem asks_tell (a : Applied) :
    (do
      tellOfBlock a
      tellOfLine a
      tellOfBalance a : Program Unit).Asks Request.IsTelling := by
  refine (asks_tellOfBlock a).bind fun _ => ?_
  exact (asks_messages a).mono fun _ => Request.isTelling_of_isMessage

theorem asks_runEffects (a : Applied) : (runEffects a).Asks Request.IsEffect := by
  refine ((asks_collectFee _ _).mono fun _ => Request.isEffect_of_isCollection).bind fun _ => ?_
  exact (asks_tell a).mono fun _ => Request.isEffect_of_isTelling

theorem asks_startEffects (s : Settings) (a : Applied) :
    (startEffects s a).Asks Request.IsEffect := by
  unfold startEffects
  split
  · exact asks_request trivial
  · exact asks_runEffects a

end Program

namespace Task

variable {t : Task α} {f : α → Task β}

theorem asks_pure (a : α) : (pure a : Task α).Asks allowed := trivial

theorem Asks.bind (ht : t.Asks allowed) (hf : ∀ a, (f a).Asks allowed) :
    (t >>= f).Asks allowed := by
  refine Program.Asks.bind (p := t.run) ht fun r => ?_
  cases r with
  | error e => exact trivial
  | ok a => exact hf a

theorem Asks.mono (h : ∀ r, allowed r → allowed' r) (ht : t.Asks allowed) : t.Asks allowed' :=
  Program.Asks.mono h ht

theorem Asks.plain (ht : t.Asks Request.SparesCards) : t.Asks Request.IsPlain :=
  ht.mono fun _ => Request.isPlain_of_sparesCards

theorem Asks.spares (ht : t.Asks Request.IsSweep) : t.Asks Request.SparesCards :=
  ht.mono fun _ => Request.sparesCards_of_isSweep

theorem asks_store {c : StoreCall} (h : allowed (.store c)) : (store c).Asks allowed :=
  ⟨h, fun _ => trivial⟩

theorem asks_ofProgram {p : Program α} (hp : p.Asks allowed) : (ofProgram p).Asks allowed :=
  hp.bind fun _ => Program.asks_pure _

/-! ### Sweeps -/

theorem asks_sweepLines (summary : SweepSummary) (lines : List Line) :
    (sweepLines summary lines).Asks Request.IsSweep := by
  induction lines generalizing summary with
  | nil => exact asks_pure _
  | cons l rest ih =>
    refine (asks_store trivial).bind fun owner? => ?_
    cases owner? with
    | none => exact ih summary
    | some owner =>
      refine (asks_ofProgram ?_).bind fun c => ih _
      exact (Program.asks_collectFee l _).mono fun _ => Request.isSweep_of_isCollection

theorem asks_sweepFees (limit : Int) : (sweepFees limit).Asks Request.IsSweep :=
  (asks_store trivial).bind fun lines => asks_sweepLines _ lines

/-! ### Profile events and authorizations -/

theorem asks_updateCard (e : CardEvent) : (updateCard e).Asks Request.IsProfile := by
  have hchange : (cardChange e).Asks Request.IsProfile := by
    refine (asks_store trivial).bind fun card? => ?_
    cases card? <;> exact asks_pure _
  refine hchange.bind fun change? => ?_
  rcases change? with r | ⟨id, patch⟩
  · exact asks_pure _
  · refine (asks_store trivial).bind fun card? => ?_
    cases card? <;> exact asks_pure _

theorem asks_updateCardUser (e : UserEvent) :
    (updateCardUser e).Asks fun r => r.IsProfile ∧ r.SparesCards := by
  refine (asks_store ⟨trivial, trivial⟩).bind fun owner? => ?_
  cases owner? with
  | none => exact asks_pure _
  | some owner =>
    dsimp only
    split
    · exact asks_pure _
    · refine (asks_store ⟨trivial, trivial⟩).bind fun owner? => ?_
      cases owner? <;> exact asks_pure _

theorem asks_registerContract (e : ContractEvent) :
    (registerContract e).Asks fun r => r.IsProfile ∧ r.SparesCards := by
  refine (asks_store ⟨trivial, trivial⟩).bind fun owner? => ?_
  cases owner? with
  | none => exact asks_pure _
  | some owner => exact (asks_store ⟨trivial, trivial⟩).bind fun _ => asks_pure _

theorem asks_authorizeSpend (e : SpendEvent) : (authorizeSpend e).Asks Request.IsProfile := by
  have hparties : (spendParties e).Asks Request.IsProfile := by
    refine (asks_store trivial).bind fun card? => ?_
    cases card? with
    | none => exact asks_pure _
    | some card =>
      dsimp only
      split <;> exact (asks_store trivial).bind fun owner? => by cases owner? <;> exact asks_pure _
  have hamount : (ofExcept (toMinorUnits e.amount)).Asks Request.IsProfile := trivial
  refine hamount.bind fun amount => hparties.bind fun parties? => ?_
  rcases parties? with r | ⟨card, owner⟩ <;> exact asks_pure _

end Task
end PrepaidLedger
