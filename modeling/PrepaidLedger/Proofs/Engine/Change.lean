import PrepaidLedger.Engine.Write
import PrepaidLedger.Proofs.Store.Rows

/-! The change that a delivery makes, as a function of the tables it is written to, and everything
that a change can be. -/

namespace PrepaidLedger

structure Change where
  applied : Applied
  entry : Entry

def Card.moved (c : Card) (balance : Int) (resetDeclines : Bool) (now : Timestamp) : Card :=
  { c with
    balance := balance
    declineCount := if resetDeclines then 0 else c.declineCount
    updatedAt := now }

def DeclinePolicy.record (policy : DeclinePolicy) (c : Card) (now : Timestamp) : DeclineRecord :=
  let counted := { c with declineCount := c.declineCount + 1, updatedAt := now }
  if policy.blocks counted then ⟨{ counted with status := .blocked }, true⟩ else ⟨counted, false⟩

theorem DeclinePolicy.id_record (policy : DeclinePolicy) (c : Card) (now : Timestamp) :
    (policy.record c now).card.id = c.id := by
  unfold record
  dsimp only
  split <;> rfl

theorem DeclinePolicy.balance_record (policy : DeclinePolicy) (c : Card) (now : Timestamp) :
    (policy.record c now).card.balance = c.balance := by
  unfold record
  dsimp only
  split <;> rfl

namespace Tables

variable (s : Settings) (t : Tables) (p : Posting) (card : Card) (owner : CardUser)

def storedFor : Option Line := t.lineByRef? p.reference

def verdictOn : Verdict :=
  validateTransition ((t.storedFor p).map (·.snapshot)) p.snapshot s.tolerance

def deltaOf : Int := p.delta ((t.storedFor p).map (·.snapshot))

def movementOf : Movement := ⟨card.balance, card.balance + t.deltaOf p, t.deltaOf p⟩

def cardOf : DeclineRecord :=
  let moved := card.moved (card.balance + t.deltaOf p) p.resetsDeclines t.now
  if p.countsDecline then s.declinePolicy.record moved t.now else ⟨moved, false⟩

theorem id_cardOf : (t.cardOf s p card).card.id = card.id := by
  unfold cardOf
  dsimp only
  split
  · exact DeclinePolicy.id_record ..
  · rfl

theorem balance_cardOf : (t.cardOf s p card).card.balance = card.balance + t.deltaOf p := by
  unfold cardOf
  dsimp only
  split
  · exact DeclinePolicy.balance_record ..
  · rfl

def ownerOf : CardUser := { owner with balance := owner.balance + t.deltaOf p, updatedAt := t.now }

def lineOf : Line :=
  match t.storedFor p with
  | none => (p.newLine card owner (t.movementOf p card)).toLine (.numbered t.batches 0) t.now
  | some l =>
    { (p.linePatch (t.movementOf p card)).apply ((t.line? l.id).getD l) with updatedAt := t.now }

def linesMade : Nat := if (t.storedFor p).isNone then 1 else 0

def entryOf : Entry :=
  let l := t.lineOf p card owner
  match t.entryByRef? p.reference with
  | none => (p.newEntry card l).toEntry (.numbered t.batches (t.linesMade p)) t.now
  | some e => { (p.entryPatch l).apply ((t.entry? e.id).getD e) with updatedAt := t.now }

def changeOf : Change where
  applied :=
    { line := t.lineOf p card owner
      card := (t.cardOf s p card).card
      cardUser := t.ownerOf p owner
      delta := t.deltaOf p
      cardBlocked := (t.cardOf s p card).newlyBlocked }
  entry := t.entryOf p card owner

def checkBalances : Except EngineError Unit := do
  let balance ← applyDelta .card card.id card.balance (t.deltaOf p)
  let _ ← applyDelta .cardUser owner.id owner.balance (t.deltaOf p)
  verify .card card.id balance (some (balance + t.balanceSkew))

def change (d : Delivery) : Except EngineError (Except Dismissal Change) :=
  match t.card? d.cardId, t.cardUser? d.cardUserId with
  | none, _ => .error (.missing .card (.assigned d.cardId))
  | some _, none => .error (.missing .cardUser (.assigned d.cardUserId))
  | some card, some owner =>
    match (t.verdictOn s d.posting).dismissal? with
    | some dismissal => .ok (.error dismissal)
    | none =>
      (t.checkBalances d.posting card owner).map fun _ => .ok (t.changeOf s d.posting card owner)

def numbered : Tables := { t with batches := t.batches + 1 }

def apply (c : Change) : Tables :=
  { t with
    batches := t.batches + 1
    cards := putRow Card.id c.applied.card t.cards
    cardUsers := putRow CardUser.id c.applied.cardUser t.cardUsers
    lines := putRow Line.id c.applied.line t.lines
    journal := putRow Entry.id c.entry t.journal }

end Tables

theorem Tables.storedFor_of_reference {t : Tables} {p : Posting} {reference : String}
    (h : p.reference = reference) : t.storedFor p = t.lineByRef? reference := by
  rw [storedFor, h]

def InBounds (balance : Int) : Prop := 0 ≤ balance ∧ balance ≤ maxSafeAmount

instance (balance : Int) : Decidable (InBounds balance) := inferInstanceAs (Decidable (_ ∧ _))

/-! ## What a change can be -/

theorem applyDelta_eq_ok {entity : Entity} {id : Uuid} {balance delta n : Int} :
    applyDelta entity id balance delta = .ok n ↔
      n = balance + delta ∧ 0 ≤ n ∧ n ≤ maxSafeAmount := by
  have hmin : Json.minInt64 < 0 := by decide
  unfold applyDelta
  dsimp only
  split_ifs with h₁ h₂
  · simp only [false_iff]
    omega
  · simp only [false_iff]
    omega
  · simp only [Except.ok.injEq]
    omega

theorem verify_eq_ok {entity : Entity} {id : Uuid} {expected : Int} {found : Option Int} :
    verify entity id expected found = .ok () ↔ found = some expected := by
  unfold verify
  split_ifs with h <;> simp [h]

/-- All that is known of a delivery that is carried out: it found its card and its card-user, the
stored line let it through, and both new balances keep the bounds. -/
structure Tables.Carries (s : Settings) (t : Tables) (d : Delivery) (card : Card)
    (owner : CardUser) : Prop where
  card_eq : t.card? d.cardId = some card
  owner_eq : t.cardUser? d.cardUserId = some owner
  proceeds : t.verdictOn s d.posting = .proceed
  cardBalance_nonneg : 0 ≤ card.balance + t.deltaOf d.posting
  cardBalance_le : card.balance + t.deltaOf d.posting ≤ maxSafeAmount
  ownerBalance_nonneg : 0 ≤ owner.balance + t.deltaOf d.posting
  ownerBalance_le : owner.balance + t.deltaOf d.posting ≤ maxSafeAmount
  exact : t.balanceSkew = 0

theorem Verdict.dismissal?_eq_none {v : Verdict} : v.dismissal? = none ↔ v = .proceed := by
  cases v <;> simp [Verdict.dismissal?]

theorem bind_eq_ok {ε α β : Type} {x : Except ε α} {f : α → Except ε β} {b : β} :
    (x >>= f) = .ok b ↔ ∃ a, x = .ok a ∧ f a = .ok b := by
  cases x with
  | error e => exact iff_of_false nofun nofun
  | ok a => exact ⟨fun h => ⟨a, rfl, h⟩, fun ⟨_, ha, h⟩ => by cases ha; exact h⟩

namespace Tables

theorem checkBalances_eq_ok {t : Tables} {p : Posting} {card : Card} {owner : CardUser} :
    t.checkBalances p card owner = .ok () ↔
      (0 ≤ card.balance + t.deltaOf p ∧ card.balance + t.deltaOf p ≤ maxSafeAmount) ∧
      (0 ≤ owner.balance + t.deltaOf p ∧ owner.balance + t.deltaOf p ≤ maxSafeAmount) ∧
      t.balanceSkew = 0 := by
  unfold checkBalances
  constructor
  · intro h
    obtain ⟨n, hn, hafter⟩ := bind_eq_ok.mp h
    obtain ⟨m, hm, hverify⟩ := bind_eq_ok.mp hafter
    obtain ⟨rfl, hcard⟩ := applyDelta_eq_ok.mp hn
    obtain ⟨rfl, howner⟩ := applyDelta_eq_ok.mp hm
    have hskew := Option.some.inj (verify_eq_ok.mp hverify)
    exact ⟨hcard, howner, by omega⟩
  · rintro ⟨hcard, howner, hskew⟩
    refine bind_eq_ok.mpr ⟨_, applyDelta_eq_ok.mpr ⟨rfl, hcard⟩, ?_⟩
    refine bind_eq_ok.mpr ⟨_, applyDelta_eq_ok.mpr ⟨rfl, howner⟩, ?_⟩
    exact verify_eq_ok.mpr (by rw [hskew, Int.add_zero])

theorem change_eq_ok {s : Settings} {t : Tables} {d : Delivery} {c : Change} :
    t.change s d = .ok (.ok c) ↔
      ∃ card owner, t.Carries s d card owner ∧ c = t.changeOf s d.posting card owner := by
  constructor
  · intro h
    unfold change at h
    split at h
    · cases h
    · cases h
    next card owner hcard howner =>
    split at h
    · cases h
    next hd =>
    cases hchecks : t.checkBalances d.posting card owner with
    | error e =>
      rw [hchecks] at h
      cases h
    | ok u =>
      rw [hchecks] at h
      obtain rfl := Except.ok.inj (Except.ok.inj h)
      obtain ⟨hcard', howner', hskew⟩ := checkBalances_eq_ok.mp hchecks
      exact ⟨card, owner, ⟨hcard, howner, Verdict.dismissal?_eq_none.mp hd, hcard'.1, hcard'.2,
        howner'.1, howner'.2, hskew⟩, rfl⟩
  · rintro ⟨card, owner, h, rfl⟩
    have hchecks : t.checkBalances d.posting card owner = .ok () :=
      checkBalances_eq_ok.mpr ⟨⟨h.cardBalance_nonneg, h.cardBalance_le⟩,
        ⟨h.ownerBalance_nonneg, h.ownerBalance_le⟩, h.exact⟩
    unfold change
    rw [h.card_eq, h.owner_eq]
    dsimp only
    rw [Verdict.dismissal?_eq_none.mpr h.proceeds, hchecks]
    rfl

end Tables
end PrepaidLedger
