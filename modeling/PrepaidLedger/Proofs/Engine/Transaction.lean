import PrepaidLedger.Proofs.Engine.Change
import PrepaidLedger.Proofs.Engine.Running

/-! The transaction of a delivery, run on the tables in memory, makes the change of the delivery or
none at all. Each part of it is run from an open transaction to an open transaction. -/

namespace PrepaidLedger

def World.resting (w : World Memory) (t : Tables) : World Memory :=
  { w with store := Memory.ofTables t }

def World.within (w : World Memory) (t : Tables) (p : Pending) : World Memory :=
  { w with store := ⟨t.numbered, p⟩ }

/-! ## Calls -/

namespace Pending

variable {p : Pending} {t : Tables}

def withCard (p : Pending) (c : Card) : Pending := { p with cards := putRow Card.id c p.cards }

def withCardUser (p : Pending) (u : CardUser) : Pending :=
  { p with cardUsers := putRow CardUser.id u p.cardUsers }

theorem card?_withCard (c : Card) : (p.withCard c).card? t c.id = some c := by
  simp [card?, withCard, rowOf?_putRow]

theorem cardUser?_withCardUser (u : CardUser) : (p.withCardUser u).cardUser? t u.id = some u := by
  simp [cardUser?, withCardUser, rowOf?_putRow]

theorem withCard_withCard {c c' : Card} (h : c'.id = c.id) :
    (p.withCard c').withCard c = p.withCard c := by
  simp only [withCard, putRow_putRow h]

theorem writeCard_eq {id : Uuid} {c : Card} (h : p.card? t id = some c) (change : Card → Card) :
    p.writeCard t id change =
      (some { change c with updatedAt := t.now },
        p.withCard { change c with updatedAt := t.now }) := by
  rw [writeCard, h]
  rfl

theorem call_setCardBalance {c : Card} (h : p.card? t c.id = some c) (balance : Int)
    (reset : Bool) :
    p.call t (.setCardBalance c.id balance reset) =
      (.ok (some (c.moved (balance + t.balanceSkew) reset t.now)),
        p.withCard (c.moved (balance + t.balanceSkew) reset t.now)) := by
  rw [call, writeCard_eq h]
  rfl

theorem call_setCardUserBalance {u : CardUser} (h : p.cardUser? t u.id = some u) (balance : Int) :
    p.call t (.setCardUserBalance u.id balance) =
      (.ok (some { u with balance := balance, updatedAt := t.now }),
        p.withCardUser { u with balance := balance, updatedAt := t.now }) := by
  rw [call, writeCardUser, h]
  rfl

theorem call_countDecline {c : Card} (h : p.card? t c.id = some c) :
    p.call t (.countDecline c.id) =
      (.ok (some { c with declineCount := c.declineCount + 1, updatedAt := t.now }),
        p.withCard { c with declineCount := c.declineCount + 1, updatedAt := t.now }) := by
  rw [call, writeCard_eq h]

theorem call_setCardStatus {c : Card} (h : p.card? t c.id = some c) (status : CardStatus) :
    p.call t (.setCardStatus c.id status) =
      (.ok (some { c with status := status, updatedAt := t.now }),
        p.withCard { c with status := status, updatedAt := t.now }) := by
  rw [call, writeCard_eq h]

end Pending

/-! ## Parts of the transaction -/

namespace Task

variable (refusal : LockKey → Option LockError) (C : Collaborators) (w : World Memory) (t : Tables)
  {p p' : Pending}

theorem runIn_tx {c : TxCall} {r : Except StoreError c.Answer}
    (h : p.call t.numbered c = (r, p')) :
    (tx c).runIn (Memory.backend refusal) C (w.within t p) =
      (r.mapError .store, w.within t p') := by
  change ((p.call t.numbered c).1.mapError _, w.within t (p.call t.numbered c).2) = _
  rw [h]

theorem runIn_writeCardBalance {card : Card} (balance : Int) (reset : Bool)
    (h : p.card? t.numbered card.id = some card) :
    let written := card.moved (balance + t.balanceSkew) reset t.now
    (writeCardBalance card.id balance reset).runIn (Memory.backend refusal) C (w.within t p) =
      ((verify .card card.id balance (some (balance + t.balanceSkew))).map fun _ => written,
        w.within t (p.withCard written)) := by
  intro written
  have hbalance : written.balance = balance + t.balanceSkew := rfl
  have hwrite : p.call t.numbered (.setCardBalance card.id balance reset) =
      (.ok (some written), p.withCard written) := Pending.call_setCardBalance h balance reset
  have hread : (p.withCard written).call t.numbered (.card written.id) =
      (.ok (some written), p.withCard written) := by
    rw [Pending.call, Pending.card?_withCard]
  unfold writeCardBalance
  rw [runIn_bind, runIn_tx refusal C w t hwrite]
  dsimp only [Except.mapError, Option.map_some]
  rw [runIn_bind, runIn_ofExcept, hbalance]
  cases hv : verify .card card.id balance (some (balance + t.balanceSkew)) with
  | error e => rfl
  | ok u =>
    dsimp only
    rw [runIn_bind, show card.id = written.id from rfl, runIn_tx refusal C w t hread]
    dsimp only [Except.mapError]
    rw [runIn_ofExcept, verified, show written.id = card.id from rfl, hbalance, hv]

theorem runIn_writeCardUserBalance {owner : CardUser} (balance : Int)
    (h : p.cardUser? t.numbered owner.id = some owner) :
    let written := { owner with balance := balance, updatedAt := t.now }
    (writeCardUserBalance owner.id balance).runIn (Memory.backend refusal) C (w.within t p) =
      (.ok written, w.within t (p.withCardUser written)) := by
  intro written
  have hwrite : p.call t.numbered (.setCardUserBalance owner.id balance) =
      (.ok (some written), p.withCardUser written) := Pending.call_setCardUserBalance h balance
  have hread : (p.withCardUser written).call t.numbered (.cardUser written.id) =
      (.ok (some written), p.withCardUser written) := by
    rw [Pending.call, Pending.cardUser?_withCardUser]
  have hv : verify .cardUser owner.id balance (some written.balance) = .ok () := if_pos rfl
  unfold writeCardUserBalance
  rw [runIn_bind, runIn_tx refusal C w t hwrite]
  dsimp only [Except.mapError, Option.map_some]
  rw [runIn_bind, runIn_ofExcept, hv]
  dsimp only
  rw [runIn_bind, show owner.id = written.id from rfl, runIn_tx refusal C w t hread]
  dsimp only [Except.mapError]
  rw [runIn_ofExcept, verified, show written.id = owner.id from rfl, hv]
  rfl

theorem runIn_recordDecline (policy : DeclinePolicy) {card : Card}
    (h : p.card? t.numbered card.id = some card) :
    (recordDecline policy card.id).runIn (Memory.backend refusal) C (w.within t p) =
      (.ok (policy.record card t.now),
        w.within t (p.withCard (policy.record card t.now).card)) := by
  let counted := { card with declineCount := card.declineCount + 1, updatedAt := t.now }
  have hcount : p.call t.numbered (.countDecline card.id) =
      (.ok (some counted), p.withCard counted) := Pending.call_countDecline h
  let blocked := { counted with status := .blocked }
  have hover : (p.withCard counted).withCard blocked = p.withCard blocked :=
    Pending.withCard_withCard rfl
  have hblock : (p.withCard counted).call t.numbered (.setCardStatus counted.id .blocked) =
      (.ok (some blocked), p.withCard blocked) := by
    rw [← hover]
    exact Pending.call_setCardStatus (Pending.card?_withCard counted) .blocked
  unfold recordDecline DeclinePolicy.record
  rw [runIn_bind, runIn_tx refusal C w t hcount]
  dsimp only [Except.mapError]
  rw [runIn_bind, runIn_found]
  dsimp only
  split
  · rw [runIn_bind, show card.id = counted.id from rfl, runIn_tx refusal C w t hblock]
    dsimp only [Except.mapError]
    rw [runIn_bind, runIn_found]
    rfl
  · rfl

theorem runIn_recordDecline_within (policy : DeclinePolicy) (card : Card)
    (cardUsers : List CardUser) :
    (recordDecline policy card.id).runIn (Memory.backend refusal) C
        (w.within t ⟨t.batches, 0, [card], cardUsers, [], []⟩) =
      (.ok (policy.record card t.now),
        w.within t ⟨t.batches, 0, [(policy.record card t.now).card], cardUsers, [], []⟩) := by
  have hcard : Pending.card? ⟨t.batches, 0, [card], cardUsers, [], []⟩ t.numbered card.id =
      some card := by
    simp [Pending.card?, rowOf?_cons]
  have hover : Pending.withCard ⟨t.batches, 0, [card], cardUsers, [], []⟩
      (policy.record card t.now).card =
        ⟨t.batches, 0, [(policy.record card t.now).card], cardUsers, [], []⟩ := by
    simp only [Pending.withCard, putRow, DeclinePolicy.id_record, if_true]
  rw [runIn_recordDecline refusal C w t policy hcard, hover]

theorem runIn_writeLine (posting : Posting) (card : Card) (owner : CardUser) (cards : List Card)
    (cardUsers : List CardUser) :
    (writeLine posting card owner (t.movementOf posting card) (t.storedFor posting)).runIn
        (Memory.backend refusal) C (w.within t ⟨t.batches, 0, cards, cardUsers, [], []⟩) =
      (.ok (t.lineOf posting card owner), w.within t
        ⟨t.batches, t.linesMade posting, cards, cardUsers, [t.lineOf posting card owner], []⟩) := by
  -- The stored line of the reference is patched under its own identity, which is found again.
  cases hs : t.storedFor posting with
  | none =>
    have hcall : Pending.call ⟨t.batches, 0, cards, cardUsers, [], []⟩ t.numbered
        (.createLine (posting.newLine card owner (t.movementOf posting card))) =
          (.ok (t.lineOf posting card owner), ⟨t.batches, t.linesMade posting, cards, cardUsers,
            [t.lineOf posting card owner], []⟩) := by
      have href : Pending.lineByRef? ⟨t.batches, 0, cards, cardUsers, [], []⟩ t.numbered
          posting.reference = none := hs
      unfold Pending.call Tables.lineOf Tables.linesMade
      dsimp only [Posting.newLine]
      rw [href, hs]
      rfl
    exact runIn_tx refusal C w t hcall
  | some l =>
    have hl : t.line? l.id = some ((t.line? l.id).getD l) := by
      cases h : t.line? l.id with
      | some l' => rfl
      | none => exact absurd rfl (rowOf?_eq_none.mp h l (mem_of_rowOf? hs))
    have hcall : Pending.call ⟨t.batches, 0, cards, cardUsers, [], []⟩ t.numbered
        (.patchLine l.id (posting.linePatch (t.movementOf posting card))) =
          (.ok (some (t.lineOf posting card owner)), ⟨t.batches, t.linesMade posting, cards,
            cardUsers, [t.lineOf posting card owner], []⟩) := by
      have hfound : Pending.line? ⟨t.batches, 0, cards, cardUsers, [], []⟩ t.numbered l.id =
          some ((t.line? l.id).getD l) := hl
      unfold Pending.call Tables.lineOf Tables.linesMade
      dsimp only
      rw [hfound, hs]
      rfl
    unfold writeLine
    rw [runIn_bind, runIn_tx refusal C w t hcall]
    rfl

theorem runIn_writeEntry (posting : Posting) (card : Card) (owner : CardUser) (cards : List Card)
    (cardUsers : List CardUser) (lines : List Line) :
    (writeEntry posting card (t.lineOf posting card owner)).runIn (Memory.backend refusal) C
        (w.within t ⟨t.batches, t.linesMade posting, cards, cardUsers, lines, []⟩) =
      (.ok (), w.within t ⟨t.batches,
        t.linesMade posting + if (t.entryByRef? posting.reference).isNone then 1 else 0,
        cards, cardUsers, lines, [t.entryOf posting card owner]⟩) := by
  have href : Pending.call ⟨t.batches, t.linesMade posting, cards, cardUsers, lines, []⟩ t.numbered
      (.entryByRef posting.reference) =
        (.ok (t.entryByRef? posting.reference),
          ⟨t.batches, t.linesMade posting, cards, cardUsers, lines, []⟩) := rfl
  unfold writeEntry
  rw [runIn_bind, runIn_tx refusal C w t href]
  dsimp only [Except.mapError]
  cases he : t.entryByRef? posting.reference with
  | none =>
    have hentry : t.entryOf posting card owner =
        (posting.newEntry card (t.lineOf posting card owner)).toEntry
          (.numbered t.batches (t.linesMade posting)) t.now := by
      unfold Tables.entryOf
      rw [he]
    rw [hentry]
    rfl
  | some e =>
    have hfound : t.entry? e.id = some ((t.entry? e.id).getD e) := by
      cases h : t.entry? e.id with
      | some e' => rfl
      | none => exact absurd rfl (rowOf?_eq_none.mp h e (mem_of_rowOf? he))
    have hcall : Pending.call ⟨t.batches, t.linesMade posting, cards, cardUsers, lines, []⟩
        t.numbered (.patchEntry e.id (posting.entryPatch (t.lineOf posting card owner))) =
          (.ok (some (t.entryOf posting card owner)), ⟨t.batches, t.linesMade posting, cards,
            cardUsers, lines, [t.entryOf posting card owner]⟩) := by
      have hfound : Pending.entry? ⟨t.batches, t.linesMade posting, cards, cardUsers, lines, []⟩
          t.numbered e.id = some ((t.entry? e.id).getD e) := hfound
      unfold Pending.call Tables.entryOf
      dsimp only
      rw [hfound, he]
      rfl
    dsimp only
    rw [runIn_bind, runIn_tx refusal C w t hcall]
    rfl

/-! ## The whole transaction -/

theorem runIn_finishPosting (s : Settings) (posting : Posting) {card : Card} (owner : CardUser)
    {decline : DeclineRecord} (hd : t.cardOf s posting card = decline) :
    Task.runIn (Memory.backend refusal) C (do
      let l ← writeLine posting card owner (t.movementOf posting card) (t.storedFor posting)
      writeEntry posting card l
      commit
      return ⟨l, decline.card, t.ownerOf posting owner, t.deltaOf posting, decline.newlyBlocked⟩)
        (w.within t ⟨t.batches, 0, [decline.card], [t.ownerOf posting owner], [], []⟩) =
      (.ok (t.changeOf s posting card owner).applied,
        w.resting (t.apply (t.changeOf s posting card owner))) := by
  subst hd
  rw [runIn_bind, runIn_writeLine]
  dsimp only
  rw [runIn_bind, runIn_writeEntry]
  rfl

theorem runIn_writePosting (s : Settings) (posting : Posting) {card : Card} {owner : CardUser}
    (hcard : t.card? card.id = some card) (howner : t.cardUser? owner.id = some owner) :
    ∃ p, (writePosting s posting card owner (t.storedFor posting)).runIn
        (Memory.backend refusal) C (w.within t (.empty t.batches)) =
      match t.checkBalances posting card owner with
      | .ok () => (.ok (t.changeOf s posting card owner).applied,
          w.resting (t.apply (t.changeOf s posting card owner)))
      | .error e => (.error e, w.within t p) := by
  have hdelta : posting.delta ((t.storedFor posting).map (·.snapshot)) = t.deltaOf posting := rfl
  unfold writePosting
  simp only [hdelta]
  rw [runIn_bind, runIn_ofExcept]
  cases hn : applyDelta .card card.id card.balance (t.deltaOf posting) with
  | error e =>
    have hchecks : t.checkBalances posting card owner = .error e := by
      rw [Tables.checkBalances, hn]
      rfl
    rw [hchecks]
    exact ⟨_, rfl⟩
  | ok n =>
  obtain ⟨rfl, -⟩ := applyDelta_eq_ok.mp hn
  dsimp only
  rw [runIn_bind, runIn_ofExcept]
  cases hm : applyDelta .cardUser owner.id owner.balance (t.deltaOf posting) with
  | error e =>
    have hchecks : t.checkBalances posting card owner = .error e := by
      rw [Tables.checkBalances, hn, hm]
      rfl
    rw [hchecks]
    exact ⟨_, rfl⟩
  | ok m =>
  obtain ⟨rfl, -⟩ := applyDelta_eq_ok.mp hm
  have hchecks : t.checkBalances posting card owner =
      verify .card card.id (card.balance + t.deltaOf posting)
        (some (card.balance + t.deltaOf posting + t.balanceSkew)) := by
    rw [Tables.checkBalances, hn, hm]
    rfl
  dsimp only
  rw [hchecks, runIn_bind, runIn_writeCardBalance refusal C w t _ _ (p := .empty t.batches) hcard]
  cases hv : verify .card card.id (card.balance + t.deltaOf posting)
      (some (card.balance + t.deltaOf posting + t.balanceSkew)) with
  | error e => exact ⟨_, rfl⟩
  | ok u =>
  have hskew := Option.some.inj (verify_eq_ok.mp hv)
  let moved := card.moved (card.balance + t.deltaOf posting) posting.resetsDeclines t.now
  have howner' : Pending.cardUser? (.withCard (.empty t.batches) moved) t.numbered owner.id =
      some owner := howner
  -- Nothing fails from here on, so nothing is left open.
  refine ⟨.empty 0, ?_⟩
  dsimp only [Except.map]
  rw [hskew, runIn_bind, runIn_writeCardUserBalance refusal C w t _ howner']
  have hdecline : t.cardOf s posting card =
      if posting.countsDecline then s.declinePolicy.record moved t.now else ⟨moved, false⟩ := rfl
  dsimp only
  split
  next h =>
    rw [if_pos h] at hdecline
    change Task.runIn _ _ (recordDecline s.declinePolicy moved.id >>= _)
      (w.within t ⟨t.batches, 0, [moved], [t.ownerOf posting owner], [], []⟩) = _
    rw [runIn_bind, runIn_recordDecline_within]
    exact runIn_finishPosting refusal C w t s posting owner hdecline
  next h =>
    rw [if_neg h] at hdecline
    rw [runIn_bind, runIn_pure]
    exact runIn_finishPosting refusal C w t s posting owner hdecline

theorem runIn_write (s : Settings) (d : Delivery) :
    (write s d).runIn (Memory.backend refusal) C w =
      match w.store.tables.change s d with
      | .ok (.ok c) => (.ok (.ok c.applied), w.resting (w.store.tables.apply c))
      | .ok (.error dismissal) => (.ok (.error dismissal), w.resting w.store.tables.numbered)
      | .error e => (.error e, w.resting w.store.tables.numbered) := by
  -- The rows of a transaction that was left open before are gone.
  generalize ht : w.store.tables = t
  have hbegin : begin.runIn (Memory.backend refusal) C w =
      (.ok (), w.within t (.empty t.batches)) := by
    rw [← ht]
    rfl
  have hcard : Pending.call (.empty t.batches) t.numbered (.card d.cardId) =
      (.ok (t.card? d.cardId), .empty t.batches) := rfl
  have howner : Pending.call (.empty t.batches) t.numbered (.cardUser d.cardUserId) =
      (.ok (t.cardUser? d.cardUserId), .empty t.batches) := rfl
  have hline : Pending.call (.empty t.batches) t.numbered (.lineByRef d.posting.reference) =
      (.ok (t.storedFor d.posting), .empty t.batches) := rfl
  unfold write Tables.change
  rw [runIn_inTransaction, hbegin]
  dsimp only
  rw [runIn_bind, runIn_tx refusal C w t hcard]
  dsimp only [Except.mapError]
  rw [runIn_bind, runIn_found]
  cases hc : t.card? d.cardId with
  | none => rfl
  | some card =>
  dsimp only
  rw [runIn_bind, runIn_tx refusal C w t howner]
  dsimp only [Except.mapError]
  rw [runIn_bind, runIn_found]
  cases ho : t.cardUser? d.cardUserId with
  | none => rfl
  | some owner =>
  dsimp only
  rw [runIn_bind, runIn_tx refusal C w t hline]
  dsimp only [Except.mapError]
  have hverdict : validateTransition ((t.storedFor d.posting).map (·.snapshot)) d.posting.snapshot
      s.tolerance = t.verdictOn s d.posting := rfl
  rw [hverdict]
  cases (t.verdictOn s d.posting).dismissal? with
  | some dismissal => rfl
  | none =>
  have hc' : t.card? card.id = some card := by
    rw [show card.id = d.cardId from key_of_rowOf? hc, hc]
  have ho' : t.cardUser? owner.id = some owner := by
    rw [show owner.id = d.cardUserId from key_of_rowOf? ho, ho]
  obtain ⟨rest, hposting⟩ := runIn_writePosting refusal C w t s d.posting hc' ho'
  dsimp only
  rw [runIn_bind, hposting]
  cases t.checkBalances d.posting card owner <;> rfl

theorem runIn_writeLocked (s : Settings) (d : Delivery) :
    (writeLocked s d).runIn (Memory.backend refusal) C w =
      match refusal d.lockKey with
      | some e => (.error (.lock e), w)
      | none => (write s d).runIn (Memory.backend refusal) C w := by
  have hacquire : (acquire d.lockKey).runIn (Memory.backend refusal) C w =
      match refusal d.lockKey with
      | some e => (.error (.lock e), w)
      | none => (.ok (), w) := by
    change ((((Memory.backend refusal).acquire d.lockKey w.store).1.mapError EngineError.lock,
      { w with store := ((Memory.backend refusal).acquire d.lockKey w.store).2 }) :
        Except EngineError Unit × World Memory) = _
    have hgrant : (Memory.backend refusal).acquire d.lockKey w.store =
        match refusal d.lockKey with
        | some e => (.error e, w.store)
        | none => (.ok (), w.store) := rfl
    rw [hgrant]
    cases refusal d.lockKey <;> rfl
  unfold writeLocked
  rw [runIn_bind, hacquire]
  cases refusal d.lockKey with
  | some e => rfl
  | none => exact runIn_thenAlways _ C _ _ w

end Task
end PrepaidLedger
