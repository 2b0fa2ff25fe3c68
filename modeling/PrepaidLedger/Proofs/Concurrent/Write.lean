import PrepaidLedger.Proofs.Concurrent.Session

/-! The transaction of a delivery among others, part by part. It locks its card and then its
card-user, and where it commits, the two rows and the line are counted from the rows that it
replaces. -/

namespace PrepaidLedger

/-- What a transaction commits, counted from the tables in that moment. -/
structure Applied.Commits (a : Applied) (held : List Uuid) (p : Pending) (t : Tables) : Prop where
  cards : p.cards = [a.card]
  cardUsers : p.cardUsers = [a.cardUser]
  lines : p.lines = [a.line]
  card_held : a.card.id ∈ held
  owner_held : a.cardUser.id ∈ held
  balance : (t.card? a.card.id).map (·.balance) = some (a.card.balance - a.delta)
  ownerBalance : (t.cardUser? a.cardUser.id).map (·.balance) = some (a.cardUser.balance - a.delta)
  -- A change that moves nothing leaves the snapshots of a line that was there.
  snapshots : t.line? a.line.id = none ∨ a.delta ≠ 0 →
    a.line.balanceBefore = some (a.card.balance - a.delta) ∧
      a.line.balanceAfter = some a.card.balance

def Conclusion.Fits : Conclusion → Phase → Prop
  | .ok (.ok a), .committed held p t => a.Commits held p t
  | .ok (.error _), .undone => True
  | .error _, .undone => True
  | _, _ => False

def Program.Opens (order : List Uuid) : Program Conclusion → Prop
  | .done _ => True
  | .ask .begin next =>
    ∀ t : Tables,
      (next (.ok ())).Safe order Conclusion.Fits (.within [] (.empty t.batches) t)
  | _ => False

def Delivery.rows (d : Delivery) : List Uuid := [d.cardId, d.cardUserId]

theorem Delivery.row_of_prefix {d : Delivery} {held : List Uuid} {id : Uuid}
    (h : held ++ [id] <+: d.rows) :
    (id = d.cardId ∨ id = d.cardUserId) ∧ ∀ id' ∈ held, id' = d.cardId := by
  obtain ⟨rest, hrest⟩ := h
  unfold rows at hrest
  rcases held with _ | ⟨x, _ | ⟨y, held⟩⟩
  · simp only [List.nil_append, List.cons_append, List.cons.injEq] at hrest
    exact ⟨.inl hrest.1, nofun⟩
  · simp only [List.nil_append, List.cons_append, List.cons.injEq] at hrest
    exact ⟨.inr hrest.2.1, fun id' hid' => (List.mem_singleton.mp hid').trans hrest.1⟩
  · simp at hrest

theorem verified_eq_ok {α : Type} {entity : Entity} {id : Uuid} {balance : α → Int} {n : Int}
    {row? : Option α} {row : α} (h : verified entity id balance n row? = .ok row) :
    row? = some row := by
  cases row? with
  | none => cases h
  | some r =>
    unfold verified at h
    dsimp only at h
    cases hv : verify entity id n (some (balance r)) with
    | error e =>
      rw [hv] at h
      cases h
    | ok u =>
      rw [hv] at h
      exact congrArg some (Except.ok.inj h)

namespace Task

variable {order held : List Uuid} {p : Pending} {t : Tables}

theorem safe_writeCardBalance {card : Card} {n : Int} {reset : Bool} {post : Card → Phase → Prop}
    (hid : card.id ∈ held) (hcard : p.card? t card.id = some card)
    (hpost : ∀ (written : Card) t', t.Spares held t' → written.id = card.id →
      written.balance = n → post written (.within held (p.withCard written) t')) :
    (writeCardBalance card.id n reset).Safe order post (.within held p t) := by
  unfold writeCardBalance
  -- Of the row that is written only its balance is checked, so only that is kept of it.
  refine Safe.bind (safe_tx_row rfl hid fun t₁ ht₁ w hw => ?_)
  rw [Pending.call_setCardBalance ((ht₁.pendingCard? hid p).trans hcard)] at hw ⊢
  obtain rfl := Except.ok.inj hw
  generalize hwritten : card.moved (n + t₁.balanceSkew) reset t₁.now = written
  have hsame : written.id = card.id := hwritten ▸ rfl
  refine Safe.bind (safe_ofExcept fun u hu => ?_)
  have hn : written.balance = n := Option.some.inj (verify_eq_ok.mp hu)
  refine Safe.bind (safe_tx_row rfl hid fun t₂ ht₂ w hw => ?_)
  rw [Pending.call, ← hsame, Pending.card?_withCard] at hw
  obtain rfl := Except.ok.inj hw
  refine safe_ofExcept fun row hrow => ?_
  obtain rfl := Option.some.inj (verified_eq_ok hrow)
  exact hpost written t₂ (ht₁.trans ht₂) hsame hn

theorem safe_writeCardUserBalance {owner : CardUser} {n : Int} {post : CardUser → Phase → Prop}
    (hid : owner.id ∈ held) (howner : p.cardUser? t owner.id = some owner)
    (hpost : ∀ (written : CardUser) t', t.Spares held t' → written.id = owner.id →
      written.balance = n → post written (.within held (p.withCardUser written) t')) :
    (writeCardUserBalance owner.id n).Safe order post (.within held p t) := by
  unfold writeCardUserBalance
  refine Safe.bind (safe_tx_row rfl hid fun t₁ ht₁ w hw => ?_)
  rw [Pending.call_setCardUserBalance ((ht₁.pendingCardUser? hid p).trans howner)] at hw ⊢
  obtain rfl := Except.ok.inj hw
  generalize hwritten : { owner with balance := n, updatedAt := t₁.now } = written
  have hsame : written.id = owner.id := hwritten ▸ rfl
  refine Safe.bind (safe_ofExcept fun u hu => ?_)
  have hn : written.balance = n := Option.some.inj (verify_eq_ok.mp hu)
  refine Safe.bind (safe_tx_row rfl hid fun t₂ ht₂ w hw => ?_)
  rw [Pending.call, ← hsame, Pending.cardUser?_withCardUser] at hw
  obtain rfl := Except.ok.inj hw
  refine safe_ofExcept fun row hrow => ?_
  obtain rfl := Option.some.inj (verified_eq_ok hrow)
  exact hpost written t₂ (ht₁.trans ht₂) hsame hn

theorem safe_recordDecline {policy : DeclinePolicy} {card : Card}
    {post : DeclineRecord → Phase → Prop} (hid : card.id ∈ held)
    (hcard : p.card? t card.id = some card)
    (hpost : ∀ (r : DeclineRecord) t', t.Spares held t' → r.card.id = card.id →
      r.card.balance = card.balance → post r (.within held (p.withCard r.card) t')) :
    (recordDecline policy card.id).Safe order post (.within held p t) := by
  unfold recordDecline
  refine Safe.bind (safe_tx_row rfl hid fun t₁ ht₁ w hw => ?_)
  rw [Pending.call_countDecline ((ht₁.pendingCard? hid p).trans hcard)] at hw ⊢
  obtain rfl := Except.ok.inj hw
  refine Safe.bind (safe_found fun counted hcounted => ?_)
  have hsame : counted.id = card.id := Option.some.inj hcounted ▸ rfl
  have hbalance : counted.balance = card.balance := Option.some.inj hcounted ▸ rfl
  rw [Option.some.inj hcounted]
  split
  · refine Safe.bind (safe_tx_row rfl hid fun t₂ ht₂ w hw => ?_)
    rw [← hsame, Pending.call_setCardStatus (Pending.card?_withCard counted)] at hw ⊢
    obtain rfl := Except.ok.inj hw
    refine Safe.bind (safe_found fun blocked hblocked => safe_pure ?_)
    obtain rfl := Option.some.inj hblocked
    let blocked : Card := { counted with status := .blocked, updatedAt := t₂.now }
    have hover : (p.withCard counted).withCard blocked = p.withCard blocked :=
      Pending.withCard_withCard rfl
    change post ⟨blocked, true⟩ (.within held ((p.withCard counted).withCard blocked) t₂)
    rw [hover]
    exact hpost ⟨blocked, true⟩ t₂ (ht₁.trans ht₂) hsame hbalance
  · exact safe_pure (hpost ⟨counted, false⟩ t₁ ht₁ hsame hbalance)

theorem safe_writeLine {posting : Posting} {card : Card} {owner : CardUser} {m : Movement}
    {stored : Option Line} {post : Line → Phase → Prop} (hlines : p.lines = [])
    (hpost : ∀ l p' t', t.Spares held t' → p'.cards = p.cards → p'.cardUsers = p.cardUsers →
      p'.lines = [l] →
      (t'.line? l.id = none ∨ m.delta ≠ 0 →
        l.balanceBefore = some m.before ∧ l.balanceAfter = some m.after) →
      post l (.within held p' t')) :
    (writeLine posting card owner m stored).Safe order post (.within held p t) := by
  unfold writeLine
  cases stored with
  | none =>
    refine safe_tx_free rfl fun t₁ ht₁ l hl => ?_
    unfold Pending.call at hl ⊢
    dsimp only at hl ⊢
    cases hrefer : p.lineByRef? t₁ (posting.newLine card owner m).reference with
    | some _ =>
      rw [hrefer] at hl
      cases hl
    | none =>
      rw [hrefer] at hl
      obtain rfl := Except.ok.inj hl
      refine hpost _ _ t₁ ht₁ rfl rfl ?_ fun _ => ⟨rfl, rfl⟩
      simp [Pending.putLine, hlines]
  | some stored =>
    refine Safe.bind (safe_tx_free rfl fun t₁ ht₁ l? hl => ?_)
    refine safe_found fun l hfound => ?_
    subst hfound
    unfold Pending.call at hl ⊢
    dsimp only at hl ⊢
    cases hline : p.line? t₁ stored.id with
    | none =>
      rw [hline] at hl
      cases hl
    | some l₀ =>
      rw [hline] at hl
      obtain rfl := Option.some.inj (Except.ok.inj hl)
      -- The stored line is not new, so it says something only where a balance moved.
      have hthere : t₁.line? l₀.id = some l₀ := by
        rw [Pending.line?, hlines] at hline
        have hkey : l₀.id = stored.id := key_of_rowOf? hline
        rw [hkey]
        exact hline
      refine hpost _ _ t₁ ht₁ rfl rfl ?_ fun h => ?_
      · simp [Pending.putLine, hlines]
      · have hmoved : m.delta ≠ 0 := h.resolve_left fun hnone => by
          change t₁.line? l₀.id = none at hnone
          rw [hthere] at hnone
          cases hnone
        simp [LinePatch.apply, Posting.linePatch, hmoved]

theorem safe_writeEntry {posting : Posting} {card : Card} {l : Line} {post : Unit → Phase → Prop}
    (hpost : ∀ p' t', t.Spares held t' → p'.cards = p.cards → p'.cardUsers = p.cardUsers →
      p'.lines = p.lines → post () (.within held p' t')) :
    (writeEntry posting card l).Safe order post (.within held p t) := by
  unfold writeEntry
  refine Safe.bind (safe_tx_free rfl fun t₁ ht₁ entry? _ => ?_)
  cases entry? with
  | none =>
    refine Safe.bind (safe_tx_free rfl fun t₂ ht₂ e _ => ?_)
    exact safe_pure (hpost _ t₂ (ht₁.trans ht₂) rfl rfl rfl)
  | some stored =>
    refine Safe.bind (safe_tx_free rfl fun t₂ ht₂ e? he => ?_)
    refine Safe.bind (safe_found fun e _ => safe_pure ?_)
    unfold Pending.call
    dsimp only
    split
    · exact hpost _ t₂ (ht₁.trans ht₂) rfl rfl rfl
    · exact hpost _ t₂ (ht₁.trans ht₂) rfl rfl rfl

/-! ## The whole transaction -/

section Posting

variable {posting : Posting} {card : Card} {owner : CardUser} {stored : Option Line} {batch : Nat}
  {post : Applied → Phase → Prop}

theorem safe_finishPosting {r : DeclineRecord} {paid : CardUser} {delta : Int}
    (hcardHeld : card.id ∈ held) (hownerHeld : owner.id ∈ held)
    (hcard : t.card? card.id = some card) (howner : t.cardUser? owner.id = some owner)
    (hcards : p.cards = [r.card]) (hcardUsers : p.cardUsers = [paid]) (hlines : p.lines = [])
    (hid : r.card.id = card.id) (hbalance : r.card.balance = card.balance + delta)
    (hpaid : paid.id = owner.id) (hpaidBalance : paid.balance = owner.balance + delta)
    (hpost : ∀ a p' t', a.Commits held p' t' → post a (.committed held p' t')) :
    Task.Safe order post (do
      let l ← writeLine posting card owner ⟨card.balance, card.balance + delta, delta⟩ stored
      writeEntry posting card l
      commit
      return ⟨l, r.card, paid, delta, r.newlyBlocked⟩) (.within held p t) := by
  refine Safe.bind (safe_writeLine hlines fun l p₁ t₁ ht₁ hcards₁ husers₁ hlines₁ hsnap => ?_)
  refine Safe.bind (safe_writeEntry fun p₂ t₂ ht₂ hcards₂ husers₂ hlines₂ => ?_)
  refine Safe.bind (safe_commit fun t₃ ht₃ => safe_pure (hpost _ p₂ t₃ ?_))
  have ht : t.Spares held t₃ := (ht₁.trans ht₂).trans ht₃
  have hbefore : r.card.balance - delta = card.balance := by omega
  have hpaidBefore : paid.balance - delta = owner.balance := by omega
  exact
    { cards := hcards₂.trans (hcards₁.trans hcards)
      cardUsers := husers₂.trans (husers₁.trans hcardUsers)
      lines := hlines₂.trans hlines₁
      card_held := hid ▸ hcardHeld
      owner_held := hpaid ▸ hownerHeld
      balance := by
        rw [hid, ht.card _ hcardHeld, hcard, Option.map_some, hbefore]
      ownerBalance := by
        rw [hpaid, ht.cardUser _ hownerHeld, howner, Option.map_some, hpaidBefore]
      snapshots := fun h => by
        rw [hbefore, hbalance]
        exact hsnap (h.imp_left fun hnone => (ht₂.trans ht₃).line _ hnone) }

theorem safe_writePosting (s : Settings) (hcardHeld : card.id ∈ held) (hownerHeld : owner.id ∈ held)
    (hcard : t.card? card.id = some card) (howner : t.cardUser? owner.id = some owner)
    (hpost : ∀ a p' t', a.Commits held p' t' → post a (.committed held p' t')) :
    (writePosting s posting card owner stored).Safe order post
      (.within held (.empty batch) t) := by
  unfold writePosting
  refine Safe.bind (safe_ofExcept fun n hn => ?_)
  refine Safe.bind (safe_ofExcept fun m hm => ?_)
  obtain ⟨rfl, -⟩ := applyDelta_eq_ok.mp hn
  obtain ⟨rfl, -⟩ := applyDelta_eq_ok.mp hm
  generalize posting.delta (stored.map (·.snapshot)) = delta
  refine Safe.bind (safe_writeCardBalance hcardHeld hcard fun moved t₁ ht₁ hid hbalance => ?_)
  have howner₁ : Pending.cardUser? (.withCard (.empty batch) moved) t₁ owner.id = some owner :=
    (ht₁.cardUser _ hownerHeld).trans howner
  refine Safe.bind
    (safe_writeCardUserBalance hownerHeld howner₁ fun paid t₂ ht₂ hpaid hpaidBalance => ?_)
  have ht : t.Spares held t₂ := ht₁.trans ht₂
  split
  · have hmoved : ((Pending.withCard (.empty batch) moved).withCardUser paid).card? t₂ moved.id =
        some moved := Pending.card?_withCard (p := .empty batch) moved
    rw [← hid] at hcardHeld hcard ⊢
    refine Safe.bind (safe_recordDecline hcardHeld hmoved fun r t₃ ht₃ hr hrBalance => ?_)
    have hcards : putRow Card.id r.card [moved] = [r.card] := by
      rw [putRow, if_pos hr.symm]
    exact safe_finishPosting (hid ▸ hcardHeld) hownerHeld
      (hid ▸ ((ht.trans ht₃).card _ hcardHeld).trans hcard)
      (((ht.trans ht₃).cardUser _ hownerHeld).trans howner) hcards rfl rfl (hr.trans hid)
      (hrBalance.trans hbalance) hpaid hpaidBalance hpost
  · refine Safe.bind (safe_pure ?_)
    exact safe_finishPosting hcardHeld hownerHeld ((ht.card _ hcardHeld).trans hcard)
      ((ht.cardUser _ hownerHeld).trans howner) rfl rfl rfl hid hbalance hpaid hpaidBalance hpost

end Posting

theorem Safe.inTransaction {body : Task (Except Dismissal Applied)}
    (h : ∀ t : Tables, body.Safe order (fun a φ => Conclusion.Fits (.ok a) φ)
      (.within [] (.empty t.batches) t)) :
    (inTransaction body).run.Opens order := by
  intro t
  change Program.Safe order _ (body.run.bind _) _
  refine Program.Safe.bind (Program.Safe.mono (h t) fun r φ hr => ?_)
  cases r with
  | ok a => exact hr
  | error e =>
    -- It failed with its transaction open, and what is left is to abandon it.
    cases φ with
    | within => exact trivial
    | committed => exact hr.elim
    | undone => exact hr.elim

theorem opens_write (s : Settings) (d : Delivery) : (write s d).run.Opens d.rows := by
  refine Safe.inTransaction fun t => ?_
  -- Nothing is held yet, so the card can be locked.
  have hfirst : (TxCall.card d.cardId).InOrder d.rows [] := fun id hid => .inr
    ⟨[d.cardUserId], Option.some.inj hid ▸ rfl⟩
  refine Safe.bind (safe_tx hfirst fun t₁ _ card? hcard? => ?_)
  obtain rfl := Except.ok.inj hcard?
  refine Safe.bind (safe_found fun card hcard => ?_)
  change t₁.card? d.cardId = some card at hcard
  obtain hid : card.id = d.cardId := key_of_rowOf? hcard
  change Task.Safe d.rows _ _ (.within [d.cardId] (.empty t.batches) t₁)
  -- The card is held by now, and the card-user comes after it.
  have hsecond : (TxCall.cardUser d.cardUserId).InOrder d.rows [d.cardId] := fun id hid => .inr
    (Option.some.inj hid ▸ List.prefix_refl d.rows)
  refine Safe.bind (safe_tx hsecond fun t₂ ht₂ owner? howner? => ?_)
  obtain rfl := Except.ok.inj howner?
  refine Safe.bind (safe_found fun owner howner => ?_)
  change t₂.cardUser? d.cardUserId = some owner at howner
  obtain howid : owner.id = d.cardUserId := key_of_rowOf? howner
  generalize hheld : (TxCall.cardUser d.cardUserId).hold [d.cardId] = held
  have hcardHeld : card.id ∈ held := by
    rw [← hheld, TxCall.mem_hold, hid]
    exact .inl (List.mem_singleton_self _)
  have hownerHeld : owner.id ∈ held := by
    rw [← hheld, TxCall.mem_hold, howid]
    exact .inr rfl
  refine Safe.bind (safe_tx_free rfl fun t₃ ht₃ stored _ => ?_)
  dsimp only
  split
  · exact Safe.bind (safe_rollback trivial)
  · have hcard₃ : t₃.card? card.id = some card := by
      rw [ht₃.card _ hcardHeld, hid, ht₂.card _ (List.mem_singleton_self _), hcard]
    have howner₃ : t₃.cardUser? owner.id = some owner := by
      rw [ht₃.cardUser _ hownerHeld, howid, howner]
    exact Safe.bind (safe_writePosting s hcardHeld hownerHeld hcard₃ howner₃ fun a p' t' ha =>
      safe_pure ha)

end Task
end PrepaidLedger
