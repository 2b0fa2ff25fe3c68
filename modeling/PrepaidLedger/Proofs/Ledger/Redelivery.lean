import PrepaidLedger.Proofs.Ledger.Landing

/-! An applied event that is delivered again. Whatever happened in between to other references,
nothing is written, but the answer depends on who the event resolves to by then. A spend names its
card; collateral is resolved to the primary card of its owner, which need not be the card of its
line any more. -/

namespace PrepaidLedger

namespace LedgerEvent

variable {s : Settings} {t : Tables} {reference : String} {ev : LedgerEvent} {l : Line}

def repeated (ev : LedgerEvent) (t : Tables) (cardId : Uuid) : Dismissal :=
  match ev.parties t with
  | .error r => .rejected r
  | .ok (card, _) => if card.id = cardId then .duplicate else .rejected .unauthorizedCardAccess

theorem repeated_eq_duplicate {cardId : Uuid} :
    ev.repeated t cardId = .duplicate ↔
      ∃ card owner, ev.parties t = .ok (card, owner) ∧ card.id = cardId := by
  unfold repeated
  cases hparties : ev.parties t with
  | error r => simp
  | ok parties =>
    obtain ⟨card, owner⟩ := parties
    by_cases h : card.id = cardId <;> simp [h]

theorem parties_eq_error {r : Rejection} (h : ev.parties t = .error r) :
    r = .cardNotFound ∨ r = .cardUserNotFound ∨ r = .unauthorizedCardAccess := by
  have hown (card : Card) (owner : CardUser)
      (h : (ensureOwner card owner).map (fun _ => (card, owner)) = .error r) :
      r = .unauthorizedCardAccess := by
    cases ho : ensureOwner card owner with
    | ok u =>
      rw [ho] at h
      cases h
    | error r' =>
      rw [ho] at h
      obtain rfl := Except.error.inj h
      exact ensureOwner_eq_error ho
  cases ev with
  | spend e =>
    change t.spendParties e = .error r at h
    unfold Tables.spendParties at h
    split at h
    · exact .inl (Except.error.inj h).symm
    split at h
    · exact .inr (.inl (Except.error.inj h).symm)
    · exact .inr (.inr (hown _ _ h))
  | collateral e =>
    change t.collateralParties e = .error r at h
    unfold Tables.collateralParties at h
    split at h
    · exact .inr (.inl (Except.error.inj h).symm)
    split at h
    · exact .inl (Except.error.inj h).symm
    · exact .inr (.inr (hown _ _ h))

theorem repeated_of_ne_duplicate {cardId : Uuid} (h : ev.repeated t cardId ≠ .duplicate) :
    ev.repeated t cardId = .rejected .cardNotFound ∨
      ev.repeated t cardId = .rejected .cardUserNotFound ∨
        ev.repeated t cardId = .rejected .unauthorizedCardAccess := by
  unfold repeated at h ⊢
  cases hparties : ev.parties t with
  | error r =>
    simp only [Dismissal.rejected.injEq]
    exact parties_eq_error hparties
  | ok parties =>
    rw [hparties] at h
    dsimp only at h ⊢
    split at h
    · exact absurd rfl h
    next hother => exact .inr (.inr (if_neg hother))

theorem delivery_of_repeated {card : Card} {p : Posting}
    (hl : t.lineByRef? reference = some l) (hstatus : l.status = ev.status)
    (hamount : toMinorUnits ev.rawAmount = .ok l.amount)
    (hposting : ev.posting s reference l.amount card = .ok p) :
    ev.delivery s t reference = .ok (.error (ev.repeated t l.cardId)) := by
  unfold delivery repeated
  rw [hamount]
  dsimp only
  cases hparties : ev.parties t with
  | error r => rfl
  | ok parties =>
    obtain ⟨card', owner'⟩ := parties
    obtain ⟨p', hp', -⟩ := posting_for_other_card hposting card'
    obtain ⟨href, -, hstatus', hamount'⟩ := facts_of_posting hp'
    have hstored : t.storedFor p' = some l := (Tables.storedFor_of_reference href).trans hl
    have hverdict : t.verdictOn s p' = .duplicate := by
      unfold Tables.verdictOn validateTransition
      rw [hstored]
      dsimp only [Option.map_some]
      refine if_pos ⟨hstatus.trans hstatus'.symm, ?_⟩
      change s.tolerance.within l.amount p'.amount = true
      rw [hamount']
      exact s.tolerance.within_self l.amount
    dsimp only
    rw [hp']
    change Except.ok (t.screen s card' owner' p') = _
    unfold Tables.screen
    rw [hstored, hverdict]
    by_cases hcard : card'.id = l.cardId
    · simp [hcard, Verdict.dismissal?]
    · simp [hcard, Ne.symm hcard]

theorem line_of_applied {refusal : LockKey → Option LockError} {C : Collaborators}
    {w w' : World Memory} {a : Applied} (hk : w.store.tables.Keyed)
    (h : (ev.apply s reference).runIn (Memory.backend refusal) C w = (.ok (.ok a), w')) :
    ∃ card owner p l, ev.Posts s w.store.tables reference card owner p ∧
      w'.store.tables.lineByRef? reference = some l ∧ l.cardId = card.id ∧
      l.cardId = a.line.cardId ∧ l.status = ev.status ∧ l.amount = p.amount := by
  obtain ⟨d, card₁, owner₁, hcommits, rfl, hsteady⟩ := commits_of_applied refusal C s w h
  obtain ⟨card, owner, hposts, hscreen⟩ := delivery_eq_ok.mp hcommits.delivery_eq
  obtain ⟨hdelivery, hown, -⟩ := Tables.screen_eq_ok.mp hscreen
  have hline : (w.store.tables.apply (w.store.tables.changeOf s d.posting card₁ owner₁)).lineByRef?
      reference = some (w.store.tables.lineOf d.posting card₁ owner₁) :=
    (hk.lineByRef?_apply reference).trans (if_pos hposts.reference_eq)
  obtain ⟨l, hl, hsettles⟩ := hsteady.quiet.line_after hline
  have hid : card₁.id = card.id := by
    rw [show card₁.id = d.cardId from key_of_rowOf? hcommits.carries.card_eq, hdelivery]
  have hcardId : (w.store.tables.lineOf d.posting card₁ owner₁).cardId = card.id := by
    rw [hk.cardId_lineOf]
    cases hstored : w.store.tables.storedFor d.posting with
    | none => exact hid
    | some stored => exact hown stored hstored
  refine ⟨card, owner, d.posting, l, hposts, hl, ?_, ?_, ?_, ?_⟩
  · rw [hsettles]
    exact hcardId
  · rw [hsettles]
    rfl
  · rw [hsettles]
    exact hk.status_lineOf.trans hposts.status_eq
  · rw [hsettles]
    exact hk.amount_lineOf

theorem keyed_of_applied {refusal : LockKey → Option LockError} {C : Collaborators}
    {w w' : World Memory} {a : Applied} (hk : w.store.tables.Keyed)
    (h : (ev.apply s reference).runIn (Memory.backend refusal) C w = (.ok (.ok a), w')) :
    w'.store.tables.Keyed ∧ w.store.tables.SameAccounts w'.store.tables := by
  obtain ⟨d, card, owner, hcommits, -, hsteady⟩ := commits_of_applied refusal C s w h
  exact ⟨hk.apply.quiet hsteady.quiet, hcommits.carries.sameAccounts.trans (.of_steady hsteady)⟩

end LedgerEvent

theorem Outcome.fields_of_duplicate (action reference : String) :
    (ofDelivery action reference (.error .duplicate)).fields =
      [("transactionId", .string reference), ("skipped", .bool true),
        ("reason", .string "transaction_already_processed")] := rfl

/-- An applied event that comes again, after any events of other references, writes nothing. It is
answered as a duplicate exactly if it still resolves to the card of its line, as every spend does;
otherwise its parties are refused, which only collateral can come to. -/
theorem redelivery_answer (s : Settings) {w₀ : World Memory} (hk : w₀.store.tables.Keyed)
    (past : List Turn) {reference : String} {ev : LedgerEvent}
    {refusal : LockKey → Option LockError} {C : Collaborators} {a : Applied} {w₁ : World Memory}
    (happlied : (ev.apply s reference).runIn (Memory.backend refusal) C (w₀.after s past) =
      (.ok (.ok a), w₁))
    (later : List Turn) (hothers : ∀ kind, ¬ Posted later reference kind)
    (refusal' : LockKey → Option LockError) (C' : Collaborators) :
    let w := w₁.after s later
    ∃ d, (ev.apply s reference).runIn (Memory.backend refusal') C' w = (.ok (.error d), w) ∧
      (d = .duplicate ↔ ∃ card owner, ev.parties w.store.tables = .ok (card, owner) ∧
        card.id = a.line.cardId) ∧
      (d ≠ .duplicate → ev.kind = .deposit ∧ (d = .rejected .cardNotFound ∨
        d = .rejected .cardUserNotFound ∨ d = .rejected .unauthorizedCardAccess)) ∧
      ∀ e : Envelope, e.incoming.ledgerEvent? = some (reference, ev) →
        ∃ o, (dispatch s e).runIn (Memory.backend refusal') C' w = (.ok o, w) ∧
          (d = .duplicate → o.reason? = some "transaction_already_processed" ∧
            ("skipped", .bool true) ∈ o.fields) := by
  intro w
  have hk' : (w₀.after s past).store.tables.Keyed := World.keyed_after hk s past
  obtain ⟨hk₁, hsame₁⟩ := LedgerEvent.keyed_of_applied hk' happlied
  obtain ⟨card₀, owner₀, p, l₁, hposts, hl₁, hcard₀, hcardId, hstatus, hamount⟩ :=
    LedgerEvent.line_of_applied hk' happlied
  obtain ⟨l, hl, hsettles⟩ := World.line_after_others (s := s) hk₁ hl₁ hothers
  have hl_cardId : l.cardId = l₁.cardId := by rw [hsettles]
  have hl_status : l.status = l₁.status := by rw [hsettles]
  have hl_amount : l.amount = p.amount := by rw [hsettles, ← hamount]
  have hdelivery : ev.delivery s w.store.tables reference =
      .ok (.error (ev.repeated w.store.tables l.cardId)) := by
    have hposting : ev.posting s reference l.amount card₀ = .ok p := by
      rw [hl_amount]
      exact hposts.posting_eq
    refine LedgerEvent.delivery_of_repeated hl (hl_status.trans hstatus) ?_ hposting
    rw [hl_amount]
    exact hposts.amount_eq
  have happly : (ev.apply s reference).runIn (Memory.backend refusal') C' w =
      (.ok (.error (ev.repeated w.store.tables l.cardId)), w) := by
    rw [LedgerEvent.runIn_apply, hdelivery]
  have hsame : (w₀.after s past).store.tables.SameAccounts w.store.tables :=
    hsame₁.trans (w₁.sameAccounts_after s later)
  refine ⟨ev.repeated w.store.tables l.cardId, happly, ?_, fun hne => ⟨?_, ?_⟩, fun e he => ?_⟩
  · rw [LedgerEvent.repeated_eq_duplicate, hl_cardId, hcardId]
  · cases ev with
    | collateral e => rfl
    -- A spend names its card, and no card ever changes hands.
    | spend e =>
      obtain ⟨card, owner, hparties, hc⟩ := hsame.spendParties hposts.parties_eq
      have hresolved : ∃ card owner, (LedgerEvent.spend e).parties w.store.tables =
          .ok (card, owner) ∧ card.id = l.cardId :=
        ⟨card, owner, hparties, by rw [hc.id, hl_cardId, hcard₀]⟩
      exact absurd (LedgerEvent.repeated_eq_duplicate.mpr hresolved) hne
  · exact LedgerEvent.repeated_of_ne_duplicate hne
  · refine ⟨.ofDelivery e.action reference (.error (ev.repeated w.store.tables l.cardId)), ?_, ?_⟩
    · rw [runIn_dispatch_of_ledgerEvent? refusal' C' s w he, happly]
      rfl
    · intro hduplicate
      rw [hduplicate]
      refine ⟨rfl, ?_⟩
      rw [Outcome.fields_of_duplicate]
      exact List.mem_cons_of_mem _ (List.mem_cons_self ..)

theorem repeated_collateral_is_duplicate :
    let ev := LedgerEvent.collateral (Specimen.collateral .completed 40)
    let later := [Specimen.cardTurn "first" .locked]
    ∃ a w₁, (ev.apply Specimen.settings "t").runIn (Memory.backend fun _ => none)
        Specimen.refusing Specimen.world = (.ok (.ok a), w₁) ∧
      (ev.apply Specimen.settings "t").runIn (Memory.backend fun _ => none) Specimen.refusing
        (w₁.after Specimen.settings later) =
          (.ok (.error .duplicate), w₁.after Specimen.settings later) := by
  -- Collateral arrives on the second card, the first is locked, and the collateral comes
  -- again.
  intro ev later
  let w₁ := Specimen.deposited Specimen.settings .completed 40 ⟨1, true⟩
  obtain ⟨a, happlied, hcard⟩ : ∃ a, (ev.apply Specimen.settings "t").runIn
      (Memory.backend fun _ => none) Specimen.refusing Specimen.world = (.ok (.ok a), w₁) ∧
        a.line.cardId = ⟨2⟩ :=
    ⟨_, (Specimen.lands_collateral rfl rfl rfl).runIn_apply (w := Specimen.world)
      Specimen.distinct_tables, rfl⟩
  have hothers : ∀ kind, ¬ Posted later "t" kind := Specimen.not_posted_cardTurn _ _ "t"
  have hparties : ev.parties (w₁.after Specimen.settings later).store.tables =
      .ok (Specimen.card 2 "second" 69, Specimen.owner 89) :=
    LedgerEvent.parties_collateral rfl rfl (by decide +kernel) rfl (by decide) (by decide +kernel)
  obtain ⟨d, happly, hduplicate, -⟩ := redelivery_answer Specimen.settings
    (Tables.keyed_of_no_lines rfl) [] happlied later hothers (fun _ => none) Specimen.refusing
  obtain rfl := hduplicate.mpr ⟨_, _, hparties, hcard.symm⟩
  exact ⟨a, w₁, happlied, happly⟩

theorem repeated_collateral_after_lock_is_refused :
    let ev := LedgerEvent.collateral (Specimen.collateral .completed 40)
    let later := [Specimen.cardTurn "second" .locked]
    ∃ a w₁, (ev.apply Specimen.settings "t").runIn (Memory.backend fun _ => none)
        Specimen.refusing Specimen.world = (.ok (.ok a), w₁) ∧
      (∀ kind, ¬ Posted later "t" kind) ∧
      (ev.apply Specimen.settings "t").runIn (Memory.backend fun _ => none) Specimen.refusing
        (w₁.after Specimen.settings later) =
          (.ok (.error (.rejected .unauthorizedCardAccess)), w₁.after Specimen.settings later) := by
  -- Collateral arrives on the second card, that card is locked, and the collateral comes
  -- again.
  intro ev later
  let w₁ := Specimen.deposited Specimen.settings .completed 40 ⟨1, true⟩
  have hothers : ∀ kind, ¬ Posted later "t" kind := Specimen.not_posted_cardTurn _ _ "t"
  have hparties : ev.parties (w₁.after Specimen.settings later).store.tables =
      .ok (Specimen.card 1 "first" 20, Specimen.owner 89) :=
    LedgerEvent.parties_collateral rfl rfl (by decide +kernel) rfl (by decide) (by decide +kernel)
  refine ⟨_, w₁, (Specimen.lands_collateral rfl rfl rfl).runIn_apply (w := Specimen.world)
    Specimen.distinct_tables, hothers, ?_⟩
  have hl : (w₁.after Specimen.settings later).store.tables.lineByRef? "t" =
      some (Specimen.tables.lineOf (Specimen.deposit .completed 40 ⟨1, true⟩)
        (Specimen.card 2 "second" 30) (Specimen.owner 50)) := rfl
  have hposting : ev.posting Specimen.settings "t" 40 (Specimen.card 2 "second" 30) =
      .ok (Specimen.deposit .completed 40 ⟨1, true⟩) := rfl
  rw [LedgerEvent.runIn_apply, LedgerEvent.delivery_of_repeated hl rfl rfl hposting,
    LedgerEvent.repeated, hparties]
  rfl

end PrepaidLedger
