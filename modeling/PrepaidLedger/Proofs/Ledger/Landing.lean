import PrepaidLedger.Proofs.Engine.Charges
import PrepaidLedger.Proofs.Engine.Unapplied
import PrepaidLedger.Proofs.Ledger.Accounts
import PrepaidLedger.Proofs.Ledger.Filing
import PrepaidLedger.Proofs.Ledger.Terms

/-! When an event is applied, and what it leaves behind. Where accounts are distinct, the card and
the card-user that an event resolves to are the ones that its transaction finds. -/

namespace PrepaidLedger

theorem World.keyed_after {w : World Memory} (hk : w.store.tables.Keyed) (s : Settings)
    (turns : List Turn) : (w.after s turns).store.tables.Keyed := by
  refine after_invariant (fun t t' hk h => ?_) (fun t reference ev d card owner hk _ => ?_) hk turns
  · exact hk.quiet h.quiet
  · exact hk.apply

theorem World.distinct_after {w : World Memory} (hd : w.store.tables.Distinct) (s : Settings)
    (turns : List Turn) : (w.after s turns).store.tables.Distinct :=
  hd.of_sameAccounts (w.sameAccounts_after s turns)

theorem World.line_after_others {s : Settings} {w : World Memory} (hk : w.store.tables.Keyed)
    {reference : String} {l : Line} (hl : w.store.tables.lineByRef? reference = some l)
    {turns : List Turn} (hothers : ∀ kind, ¬ Posted turns reference kind) :
    ∃ l', (w.after s turns).store.tables.lineByRef? reference = some l' ∧ l.SettlesTo l' := by
  let P (t : Tables) : Prop :=
    t.Keyed ∧ ∃ l', t.lineByRef? reference = some l' ∧ l.SettlesTo l'
  have hsteady : ∀ t t', P t → t.Steady t' → P t' := by
    rintro t t' ⟨hk, l', hl', hsettles⟩ h
    obtain ⟨l'', hl'', hsettles'⟩ := h.quiet.line_after hl'
    exact ⟨hk.quiet h.quiet, l'', hl'', hsettles.trans hsettles'⟩
  have hcommit : ∀ t reference' (ev : LedgerEvent) d card owner, P t → reference' ≠ reference →
      ev.Commits s t reference' d card owner →
        P (t.apply (t.changeOf s d.posting card owner)) := by
    rintro t reference' ev d card owner ⟨hk, l', hl', hsettles⟩ hne h
    have href := (LedgerEvent.prepares_of_delivery h.delivery_eq).reference_eq
    refine ⟨hk.apply, l', ?_, hsettles⟩
    rw [hk.lineByRef?_apply, href, if_neg hne]
    exact hl'
  refine (@after_holds s P (fun reference' _ => reference' ≠ reference) hsteady
    (fun t reference' ev d card owner => hcommit t reference' ev d card owner) w
    ⟨hk, l, hl, .refl l⟩ turns ?_).2
  rintro reference' kind hposted rfl
  exact hothers kind hposted

/-- All that it takes for an event to be applied. A line that stands under its reference must be one
of its card and wait for its amount; of what kind the line is plays no part. -/
structure LedgerEvent.Lands (ev : LedgerEvent) (s : Settings) (t : Tables)
    (refusal : LockKey → Option LockError) (reference : String) (card : Card) (owner : CardUser)
    (p : Posting) : Prop where
  posts : ev.Posts s t reference card owner p
  line : ∀ l, t.lineByRef? reference = some l →
    l.cardId = card.id ∧ l.status = .pending ∧ p.status ≠ .pending ∧
      s.tolerance.within l.amount p.amount = true
  granted : refusal (.ofTransaction card.userId reference card.id) = none
  balances : t.checkBalances p card owner = .ok ()

structure Tables.Shifts (t t' : Tables) (cardId cardUserId : Uuid) (delta : Int) : Prop where
  cards : ∀ id, (t'.card? id).map (·.balance) =
    (t.card? id).map fun c => c.balance + if cardId = id then delta else 0
  cardUsers : ∀ id, (t'.cardUser? id).map (·.balance) =
    (t.cardUser? id).map fun u => u.balance + if cardUserId = id then delta else 0

theorem Tables.Carries.shifts {s : Settings} {t t' : Tables} {d : Delivery} {card : Card}
    {owner : CardUser} (h : t.Carries s d card owner)
    (hafter : (t.apply (t.changeOf s d.posting card owner)).Steady t') :
    t.Shifts t' card.id owner.id (t.deltaOf d.posting) := by
  have hcard : card.id = d.cardId := key_of_rowOf? h.card_eq
  have howner : owner.id = d.cardUserId := key_of_rowOf? h.owner_eq
  refine ⟨fun id => ?_, fun id => ?_⟩
  · rw [hafter.quiet.map_balance, hcard]
    exact h.map_balance_apply id
  · rw [hafter.map_ownerBalance, howner]
    exact h.map_ownerBalance_apply id

namespace LedgerEvent

variable {s : Settings} {t : Tables} {refusal : LockKey → Option LockError} {reference : String}
  {ev : LedgerEvent} {card : Card} {owner : CardUser} {p : Posting} {d : Delivery}

namespace Posts

theorem card_eq (h : ev.Posts s t reference card owner p) (hd : t.Distinct) :
    t.card? card.id = some card := rowOf?_of_mem hd.cards (mem_of_parties h.parties_eq).1

theorem owner_eq (h : ev.Posts s t reference card owner p) (hd : t.Distinct) :
    t.cardUser? owner.id = some owner :=
  rowOf?_of_mem hd.cardUsers (mem_of_parties h.parties_eq).2.1

theorem storedFor_eq (h : ev.Posts s t reference card owner p) :
    t.storedFor p = t.lineByRef? reference := Tables.storedFor_of_reference h.reference_eq

/-! ### What an event moves over a pending line -/

theorem delta_of_spend (h : ev.Posts s t reference card owner p) {l : Line}
    (hl : t.lineByRef? reference = some l) (hpending : l.status = .pending)
    (hfinal : p.status ≠ .pending) (hkind : ev.kind = .spend) :
    t.deltaOf p = if p.status = .successful then l.amount - p.amount else l.amount := by
  have hdelta : t.deltaOf p = spendDelta (some l.snapshot) p.snapshot := by
    rw [Tables.deltaOf, h.storedFor_eq, hl, Posting.delta, h.kind_eq, hkind]
    rfl
  rw [hdelta]
  unfold spendDelta Posting.snapshot Line.snapshot
  cases hstatus : p.status with
  | pending => exact absurd hstatus hfinal
  | _ => simp [hpending]

theorem delta_of_deposit (h : ev.Posts s t reference card owner p) {l : Line}
    (hl : t.lineByRef? reference = some l) (hpending : l.status = .pending)
    (hfinal : p.status ≠ .pending) (hkind : ev.kind = .deposit) :
    t.deltaOf p = if p.status = .successful then p.amount - p.fee.fee else 0 := by
  have hdelta : t.deltaOf p = depositDelta (some l.snapshot) p.snapshot p.credit := by
    rw [Tables.deltaOf, h.storedFor_eq, hl, Posting.delta, h.kind_eq, hkind]
    rfl
  rw [hdelta]
  unfold depositDelta Posting.snapshot Line.snapshot
  cases hstatus : p.status with
  | pending => exact absurd hstatus hfinal
  | successful =>
    have hterms := h.terms hkind
    rw [hstatus] at hterms
    simp [hpending, (Posting.terms_of_alive hterms (.inr rfl)).2.1]
  | _ => rfl

end Posts

namespace Lands

theorem commits (h : ev.Lands s t refusal reference card owner p) (hd : t.Distinct) :
    ev.Commits s t reference ⟨card.id, card.userId, owner.id, p⟩ card owner := by
  have hproceed : t.verdictOn s p = .proceed := by
    refine validateTransition_eq_proceed.mpr fun stored hstored => ?_
    obtain ⟨l, hl, rfl⟩ := Option.map_eq_some_iff.mp hstored
    exact (h.line l (h.posts.storedFor_eq ▸ hl)).2
  refine ⟨delivery_eq_ok.mpr ⟨card, owner, h.posts, ?_⟩, ?_⟩
  · refine Tables.screen_eq_ok.mpr ⟨rfl, fun l hl => ?_, hproceed⟩
    exact (h.line l (h.posts.storedFor_eq ▸ hl)).1
  · obtain ⟨hcard, howner, hskew⟩ := Tables.checkBalances_eq_ok.mp h.balances
    exact ⟨h.posts.card_eq hd, h.posts.owner_eq hd, hproceed, hcard.1, hcard.2, howner.1,
      howner.2, hskew⟩

theorem of_commits (h : ev.Commits s t reference d card owner) (hd : t.Distinct)
    (hgranted : refusal d.lockKey = none) :
    ev.Lands s t refusal reference card owner d.posting := by
  obtain ⟨card', owner', hposts, hscreen⟩ := delivery_eq_ok.mp h.delivery_eq
  obtain ⟨hdelivery, hown, hproceed⟩ := Tables.screen_eq_ok.mp hscreen
  have hcard := h.carries.card_eq
  have howner := h.carries.owner_eq
  have hkey : d.lockKey = .ofTransaction card'.userId reference card'.id := by
    rw [hdelivery, Delivery.lockKey, hposts.reference_eq]
  -- Identities are distinct, so the rows read again are the rows that were resolved to.
  rw [hdelivery, hposts.card_eq hd] at hcard
  rw [hdelivery, hposts.owner_eq hd] at howner
  obtain rfl := Option.some.inj hcard
  obtain rfl := Option.some.inj howner
  rw [hposts.storedFor_eq] at hown
  have hwaits := validateTransition_eq_proceed.mp hproceed
  rw [hposts.storedFor_eq] at hwaits
  refine ⟨hposts, fun l hl => ⟨hown l hl, hwaits l.snapshot (by rw [hl]; rfl)⟩, hkey ▸ hgranted, ?_⟩
  exact Tables.checkBalances_eq_ok.mpr
    ⟨⟨h.carries.cardBalance_nonneg, h.carries.cardBalance_le⟩,
      ⟨h.carries.ownerBalance_nonneg, h.carries.ownerBalance_le⟩, h.carries.exact⟩

end Lands

theorem parties_of_primaryCard? {e : CollateralEvent} {ref : String} (huser : e.userRef = some ref)
    (howner : t.cardUserByRef? ref = some owner) (hcard : t.primaryCard? owner.id = some card) :
    (collateral e).parties t = (ensureOwner card owner).map fun _ => (card, owner) := by
  have howner' : t.collateralOwner? e = some owner := by
    unfold Tables.collateralOwner?
    rw [huser]
    dsimp only
    rw [howner]
  change t.collateralParties e = _
  unfold Tables.collateralParties
  rw [howner']
  dsimp only
  rw [hcard]

theorem parties_collateral {e : CollateralEvent} {ref : String} (huser : e.userRef = some ref)
    (howner : t.cardUserByRef? ref = some owner) (hcard : card ∈ t.cards)
    (hown : ensureOwner card owner = .ok ()) (hstatus : card.status ≠ .canceled)
    (hlast : ∀ c ∈ t.cards, c.cardUserId = owner.id → c.status ≠ .canceled →
      c = card ∨ Tables.primaryOrder card c = false) :
    (collateral e).parties t = .ok (card, owner) := by
  have hprimary : t.primaryCard? owner.id = some card :=
    Tables.primaryCard?_eq_some hcard (ensureOwner_eq_ok.mp hown).1 hstatus hlast
  rw [parties_of_primaryCard? huser howner hprimary, hown]
  rfl

/-! ## The run of an event -/

section Runs

variable {C : Collaborators} {w w' : World Memory} {a : Applied}

theorem runIn_apply_of_commits (h : ev.Commits s w.store.tables reference d card owner)
    (hgranted : refusal d.lockKey = none) :
    let c := w.store.tables.changeOf s d.posting card owner
    (ev.apply s reference).runIn (Memory.backend refusal) C w =
      (.ok (.ok c.applied), ((startEffects s c.applied).runIn (Memory.backend refusal) C
        (w.resting (w.store.tables.apply c))).2) := by
  intro c
  have hchange : w.store.tables.change s d = .ok (.ok c) :=
    Tables.change_eq_ok.mpr ⟨card, owner, h.carries, rfl⟩
  rw [runIn_apply, h.delivery_eq]
  dsimp only
  rw [Task.runIn_writeLocked, hgranted]
  dsimp only
  rw [Task.runIn_write, hchange]

theorem granted_of_applied (hd : ev.delivery s w.store.tables reference = .ok (.ok d))
    (h : (ev.apply s reference).runIn (Memory.backend refusal) C w = (.ok (.ok a), w')) :
    refusal d.lockKey = none := by
  cases hrefusal : refusal d.lockKey with
  | none => rfl
  | some e =>
    rw [runIn_apply, hd] at h
    dsimp only at h
    rw [Task.runIn_writeLocked, hrefusal] at h
    cases h

theorem traceless_prepare {σ : Type} {B : Backend σ} {view : σ → Tables} (hB : B.Isolates view)
    (s : Settings) (reference : String) (ev : LedgerEvent) :
    (ev.prepare s reference).Traceless B C view := by
  cases ev with
  | spend e => exact Task.traceless_prepareSpend hB s reference e
  | collateral e => exact Task.traceless_prepareCollateral hB s reference e

theorem lands_of_applied (hd : w.store.tables.Distinct)
    (h : (ev.apply s reference).runIn (Memory.backend refusal) C w = (.ok (.ok a), w')) :
    ∃ card owner p, ev.Lands s w.store.tables refusal reference card owner p := by
  obtain ⟨d, card, owner, hcommits, -⟩ := commits_of_applied refusal C s w h
  exact ⟨card, owner, d.posting,
    .of_commits hcommits hd (granted_of_applied hcommits.delivery_eq h)⟩

theorem untouched_of_not_lands (hd : w.store.tables.Distinct)
    (h : ∀ card owner p, ¬ ev.Lands s w.store.tables refusal reference card owner p) :
    w.Untouched Memory.tables
      ((ev.apply s reference).runIn (Memory.backend refusal) C w).2 := by
  have hB := Memory.backend_isolates refusal
  refine Task.tracelessUnless_deliver hB s (traceless_prepare hB s reference ev) w
    fun hsucceeds => ?_
  change Task.Succeeds ((ev.apply s reference).runIn (Memory.backend refusal) C w).1 at hsucceeds
  generalize hr : (ev.apply s reference).runIn (Memory.backend refusal) C w = r at hsucceeds
  rcases r with ⟨e | dismissal | a, w'⟩
  · exact hsucceeds
  · exact hsucceeds
  · obtain ⟨card, owner, p, hlands⟩ := lands_of_applied hd hr
    exact h card owner p hlands

theorem Lands.runIn_apply (h : ev.Lands s w.store.tables refusal reference card owner p)
    (hd : w.store.tables.Distinct) :
    let c := w.store.tables.changeOf s p card owner
    (ev.apply s reference).runIn (Memory.backend refusal) C w =
      (.ok (.ok c.applied), ((startEffects s c.applied).runIn (Memory.backend refusal) C
        (w.resting (w.store.tables.apply c))).2) := by
  refine runIn_apply_of_commits (h.commits hd) ?_
  rw [Delivery.lockKey, h.posts.reference_eq]
  exact h.granted

theorem Lands.run_turn {turn : Turn} (hturn : turn.ledgerEvent? = some (reference, ev))
    (h : ev.Lands s w.store.tables turn.refusal reference card owner p)
    (hd : w.store.tables.Distinct) :
    let c := w.store.tables.changeOf s p card owner
    turn.run s w = ((startEffects s c.applied).runIn (Memory.backend turn.refusal) turn.parties
      (w.resting (w.store.tables.apply c))).2 := by
  rw [Turn.run_of_ledgerEvent? hturn]
  exact congrArg Prod.snd (h.runIn_apply hd)

/-! ## What a landed event leaves behind -/

theorem Lands.steady_after (h : ev.Lands s w.store.tables refusal reference card owner p)
    (hd : w.store.tables.Distinct) :
    (w.store.tables.apply (w.store.tables.changeOf s p card owner)).Steady
      ((ev.apply s reference).runIn (Memory.backend refusal) C w).2.store.tables := by
  rw [h.runIn_apply hd]
  exact Program.steady_startEffects s (w.store.tables.changeOf s p card owner).applied
    (w.resting (w.store.tables.apply (w.store.tables.changeOf s p card owner)))

theorem Lands.shifts (h : ev.Lands s w.store.tables refusal reference card owner p)
    (hd : w.store.tables.Distinct) :
    w.store.tables.Shifts
      ((ev.apply s reference).runIn (Memory.backend refusal) C w).2.store.tables
      card.id owner.id (w.store.tables.deltaOf p) :=
  (h.commits hd).carries.shifts (h.steady_after hd)

theorem Lands.line_after (h : ev.Lands s w.store.tables refusal reference card owner p)
    (hd : w.store.tables.Distinct) (hk : w.store.tables.Keyed) :
    ∃ l, ((ev.apply s reference).runIn (Memory.backend refusal) C w).2.store.tables.lineByRef?
        reference = some l ∧ (w.store.tables.lineOf p card owner).SettlesTo l := by
  refine (h.steady_after hd).quiet.line_after ?_
  exact (hk.lineByRef?_apply reference).trans (if_pos h.posts.reference_eq)

theorem Lands.finishes (h : ev.Lands s w.store.tables refusal reference card owner p)
    (hd : w.store.tables.Distinct) (hk : w.store.tables.Keyed) {l : Line}
    (hl : w.store.tables.lineByRef? reference = some l) :
    ∃ l', ((ev.apply s reference).runIn (Memory.backend refusal) C w).2.store.tables.lineByRef?
        reference = some l' ∧ l'.kind = l.kind ∧ l'.cardId = l.cardId ∧ l'.status = p.status ∧
          l'.amount = p.amount := by
  have hstored : w.store.tables.storedFor p = some l := h.posts.storedFor_eq.trans hl
  obtain ⟨l', hl', hsettles⟩ := h.line_after (C := C) hd hk
  obtain ⟨-, hcardId, hkind⟩ : (w.store.tables.lineOf p card owner).id = l.id ∧
      (w.store.tables.lineOf p card owner).cardId = l.cardId ∧
        (w.store.tables.lineOf p card owner).kind = l.kind := hk.home_lineOf_of_stored hstored
  refine ⟨l', hl', ?_, ?_, ?_, ?_⟩
  · rw [hsettles, ← hkind]
  · rw [hsettles, ← hcardId]
  · rw [hsettles, ← hk.status_lineOf]
  · rw [hsettles, ← hk.amount_lineOf]

theorem Lands.charges_after (h : ev.Lands s w.store.tables refusal reference card owner p)
    (hd : w.store.tables.Distinct) :
    let a := (w.store.tables.changeOf s p card owner).applied
    ((ev.apply s reference).runIn (Memory.backend refusal) C w).2.charges =
      w.charges ++ if s.effects = .inline ∧ a.line.feeDue then
        [.ofLine a.line a.cardUser.providerRef] else [] := by
  intro a
  rw [h.runIn_apply hd]
  exact Program.charges_startEffects _ _ s a _

end Runs

end LedgerEvent

/-! ## Collateral in the specimen -/

namespace Specimen

theorem distinct_tables : tables.Distinct := ⟨by decide, by decide⟩

variable {s : Settings} {status : CollateralStatus} {amount : Int} {fee : FeeQuote}

theorem lands_collateral (hamount : toMinorUnits (collateral status amount).amount = .ok amount)
    (hposting : Posting.ofCollateral s "t" amount (card 2 "second" 30) (collateral status amount) =
      .ok (deposit status amount fee))
    (hbalances : tables.checkBalances (deposit status amount fee) (card 2 "second" 30) (owner 50) =
      .ok ()) :
    (LedgerEvent.collateral (collateral status amount)).Lands s tables (fun _ => none) "t"
      (card 2 "second" 30) (owner 50) (deposit status amount fee) := by
  have hparties : (LedgerEvent.collateral (collateral status amount)).parties tables =
      .ok (card 2 "second" 30, owner 50) :=
    LedgerEvent.parties_collateral rfl rfl (by decide) rfl (by decide) (by decide)
  refine ⟨⟨hamount, hparties, hposting⟩, fun l hl => ?_, rfl, hbalances⟩
  rw [show tables.lineByRef? "t" = none from rfl] at hl
  cases hl

theorem after_collateralTurn
    (hturn : (collateralTurn "t" status amount).ledgerEvent? =
      some ("t", .collateral (collateral status amount)))
    (hamount : toMinorUnits (collateral status amount).amount = .ok amount)
    (hposting : Posting.ofCollateral s "t" amount (card 2 "second" 30) (collateral status amount) =
      .ok (deposit status amount fee))
    (hbalances : tables.checkBalances (deposit status amount fee) (card 2 "second" 30) (owner 50) =
      .ok ()) :
    world.after s [collateralTurn "t" status amount] = deposited s status amount fee :=
  (lands_collateral hamount hposting hbalances).run_turn (w := world) hturn distinct_tables

def pendingLine : Line :=
  tables.lineOf (deposit .pending 40 ⟨1, true⟩) (card 2 "second" 30) (owner 50)

def onItsWay : World Memory := world.after settings [collateralTurn "t" .pending 40]

theorem onItsWay_eq : onItsWay = deposited settings .pending 40 ⟨1, true⟩ :=
  after_collateralTurn rfl rfl rfl rfl

theorem line_onItsWay : onItsWay.store.tables.lineByRef? "t" = some pendingLine := by
  rw [onItsWay_eq]
  rfl

end Specimen
end PrepaidLedger
