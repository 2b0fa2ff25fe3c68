import PrepaidLedger.Proofs.Engine.Serial
import PrepaidLedger.Proofs.Ledger.Filing
import PrepaidLedger.Proofs.Ledger.Terms
import PrepaidLedger.Proofs.Specimen

/-! The lines account for every balance. A line is rewritten when its event comes again with
another status, so what it moved is read off the line as it stands and not off its history. -/

namespace PrepaidLedger

/-- What the line as it stands has moved on its card. -/
def Line.effect (l : Line) : Int :=
  match l.kind, l.status with
  | .spend, .pending => -l.amount
  | .spend, .successful => -l.amount
  | .deposit, .successful => l.amount - l.fee
  | _, _ => 0

def Tables.effectOn (t : Tables) (cardId : Uuid) : Int :=
  ((t.lines.filter (·.cardId = cardId)).map Line.effect).sum

/-! ## One line -/

theorem Line.effect_of_spend {l : Line} (h : l.kind = .spend) :
    l.effect = if l.status = .pending ∨ l.status = .successful then -l.amount else 0 := by
  unfold effect
  rw [h]
  cases l.status <;> rfl

theorem Line.effect_of_deposit {l : Line} (h : l.kind = .deposit) :
    l.effect = if l.status = .successful then l.amount - l.fee else 0 := by
  unfold effect
  rw [h]
  cases l.status <;> rfl

structure Posting.Continues (s : Settings) (p : Posting) (stored : Option Line) : Prop where
  terms : p.kind = .deposit → collateralTerms s.fees p.status p.amount = .ok (p.fee, p.credit)
  pending : ∀ l, stored = some l → l.status = .pending ∧ p.status ≠ .pending
  kind_eq : ∀ l, stored = some l → l.kind = p.kind

namespace Tables

variable {s : Settings} {t : Tables} {d : Delivery} {p : Posting} {card : Card} {owner : CardUser}
  {l : Line}

def DepositsFree (s : Settings) (t : Tables) : Prop :=
  s.fees.deposit.IsFree → ∀ l ∈ t.lines, l.kind = .deposit → l.fee = 0

theorem effect_of_new (hp : p.Continues s none) (h : t.storedFor p = none) :
    (t.lineOf p card owner).effect = t.deltaOf p := by
  have hdelta : t.deltaOf p = p.delta none := by
    unfold deltaOf
    rw [h]
    rfl
  rw [lineOf_of_new h, hdelta]
  unfold Posting.delta
  cases hkind : p.kind with
  | spend =>
    rw [Line.effect_of_spend hkind]
    change (if p.status = .pending ∨ p.status = .successful then -p.amount else 0) =
      spendDelta none p.snapshot
    unfold spendDelta Posting.snapshot
    cases p.status <;> rfl
  | deposit =>
    rw [Line.effect_of_deposit hkind]
    change (if p.status = .successful then p.amount - p.fee.fee else 0) =
      depositDelta none p.snapshot p.credit
    have hterms := hp.terms hkind
    unfold depositDelta Posting.snapshot
    cases hstatus : p.status with
    | successful =>
      rw [hstatus] at hterms
      exact (Posting.terms_of_alive hterms (.inr rfl)).2.1.symm
    | _ => rfl

theorem effect_of_stored (hk : t.Keyed) (hcharge : s.fees.settlement = .providerCharge)
    (hfree : t.DepositsFree s) (hp : p.Continues s (some l)) (h : t.storedFor p = some l) :
    (t.lineOf p card owner).effect = l.effect + t.deltaOf p := by
  have hdelta : t.deltaOf p = p.delta (some l.snapshot) := by
    unfold deltaOf
    rw [h]
    rfl
  obtain ⟨hpending, hstatus⟩ := hp.pending l rfl
  have hkind := hp.kind_eq l rfl
  have hkind' : (t.lineOf p card owner).kind = l.kind := (hk.home_lineOf_of_stored h).2.2
  generalize hl' : t.lineOf p card owner = l' at hkind'
  have hstatus' : l'.status = p.status := hl' ▸ hk.status_lineOf
  have hamount' : l'.amount = p.amount := hl' ▸ hk.amount_lineOf
  have hfee' : l'.fee = if 0 < p.fee.fee then p.fee.fee else l.fee :=
    hl' ▸ hk.fee_lineOf_of_stored h
  have hsnapshot : l.snapshot = ⟨.pending, l.amount⟩ := by rw [← hpending]; rfl
  rw [hdelta, hsnapshot]
  unfold Posting.delta Posting.snapshot
  cases hp' : p.kind with
  | spend =>
    have hheld : l.effect = -l.amount := by
      rw [Line.effect_of_spend (hkind.trans hp'), if_pos (.inl hpending)]
    rw [Line.effect_of_spend (hkind'.trans (hkind.trans hp')), hstatus', hamount', hheld]
    unfold spendDelta
    cases hs : p.status with
    | pending => exact absurd hs hstatus
    | successful =>
      change -p.amount = -l.amount + (l.amount - p.amount)
      omega
    | _ =>
      change 0 = -l.amount + l.amount
      omega
  | deposit =>
    have hterms := hp.terms hp'
    have hheld : l.effect = 0 := by
      rw [Line.effect_of_deposit (hkind.trans hp'), hpending]
      rfl
    rw [Line.effect_of_deposit (hkind'.trans (hkind.trans hp')), hstatus', hamount', hfee', hheld]
    unfold depositDelta
    cases hs : p.status with
    | successful =>
      rw [hs] at hterms
      obtain ⟨hquote, hcredit, hpositive⟩ := Posting.terms_of_alive hterms (.inr rfl)
      -- Where the new fee is none, the fee of the pending line was none already.
      have hfee : (if 0 < p.fee.fee then p.fee.fee else l.fee) = p.fee.fee := by
        split
        · rfl
        next hnot =>
          have hrule : s.fees.deposit.IsFree := by
            refine FeeSchedule.isFree_of_fee hcharge hpositive ?_
            rw [← hquote]
            exact hnot
          rw [hfree hrule l (mem_of_rowOf? h) (hkind.trans hp'),
            Posting.fee_of_terms hcharge hterms hrule]
      rw [hfee]
      change p.amount - p.fee.fee = 0 + p.credit
      omega
    | _ => rfl

/-! ## All lines of a card -/

theorem effectOn_eq (t : Tables) (id : Uuid) :
    t.effectOn id = (t.lines.map fun l => if l.cardId = id then l.effect else 0).sum := by
  unfold effectOn
  induction t.lines with
  | nil => rfl
  | cons l rest ih =>
    by_cases h : l.cardId = id
    · simp [h, ih]
    · simp [h, ih]

theorem effectOn_apply (hk : t.Keyed) (hstored : ∀ l, t.storedFor p = some l → l.cardId = card.id)
    (heffect : (t.lineOf p card owner).effect =
      ((t.storedFor p).map Line.effect).getD 0 + t.deltaOf p) (id : Uuid) :
    (t.apply (t.changeOf s p card owner)).effectOn id =
      t.effectOn id + if card.id = id then t.deltaOf p else 0 := by
  rw [effectOn_eq, effectOn_eq]
  refine (sum_putRow _ (t.lineOf p card owner) t.lines).trans ?_
  change _ + _ - ((t.line? (t.lineOf p card owner).id).map _).getD 0 = _
  have hcard : (t.lineOf p card owner).cardId = card.id := by
    rw [hk.cardId_lineOf]
    cases h : t.storedFor p with
    | none => rfl
    | some l => exact hstored l h
  rw [hk.line?_lineOf, heffect, hcard]
  cases h : t.storedFor p with
  | none => split <;> simp
  | some l =>
    rw [Option.map_some, Option.map_some, Option.getD_some, Option.getD_some, hstored l h]
    split <;> omega

theorem Quiet.effectOn {t' : Tables} (h : t.Quiet t') (id : Uuid) :
    t'.effectOn id = t.effectOn id := by
  have hsame : ∀ l l' : Line, l.SettlesTo l' → (if l'.cardId = id then l'.effect else 0) =
      if l.cardId = id then l.effect else 0 := by
    intro l l' hl
    rw [hl]
    rfl
  rw [effectOn_eq, effectOn_eq, h.map_lines hsame]

/-! ## Accounts over a run -/

/-- Every balance is what it was at the start and what the lines of its card have moved. -/
structure Accounted (s : Settings) (posted : String → LineKind → Prop) (t start : Tables) :
    Prop where
  keyed : t.Keyed
  kinds : ∀ l ∈ t.lines, posted l.reference l.kind
  free : t.DepositsFree s
  balances : ∀ id, (t.card? id).map (·.balance) =
    (start.card? id).map fun c => c.balance + t.effectOn id

variable {posted : String → LineKind → Prop} {start : Tables}

theorem accounted_of_no_lines (h : start.lines = []) : start.Accounted s posted start where
  keyed := keyed_of_no_lines h
  kinds := by simp [h]
  free := by simp [DepositsFree, h]
  balances id := by simp [effectOn, h]

theorem Quiet.kinds {t' : Tables} (h : t.Quiet t')
    (hkinds : ∀ l ∈ t.lines, posted l.reference l.kind) :
    ∀ l' ∈ t'.lines, posted l'.reference l'.kind := by
  intro l' hl'
  obtain ⟨l, hl, hsettles⟩ := exists_of_forall₂ h.lines hl'
  rw [hsettles]
  exact hkinds l hl

theorem Accounted.quiet {t' : Tables} (ha : t.Accounted s posted start) (h : t.Quiet t') :
    t'.Accounted s posted start where
  keyed := ha.keyed.quiet h
  kinds := h.kinds ha.kinds
  free hrule l' hl' hkind := by
    obtain ⟨l, hl, hsettles⟩ := exists_of_forall₂ h.lines hl'
    rw [hsettles] at hkind ⊢
    exact ha.free hrule l hl hkind
  balances id := by
    rw [h.map_balance, h.effectOn]
    exact ha.balances id

def OneKind (posted : String → LineKind → Prop) : Prop :=
  ∀ reference, ¬ (posted reference .spend ∧ posted reference .deposit)

theorem kind_eq_of_oneKind {reference : String} {kind kind' : LineKind} (hone : OneKind posted)
    (h : posted reference kind) (h' : posted reference kind') : kind = kind' := by
  cases kind <;> cases kind'
  · rfl
  · exact absurd ⟨h, h'⟩ (hone reference)
  · exact absurd ⟨h', h⟩ (hone reference)
  · rfl

theorem continues_of_kinds {reference : String} {kind : LineKind} (hone : OneKind posted)
    (hkinds : ∀ l ∈ t.lines, posted l.reference l.kind) (hposted : posted reference kind)
    (hp : t.Prepares s reference kind d) :
    d.posting.Continues s (t.storedFor d.posting) where
  terms hdeposit := hp.terms (hp.kind_eq.symm.trans hdeposit)
  pending l hl := pending_of_proceeds hp.proceeds hl
  kind_eq l hl := by
    -- Where every reference has one kind, an event that goes through continues a line of
    -- its own.
    have hl' := hkinds l (mem_of_rowOf? hl)
    rw [show l.reference = d.posting.reference from key_of_rowOf? hl, hp.reference_eq] at hl'
    exact (kind_eq_of_oneKind hone hl' hposted).trans hp.kind_eq.symm

theorem kind_lineOf (hp : p.Continues s (t.storedFor p)) (hk : t.Keyed) :
    (t.lineOf p card owner).kind = p.kind := by
  cases h : t.storedFor p with
  | none =>
    rw [lineOf_of_new h]
    rfl
  | some l => exact (hk.home_lineOf_of_stored h).2.2.trans (hp.kind_eq l h)

theorem kinds_apply {reference : String} {kind : LineKind} (hk : t.Keyed)
    (hkinds : ∀ l ∈ t.lines, posted l.reference l.kind) (hposted : posted reference kind)
    (hp : t.Prepares s reference kind d)
    (hcontinues : d.posting.Continues s (t.storedFor d.posting)) :
    ∀ l ∈ (t.apply (t.changeOf s d.posting card owner)).lines, posted l.reference l.kind := by
  intro l hl
  rcases mem_of_mem_putRow hl with rfl | hl
  · change posted (t.lineOf d.posting card owner).reference (t.lineOf d.posting card owner).kind
    rw [hk.reference_lineOf, kind_lineOf hcontinues hk, hp.reference_eq, hp.kind_eq]
    exact hposted
  · exact hkinds l hl

theorem Accounted.effect_lineOf (hcharge : s.fees.settlement = .providerCharge)
    (ha : t.Accounted s posted start) (hp : p.Continues s (t.storedFor p)) :
    (t.lineOf p card owner).effect =
      ((t.storedFor p).map Line.effect).getD 0 + t.deltaOf p := by
  cases h : t.storedFor p with
  | none =>
    rw [h] at hp
    simpa using effect_of_new hp h
  | some l =>
    rw [h] at hp
    exact effect_of_stored ha.keyed hcharge ha.free hp h

theorem Accounted.fee_lineOf (hcharge : s.fees.settlement = .providerCharge)
    (ha : t.Accounted s posted start) (hp : p.Continues s (t.storedFor p))
    (hrule : s.fees.deposit.IsFree) (hkind : p.kind = .deposit) :
    (t.lineOf p card owner).fee = 0 := by
  have hfee := Posting.fee_of_terms hcharge (hp.terms hkind) hrule
  cases h : t.storedFor p with
  | none =>
    rw [lineOf_of_new h]
    exact hfee
  | some l =>
    rw [ha.keyed.fee_lineOf_of_stored h, hfee, if_neg (Int.lt_irrefl 0)]
    exact ha.free hrule l (mem_of_rowOf? h) ((hp.kind_eq l h).trans hkind)

theorem Accounted.commit {reference : String} {kind : LineKind}
    (hcharge : s.fees.settlement = .providerCharge) (hone : OneKind posted)
    (ha : t.Accounted s posted start) (hposted : posted reference kind)
    (hp : t.Prepares s reference kind d) (h : t.Carries s d card owner) :
    (t.apply (t.changeOf s d.posting card owner)).Accounted s posted start := by
  have hcontinues := continues_of_kinds hone ha.kinds hposted hp
  have hkind : (t.lineOf d.posting card owner).kind = d.posting.kind :=
    kind_lineOf hcontinues ha.keyed
  have hid : card.id = d.cardId := key_of_rowOf? h.card_eq
  refine ⟨ha.keyed.apply, kinds_apply ha.keyed ha.kinds hposted hp hcontinues,
    fun hrule l hl hdeposit => ?_, fun id => ?_⟩
  · rcases mem_of_mem_putRow hl with rfl | hl
    · exact ha.fee_lineOf hcharge hcontinues hrule (hkind.symm.trans hdeposit)
    · exact ha.free hrule l hl hdeposit
  · have hstored : ∀ l, t.storedFor d.posting = some l → l.cardId = card.id := by
      intro l hl
      rw [hp.ownLine l hl, hid]
    have heffect : (t.lineOf d.posting card owner).effect =
        ((t.storedFor d.posting).map Line.effect).getD 0 + t.deltaOf d.posting :=
      ha.effect_lineOf hcharge hcontinues
    rw [h.map_balance_apply, effectOn_apply ha.keyed hstored heffect, hid]
    have hbefore := congrArg (Option.map (· + if d.cardId = id then t.deltaOf d.posting else 0))
      (ha.balances id)
    simpa [Option.map_map, Function.comp_def, Int.add_assoc] using hbefore

end Tables

theorem World.accounted_after {s : Settings} {posted : String → LineKind → Prop}
    (hcharge : s.fees.settlement = .providerCharge) (hone : Tables.OneKind posted)
    {w : World Memory} (hempty : w.store.tables.lines = []) (turns : List Turn)
    (hposted : ∀ reference kind, Posted turns reference kind → posted reference kind) :
    (w.after s turns).store.tables.Accounted s posted w.store.tables := by
  have hstart : w.store.tables.Accounted s posted w.store.tables :=
    Tables.accounted_of_no_lines hempty
  refine after_keeps (P := fun t => t.Accounted s posted w.store.tables) (fun t t' ha h => ?_)
    (fun t _ _ d card owner ha hp hprepares h => ?_) hstart turns hposted
  · exact ha.quiet h
  · exact ha.commit hcharge hone hp hprepares h

/-- At any point of any run every balance is accounted for by the lines as they stand, provided that
fees are charged at the provider and no reference is used for spends and collateral alike. -/
theorem balance_eq_start_add_effects {s : Settings} (hcharge : s.fees.settlement = .providerCharge)
    {w : World Memory} (hempty : w.store.tables.lines = []) {turns : List Turn}
    (hone : ∀ reference, ¬ (Posted turns reference .spend ∧ Posted turns reference .deposit)) :
    ∀ past, past <+: turns → ∀ id,
      ((w.after s past).store.tables.card? id).map (·.balance) =
        (w.store.tables.card? id).map fun c =>
          c.balance + (w.after s past).store.tables.effectOn id := by
  rintro past ⟨rest, rfl⟩ id
  refine (World.accounted_after hcharge hone hempty past ?_).balances id
  rintro reference kind ⟨turn, hturn, hp⟩
  exact ⟨turn, List.mem_append_left rest hturn, hp⟩

theorem balance_after_held_and_completed_spend :
    let turns := [Specimen.spendTurn "t" "first" "pending" 20,
      Specimen.spendTurn "t" "first" "completed" 19]
    let after := (Specimen.world.after Specimen.settings turns).store.tables
    Specimen.settings.fees.settlement = .providerCharge ∧ Specimen.world.store.tables.lines = [] ∧
      (∀ reference, ¬ (Posted turns reference .spend ∧ Posted turns reference .deposit)) ∧
      after.effectOn ⟨1⟩ = -19 ∧ (after.card? ⟨1⟩).map (·.balance) = some 1 := by
  -- A spend is held and then completed one unit lower, within the tolerance.
  intro turns after
  have hposts : ∀ x ∈ turns, x.posts? = some ("t", .spend) := by
    intro x hx
    rcases List.mem_pair.mp hx with rfl | rfl <;> rfl
  have hone : ∀ reference,
      ¬ (Posted turns reference .spend ∧ Posted turns reference .deposit) :=
    not_posted_both_of_posts hposts
  have heffect : (Specimen.world.after Specimen.settings
      [Specimen.spendTurn "t" "first" "pending" 20,
        Specimen.spendTurn "t" "first" "completed" 19]).store.tables.effectOn ⟨1⟩ = -19 := rfl
  have hbalance := balance_eq_start_add_effects (s := Specimen.settings) (w := Specimen.world)
    rfl rfl hone turns List.prefix_rfl ⟨1⟩
  refine ⟨rfl, rfl, hone, heffect, hbalance.trans ?_⟩
  rw [heffect]
  rfl

end PrepaidLedger
