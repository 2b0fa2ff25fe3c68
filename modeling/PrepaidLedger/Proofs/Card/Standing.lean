import PrepaidLedger.Proofs.Ledger.Authorization
import PrepaidLedger.Proofs.Ledger.Footprint
import PrepaidLedger.Proofs.Ledger.Independence

/-! Cards in good standing. An authorization looks at the status of a card and at nothing else that
could speak against it; that frozen cards and cards with too many declines are turned down all the
same rests on what every other part of the engine does to the status. -/

namespace PrepaidLedger

/-- If the card is active, it is not frozen and was not declined as often in a row as blocks it. -/
def Card.InStanding (threshold : Int) (c : Card) : Prop :=
  c.status = .active → c.isFrozen = false ∧ c.declineCount < threshold

def Tables.InStanding (threshold : Int) (t : Tables) : Prop :=
  ∀ c ∈ t.cards, c.InStanding threshold

/-! ## What keeps the standing -/

section Kept

variable {s : Settings} {t t' : Tables} {p : Posting} {card : Card} {threshold : Int}

theorem Tables.inStanding_cardOf (hthreshold : 1 ≤ s.declinePolicy.blockThreshold)
    (h : card.InStanding s.declinePolicy.blockThreshold) :
    (t.cardOf s p card).card.InStanding s.declinePolicy.blockThreshold := by
  intro hactive
  have hposts : card.PostsTo (t.cardOf s p card).card := postsTo_cardOf
  have hfrozen : (t.cardOf s p card).card.isFrozen = card.isFrozen := by rw [hposts.others]
  rw [status_cardOf] at hactive
  split at hactive
  · cases hactive
  next hbelow =>
  obtain ⟨hthawed, hcount⟩ := h hactive
  refine ⟨hfrozen.trans hthawed, ?_⟩
  by_cases hcounts : p.countsDecline
  · exact Int.not_le.mp fun hle => hbelow ⟨hcounts, hle⟩
  · rw [declineCount_cardOf, if_neg hcounts, Int.add_zero]
    split
    · omega
    · exact hcount

theorem CardEvent.inStanding_patch (hthreshold : 1 ≤ threshold) (h : card.InStanding threshold)
    (e : CardEvent) (now : Timestamp) :
    Card.InStanding threshold { (e.patch card.status).apply card with updatedAt := now } := by
  intro hactive
  change ((e.status.map (·.toCard card.status)).getD card.status) = .active at hactive
  change ((e.status.map fun status => decide (status = .locked)).getD card.isFrozen) = false ∧
    ((e.patch card.status).apply card).declineCount < threshold
  rw [Turn.declineCount_patched]
  cases hstatus : e.status with
  | none =>
    rw [hstatus] at hactive
    rw [if_neg fun hreset => nomatch hreset.1]
    exact h hactive
  | some status =>
    rw [hstatus] at hactive
    obtain rfl : status = .active := Turn.toCard_eq_active.mp hactive
    refine ⟨rfl, ?_⟩
    split
    · omega
    next hbefore =>
      have hcard : card.status = .active := by
        by_contra hne
        exact hbefore ⟨rfl, hne⟩
      exact (h hcard).2

theorem Tables.inStanding_of_putRow {row : Card} (h : t.InStanding threshold)
    (hrow : row.InStanding threshold) (hcards : t'.cards = putRow Card.id row t.cards) :
    t'.InStanding threshold := by
  intro c hc
  rw [hcards] at hc
  rcases mem_of_mem_putRow hc with rfl | hc
  · exact hrow
  · exact h c hc

theorem Tables.inStanding_of_cards (h : t.InStanding threshold) (hcards : t'.cards = t.cards) :
    t'.InStanding threshold := fun c hc => h c (hcards ▸ hc)

theorem Envelope.Leaves.inStanding {e : Envelope}
    (hthreshold : 1 ≤ s.declinePolicy.blockThreshold) (hd : t.Distinct)
    (h : t.InStanding s.declinePolicy.blockThreshold) (hleaves : e.Leaves s t t') :
    t'.InStanding s.declinePolicy.blockThreshold := by
  cases hleaves with
  | same hrows => exact Tables.inStanding_of_cards h hrows.cards
  | posted reference ev d card owner hev hcommits hnoted =>
    obtain ⟨l, -, rfl⟩ := hnoted.eq_apply
    have hcard : card ∈ t.cards := mem_of_rowOf? hcommits.carries.card_eq
    exact Tables.inStanding_of_putRow h (Tables.inStanding_cardOf hthreshold (h card hcard)) rfl
  | card event card _ hcard =>
    have hpatch := event.inStanding_patch hthreshold (h card (mem_of_rowOf? hcard)) t.now
    refine Tables.inStanding_of_putRow h hpatch ?_
    change (t.patched card.id (event.patch card.status)).cards = _
    rw [Tables.patched_eq hd hcard]
    rfl
  | user event owner status _ _ =>
    refine Tables.inStanding_of_cards h ?_
    simp only [Tables.call]
    split <;> rfl
  | contract event owner _ _ =>
    refine Tables.inStanding_of_cards h ?_
    simp only [Tables.call, Tables.registerAddress]
    split <;> rfl

end Kept

/-! ## Runs -/

theorem Turn.inStanding_run {s : Settings} {w : World Memory}
    (hthreshold : 1 ≤ s.declinePolicy.blockThreshold) (hd : w.store.tables.Distinct)
    (h : w.store.tables.InStanding s.declinePolicy.blockThreshold) (turn : Turn) :
    (turn.run s w).store.tables.InStanding s.declinePolicy.blockThreshold := by
  obtain ⟨refusal, parties, job⟩ := turn
  cases job with
  | event e =>
    exact (e.leaves_dispatch (Memory.backend_falters refusal) s).inStanding hthreshold hd h
  | sweep limit =>
    exact Tables.inStanding_of_cards h (Task.settles_sweepFees refusal parties limit w).cards_eq
  | settle =>
    exact Tables.inStanding_of_cards h (w.settles_settle refusal parties).cards_eq
  | clock now => exact h

theorem World.inStanding_after {s : Settings} {w : World Memory}
    (hthreshold : 1 ≤ s.declinePolicy.blockThreshold) (hd : w.store.tables.Distinct)
    (h : w.store.tables.InStanding s.declinePolicy.blockThreshold) (turns : List Turn) :
    (w.after s turns).store.tables.InStanding s.declinePolicy.blockThreshold := by
  induction turns generalizing w with
  | nil => exact h
  | cons turn rest ih =>
    exact ih (distinct_after hd s [turn]) (turn.inStanding_run hthreshold hd h)

/-! ## Approvals -/

section Approvals

variable {refusal : LockKey → Option LockError} {C : Collaborators} {s : Settings} {e : Envelope}
  {w : World Memory} {o : Outcome}

theorem Envelope.authorization_of_approved
    (h : ((dispatch s e).runIn (Memory.backend refusal) C w).1 = .ok o)
    (ho : o.status = .approved) :
    ∃ event card, e.incoming = .authorization event ∧
      w.store.tables.authorization event = .ok (.ok card) := by
  rw [runIn_dispatch_answer] at h
  cases hresult : ((e.incoming.answer s e.action).runIn (Memory.backend refusal) C w).1 with
  | error cause =>
    rw [hresult] at h
    cases cause <;> cases h <;> cases ho
  | ok answered =>
  rw [hresult] at h
  obtain rfl : answered = o := Except.ok.inj h
  cases hi : e.incoming with
  | spend reference event | collateral reference event =>
    rw [hi] at hresult
    obtain ⟨(_ | _) | _, -, rfl⟩ := Task.ok_of_return hresult <;> cases ho
  | authorization event =>
    rw [hi] at hresult
    obtain ⟨answer, hanswer, rfl⟩ := Task.ok_of_return hresult
    rw [Task.runIn_authorizeSpend] at hanswer
    rcases answer with r | card
    · cases ho
    · exact ⟨event, card, rfl, hanswer⟩
  | card event | user event | contract event =>
    rw [hi] at hresult
    obtain ⟨_ | _, -, rfl⟩ := Task.ok_of_return hresult <;> cases ho
  | closed closed =>
    rw [hi] at hresult
    obtain rfl : closed = answered := Except.ok.inj hresult
    rcases (turnedAway_of_closed hi).status with hstatus | hstatus <;>
      exact nomatch hstatus.symm.trans ho

end Approvals

/-! ## Marks that nobody reads -/

def Card.marked (frozen : Card → Bool) (declines : Card → Int) (c : Card) : Card :=
  { c with isFrozen := frozen c, declineCount := declines c }

def World.marked (frozen : Card → Bool) (declines : Card → Int) (w : World Memory) : World Memory :=
  { w with store.tables.cards := w.store.tables.cards.map (Card.marked frozen declines) }

section Marks

variable (frozen : Card → Bool) (declines : Card → Int) (w : World Memory)

theorem World.authorization_marked (event : SpendEvent) :
    (w.marked frozen declines).store.tables.authorization event =
      (w.store.tables.authorization event).map (·.map (Card.marked frozen declines)) := by
  have hcard : (w.marked frozen declines).store.tables.cardByRef? event.cardRef =
      (w.store.tables.cardByRef? event.cardRef).map (Card.marked frozen declines) := by
    unfold Tables.cardByRef? rowOf? marked
    rw [List.find?_map]
    rfl
  unfold Tables.authorization Tables.spendParties
  rw [hcard]
  cases toMinorUnits event.amount with
  | error cause => rfl
  | ok amount =>
  cases w.store.tables.cardByRef? event.cardRef with
  | none => rfl
  | some card =>
    have howner : (w.marked frozen declines).store.tables.namedOwner? event
        (card.marked frozen declines) = w.store.tables.namedOwner? event card := rfl
    dsimp only [Option.map_some]
    rw [howner]
    cases w.store.tables.namedOwner? event card with
    | none => rfl
    | some owner =>
      dsimp only
      rw [show ensureOwner (card.marked frozen declines) owner = ensureOwner card owner from rfl]
      cases ensureOwner card owner with
      | error r => rfl
      | ok u =>
        change Except.ok ((authorizeAmount card.status card.balance amount).map _) =
          Except.ok (((authorizeAmount card.status card.balance amount).map _).map _)
        cases authorizeAmount card.status card.balance amount <;> rfl

theorem reply_marked (refusal : LockKey → Option LockError) (C : Collaborators) (s : Settings)
    {e : Envelope} {event : SpendEvent} (he : e.incoming = .authorization event) :
    ((dispatch s e).runIn (Memory.backend refusal) C (w.marked frozen declines)).1 =
      ((dispatch s e).runIn (Memory.backend refusal) C w).1 := by
  rw [runIn_dispatch_answer, runIn_dispatch_answer, he]
  dsimp only [Incoming.answer]
  rw [Task.runIn_return, Task.runIn_return, Task.runIn_authorizeSpend, Task.runIn_authorizeSpend,
    World.authorization_marked]
  rcases w.store.tables.authorization event with cause | r | card <;> rfl

end Marks

/-! ## Runs with approvals -/

theorem World.sinceReset_le {s : Settings} (hs : s.effects = .inline) {w : World Memory}
    (hw : w.deferred = []) (hd : w.store.tables.Distinct)
    (hcounts : ∀ c ∈ w.store.tables.cards, 0 ≤ c.declineCount) (turns : List Turn) {card : Card}
    (hcard : card ∈ (w.after s turns).store.tables.cards) :
    (DeclineMark.sinceReset (w.declineMarks s card.id turns) : Int) ≤ card.declineCount := by
  have hfound : (w.after s turns).store.tables.card? card.id = some card :=
    rowOf?_of_mem (distinct_after hd s turns).cards hcard
  have htally := w.declineCount_after hs hw hd turns card.id
  rw [hfound] at htally
  obtain ⟨c, hc, hcount⟩ := Option.map_eq_some_iff.mp htally.symm
  have hstart := hcounts c (mem_of_rowOf? hc)
  dsimp only at hcount
  rw [← hcount]
  unfold DeclineMark.tally
  split <;> omega

/-- Active cards stay in good standing over every run, so that a spend is approved for no other
card, though the approval depends on neither mark. Where effects run at once, the counter is no less
than the declines in a row that the run brought. -/
theorem only_cards_in_standing_approved {s : Settings}
    (hthreshold : 1 ≤ s.declinePolicy.blockThreshold) {w : World Memory}
    (hd : w.store.tables.Distinct)
    (hstanding : w.store.tables.InStanding s.declinePolicy.blockThreshold) (turns : List Turn) :
    let w' := w.after s turns
    w'.store.tables.InStanding s.declinePolicy.blockThreshold ∧
      ∀ (refusal : LockKey → Option LockError) (C : Collaborators) (e : Envelope),
        (∀ o, ((dispatch s e).runIn (Memory.backend refusal) C w').1 = .ok o →
          o.status = .approved → ∃ event card, e.incoming = .authorization event ∧
            w'.store.tables.cardByRef? event.cardRef = some card ∧ card.status = .active ∧
              card.isFrozen = false ∧ card.declineCount < s.declinePolicy.blockThreshold ∧
                (s.effects = .inline → w.deferred = [] →
                  (∀ c ∈ w.store.tables.cards, 0 ≤ c.declineCount) →
                    (DeclineMark.sinceReset (w.declineMarks s card.id turns) : Int) <
                      s.declinePolicy.blockThreshold)) ∧
        (∀ event, e.incoming = .authorization event → ∀ frozen declines,
          ((dispatch s e).runIn (Memory.backend refusal) C (w'.marked frozen declines)).1 =
            ((dispatch s e).runIn (Memory.backend refusal) C w').1) := by
  intro w'
  have hstanding' := World.inStanding_after hthreshold hd hstanding turns
  refine ⟨hstanding', fun refusal C e => ⟨fun o ho happroved => ?_, fun event he frozen declines =>
    reply_marked frozen declines w' refusal C s he⟩⟩
  obtain ⟨event, card, he, hauthorized⟩ := Envelope.authorization_of_approved ho happroved
  obtain ⟨amount, owner, -, hparties, hactive, -⟩ := Tables.parties_of_approval hauthorized
  have hcard := (Tables.spendParties_eq_ok.mp hparties).1
  have hmem : card ∈ w'.store.tables.cards := mem_of_rowOf? hcard
  obtain ⟨hthawed, hcount⟩ := hstanding' card hmem hactive
  refine ⟨event, card, he, hcard, hactive, hthawed, hcount, fun hs hw hcounts => ?_⟩
  exact Int.lt_of_le_of_lt (World.sinceReset_le hs hw hd hcounts turns hmem) hcount

namespace Specimen

def requestEnvelope : Envelope :=
  { spendEnvelope "t" "first" "pending" 5 with action := "requested" }

theorem inStanding_tables : tables.InStanding settings.declinePolicy.blockThreshold := by
  intro c hc _
  rcases List.mem_cons.mp hc with rfl | hc
  · decide
  · obtain rfl := List.mem_singleton.mp hc
    decide

end Specimen

theorem approval_after_one_decline :
    let s := Specimen.settings
    1 ≤ s.declinePolicy.blockThreshold ∧ Specimen.world.store.tables.Distinct ∧
      Specimen.world.store.tables.InStanding s.declinePolicy.blockThreshold ∧
      ∃ event card, Specimen.requestEnvelope.incoming = .authorization event ∧
        (Specimen.world.after s [Specimen.declinedTurn]).store.tables.cardByRef? event.cardRef =
          some card ∧ card.status = .active ∧ card.isFrozen = false ∧
            card.declineCount < s.declinePolicy.blockThreshold ∧
            (DeclineMark.sinceReset
              (Specimen.world.declineMarks s card.id [Specimen.declinedTurn]) : Int) <
                s.declinePolicy.blockThreshold := by
  intro s
  have hthreshold : 1 ≤ s.declinePolicy.blockThreshold := by decide
  obtain ⟨-, hall⟩ := only_cards_in_standing_approved hthreshold (w := Specimen.world)
    Specimen.distinct_tables Specimen.inStanding_tables [Specimen.declinedTurn]
  have happroved := (hall (fun _ => none) Specimen.refusing Specimen.requestEnvelope).1
  have hstatus : (((dispatch s Specimen.requestEnvelope).runIn (Memory.backend fun _ => none)
      Specimen.refusing (Specimen.world.after s [Specimen.declinedTurn])).1.map
        (·.status)).toOption = some .approved := by decide +kernel
  refine ⟨hthreshold, Specimen.distinct_tables, Specimen.inStanding_tables, ?_⟩
  generalize ((dispatch s Specimen.requestEnvelope).runIn (Memory.backend fun _ => none)
    Specimen.refusing (Specimen.world.after s [Specimen.declinedTurn])).1 = reply
      at happroved hstatus
  rcases reply with cause | o
  · cases hstatus
  obtain ⟨event, card, he, hcard, hactive, hthawed, hcount, hrow⟩ :=
    happroved o rfl (Option.some.inj hstatus)
  refine ⟨event, card, he, hcard, hactive, hthawed, hcount, ?_⟩
  have hstart : ∀ c ∈ Specimen.world.store.tables.cards, 0 ≤ c.declineCount := by decide
  exact hrow rfl rfl hstart

end PrepaidLedger
