import PrepaidLedger.Proofs.Card.Declines
import PrepaidLedger.Proofs.Ledger.Words

/-! Too many declines in a row block a card, and the provider is asked to lock it when that happens
and at no other time. -/

namespace PrepaidLedger

/-- At some point of the history the counter stands at the threshold or above. -/
def DeclineMark.Reaches (threshold start : Int) (marks : List DeclineMark) : Prop :=
  ∃ past, past <+: marks ∧ threshold ≤ tally start past

theorem DeclineMark.not_reaches_nil {threshold start : Int} (h : start < threshold) :
    ¬ Reaches threshold start [] := by
  rintro ⟨past, hpast, hreached⟩
  rw [List.prefix_nil.mp hpast, tally_nil] at hreached
  omega

theorem DeclineMark.reaches_of_le {threshold start : Int} (h : threshold ≤ start)
    (marks : List DeclineMark) : Reaches threshold start marks :=
  ⟨[], List.nil_prefix, by rwa [tally_nil]⟩

theorem DeclineMark.reaches_cons {threshold start : Int} (h : start < threshold)
    (m : DeclineMark) (marks : List DeclineMark) :
    Reaches threshold start (m :: marks) ↔ Reaches threshold (tally start [m]) marks := by
  constructor
  · rintro ⟨past, hpast, hreached⟩
    cases past with
    | nil =>
      rw [tally_nil] at hreached
      omega
    | cons m' past =>
      obtain ⟨rfl, hrest⟩ := List.cons_prefix_cons.mp hpast
      rw [tally_cons] at hreached
      exact ⟨past, hrest, hreached⟩
  · rintro ⟨past, hpast, hreached⟩
    rw [← tally_cons] at hreached
    exact ⟨m :: past, List.cons_prefix_cons.mpr ⟨rfl, hpast⟩, hreached⟩

theorem DeclineMark.reaches_toList_append {threshold start : Int} (h : start < threshold)
    (mark? : Option DeclineMark) (marks : List DeclineMark) :
    Reaches threshold start (mark?.toList ++ marks) ↔
      Reaches threshold (tally start mark?.toList) marks := by
  cases mark? with
  | none => rw [Option.toList_none, List.nil_append, tally_nil]
  | some m => exact reaches_cons h m marks

namespace Turn

/-- The card whose decline the turn counts, if that is one too many and it was not blocked yet. -/
def locked? (s : Settings) (w : World Memory) (turn : Turn) : Option Card :=
  match turn.applied? s w with
  | none => none
  | some (ev, a) =>
    if ev.countsDecline ∧ s.declinePolicy.blockThreshold ≤ a.card.declineCount ∧
      (w.store.tables.card? a.card.id).map (·.status) ≠ some .blocked then some a.card
    else none

end Turn

def World.lockings (s : Settings) : World Memory → List Turn → List Card
  | _, [] => []
  | w, turn :: rest => (turn.locked? s w).toList ++ lockings s (turn.run s w) rest

namespace Turn

variable {s : Settings} {w : World Memory} {turn : Turn}

theorem locked?_of_not_applied (h : turn.applied? s w = none) : turn.locked? s w = none := by
  unfold locked?
  rw [h]

theorem locked?_delivered {reference : String} {ev : LedgerEvent} {d : Delivery} {card : Card}
    {owner : CardUser} (hcommits : ev.Commits s w.store.tables reference d card owner)
    (happlied : turn.applied? s w =
      some (ev, (w.store.tables.changeOf s d.posting card owner).applied)) :
    turn.locked? s w = if (w.store.tables.cardOf s d.posting card).newlyBlocked then
      some (w.store.tables.cardOf s d.posting card).card else none := by
  obtain ⟨_, _, hposts, -⟩ := LedgerEvent.delivery_eq_ok.mp hcommits.delivery_eq
  have hcard : w.store.tables.card? (w.store.tables.cardOf s d.posting card).card.id =
      some card := by
    rw [Tables.id_cardOf, show card.id = d.cardId from key_of_rowOf? hcommits.carries.card_eq]
    exact hcommits.carries.card_eq
  have hiff : (ev.countsDecline ∧ s.declinePolicy.blockThreshold ≤
      (w.store.tables.cardOf s d.posting card).card.declineCount ∧
      (some card).map (·.status) ≠ some .blocked) ↔
        (w.store.tables.cardOf s d.posting card).newlyBlocked := by
    rw [Tables.newlyBlocked_cardOf, hposts.declines_eq.1]
    simp
  unfold locked?
  rw [happlied]
  change (if ev.countsDecline ∧ s.declinePolicy.blockThreshold ≤
      (w.store.tables.cardOf s d.posting card).card.declineCount ∧
      (w.store.tables.card? (w.store.tables.cardOf s d.posting card).card.id).map (·.status) ≠
        some .blocked then some (w.store.tables.cardOf s d.posting card).card else none) = _
  rw [hcard]
  simp only [hiff]

theorem cardLocks_run (h : turn.Touches s w) :
    (turn.run s w).cardLocks =
      w.cardLocks ++ (turn.locked? s w).toList.map (·.providerRef) := by
  cases h with
  | spared happlied _ hspares =>
    rw [locked?_of_not_applied happlied, hspares.cardLocks]
    exact (List.append_nil _).symm
  | delivered reference ev d card owner hcommits happlied _ hlocks _ =>
    rw [locked?_delivered hcommits happlied, hlocks]
    split <;> rfl
  | patched e card _ happlied _ _ _ hstill =>
    rw [locked?_of_not_applied happlied, hstill.cardLocks]
    exact (List.append_nil _).symm

structure Declines (s : Settings) (w : World Memory) (turn : Turn) (c c' : Card) : Prop where
  found : (turn.run s w).store.tables.card? c.id = some c'
  id : c'.id = c.id
  count : c'.declineCount = DeclineMark.tally c.declineCount (turn.mark? s w c.id).toList
  status : c'.status = if turn.mark? s w c.id = some .counted ∧
    s.declinePolicy.blockThreshold ≤ c'.declineCount then .blocked else c.status
  locks : (turn.locked? s w).toList.countP (·.id = c.id) =
    if turn.mark? s w c.id = some .counted ∧ s.declinePolicy.blockThreshold ≤ c'.declineCount ∧
      c.status ≠ .blocked then 1 else 0

theorem Declines.of_unmarked {c : Card} (hfound : (turn.run s w).store.tables.card? c.id = some c)
    (hmark : turn.mark? s w c.id = none)
    (hlocks : (turn.locked? s w).toList.countP (·.id = c.id) = 0) : turn.Declines s w c c where
  found := hfound
  id := rfl
  count := by rw [hmark, Option.toList_none, DeclineMark.tally_nil]
  status := by
    rw [hmark]
    exact (if_neg fun h => nomatch h.1).symm
  locks := by
    rw [hlocks, hmark]
    exact (if_neg fun h => nomatch h.1).symm

theorem Declines.of_delivered {reference : String} {ev : LedgerEvent} {d : Delivery} {card : Card}
    {owner : CardUser} (hcommits : ev.Commits s w.store.tables reference d card owner)
    (happlied : turn.applied? s w =
      some (ev, (w.store.tables.changeOf s d.posting card owner).applied))
    (hfound : (turn.run s w).store.tables.card? card.id =
      some (w.store.tables.cardOf s d.posting card).card)
    (hcount : (w.store.tables.cardOf s d.posting card).card.declineCount =
      DeclineMark.tally card.declineCount (turn.mark? s w card.id).toList) :
    turn.Declines s w card (w.store.tables.cardOf s d.posting card).card := by
  obtain ⟨_, _, hposts, -⟩ := LedgerEvent.delivery_eq_ok.mp hcommits.delivery_eq
  have hmark := mark?_delivered happlied card.id
  rw [if_neg (not_not_intro rfl)] at hmark
  have hcounted : turn.mark? s w card.id = some .counted ↔ d.posting.countsDecline := by
    rw [hmark, hposts.declines_eq.1]
    split_ifs with h₁ h₂ <;> simp [h₁]
  refine ⟨hfound, Tables.id_cardOf .., hcount, ?_, ?_⟩
  · simp only [hcounted]
    exact Tables.status_cardOf
  · have hblocked : (w.store.tables.cardOf s d.posting card).newlyBlocked ↔ _ :=
      Tables.newlyBlocked_cardOf
    rw [locked?_delivered hcommits happlied]
    simp only [hcounted, ← hblocked]
    split
    · simp [Tables.id_cardOf]
    · rfl

theorem declines_run (hd : w.store.tables.Distinct) (h : turn.Touches s w)
    (hnews : turn.cardEvent? = none) {c : Card} (hc : w.store.tables.card? c.id = some c) :
    ∃ c', turn.Declines s w c c' := by
  have hcount := declineCount_run hd h c.id
  cases h with
  | spared happlied hupdated hspares =>
    have hfound : (turn.run s w).store.tables.card? c.id = some c := by
      unfold Tables.card?
      rw [hspares.cards]
      exact hc
    refine ⟨c, .of_unmarked hfound (mark?_spared happlied hupdated c.id) ?_⟩
    rw [locked?_of_not_applied happlied]
    rfl
  | delivered reference ev d card owner hcommits happlied hcards _ _ =>
    have hfound := Tables.card?_of_written hcards c.id
    by_cases hid : card.id = c.id
    · have hcard : card = c := by
        have hcarried := hcommits.carries.card_eq
        rw [← show card.id = d.cardId from key_of_rowOf? hcarried, hid, hc] at hcarried
        exact (Option.some.inj hcarried).symm
      obtain rfl := hcard
      rw [if_pos rfl] at hfound
      rw [hfound, hc] at hcount
      exact ⟨_, .of_delivered hcommits happlied hfound (Option.some.inj hcount)⟩
    · rw [if_neg hid, hc] at hfound
      have hmark := mark?_delivered happlied c.id
      rw [if_pos hid] at hmark
      refine ⟨c, .of_unmarked hfound hmark ?_⟩
      rw [locked?_delivered hcommits happlied]
      split <;> simp [Tables.id_cardOf, hid]
  | patched e card hnews' => exact absurd (hnews.symm.trans hnews') nofun

end Turn

/-! ## Runs -/

namespace World

variable {s : Settings} {w : World Memory}

theorem cardLocks_after (hs : s.effects = .inline) (hw : w.deferred = [])
    (hd : w.store.tables.Distinct) (turns : List Turn) :
    (w.after s turns).cardLocks = w.cardLocks ++ (w.lockings s turns).map (·.providerRef) := by
  induction turns generalizing w with
  | nil => exact (List.append_nil _).symm
  | cons turn rest ih =>
    have hstep := Turn.cardLocks_run (Turn.touches hs hw hd turn)
    have hrest := ih (turn.deferred_run_inline hs hw) (distinct_after hd s [turn])
    change ((turn.run s w).after s rest).cardLocks = _
    rw [hrest, hstep, lockings, List.map_append, List.append_assoc]

theorem declineCount_inWord (hs : s.effects = .inline) (hw : w.deferred = [])
    (hd : w.store.tables.Distinct) (turns : List Turn) {id : Uuid} {c c' : Card}
    (hc : w.store.tables.card? id = some c)
    (hc' : (w.after s turns).store.tables.card? id = some c') (hstart : 0 ≤ c.declineCount)
    (hfew : c.declineCount + (w.declineMarks s id turns).count .counted < 2 ^ 31) :
    IsInt32 c'.declineCount := by
  have htally := declineCount_after hs hw hd turns id
  rw [hc, hc'] at htally
  have hcount : c'.declineCount = DeclineMark.tally c.declineCount (w.declineMarks s id turns) :=
    Option.some.inj htally
  obtain ⟨hnonneg, hle⟩ := DeclineMark.tally_bounds hstart (w.declineMarks s id turns)
  rw [← hcount] at hnonneg hle
  exact ⟨by omega, by omega⟩

theorem blocked_after (hs : s.effects = .inline) (hw : w.deferred = [])
    (hd : w.store.tables.Distinct) {turns : List Turn}
    (hnews : ∀ turn ∈ turns, turn.cardEvent? = none) {c : Card}
    (hc : w.store.tables.card? c.id = some c) (hblocked : c.status = .blocked) :
    ∃ c', (w.after s turns).store.tables.card? c.id = some c' ∧ c'.status = .blocked ∧
      (w.lockings s turns).countP (·.id = c.id) = 0 := by
  induction turns generalizing w c with
  | nil => exact ⟨c, hc, hblocked, rfl⟩
  | cons turn rest ih =>
    have hturn : turn.cardEvent? = none := hnews turn (List.mem_cons_self ..)
    obtain ⟨c₁, hc₁⟩ := Turn.declines_run hd (Turn.touches hs hw hd turn) hturn hc
    have hblocked₁ : c₁.status = .blocked := by
      rw [hc₁.status, hblocked, ite_self]
    have hlocks : (turn.locked? s w).toList.countP (·.id = c.id) = 0 := by
      rw [hc₁.locks, if_neg fun h => h.2.2 hblocked]
    obtain ⟨c', hc', hstatus, hrest⟩ := ih (turn.deferred_run_inline hs hw)
      (distinct_after hd s [turn]) (fun x hx => hnews x (List.mem_cons_of_mem turn hx))
      (hc₁.id ▸ hc₁.found) hblocked₁
    rw [hc₁.id] at hc' hrest
    refine ⟨c', hc', hstatus, ?_⟩
    rw [lockings, List.countP_append, hlocks, hrest]

theorem active_after (hs : s.effects = .inline) (hthreshold : 1 ≤ s.declinePolicy.blockThreshold)
    (hw : w.deferred = []) (hd : w.store.tables.Distinct) {turns : List Turn}
    (hnews : ∀ turn ∈ turns, turn.cardEvent? = none) {c : Card}
    (hc : w.store.tables.card? c.id = some c) (hactive : c.status = .active)
    (hcount : c.declineCount < s.declinePolicy.blockThreshold) :
    let reaches := DeclineMark.Reaches s.declinePolicy.blockThreshold c.declineCount
      (w.declineMarks s c.id turns)
    let locks := (w.lockings s turns).countP (·.id = c.id)
    ∃ c', (w.after s turns).store.tables.card? c.id = some c' ∧
      (reaches ∧ c'.status = .blocked ∧ locks = 1 ∨
        ¬ reaches ∧ c'.status = .active ∧ locks = 0) := by
  induction turns generalizing w c with
  | nil => exact ⟨c, hc, .inr ⟨DeclineMark.not_reaches_nil hcount, hactive, rfl⟩⟩
  | cons turn rest ih =>
    have hturn : turn.cardEvent? = none := hnews turn (List.mem_cons_self ..)
    have hrest : ∀ x ∈ rest, x.cardEvent? = none :=
      fun x hx => hnews x (List.mem_cons_of_mem turn hx)
    have hw₁ : (turn.run s w).deferred = [] := turn.deferred_run_inline hs hw
    have hd₁ : (turn.run s w).store.tables.Distinct := distinct_after hd s [turn]
    obtain ⟨c₁, hc₁⟩ := Turn.declines_run hd (Turn.touches hs hw hd turn) hturn hc
    have hfound : (turn.run s w).store.tables.card? c₁.id = some c₁ := hc₁.id ▸ hc₁.found
    simp only [declineMarks, lockings, List.countP_append,
      DeclineMark.reaches_toList_append hcount, ← hc₁.count, hc₁.locks, hactive]
    by_cases hblocks : turn.mark? s w c.id = some .counted ∧
        s.declinePolicy.blockThreshold ≤ c₁.declineCount
    · have hblocked : c₁.status = .blocked := by
        rw [hc₁.status, if_pos hblocks]
      obtain ⟨c', hc', hstatus, hlocks⟩ := blocked_after hs hw₁ hd₁ hrest hfound hblocked
      rw [hc₁.id] at hc' hlocks
      refine ⟨c', hc', .inl ⟨DeclineMark.reaches_of_le hblocks.2 _, hstatus, ?_⟩⟩
      rw [hlocks, if_pos ⟨hblocks.1, hblocks.2, by decide⟩]
    · have hactive₁ : c₁.status = .active := by
        rw [hc₁.status, if_neg hblocks, hactive]
      -- A decline that does not block leaves the counter below the threshold.
      have hcount₁ : c₁.declineCount < s.declinePolicy.blockThreshold := by
        have hc₁count := hc₁.count
        cases hmark : turn.mark? s w c.id with
        | none =>
          rw [hmark, Option.toList_none, DeclineMark.tally_nil] at hc₁count
          omega
        | some m =>
          cases m with
          | counted => exact Int.not_le.mp fun h => hblocks ⟨hmark, h⟩
          | reset =>
            rw [hmark, Option.toList_some, DeclineMark.tally_reset] at hc₁count
            omega
      have hunlocked : ¬ (turn.mark? s w c.id = some .counted ∧
          s.declinePolicy.blockThreshold ≤ c₁.declineCount ∧ CardStatus.active ≠ .blocked) :=
        fun h => hblocks ⟨h.1, h.2.1⟩
      have hafter := ih hw₁ hd₁ hrest hfound hactive₁ hcount₁
      rw [hc₁.id] at hafter
      rw [if_neg hunlocked, Nat.zero_add]
      exact hafter

end World

/-- With effects that run at once, every counter tells the declines since its last reset, and stays
in its word if fewer than 2^31 are counted. The provider is asked for one lock by each decline that
blocks a card, and by nothing else. A card that no news concern, active and without declines at
first, is blocked by the decline that brings its history to the threshold: active and never locked
until then, blocked and locked once from then on. -/
theorem declines_counted_blocked_and_locked (s : Settings) (hs : s.effects = .inline)
    (hthreshold : 1 ≤ s.declinePolicy.blockThreshold) {w : World Memory} (hw : w.deferred = [])
    (hd : w.store.tables.Distinct) (turns : List Turn) :
    let w' := w.after s turns
    (∀ id, (w'.store.tables.card? id).map (·.declineCount) =
      (w.store.tables.card? id).map fun c =>
        DeclineMark.tally c.declineCount (w.declineMarks s id turns)) ∧
    (∀ id c c', w.store.tables.card? id = some c → w'.store.tables.card? id = some c' →
      0 ≤ c.declineCount →
      c.declineCount + (w.declineMarks s id turns).count .counted < 2 ^ 31 →
        IsInt32 c'.declineCount) ∧
    w'.cardLocks = w.cardLocks ++ (w.lockings s turns).map (·.providerRef) ∧
    ((∀ turn ∈ turns, turn.cardEvent? = none) → ∀ id c, w.store.tables.card? id = some c →
      c.status = .active → c.declineCount = 0 →
        let reaches := DeclineMark.Reaches s.declinePolicy.blockThreshold 0
          (w.declineMarks s id turns)
        let locks := (w.lockings s turns).countP (·.id = id)
        ∃ c', w'.store.tables.card? id = some c' ∧
          (reaches ∧ c'.status = .blocked ∧ locks = 1 ∨
            ¬ reaches ∧ c'.status = .active ∧ locks = 0)) := by
  intro w'
  refine ⟨fun id => World.declineCount_after hs hw hd turns id,
    fun id c c' hc hc' => World.declineCount_inWord hs hw hd turns hc hc',
    World.cardLocks_after hs hw hd turns, fun hnews id c hc hactive hzero => ?_⟩
  obtain rfl : c.id = id := key_of_rowOf? hc
  have hbelow : c.declineCount < s.declinePolicy.blockThreshold := by omega
  have hafter := World.active_after hs hthreshold hw hd hnews hc hactive hbelow
  rw [hzero] at hafter
  exact hafter

theorem first_decline_blocks_and_locks :
    let w' := Specimen.world.after Specimen.strict [Specimen.declinedTurn]
    Specimen.strict.effects = .inline ∧ 1 ≤ Specimen.strict.declinePolicy.blockThreshold ∧
      Specimen.world.deferred = [] ∧ Specimen.world.store.tables.Distinct ∧
      w'.cardLocks = ["first"] ∧
      ∃ c, w'.store.tables.card? ⟨1⟩ = some c ∧ c.declineCount = 1 ∧ c.status = .blocked := by
  intro w'
  obtain ⟨hcounts, -, hlocks, hblocks⟩ := declines_counted_blocked_and_locked Specimen.strict rfl
    (by decide) (w := Specimen.world) rfl Specimen.distinct_tables [Specimen.declinedTurn]
  have hmarks : Specimen.world.declineMarks Specimen.strict ⟨1⟩ [Specimen.declinedTurn] =
      [.counted] := by decide +kernel
  have hlockings : (Specimen.world.lockings Specimen.strict [Specimen.declinedTurn]).map
      (·.providerRef) = ["first"] := by decide +kernel
  have hnews : ∀ turn ∈ [Specimen.declinedTurn], turn.cardEvent? = none := by
    intro turn hturn
    obtain rfl := List.mem_singleton.mp hturn
    decide +kernel
  have hreaches : DeclineMark.Reaches 1 0 [.counted] :=
    ⟨[.counted], List.prefix_rfl, by decide⟩
  have hcount := hcounts ⟨1⟩
  obtain ⟨c, hc, hreached | hunreached⟩ :=
    hblocks hnews ⟨1⟩ (Specimen.card 1 "first" 20) rfl rfl rfl
  · refine ⟨rfl, by decide, rfl, Specimen.distinct_tables, ?_, c, hc, ?_, hreached.2.1⟩
    · rw [hlocks, hlockings]
      rfl
    · rw [hc, hmarks] at hcount
      exact Option.some.inj hcount
  · rw [hmarks] at hunreached
    exact absurd hreaches hunreached.1

end PrepaidLedger
