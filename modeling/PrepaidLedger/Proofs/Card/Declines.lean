import Mathlib.Data.List.TakeWhile
import PrepaidLedger.Proofs.Engine.Course
import PrepaidLedger.Proofs.Profile.Overtaken

/-! The decline counter of a card tells how many declines for want of funds were applied to it since
it was last reset. A turn counts or resets if it is applied or processed, and not if it only comes
in. -/

namespace PrepaidLedger

/-! ## Histories -/

inductive DeclineMark
  | counted
  | reset
deriving DecidableEq

namespace DeclineMark

def sinceReset (marks : List DeclineMark) : Nat :=
  (marks.reverse.takeWhile (· = .counted)).length

def tally (start : Int) (marks : List DeclineMark) : Int :=
  (if .reset ∈ marks then 0 else start) + sinceReset marks

theorem all_counted {marks : List DeclineMark} (h : .reset ∉ marks) :
    ∀ m ∈ marks.reverse, decide (m = .counted) = true := by
  intro m hm
  cases m with
  | counted => rfl
  | reset => exact absurd (List.mem_reverse.mp hm) h

theorem sinceReset_of_no_reset {marks : List DeclineMark} (h : .reset ∉ marks) :
    sinceReset marks = marks.length := by
  rw [sinceReset, List.takeWhile_eq_self_iff.mpr (all_counted h), List.length_reverse]

theorem sinceReset_cons_of_reset (m : DeclineMark) {marks : List DeclineMark}
    (h : .reset ∈ marks) : sinceReset (m :: marks) = sinceReset marks := by
  have hshort : (marks.reverse.takeWhile (· = .counted)).length ≠ marks.reverse.length := by
    intro hlength
    have hself : marks.reverse.takeWhile (· = .counted) = marks.reverse :=
      (List.takeWhile_prefix _).eq_of_length hlength
    have hreset := List.takeWhile_eq_self_iff.mp hself .reset (List.mem_reverse.mpr h)
    cases hreset
  rw [sinceReset, List.reverse_cons, List.takeWhile_append, if_neg hshort, sinceReset]

theorem sinceReset_reset_cons {marks : List DeclineMark} (h : .reset ∉ marks) :
    sinceReset (.reset :: marks) = marks.length := by
  rw [sinceReset, List.reverse_cons, List.takeWhile_append_of_pos (all_counted h)]
  simp

theorem sinceReset_le_count (marks : List DeclineMark) :
    sinceReset marks ≤ marks.count .counted := by
  have hall : ∀ m ∈ marks.reverse.takeWhile (· = .counted), .counted = m := by
    intro m hm
    have hcounted := List.mem_takeWhile_imp hm
    exact (of_decide_eq_true hcounted).symm
  unfold sinceReset
  rw [← List.count_eq_length.mpr hall, ← List.count_reverse (l := marks)]
  exact (List.takeWhile_sublist _).count_le _

theorem tally_bounds {start : Int} (hstart : 0 ≤ start) (marks : List DeclineMark) :
    0 ≤ tally start marks ∧ tally start marks ≤ start + marks.count .counted := by
  have hcount := sinceReset_le_count marks
  unfold tally
  split <;> omega

@[simp] theorem tally_nil (start : Int) : tally start [] = start := by simp [tally, sinceReset]

@[simp] theorem tally_counted (start : Int) : tally start [.counted] = start + 1 := by
  simp [tally, sinceReset]

@[simp] theorem tally_reset (start : Int) : tally start [.reset] = 0 := by
  simp [tally, sinceReset]

theorem tally_cons (start : Int) (m : DeclineMark) (marks : List DeclineMark) :
    tally start (m :: marks) = tally (tally start [m]) marks := by
  by_cases h : .reset ∈ marks
  · have hcons : .reset ∈ m :: marks := List.mem_cons_of_mem m h
    rw [tally, if_pos hcons, sinceReset_cons_of_reset m h, tally, if_pos h]
  cases m with
  | counted =>
    have hcons : .reset ∉ .counted :: marks := by simp [h]
    rw [tally_counted, tally, if_neg hcons, sinceReset_of_no_reset hcons, tally, if_neg h,
      sinceReset_of_no_reset h, List.length_cons]
    omega
  | reset =>
    rw [tally_reset, tally, if_pos (List.mem_cons_self ..), sinceReset_reset_cons h, tally,
      if_neg h, sinceReset_of_no_reset h]

theorem tally_append (start : Int) (xs ys : List DeclineMark) :
    tally start (xs ++ ys) = tally (tally start xs) ys := by
  induction xs generalizing start with
  | nil => rw [List.nil_append, tally_nil]
  | cons m rest ih => rw [List.cons_append, tally_cons, ih, ← tally_cons]

end DeclineMark

/-! ## What a turn means for a card -/

namespace LedgerEvent

def countsDecline : LedgerEvent → Bool
  | .spend e => e.status.toLine = .declined && isInsufficientFunds e.declinedReason
  | .collateral _ => false

def resetsDeclines : LedgerEvent → Bool
  | .spend e => e.status.toLine = .successful
  | .collateral _ => false

theorem resetsDeclines_of_countsDecline {ev : LedgerEvent} (h : ev.countsDecline) :
    ev.resetsDeclines = false := by
  cases ev with
  | spend e =>
    have hstatus : e.status.toLine = .declined := by
      unfold countsDecline at h
      simp only [Bool.and_eq_true, decide_eq_true_eq] at h
      exact h.1
    unfold resetsDeclines
    simp [hstatus]
  | collateral e => rfl

theorem Posts.declines_eq {ev : LedgerEvent} {s : Settings} {t : Tables} {reference : String}
    {card : Card} {owner : CardUser} {p : Posting} (h : ev.Posts s t reference card owner p) :
    p.countsDecline = ev.countsDecline ∧ p.resetsDeclines = ev.resetsDeclines := by
  cases ev with
  | spend e =>
    have hp : Posting.ofSpend s reference p.amount card e = p := Except.ok.inj h.posting_eq
    rw [← hp]
    exact ⟨rfl, rfl⟩
  | collateral e =>
    have hp : Posting.ofCollateral s reference p.amount card e = .ok p := h.posting_eq
    unfold Posting.ofCollateral at hp
    dsimp only at hp
    cases hterms : Posting.collateralTerms s.fees e.status.toLine p.amount with
    | error cause =>
      rw [hterms] at hp
      cases hp
    | ok terms =>
      rw [hterms] at hp
      rw [← Except.ok.inj hp]
      exact ⟨rfl, rfl⟩

end LedgerEvent

namespace Turn

def applied? (s : Settings) (w : World Memory) (turn : Turn) : Option (LedgerEvent × Applied) :=
  match turn.ledgerEvent? with
  | none => none
  | some (reference, ev) =>
    match ((ev.apply s reference).runIn (Memory.backend turn.refusal) turn.parties w).1 with
    | .ok (.ok a) => some (ev, a)
    | _ => none

def updated? (w : World Memory) (turn : Turn) : Option (CardEvent × Card) :=
  match turn.cardEvent? with
  | none => none
  | some e =>
    match ((updateCard e).runIn (Memory.backend turn.refusal) turn.parties w).1 with
    | .ok (.ok card) => some (e, card)
    | _ => none

/-- Whether the turn counts a decline of the card or resets its declines. A card that is made active
is reset unless it was active before. -/
def mark? (s : Settings) (w : World Memory) (turn : Turn) (id : Uuid) : Option DeclineMark :=
  match turn.applied? s w with
  | some (ev, a) =>
    if a.card.id ≠ id then none
    else if ev.countsDecline then some .counted
    else if ev.resetsDeclines then some .reset
    else none
  | none =>
    match turn.updated? w with
    | some (e, card) =>
      if card.id = id ∧ e.status = some .active ∧
        (w.store.tables.card? id).map (·.status) ≠ some .active then some .reset
      else none
    | none => none

end Turn

def World.declineMarks (s : Settings) (id : Uuid) : World Memory → List Turn → List DeclineMark
  | _, [] => []
  | w, turn :: rest => (turn.mark? s w id).toList ++ declineMarks s id (turn.run s w) rest

/-! ## What becomes of the cards -/

namespace Tables

variable {s : Settings} {t : Tables} {p : Posting} {card : Card}

theorem card?_of_written {t' : Tables}
    (hcards : t'.cards = putRow Card.id (t.cardOf s p card).card t.cards) (id : Uuid) :
    t'.card? id = if card.id = id then some (t.cardOf s p card).card else t.card? id := by
  unfold card?
  rw [hcards, rowOf?_putRow, id_cardOf]

theorem declineCount_cardOf : (t.cardOf s p card).card.declineCount =
    (if p.resetsDeclines then 0 else card.declineCount) + if p.countsDecline then 1 else 0 := by
  unfold cardOf
  dsimp only
  split
  · rw [DeclinePolicy.card_record]
    rfl
  · exact (Int.add_zero _).symm

theorem status_cardOf : (t.cardOf s p card).card.status =
    if p.countsDecline ∧
      s.declinePolicy.blockThreshold ≤ (t.cardOf s p card).card.declineCount then .blocked
    else card.status := by
  unfold cardOf
  dsimp only
  split
  next h =>
    rw [DeclinePolicy.card_record]
    simp only [h, true_and]
    rfl
  next h =>
    rw [if_neg fun hb => h hb.1]
    rfl

theorem newlyBlocked_cardOf : (t.cardOf s p card).newlyBlocked ↔ p.countsDecline ∧
    s.declinePolicy.blockThreshold ≤ (t.cardOf s p card).card.declineCount ∧
      card.status ≠ .blocked := by
  have hstatus : card.status =
    (card.moved (card.balance + t.deltaOf p) p.resetsDeclines t.now).status := rfl
  rw [hstatus]
  unfold cardOf
  dsimp only
  split
  next h =>
    rw [DeclinePolicy.card_record, iff_true_intro h, true_and]
    unfold DeclinePolicy.record DeclinePolicy.blocks
    dsimp only
    split
    next hb => exact iff_of_true rfl (by simpa using hb)
    next hb => exact iff_of_false Bool.false_ne_true fun hblocks => hb (by simpa using hblocks)
  next h => exact iff_of_false Bool.false_ne_true fun hblocks => h hblocks.1

end Tables

theorem Task.runIn_updateCard_eq (refusal : LockKey → Option LockError) (C : Collaborators)
    {w : World Memory} (hd : w.store.tables.Distinct) (e : CardEvent) :
    (updateCard e).runIn (Memory.backend refusal) C w =
      match w.store.tables.cardByRef? e.cardRef with
      | none => (.ok (.error .cardNotFound), w)
      | some card =>
        (.ok (.ok { (e.patch card.status).apply card with updatedAt := w.store.tables.now }),
          w.patched card.id (e.patch card.status)) := by
  have hanswer : World.answer (Memory.backend refusal) C (.store (.cardByRef e.cardRef)) w =
      (.ok (w.store.tables.cardByRef? e.cardRef), w) := rfl
  unfold runIn Program.runIn
  rw [run_updateCard, Program.run, hanswer]
  cases hcard : w.store.tables.cardByRef? e.cardRef with
  | none => rfl
  | some card =>
    have hid : w.store.tables.card? card.id = some card :=
      rowOf?_of_mem hd.cards (mem_of_rowOf? hcard)
    have hcall : (w.store.tables.call (.patchCard card.id (e.patch card.status))).1 =
        some { (e.patch card.status).apply card with updatedAt := w.store.tables.now } := by
      unfold Tables.call
      dsimp only
      rw [hid]
    change Task.runIn (Memory.backend refusal) C
      (store (.patchCard card.id (e.patch card.status)) >>= _) w = _
    rw [runIn_bind, runIn_store]
    dsimp only
    rw [hcall]
    rfl

namespace Turn

inductive Touches (s : Settings) (w : World Memory) (turn : Turn) : Prop
  | spared (applied : turn.applied? s w = none) (updated : turn.updated? w = none)
      (spares : w.SparesCards (turn.run s w))
  | delivered (reference : String) (ev : LedgerEvent) (d : Delivery) (card : Card)
      (owner : CardUser) (commits : ev.Commits s w.store.tables reference d card owner)
      (applied : turn.applied? s w =
        some (ev, (w.store.tables.changeOf s d.posting card owner).applied))
      (cards : (turn.run s w).store.tables.cards =
        putRow Card.id (w.store.tables.cardOf s d.posting card).card w.store.tables.cards)
      (cardLocks : (turn.run s w).cardLocks = w.cardLocks ++
        if (w.store.tables.cardOf s d.posting card).newlyBlocked then
          [(w.store.tables.cardOf s d.posting card).card.providerRef] else [])
      (deferred : (turn.run s w).deferred = w.deferred)
  | patched (e : CardEvent) (card : Card) (news : turn.cardEvent? = some e)
      (applied : turn.applied? s w = none)
      (found : w.store.tables.cardByRef? e.cardRef = some card)
      (updated : turn.updated? w =
        some (e, { (e.patch card.status).apply card with updatedAt := w.store.tables.now }))
      (cards : (turn.run s w).store.tables.cards =
        putRow Card.id { (e.patch card.status).apply card with updatedAt := w.store.tables.now }
          w.store.tables.cards)
      (still : w.Still (turn.run s w))

variable {s : Settings} {w : World Memory}

theorem cardEvent?_of_ledgerEvent? {turn : Turn} {reference : String} {ev : LedgerEvent}
    (h : turn.ledgerEvent? = some (reference, ev)) : turn.cardEvent? = none := by
  obtain ⟨refusal, parties, job⟩ := turn
  cases job with
  | event e =>
    change e.incoming.ledgerEvent? = _ at h
    change e.incoming.cardEvent? = none
    cases hi : e.incoming with
    | card =>
      rw [hi] at h
      cases h
    | _ => rfl
  | _ => rfl

theorem updated?_of_no_news {turn : Turn} (h : turn.cardEvent? = none) :
    turn.updated? w = none := by
  unfold updated?
  rw [h]

theorem applied?_of_no_event {turn : Turn} (h : turn.ledgerEvent? = none) :
    turn.applied? s w = none := by
  unfold applied?
  rw [h]

theorem touches_of_ledgerEvent (hs : s.effects = .inline) {turn : Turn} {reference : String}
    {ev : LedgerEvent} (hev : turn.ledgerEvent? = some (reference, ev)) : turn.Touches s w := by
  have hnews : turn.updated? w = none := updated?_of_no_news (cardEvent?_of_ledgerEvent? hev)
  have hrun := run_of_ledgerEvent? hev s w
  have happlied : turn.applied? s w =
      match ((ev.apply s reference).runIn (Memory.backend turn.refusal) turn.parties w).1 with
      | .ok (.ok a) => some (ev, a)
      | _ => none := by
    unfold applied?
    rw [hev]
  rcases ev.runIn_apply_cases turn.refusal turn.parties s w reference with
    ⟨hno, -, huntouched⟩ | ⟨d, card, owner, hcommits, hresult⟩
  · rw [← hrun] at huntouched
    refine .spared ?_ hnews ⟨huntouched.still, huntouched.rows.cards⟩
    rw [happlied]
    split
    next a ha => exact absurd ha (hno a)
    · rfl
  · rw [hresult] at hrun happlied
    obtain ⟨hlocks, hdeferred⟩ := Program.runIn_startEffects (Memory.backend turn.refusal)
      turn.parties s (w.store.tables.changeOf s d.posting card owner).applied
        (w.resting (w.store.tables.apply (w.store.tables.changeOf s d.posting card owner)))
    refine .delivered reference ev d card owner hcommits happlied ?_ ?_ ?_
    · rw [hrun, (Program.settles_startEffects ..).cards_eq]
      rfl
    · rw [hrun, hlocks]
      simp only [hs, true_and]
      rfl
    · rw [hrun, hdeferred]
      simp only [hs, reduceCtorEq, if_false, List.append_nil]
      rfl

theorem touches_of_news (hd : w.store.tables.Distinct) {turn : Turn} {e : CardEvent}
    (hev : turn.ledgerEvent? = none) (hnews : turn.cardEvent? = some e)
    (hrun : turn.run s w =
      ((updateCard e).runIn (Memory.backend turn.refusal) turn.parties w).2) :
    turn.Touches s w := by
  have hstill : w.Still (turn.run s w) := by
    rw [hrun]
    exact ((Task.asks_updateCard e).mono fun _ => Request.isPlain_of_isProfile).still w
  have hupdated : turn.updated? w =
      match ((updateCard e).runIn (Memory.backend turn.refusal) turn.parties w).1 with
      | .ok (.ok card) => some (e, card)
      | _ => none := by
    unfold updated?
    rw [hnews]
  rw [Task.runIn_updateCard_eq turn.refusal turn.parties hd e] at hrun hupdated
  cases hcard : w.store.tables.cardByRef? e.cardRef with
  | none =>
    rw [hcard] at hrun hupdated
    refine .spared (applied?_of_no_event hev) hupdated ⟨hstill, ?_⟩
    rw [hrun]
  | some card =>
    rw [hcard] at hrun hupdated
    refine .patched e card hnews (applied?_of_no_event hev) hcard hupdated ?_ hstill
    rw [hrun]
    change (w.store.tables.patched card.id (e.patch card.status)).cards = _
    rw [Tables.patched_eq hd hcard]
    rfl

theorem touches (hs : s.effects = .inline) (hw : w.deferred = [])
    (hd : w.store.tables.Distinct) (turn : Turn) : turn.Touches s w := by
  cases hev : turn.ledgerEvent? with
  | some event => exact touches_of_ledgerEvent hs hev
  | none =>
    have hspares := sparesCards_run s hw hev
    cases hnews : turn.cardEvent? with
    | none =>
      rw [hnews] at hspares
      exact .spared (applied?_of_no_event hev) (updated?_of_no_news hnews) hspares
    | some e =>
      rw [hnews] at hspares
      exact touches_of_news hd hev hnews hspares

/-! ## The counter after a turn -/

theorem toCard_eq_active {status : ProviderCardStatus} {current : CardStatus} :
    status.toCard current = .active ↔ status = .active := by
  cases status <;> cases current <;> decide

theorem reset_patch (e : CardEvent) (current : CardStatus) :
    (e.patch current).resetDeclineCount = true ↔ e.status = some .active ∧ current ≠ .active := by
  have hstatus : e.status.map (·.toCard current) = some .active ↔ e.status = some .active := by
    cases e.status with
    | none => exact iff_of_false nofun nofun
    | some status => simp [toCard_eq_active]
  unfold CardEvent.patch
  dsimp only
  rw [decide_eq_true_iff, hstatus]

section Delivered

variable {turn : Turn} {reference : String} {ev : LedgerEvent} {d : Delivery} {card : Card}
  {owner : CardUser}

theorem mark?_delivered (happlied : turn.applied? s w =
      some (ev, (w.store.tables.changeOf s d.posting card owner).applied)) (id : Uuid) :
    turn.mark? s w id = if card.id ≠ id then none
      else if ev.countsDecline then some .counted
      else if ev.resetsDeclines then some .reset else none := by
  have hid : (w.store.tables.changeOf s d.posting card owner).applied.card.id = card.id :=
    Tables.id_cardOf ..
  unfold mark?
  rw [happlied]
  dsimp only
  rw [hid]

theorem declineCount_delivered (hcommits : ev.Commits s w.store.tables reference d card owner) :
    (w.store.tables.cardOf s d.posting card).card.declineCount =
      (if ev.resetsDeclines then 0 else card.declineCount) + if ev.countsDecline then 1 else 0 := by
  obtain ⟨_, _, hposts, -⟩ := LedgerEvent.delivery_eq_ok.mp hcommits.delivery_eq
  obtain ⟨hcounts, hresets⟩ := hposts.declines_eq
  rw [Tables.declineCount_cardOf, hcounts, hresets]

end Delivered

section Patched

variable {turn : Turn} {e : CardEvent} {card : Card}

theorem card?_patched {w' : World Memory}
    (hcards : w'.store.tables.cards = putRow Card.id
      { (e.patch card.status).apply card with updatedAt := w.store.tables.now }
      w.store.tables.cards) (id : Uuid) :
    w'.store.tables.card? id = if card.id = id then
        some { (e.patch card.status).apply card with updatedAt := w.store.tables.now }
      else w.store.tables.card? id := by
  unfold Tables.card?
  rw [hcards, rowOf?_putRow]
  rfl

theorem mark?_patched (happlied : turn.applied? s w = none)
    (hupdated : turn.updated? w =
      some (e, { (e.patch card.status).apply card with updatedAt := w.store.tables.now }))
    (id : Uuid) : turn.mark? s w id = if card.id = id ∧ e.status = some .active ∧
      (w.store.tables.card? id).map (·.status) ≠ some .active then some .reset else none := by
  unfold mark?
  rw [happlied, hupdated]
  rfl

theorem declineCount_patched (e : CardEvent) (card : Card) :
    ((e.patch card.status).apply card).declineCount =
      if e.status = some .active ∧ card.status ≠ .active then 0 else card.declineCount := by
  unfold CardPatch.apply
  dsimp only
  simp only [reset_patch]

end Patched

theorem mark?_spared {turn : Turn} (happlied : turn.applied? s w = none)
    (hupdated : turn.updated? w = none) (id : Uuid) : turn.mark? s w id = none := by
  unfold mark?
  rw [happlied, hupdated]

theorem declineCount_run (hd : w.store.tables.Distinct) {turn : Turn} (h : turn.Touches s w)
    (id : Uuid) :
    ((turn.run s w).store.tables.card? id).map (·.declineCount) =
      (w.store.tables.card? id).map fun c =>
        DeclineMark.tally c.declineCount (turn.mark? s w id).toList := by
  cases h with
  | spared happlied hupdated hspares =>
    have hcard : (turn.run s w).store.tables.card? id = w.store.tables.card? id := by
      unfold Tables.card?
      rw [hspares.cards]
    rw [mark?_spared happlied hupdated, hcard]
    simp
  | delivered reference ev d card owner hcommits happlied hcards _ _ =>
    rw [Tables.card?_of_written hcards, mark?_delivered happlied]
    by_cases hid : card.id = id
    · have hcard : w.store.tables.card? id = some card := by
        rw [← hid, show card.id = d.cardId from key_of_rowOf? hcommits.carries.card_eq]
        exact hcommits.carries.card_eq
      rw [if_pos hid, if_neg (not_not_intro hid), hcard, Option.map_some, Option.map_some,
        declineCount_delivered hcommits]
      by_cases hcounted : ev.countsDecline
      · simp [hcounted, LedgerEvent.resetsDeclines_of_countsDecline hcounted]
      · by_cases hreset : ev.resetsDeclines <;> simp [hcounted, hreset]
    · rw [if_neg hid, if_pos hid]
      simp
  | patched e card _ happlied hfound hupdated hcards _ =>
    rw [card?_patched hcards, mark?_patched happlied hupdated]
    by_cases hid : card.id = id
    · have hcard : w.store.tables.card? id = some card := by
        rw [← hid]
        exact rowOf?_of_mem hd.cards (mem_of_rowOf? hfound)
      have hcount := declineCount_patched e card
      rw [if_pos hid, hcard]
      by_cases hactive : e.status = some .active ∧ card.status ≠ .active
      · simp [hcount, hid, hactive]
      · have hmark : ¬ (card.id = id ∧ e.status = some .active ∧
            (some card).map (·.status) ≠ some .active) := by
          rintro ⟨-, hstatus, hne⟩
          exact hactive ⟨hstatus, fun h => hne (congrArg some h)⟩
        rw [if_neg hmark]
        simp [hcount, hactive]
    · rw [if_neg hid, if_neg fun h => hid h.1]
      simp

end Turn

theorem World.declineCount_after {s : Settings} (hs : s.effects = .inline) {w : World Memory}
    (hw : w.deferred = []) (hd : w.store.tables.Distinct) (turns : List Turn) (id : Uuid) :
    ((w.after s turns).store.tables.card? id).map (·.declineCount) =
      (w.store.tables.card? id).map fun c =>
        DeclineMark.tally c.declineCount (w.declineMarks s id turns) := by
  induction turns generalizing w with
  | nil => simp [World.after, declineMarks]
  | cons turn rest ih =>
    have hd' : (turn.run s w).store.tables.Distinct := distinct_after hd s [turn]
    have hstep := Turn.declineCount_run hd (Turn.touches hs hw hd turn) id
    have hrest := ih (turn.deferred_run_inline hs hw) hd'
    change (((turn.run s w).after s rest).store.tables.card? id).map (·.declineCount) = _
    have htally (c? : Option Card) (marks : List DeclineMark) :
        (c?.map fun c => DeclineMark.tally c.declineCount marks) =
          (c?.map (·.declineCount)).map fun n => DeclineMark.tally n marks := by
      rw [Option.map_map]
      rfl
    rw [hrest, htally, hstep, Option.map_map]
    simp only [declineMarks, DeclineMark.tally_append]
    rfl

end PrepaidLedger
