import Mathlib.Data.List.Infix
import PrepaidLedger.Proofs.Ledger.Billing
import PrepaidLedger.Proofs.Ledger.Mirror
import PrepaidLedger.Proofs.Traffic.Apart

/-! What is charged for a fee, and how often. Under one key there is one fee. It goes to one
card-user unless the line was written over for another one: then its effects charge the other, and
the sweep charges the one of the line. -/

namespace PrepaidLedger

namespace Traffic

variable {m : Traffic} {c c' : Charge}

def KeysAgree (m : Traffic) : Prop :=
  ∀ c ∈ m.world.charges, ∀ c' ∈ m.world.charges, c.idempotencyKey = c'.idempotencyKey → c = c'

/-- The line whose fee has this key was written over for another card-user. -/
def Strayed (m : Traffic) (key : String) : Prop :=
  ∃ a ∈ m.commits, a.Strays ∧ "fee:" ++ a.line.reference = key

theorem line_eq_of_key {l l' : Line} (hl : m.line? l.reference = some l)
    (hl' : m.line? l'.reference = some l') (hc : c = .ofLine l c.userRef)
    (hc' : c' = .ofLine l' c'.userRef) (hkey : c.idempotencyKey = c'.idempotencyKey) : l = l' := by
  rw [hc, hc'] at hkey
  have href : l.reference = l'.reference := Charge.reference_eq_of_key hkey
  rw [href, hl'] at hl
  exact (Option.some.inj hl).symm

theorem Backs.same_fee (h : m.Backs c) (h' : m.Backs c')
    (hkey : c.idempotencyKey = c'.idempotencyKey) :
    c.amount = c'.amount ∧ c.description = c'.description := by
  obtain ⟨l, hl, -, hc, -⟩ := h
  obtain ⟨l', hl', -, hc', -⟩ := h'
  obtain rfl := line_eq_of_key hl hl' hc hc' hkey
  rw [hc, hc']
  exact ⟨rfl, rfl⟩

theorem Backs.same_user (h : m.Backs c) (h' : m.Backs c')
    (hkey : c.idempotencyKey = c'.idempotencyKey) (hstays : ¬ m.Strayed c.idempotencyKey) :
    c.userRef = c'.userRef := by
  obtain ⟨l, hl, -, hc, huser⟩ := h
  obtain ⟨l', hl', -, hc', huser'⟩ := h'
  obtain rfl := line_eq_of_key hl hl' hc hc' hkey
  have hkeyed : "fee:" ++ l.reference = c.idempotencyKey := by rw [hc]; rfl
  have hnone {a : Applied} (ha : a ∈ m.commits) (hstrays : a.Strays) :
      a.line.reference ≠ l.reference :=
    fun he => hstays ⟨a, ha, hstrays, he ▸ hkeyed⟩
  rcases huser with ⟨owner, howner, huser⟩ | ⟨a, ha, hstrays, haref, -⟩
  · rcases huser' with ⟨owner', howner', huser'⟩ | ⟨a, ha, hstrays, haref, -⟩
    · obtain rfl := Option.some.inj (howner.symm.trans howner')
      exact huser.trans huser'.symm
    · exact absurd haref (hnone ha hstrays)
  · exact absurd haref (hnone ha hstrays)

theorem Orderly.not_strayed (h : m.Orderly) (key : String) : ¬ m.Strayed key :=
  fun ⟨a, ha, hstrays, _⟩ => h.commits a ha hstrays

end Traffic

namespace Background.Sound

variable {m : Background} {c c' : Charge}

theorem agree (h : m.Sound) (hc : c ∈ m.traffic.world.charges)
    (hc' : c' ∈ m.traffic.world.charges) (hkey : c.idempotencyKey = c'.idempotencyKey) :
    c.amount = c'.amount ∧ c.description = c'.description ∧
      (c.userRef = c'.userRef ∨ m.traffic.Strayed c.idempotencyKey) := by
  have hbacks : m.traffic.Backs c := h.charged c hc
  have hbacks' : m.traffic.Backs c' := h.charged c' hc'
  obtain ⟨hamount, hdescription⟩ := hbacks.same_fee hbacks' hkey
  refine ⟨hamount, hdescription, ?_⟩
  by_cases hstrayed : m.traffic.Strayed c.idempotencyKey
  · exact .inr hstrayed
  · exact .inl (hbacks.same_user hbacks' hkey hstrayed)

theorem keysAgree (h : m.Sound) (horderly : m.traffic.Orderly) : m.traffic.KeysAgree := by
  intro c hc c' hc' hkey
  obtain ⟨hamount, hdescription, huser⟩ := h.agree hc hc' hkey
  have huser : c.userRef = c'.userRef := huser.resolve_right (horderly.not_strayed _)
  cases c
  cases c'
  simp_all

theorem charges_owner (h : m.Sound) (horderly : m.traffic.Orderly) :
    ∀ c ∈ m.traffic.world.charges, ∃ l owner, m.traffic.line? l.reference = some l ∧
      m.traffic.tables.cardUser? l.cardUserId = some owner ∧ c = .ofLine l owner.providerRef := by
  intro c hc
  obtain ⟨l, hl, -, hof, ⟨owner, howner, huser⟩ | ⟨a, ha, hstrays, -⟩⟩ := h.charged c hc
  · exact ⟨l, owner, hl, howner, huser ▸ hof⟩
  · exact absurd hstrays (horderly.commits a ha)

end Background.Sound

/-- However effects and sweeps are delayed and whatever the provider answers, a charge is for the
earned fee of the line of its reference, charges under one key are of one amount and description,
and they go to one user unless the line was written over for another card-user; where deliveries of
one reference keep apart it never is. Where effects run at once, no key is used again once it was
accepted, and the line shows the receipt from then on. -/
theorem fee_charges_agree_unless_strayed (s : Settings) {t : Tables} (hk : t.Keyed) :
    let w := World.ofStore (.ofTables t)
    (∀ acts,
      let m := ((Background.start w).after s acts).traffic
      (∀ c ∈ m.world.charges, m.Backs c) ∧
      (∀ c ∈ m.world.charges, ∀ c' ∈ m.world.charges, c.idempotencyKey = c'.idempotencyKey →
        c.amount = c'.amount ∧ c.description = c'.description ∧
          (c.userRef = c'.userRef ∨ m.Strayed c.idempotencyKey)) ∧
      (t.Distinct → (∀ l ∈ t.lines, l.OwnedIn t) →
        (∀ past, past <+: acts → ((Background.start w).after s past).traffic.Apart) →
        m.KeysAgree ∧ ∀ c ∈ m.world.charges, ∃ l owner, m.line? l.reference = some l ∧
          m.tables.cardUser? l.cardUserId = some owner ∧ c = .ofLine l owner.providerRef)) ∧
    (s.effects = .inline → ∀ turns,
      let w' := w.after s turns
      w'.outbound.Pairwise Outbound.Precedes ∧ (∀ o ∈ w'.outbound, w'.store.tables.Explains o) ∧
      ∀ past, past <+: turns → (w.after s past).outbound <+: w'.outbound) := by
  intro w
  have hstart : (Background.start w).Sound := Background.sound_start hk rfl
  refine ⟨fun acts => ?_, fun hs turns => ?_⟩
  · intro m
    have hsound : ((Background.start w).after s acts).Sound := Background.sound_after hstart s acts
    refine ⟨hsound.charged, fun c hc c' hc' => hsound.agree hc hc', fun hd howned hapart => ?_⟩
    have horderly : m.Orderly :=
      hstart.orderly_after (Background.orderly_start (w := w) hk hd howned) hapart
    exact ⟨hsound.keysAgree horderly, hsound.charges_owner horderly⟩
  · intro w'
    have hbilled : w'.Billed := (World.billed_of_unsent (w := w) hk rfl).after hs rfl turns
    refine ⟨hbilled.once, hbilled.explained, ?_⟩
    rintro past ⟨later, rfl⟩
    change _ <+: (w.after s (past ++ later)).outbound
    rw [World.after_append]
    exact World.outbound_grows_after hs (World.deferred_after_inline hs rfl past) later

namespace Specimen

def unfunded (cardRef : String) : SpendEvent :=
  { spendEvent cardRef .declined 20 with declinedReason := some "insufficient funds" }

def doubled : List Background.Act :=
  [.traffic (move (.spend "t" (unfunded "first"))), .traffic (move (.write 0)), .effects 0,
    .sweep 10, .proceed 1 refusing, .proceed 1 refusing, .proceed 0 refusing,
    .proceed 1 accepting]

def sweepTurn : Turn := ⟨fun _ => none, accepting, .sweep 10⟩

def sweptTwice : List Turn := [declinedTurn, sweepTurn, sweepTurn]

end Specimen

/-- The sweep and the effects charge one fee twice, as the same charge. Where effects run at once,
the sweep charges what the provider has refused, and a second sweep charges nothing. -/
theorem doubled_fee_agrees :
    let w := World.ofStore (.ofTables Specimen.tables)
    let m := ((Background.start w).after Specimen.charging Specimen.doubled).traffic
    let w' := w.after Specimen.charging Specimen.sweptTwice
    m.world.charges.length = 2 ∧ m.KeysAgree ∧ w'.charges.length = 2 ∧
      w'.outbound.Pairwise Outbound.Precedes := by
  intro w m w'
  have hk : Specimen.tables.Keyed := Tables.keyed_of_no_lines rfl
  obtain ⟨hcharges, hturns⟩ := fee_charges_agree_unless_strayed Specimen.charging hk
  have hapart : ∀ past ∈ Specimen.doubled.inits,
      (((Background.start w).after Specimen.charging past).traffic.inFlight.map
        fun f => f.delivery.posting.reference).Nodup := by
    decide +kernel
  have howned : ∀ l ∈ Specimen.tables.lines, l.OwnedIn Specimen.tables :=
    fun _ hl => absurd hl List.not_mem_nil
  obtain ⟨-, -, hagree⟩ := hcharges Specimen.doubled
  obtain ⟨hkeys, -⟩ := hagree Specimen.distinct_tables howned fun past hpast =>
    hapart past ((List.mem_inits _ _).mpr hpast)
  obtain ⟨honce, -, -⟩ := hturns rfl Specimen.sweptTwice
  exact ⟨by decide +kernel, hkeys, by decide +kernel, honce⟩

namespace Specimen

def strangersCard : Card := { card 3 "third" 0 with userId := ⟨8⟩, cardUserId := ⟨6⟩ }

def neighbours : World Memory :=
  .ofStore (.ofTables { tables with
    cards := [card 1 "first" 20, strangersCard]
    cardUsers := [owner 50, stranger] })

/-- A hold and a decline of one reference, on cards of two card-users, are prepared before either is
written. The effects of the decline are refused their fee, and a sweep collects it. -/
def strayed : List Background.Act :=
  [.traffic (move (.spend "t" (spendEvent "first" .pending 20))),
    .traffic (move (.spend "t" (unfunded "third"))), .traffic (move (.write 0)),
    .traffic (move (.write 0)), .effects 1, .proceed 0 refusing, .sweep 10, .proceed 1 refusing,
    .proceed 1 refusing, .proceed 1 accepting]

end Specimen

/-- Two card-users are charged under one key. -/
theorem strayed_fee_charges_two_users :
    let m := ((Background.start Specimen.neighbours).after Specimen.charging
      Specimen.strayed).traffic
    m.world.charges.map (fun c => (c.idempotencyKey, c.userRef)) =
      [("fee:t", "stranger"), ("fee:t", "owner")] ∧ ¬ m.KeysAgree := by
  intro m
  have hcharges : m.world.charges.map (fun c => (c.idempotencyKey, c.userRef)) =
      [("fee:t", "stranger"), ("fee:t", "owner")] := by
    decide +kernel
  refine ⟨hcharges, fun hagree => ?_⟩
  have hcharged (user : String) (huser : ("fee:t", user) ∈ [("fee:t", "stranger"),
      ("fee:t", "owner")]) : ∃ c ∈ m.world.charges, (c.idempotencyKey, c.userRef) =
        ("fee:t", user) := List.mem_map.mp (hcharges ▸ huser)
  obtain ⟨c, hc, hstranger⟩ := hcharged "stranger" (by simp)
  obtain ⟨c', hc', howner⟩ := hcharged "owner" (by simp)
  have hkey : c.idempotencyKey = c'.idempotencyKey :=
    (Prod.mk.inj hstranger).1.trans (Prod.mk.inj howner).1.symm
  rw [hagree c hc c' hc' hkey, howner] at hstranger
  exact absurd hstranger (by decide)

end PrepaidLedger
