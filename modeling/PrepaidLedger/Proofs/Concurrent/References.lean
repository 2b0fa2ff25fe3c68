import PrepaidLedger.Proofs.Concurrent.Filing
import PrepaidLedger.Proofs.Concurrent.Interleaved

/-! How often a reference stands in the two ledgers while deliveries run at the same time. A
transaction looks for its reference among the committed rows and its own, and the commit does not
look again. What keeps a reference from being given twice is a lock that both transactions need,
that of their card or that of their card-user. -/

namespace PrepaidLedger

def Delivery.Overlaps (d d' : Delivery) : Prop := ∃ id ∈ d.rows, id ∈ d'.rows

instance (d d' : Delivery) : Decidable (d.Overlaps d') :=
  inferInstanceAs (Decidable (∃ id ∈ d.rows, id ∈ d'.rows))

/-! ## One delivery -/

section Runners

variable {r : String} {d : Delivery} {holds holds' : Uuid → Prop} {t t' : Tables} {p : Pending}
  {φ : Stage}

structure Tables.Leaves (r : String) (batch : Nat) (alone : Prop) (t t' : Tables) : Prop where
  batches : t.batches ≤ t'.batches
  lines : Kept r batch alone t.lineLabels t'.lineLabels
  entries : Kept r batch alone t.entryLabels t'.entryLabels

theorem Tables.Steady.leaves (h : t.Steady t') (r : String) (batch : Nat) (alone : Prop) :
    t.Leaves r batch alone t' where
  batches := h.batches
  lines := by
    rw [h.lineLabels_eq]
    exact .refl _
  entries := by
    rw [h.entryLabels_eq]
    exact .refl _

structure Pending.Numbers (p : Pending) (t : Tables) : Prop where
  taken : p.batch < t.batches
  lines : Fresh p.batch t.lineLabels
  entries : Fresh p.batch t.entryLabels

/-- The delivery writes the reference and holds both its rows, so nobody who shares one of them can
write it. -/
def Delivery.Occupies (d : Delivery) (r : String) (holds : Uuid → Prop) : Prop :=
  d.posting.reference = r ∧ ∀ id ∈ d.rows, holds id

theorem Stage.Fits.leaves (h : φ.Fits r d t p) (hholds : φ.Holds d holds)
    (hleaves : t.Leaves r p.batch (d.Occupies r holds) t') : φ.Fits r d t' p := by
  cases φ with
  | opened | failed | ended => exact h
  | soughtLine found =>
    exact ⟨h.1, h.2.1, h.2.2.kept hleaves.lines fun hq => ⟨hq, hholds⟩⟩
  | lined => exact ⟨h.1.kept hleaves.lines fun hq => ⟨hq, hholds⟩, h.2⟩
  | soughtEntry found =>
    exact ⟨h.1.kept hleaves.lines fun hq => ⟨hq, hholds⟩, h.2.1,
      h.2.2.kept hleaves.entries fun hq => ⟨hq, hholds⟩⟩
  | filed =>
    exact ⟨h.1.kept hleaves.lines fun hq => ⟨hq, hholds⟩,
      h.2.kept hleaves.entries fun hq => ⟨hq, hholds⟩⟩

theorem Pending.Numbers.leaves {alone : Prop} (h : p.Numbers t)
    (hleaves : t.Leaves r p.batch alone t') : p.Numbers t' where
  taken := Nat.lt_of_lt_of_le h.taken hleaves.batches
  lines := hleaves.lines.fresh h.lines
  entries := hleaves.entries.fresh h.entries

def Runner.Files (r : String) (d : Delivery) (holds : Uuid → Prop) (t : Tables) : Runner → Prop
  | .outside rest => rest.OpensFiling d
  | .within rest p =>
    p.Numbers t ∧ ∃ φ : Stage, φ.Holds d holds ∧ φ.Fits r d t p ∧
      rest.Files d (fun _ _ => True) φ
  | .dropped => True

def Runner.batch? : Runner → Option Nat
  | .within _ p => some p.batch
  | _ => none

theorem Runner.Files.leaves {runner : Runner} (h : runner.Files r d holds t)
    (hholds : ∀ id, holds' id ↔ holds id)
    (hleaves : ∀ batch ∈ runner.batch?, t.Leaves r batch (d.Occupies r holds) t') :
    runner.Files r d holds' t' := by
  cases runner with
  | outside rest => exact h
  | within rest p =>
    obtain ⟨hnumbers, φ, hφ, hfits, hrest⟩ := h
    have hleaves := hleaves p.batch rfl
    exact ⟨hnumbers.leaves hleaves, φ, hφ.mono fun id => (hholds id).mpr,
      hfits.leaves hφ hleaves, hrest⟩
  | dropped => exact trivial

theorem Program.Files.opensFiling {x : Program Conclusion}
    (h : x.Files d (fun _ _ => True) .ended) : x.OpensFiling d := by
  cases x with
  | done c => exact trivial
  | ask req next => cases req <;> exact h.elim

theorem Request.Files.filed {on : Request.Reply .commit → Stage → Prop}
    (h : Request.Files d .commit φ on) : φ = .filed ∧ on (.ok ()) .ended := by
  cases φ with
  | filed => exact ⟨rfl, h⟩
  | _ => exact h.elim

theorem Request.Files.rolledBack {on : Request.Reply .rollback → Stage → Prop}
    (h : Request.Files d .rollback φ on) : on (.ok ()) .ended := by
  cases φ with
  | ended => exact h.elim
  | _ => exact h

theorem Request.Files.abandoned {on : Request.Reply .abandon → Stage → Prop}
    (h : Request.Files d .abandon φ on) : on () .ended := by
  cases φ with
  | ended => exact h.elim
  | _ => exact h

theorem Request.Files.called {c : TxCall} {on : Request.Reply (.tx c) → Stage → Prop}
    (h : Request.Files d (.tx c) φ on) : c.Due d φ ∧ ∀ reply, on reply (φ.after c reply) := by
  cases φ with
  | ended => exact h.elim
  | _ => exact h

end Runners

/-! ## All of them -/

namespace Interleaving

variable {ι : Type} {r : String} {deliveries : ι → Delivery} {m m' : Interleaving ι} {i : ι}

/-- Every delivery is where its filing should be, no two of them have the same numbers, and the
reference stands in each ledger once at most. -/
structure Filed (r : String) (deliveries : ι → Delivery) (m : Interleaving ι) : Prop where
  runner : ∀ i, (m.runner i).Files r (deliveries i) (fun id => m.holder id = some i) m.tables
  apart : ∀ i j, ∀ batch ∈ (m.runner i).batch?, (m.runner j).batch? = some batch → i = j
  lines : Catalogue r m.tables.batches m.tables.lineLabels
  entries : Catalogue r m.tables.batches m.tables.entryLabels

def Contends (r : String) (deliveries : ι → Delivery) (i : ι) : Prop :=
  (deliveries i).posting.reference = r → ∀ j ≠ i, (deliveries j).posting.reference = r →
    (deliveries i).Overlaps (deliveries j)

theorem filed_start (s : Settings) {t : Tables}
    (hlines : Catalogue r t.batches t.lineLabels) (hentries : Catalogue r t.batches t.entryLabels)
    (deliveries : ι → Delivery) : (start s t deliveries).Filed r deliveries where
  runner i := Task.opensFiling_write s (deliveries i)
  apart _ _ _ h := by cases h
  lines := hlines
  entries := hentries

theorem Filed.numbers (h : m.Filed r deliveries) {rest : Program Conclusion} {p : Pending}
    (hr : m.runner i = .within rest p) : p.Numbers m.tables := by
  have hrunner := h.runner i
  rw [hr] at hrunner
  exact hrunner.1

theorem Filed.batch_lt (h : m.Filed r deliveries) {batch : Nat}
    (hr : (m.runner i).batch? = some batch) : batch < m.tables.batches := by
  cases hi : m.runner i with
  | within rest p =>
    rw [hi] at hr
    obtain rfl := Option.some.inj hr
    exact (h.numbers hi).taken
  | outside rest | dropped =>
    rw [hi] at hr
    cases hr

theorem Filed.ready (h : m.Filed r deliveries)
    {next : Except StoreError Unit → Program Conclusion} {p : Pending}
    (hr : m.runner i = .within (.ask .commit next) p) :
    p.Numbers m.tables ∧ (∀ id ∈ (deliveries i).rows, m.holder id = some i) ∧
      Stage.filed.Fits r (deliveries i) m.tables p := by
  have hrunner := h.runner i
  rw [hr] at hrunner
  obtain ⟨hnumbers, φ, hholds, hfits, hrest⟩ := hrunner
  obtain ⟨rfl, -⟩ := Request.Files.filed hrest
  exact ⟨hnumbers, hholds, hfits⟩

theorem Filed.lineIds (h : m.Filed r deliveries) : (m.tables.lines.map Line.id).Nodup := by
  have hids := h.lines.ids
  rwa [Tables.lineLabels, List.map_map] at hids

theorem Filed.entryIds (h : m.Filed r deliveries) : (m.tables.journal.map Entry.id).Nodup := by
  have hids := h.entries.ids
  rwa [Tables.entryLabels, List.map_map] at hids

theorem Filed.steady (h : m.Filed r deliveries) {t : Tables} (hsteady : m.tables.Steady t) :
    { m with tables := t }.Filed r deliveries where
  runner i := (h.runner i).leaves (fun _ => Iff.rfl) fun _ _ => hsteady.leaves ..
  apart := h.apart
  lines := by
    rw [hsteady.lineLabels_eq]
    exact h.lines.mono hsteady.batches
  entries := by
    rw [hsteady.entryLabels_eq]
    exact h.entries.mono hsteady.batches

theorem Filed.leaves_commit (h : m.Filed r deliveries) (hi : Contends r deliveries i)
    {next : Except StoreError Unit → Program Conclusion} {p : Pending}
    (hr : m.runner i = .within (.ask .commit next) p) {j : ι} (hj : j ≠ i) {batch : Nat}
    (hbatch : (m.runner j).batch? = some batch) :
    m.tables.Leaves r batch ((deliveries j).Occupies r fun id => m.holder id = some j)
      (m.tables.commit p) := by
  -- What a transaction puts goes to its own numbers, and it shares a row with whoever else is
  -- to write the reference.
  obtain ⟨hnumbers, hholds, hfits⟩ := h.ready hr
  have hapart : p.batch ≠ batch := by
    rintro rfl
    refine hj (h.apart j i p.batch hbatch ?_)
    rw [hr]
    rfl
  have hother : ((deliveries j).Occupies r fun id => m.holder id = some j) →
      (deliveries i).posting.reference ≠ r := by
    rintro ⟨hjr, hjholds⟩ hir
    obtain ⟨id, hidi, hidj⟩ := hi hir j hj hjr
    exact hj (Option.some.inj ((hjholds id hidj).symm.trans (hholds id hidi)))
  exact
    { batches := Nat.le_refl _
      lines := by
        rw [Tables.lineLabels_commit]
        exact (hfits.1.grows h.lines.ids hnumbers.lines).kept hapart hother
      entries := by
        rw [Tables.entryLabels_commit]
        exact (hfits.2.grows h.entries.ids hnumbers.entries).kept hapart hother }

variable [DecidableEq ι]

theorem Filed.own (h : m.Filed r deliveries) {runner : Runner}
    (hrunner : m'.runner = Function.update m.runner i runner)
    (hown : runner.Files r (deliveries i) (fun id => m'.holder id = some i) m'.tables)
    (hbatch : ∀ j ≠ i, ∀ batch ∈ runner.batch?, (m.runner j).batch? ≠ some batch)
    (hholder : ∀ j ≠ i, ∀ id, m'.holder id = some j ↔ m.holder id = some j)
    (hleaves : ∀ j ≠ i, ∀ batch ∈ (m.runner j).batch?,
      m.tables.Leaves r batch ((deliveries j).Occupies r fun id => m.holder id = some j) m'.tables)
    (hlines : Catalogue r m'.tables.batches m'.tables.lineLabels)
    (hentries : Catalogue r m'.tables.batches m'.tables.entryLabels) : m'.Filed r deliveries where
  runner j := by
    rw [hrunner]
    by_cases hj : j = i
    · rw [hj, Function.update_self]
      exact hown
    · rw [Function.update_of_ne hj]
      exact (h.runner j).leaves (hholder j hj) (hleaves j hj)
  apart j k batch hbatchj hbatchk := by
    rw [hrunner] at hbatchj hbatchk
    by_cases hj : j = i
    · rw [hj, Function.update_self] at hbatchj
      by_cases hk : k = i
      · rw [hj, hk]
      · rw [Function.update_of_ne hk] at hbatchk
        exact absurd hbatchk (hbatch k hk batch hbatchj)
    · rw [Function.update_of_ne hj] at hbatchj
      by_cases hk : k = i
      · rw [hk, Function.update_self] at hbatchk
        exact absurd hbatchj (hbatch j hj batch hbatchk)
      · rw [Function.update_of_ne hk] at hbatchk
        exact h.apart j k batch hbatchj hbatchk
  lines := hlines
  entries := hentries

theorem Filed.leave (h : m.Filed r deliveries) {runner : Runner} (hnone : runner.batch? = none)
    (hr : ∀ holds t, runner.Files r (deliveries i) holds t) :
    (m.leave i runner).Filed r deliveries :=
  h.own rfl (hr _ _)
    (fun _ _ batch hbatch => by
      rw [hnone] at hbatch
      cases hbatch)
    (fun _ hj => m.holder_leave_of_ne hj runner) (fun _ _ _ _ => (Tables.Steady.refl _).leaves ..)
    h.lines h.entries

theorem Filed.called (h : m.Filed r deliveries) {c : TxCall}
    {next : Except StoreError c.Answer → Program Conclusion} {p : Pending}
    (hr : m.runner i = .within (.ask (.tx c) next) p) (hgrants : m.Grants i c.row?) :
    Filed r deliveries { m with
      runner := Function.update m.runner i
        (.within (next (p.call m.tables c).1) (p.call m.tables c).2)
      holder := m.take i c.row? } := by
  have hrunner := h.runner i
  rw [hr] at hrunner
  obtain ⟨hnumbers, φ, hholds, hfits, hrest⟩ := hrunner
  obtain ⟨hdue, hnext⟩ := hrest.called
  have hsame : (p.call m.tables c).2.batch = p.batch := Pending.batch_call
  refine h.own rfl ⟨?_, φ.after c (p.call m.tables c).1,
    hholds.after hdue (fun id hid => (take_self id).mpr (.inl hid))
      (fun id hid => (take_self id).mpr (.inr hid)) _,
    hfits.call h.lineIds h.entryIds hdue, hnext _⟩
    (fun j hj batch hbatch hbatchj => ?_) (fun _ hj => take_of_ne hj hgrants)
    (fun _ _ _ _ => (Tables.Steady.refl _).leaves ..) h.lines h.entries
  · exact ⟨hsame ▸ hnumbers.taken, hsame ▸ hnumbers.lines, hsame ▸ hnumbers.entries⟩
  · have hb : p.batch = batch := hsame.symm.trans (Option.some.inj hbatch)
    refine hj (h.apart j i batch hbatchj ?_)
    rw [hr]
    exact congrArg some hb

theorem Filed.committed (h : m.Filed r deliveries) (hi : Contends r deliveries i)
    {next : Except StoreError Unit → Program Conclusion} {p : Pending}
    (hr : m.runner i = .within (.ask .commit next) p) (commits : List Applied) :
    Filed r deliveries { m.leave i (.outside (next (.ok ()))) with
      tables := m.tables.commit p
      commits := commits } := by
  obtain ⟨hnumbers, -, hfits⟩ := h.ready hr
  have hended : (next (.ok ())).Files (deliveries i) (fun _ _ => True) .ended := by
    have hrunner := h.runner i
    rw [hr] at hrunner
    obtain ⟨-, φ, -, -, hrest⟩ := hrunner
    exact (Request.Files.filed hrest).2
  refine h.own rfl hended.opensFiling (fun _ _ _ hbatch => by cases hbatch)
    (fun _ hj => m.holder_leave_of_ne hj (.outside (next (.ok ()))))
    (fun j hj batch hbatch => h.leaves_commit hi hr hj hbatch) ?_ ?_
  · rw [Tables.lineLabels_commit]
    exact h.lines.grows hnumbers.taken hnumbers.lines (hfits.1.grows h.lines.ids hnumbers.lines)
  · rw [Tables.entryLabels_commit]
    exact h.entries.grows hnumbers.taken hnumbers.entries
      (hfits.2.grows h.entries.ids hnumbers.entries)

theorem Filed.advance (h : m.Filed r deliveries)
    (hi : ∀ next p, m.runner i = .within (.ask .commit next) p → Contends r deliveries i)
    (hm : m.advance i = some m') : m'.Filed r deliveries := by
  have hrunner := h.runner i
  unfold Interleaving.advance at hm
  split at hm
  next next heq =>
    -- Its numbers are the next ones, which nobody has.
    obtain rfl := Option.some.inj hm
    rw [heq] at hrunner
    have hsteady : m.tables.Steady { m.tables with batches := m.tables.batches + 1 } :=
      .of_eq rfl rfl rfl rfl rfl (Nat.le_succ _)
    refine h.own rfl ⟨⟨Nat.lt_succ_self _, h.lines.fresh, h.entries.fresh⟩, .opened [], nofun,
      ⟨rfl, rfl⟩, hrunner⟩ (fun j _ batch hbatch hj => ?_) (fun _ _ _ => Iff.rfl)
      (fun _ _ _ _ => hsteady.leaves ..) (h.lines.mono (Nat.le_succ _))
      (h.entries.mono (Nat.le_succ _))
    obtain rfl := Option.some.inj hbatch
    exact Nat.lt_irrefl _ (h.batch_lt hj)
  next c next p heq =>
    split at hm
    next hgrants =>
      obtain rfl := Option.some.inj hm
      exact h.called heq hgrants
    next => cases hm
  next next p heq =>
    obtain rfl := Option.some.inj hm
    exact h.committed (hi next p heq) heq _
  next next p heq =>
    obtain rfl := Option.some.inj hm
    rw [heq] at hrunner
    obtain ⟨-, φ, -, -, hrest⟩ := hrunner
    exact h.leave rfl fun _ _ => Program.Files.opensFiling (Request.Files.rolledBack hrest)
  next next p heq =>
    obtain rfl := Option.some.inj hm
    rw [heq] at hrunner
    obtain ⟨-, φ, -, -, hrest⟩ := hrunner
    exact h.leave rfl fun _ _ => Program.Files.opensFiling (Request.Files.abandoned hrest)
  next => cases hm

theorem Filed.step (h : m.Filed r deliveries) (hshare : ∀ i, Contends r deliveries i) (op : Op ι) :
    (m.step op).Filed r deliveries := by
  cases op with
  | advance i =>
    change ((m.advance i).getD m).Filed r deliveries
    cases hm : m.advance i with
    | none => exact h
    | some m' => exact h.advance (fun _ _ _ => hshare i) hm
  | drop i =>
    unfold Interleaving.step
    dsimp only
    split
    · exact h.leave rfl fun _ _ => trivial
    · exact h
  | call c =>
    unfold Interleaving.step
    dsimp only
    split
    · exact h.steady (m.tables.steady_call c)
    · exact h
  | clock now => exact h.steady (.of_eq rfl rfl rfl rfl rfl (Nat.le_refl _))

end Interleaving
end PrepaidLedger
