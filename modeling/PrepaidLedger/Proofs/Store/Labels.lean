import Mathlib.Data.List.Count
import PrepaidLedger.Proofs.Ledger.Filing

/-! The rows of the two ledgers by their names alone. Of a row no more than its label counts here:
its identity, under which it is put, and its reference, under which it is found. A transaction that
writes one row for its reference leaves the labels as they are or adds one at their end. -/

namespace PrepaidLedger

/-! ## Rows put where they belong -/

section Rows

variable {α β κ : Type} [DecidableEq κ] {key : α → κ}

theorem map_putRow {f : α → β} (key' : β → κ) (hkey : ∀ a, key' (f a) = key a) (row : α)
    (rows : List α) : (putRow key row rows).map f = putRow key' (f row) (rows.map f) := by
  induction rows with
  | nil => rfl
  | cons r rest ih => by_cases h : key r = key row <;> simp [putRow, hkey, h, ih]

theorem map_putRows {f : α → β} (key' : β → κ) (hkey : ∀ a, key' (f a) = key a)
    (new rows : List α) :
    (putRows key new rows).map f = putRows key' (new.map f) (rows.map f) := by
  induction new generalizing rows with
  | nil => rfl
  | cons row rest ih =>
    change (putRows key rest (putRow key row rows)).map f = _
    rw [ih, map_putRow key' hkey]
    rfl

theorem putRow_of_mem {row : α} {rows : List α} (hn : (rows.map key).Nodup) (h : row ∈ rows) :
    putRow key row rows = rows := by
  induction rows with
  | nil => cases h
  | cons r rest ih =>
    rw [List.map_cons, List.nodup_cons] at hn
    rcases List.mem_cons.mp h with rfl | hmem
    · rw [putRow, if_pos rfl]
    · have hne : key r ≠ key row := fun he => hn.1 (he ▸ List.mem_map_of_mem hmem)
      rw [putRow, if_neg hne, ih hn.2 hmem]

theorem putRow_of_new {row : α} {rows : List α} (h : ∀ r ∈ rows, key r ≠ key row) :
    putRow key row rows = rows ++ [row] := by
  induction rows with
  | nil => rfl
  | cons r rest ih =>
    rw [putRow, if_neg (h r (List.mem_cons_self ..)),
      ih fun a ha => h a (List.mem_cons_of_mem r ha)]
    rfl

end Rows

/-! ## Labels -/

abbrev Label := RowId × String

def Line.label (l : Line) : Label := (l.id, l.reference)

def Entry.label (e : Entry) : Label := (e.id, e.reference)

def Tables.lineLabels (t : Tables) : List Label := t.lines.map Line.label

def Tables.entryLabels (t : Tables) : List Label := t.journal.map Entry.label

def Pending.lineLabels (p : Pending) : List Label := p.lines.map Line.label

def Pending.entryLabels (p : Pending) : List Label := p.journal.map Entry.label

namespace Tables

variable {t t' : Tables} {q : String}

theorem lineLabels_commit (t : Tables) (p : Pending) :
    (t.commit p).lineLabels = putRows Prod.fst p.lineLabels t.lineLabels :=
  map_putRows (f := Line.label) Prod.fst (fun _ => rfl) p.lines t.lines

theorem entryLabels_commit (t : Tables) (p : Pending) :
    (t.commit p).entryLabels = putRows Prod.fst p.entryLabels t.entryLabels :=
  map_putRows (f := Entry.label) Prod.fst (fun _ => rfl) p.journal t.journal

theorem Steady.lineLabels_eq (h : t.Steady t') : t'.lineLabels = t.lineLabels :=
  map_eq_of_forall₂ (fun l l' hl => by
    rw [Line.label, Line.label, hl.id_eq, Line.SettlesTo.reference_eq l l' hl]) h.lines

theorem Steady.entryLabels_eq (h : t.Steady t') : t'.entryLabels = t.entryLabels := by
  rw [entryLabels, entryLabels, h.journal]

theorem map_snd_lineLabels (t : Tables) : t.lineLabels.map Prod.snd = t.lines.map Line.reference :=
  List.map_map

theorem map_snd_entryLabels (t : Tables) :
    t.entryLabels.map Prod.snd = t.journal.map Entry.reference := List.map_map

end Tables

/-! ## What a transaction knows and writes -/

/-- What it makes of the row that it found for its reference, or of having found none. That there is
none matters for the reference `r` alone. -/
def Known (r q : String) (labels : List Label) : Option RowId → Prop
  | none => q = r → ∀ x ∈ labels, x.2 ≠ r
  | some id => (id, q) ∈ labels

inductive Slot (batch : Nat) : Option RowId → RowId → Prop
  | old (id : RowId) : Slot batch (some id) id
  | new (item : Nat) : Slot batch none (.numbered batch item)

def Written (r q : String) (batch : Nat) (labels pending : List Label) : Prop :=
  ∃ found id, Known r q labels found ∧ Slot batch found id ∧ pending = [(id, q)]

def Fresh (batch : Nat) (labels : List Label) : Prop :=
  ∀ item q, ((.numbered batch item, q) : Label) ∉ labels

inductive Grows (r q : String) (batch : Nat) (labels : List Label) : List Label → Prop
  | same : Grows r q batch labels labels
  | more (item : Nat) (hnone : Known r q labels none) :
    Grows r q batch labels (labels ++ [(.numbered batch item, q)])

/-- Rows are told apart by their identities, new numbers are new, and `r` is not given twice. -/
structure Catalogue (r : String) (batches : Nat) (labels : List Label) : Prop where
  ids : (labels.map Prod.fst).Nodup
  numbered : ∀ x ∈ labels, x.1.IsBefore batches
  once : (labels.map Prod.snd).count r ≤ 1

section Found

variable {α : Type} {id : α → RowId} {name : α → String} {rows : List α}

theorem known_rowOf? (r q : String) (rows : List α) :
    Known r q (rows.map fun row => (id row, name row)) ((rowOf? name q rows).map id) := by
  cases h : rowOf? name q rows with
  | none =>
    rintro rfl x hx
    obtain ⟨row, hrow, rfl⟩ := List.mem_map.mp hx
    exact rowOf?_eq_none.mp h row hrow
  | some row => exact List.mem_map.mpr ⟨row, mem_of_rowOf? h, by rw [key_of_rowOf? h]⟩

theorem exists_rowOf?_of_label {i : RowId} {q : String} (hn : (rows.map id).Nodup)
    (h : (i, q) ∈ rows.map fun row => (id row, name row)) :
    ∃ row, rowOf? id i rows = some row ∧ id row = i ∧ name row = q := by
  obtain ⟨row, hrow, hlabel⟩ := List.mem_map.mp h
  obtain ⟨rfl, rfl⟩ := Prod.mk.inj hlabel
  exact ⟨row, rowOf?_of_mem hn hrow, rfl, rfl⟩

end Found

variable {r q q' : String} {batch batch' n n' : Nat} {labels labels' pending : List Label}
  {found : Option RowId}

theorem Fresh.putRow (hfresh : Fresh batch labels) (item : Nat) (q : String) :
    putRow Prod.fst (.numbered batch item, q) labels =
      labels ++ [(.numbered batch item, q)] := by
  refine putRow_of_new fun ⟨id, q'⟩ hx => ?_
  rintro rfl
  exact hfresh item q' hx

theorem Written.grows (h : Written r q batch labels pending)
    (hids : (labels.map Prod.fst).Nodup) (hfresh : Fresh batch labels) :
    Grows r q batch labels (putRows Prod.fst pending labels) := by
  obtain ⟨found, id, hknown, hslot, rfl⟩ := h
  change Grows r q batch labels (putRow Prod.fst (id, q) labels)
  cases hslot with
  | old id =>
    rw [putRow_of_mem hids hknown]
    exact .same
  | new item =>
    rw [hfresh.putRow]
    exact .more item hknown

theorem Grows.fresh (h : Grows r q batch labels labels') (hbatch : batch ≠ batch')
    (hfresh : Fresh batch' labels) : Fresh batch' labels' := by
  cases h with
  | same => exact hfresh
  | more item hnone =>
    intro item' q' hmem
    rcases List.mem_append.mp hmem with hmem | hmem
    · exact hfresh item' q' hmem
    · obtain ⟨hid, -⟩ := Prod.mk.inj (List.mem_singleton.mp hmem)
      exact hbatch (RowId.numbered.inj hid).1.symm

namespace Catalogue

theorem fresh (h : Catalogue r n labels) : Fresh n labels := fun item q hmem =>
  Nat.lt_irrefl n (h.numbered (.numbered n item, q) hmem)

theorem mono (h : Catalogue r n labels) (hn : n ≤ n') : Catalogue r n' labels where
  ids := h.ids
  numbered x hx := (h.numbered x hx).mono hn
  once := h.once

theorem count_eq_zero : (labels.map Prod.snd).count r = 0 ↔ ∀ x ∈ labels, x.2 ≠ r := by
  rw [List.count_eq_zero, List.mem_map]
  exact ⟨fun h x hx he => h ⟨x, hx, he⟩, fun h ⟨x, hx, he⟩ => h x hx he⟩

theorem grows (h : Catalogue r n labels) (hbatch : batch < n) (hfresh : Fresh batch labels)
    (hgrows : Grows r q batch labels labels') : Catalogue r n labels' := by
  cases hgrows with
  | same => exact h
  | more item hnone =>
    refine ⟨?_, fun x hx => ?_, ?_⟩
    · have hnew : RowId.numbered batch item ∉ labels.map Prod.fst := fun hmem => by
        obtain ⟨⟨id, q'⟩, hx, rfl⟩ := List.mem_map.mp hmem
        exact hfresh item q' hx
      rw [List.map_append]
      exact List.Nodup.append h.ids (List.nodup_singleton _)
        (List.disjoint_singleton.mpr hnew)
    · rcases List.mem_append.mp hx with hx | hx
      · exact h.numbered x hx
      · rw [List.mem_singleton.mp hx]
        exact hbatch
    · rw [List.map_append, List.count_append]
      by_cases hq : q = r
      · rw [count_eq_zero.mpr (hnone hq), hq]
        simp
      · have honce := h.once
        simpa [List.count_cons, hq] using honce

end Catalogue

/-! ## What others leave of it -/

structure Kept (r : String) (batch : Nat) (alone : Prop) (labels labels' : List Label) :
    Prop where
  stored : labels ⊆ labels'
  fresh : Fresh batch labels → Fresh batch labels'
  unseen : alone → (∀ x ∈ labels, x.2 ≠ r) → ∀ x ∈ labels', x.2 ≠ r

variable {alone : Prop}

theorem Kept.refl (labels : List Label) : Kept r batch alone labels labels :=
  ⟨List.Subset.refl _, id, fun _ h => h⟩

theorem Grows.kept (h : Grows r q batch labels labels') (hbatch : batch ≠ batch')
    (hq : alone → q ≠ r) : Kept r batch' alone labels labels' := by
  cases h with
  | same => exact .refl labels
  | more item hnone =>
    refine ⟨List.subset_append_left .., Grows.fresh (.more item hnone) hbatch, fun ha h x hx => ?_⟩
    rcases List.mem_append.mp hx with hx | hx
    · exact h x hx
    · rw [List.mem_singleton.mp hx]
      exact hq ha

theorem Known.kept (h : Known r q labels found) (hkept : Kept r batch alone labels labels')
    (halone : q = r → alone) : Known r q labels' found := by
  cases found with
  | none => exact fun hq => hkept.unseen (halone hq) (h hq)
  | some id => exact hkept.stored h

theorem Written.kept (h : Written r q batch labels pending)
    (hkept : Kept r batch' alone labels labels') (halone : q = r → alone) :
    Written r q batch labels' pending := by
  obtain ⟨found, id, hknown, hslot, hpending⟩ := h
  exact ⟨found, id, hknown.kept hkept halone, hslot, hpending⟩

/-! ## Two that do not know of each other -/

theorem Written.eq_new (h : Written r r batch labels pending) (hnone : ∀ x ∈ labels, x.2 ≠ r) :
    ∃ item, pending = [(.numbered batch item, r)] := by
  obtain ⟨found, id, hknown, hslot, hpending⟩ := h
  cases hslot with
  | old id => exact absurd rfl (hnone (id, r) hknown)
  | new item => exact ⟨item, hpending⟩

theorem Written.count_twice {pending' : List Label} (h : Written r r batch labels pending)
    (h' : Written r r batch' labels pending') (hnone : ∀ x ∈ labels, x.2 ≠ r)
    (hbatch : batch ≠ batch') (hfresh : Fresh batch labels) (hfresh' : Fresh batch' labels) :
    ((putRows Prod.fst pending' (putRows Prod.fst pending labels)).map Prod.snd).count r = 2 := by
  -- Both found no row of the reference, and both of their rows are put.
  obtain ⟨item, rfl⟩ := h.eq_new hnone
  obtain ⟨item', rfl⟩ := h'.eq_new hnone
  change ((putRow Prod.fst _ (putRow Prod.fst _ labels)).map Prod.snd).count r = 2
  have hgrows : Grows r r batch labels (labels ++ [(.numbered batch item, r)]) :=
    .more item fun _ => hnone
  rw [hfresh.putRow, (hgrows.fresh hbatch hfresh').putRow, List.map_append, List.map_append,
    List.count_append, List.count_append, Catalogue.count_eq_zero.mpr hnone]
  simp

end PrepaidLedger
