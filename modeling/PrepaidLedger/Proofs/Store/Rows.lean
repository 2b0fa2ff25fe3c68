import Mathlib.Algebra.Ring.Int.Defs
import Mathlib.Data.List.Forall2
import Mathlib.Data.List.Nodup
import PrepaidLedger.Store.Tables

/-! Rows looked up, counted and summed after one of them is put. A line has two names, its own
identity and the reference of the provider; a row that answers to both alike can be put under the
one and found under the other. -/

namespace PrepaidLedger

section OneName

variable {α κ : Type} [DecidableEq κ] {key : α → κ}

theorem key_of_rowOf? {k : κ} {rows : List α} {row : α} (h : rowOf? key k rows = some row) :
    key row = k := by
  simpa using List.find?_some h

theorem mem_of_rowOf? {k : κ} {rows : List α} {row : α} (h : rowOf? key k rows = some row) :
    row ∈ rows := List.mem_of_find?_eq_some h

theorem rowOf?_eq_none {k : κ} {rows : List α} :
    rowOf? key k rows = none ↔ ∀ row ∈ rows, key row ≠ k := by
  simp [rowOf?]

theorem rowOf?_cons (k : κ) (row : α) (rows : List α) :
    rowOf? key k (row :: rows) = if key row = k then some row else rowOf? key k rows := by
  unfold rowOf?
  rw [List.find?_cons]
  by_cases h : key row = k <;> simp [h]

theorem rowOf?_of_mem {rows : List α} {row : α} (hn : (rows.map key).Nodup) (h : row ∈ rows) :
    rowOf? key (key row) rows = some row := by
  induction rows with
  | nil => cases h
  | cons r rest ih =>
    rw [List.map_cons, List.nodup_cons] at hn
    rw [rowOf?_cons]
    rcases List.mem_cons.mp h with rfl | hmem
    · rw [if_pos rfl]
    · have hne : key r ≠ key row := fun he => hn.1 (he ▸ List.mem_map_of_mem hmem)
      rw [if_neg hne, ih hn.2 hmem]

@[simp] theorem rowOf?_nil (k : κ) : rowOf? key k ([] : List α) = none := rfl

@[simp] theorem putRow_nil (row : α) : putRow key row [] = [row] := rfl

theorem putRow_putRow {row row' : α} (h : key row' = key row) (rows : List α) :
    putRow key row (putRow key row' rows) = putRow key row rows := by
  induction rows with
  | nil => simp [putRow, h]
  | cons r rest ih =>
    by_cases hr : key r = key row <;> simp [putRow, h, hr, ih]

theorem rowOf?_putRow (row : α) (k : κ) (rows : List α) :
    rowOf? key k (putRow key row rows) = if key row = k then some row else rowOf? key k rows := by
  induction rows with
  | nil => exact rowOf?_cons k row []
  | cons r rest ih =>
    by_cases h : key r = key row
    · by_cases hk : key row = k <;> simp [putRow, rowOf?_cons, h, hk]
    · by_cases hk : key row = k
      · simp [putRow, rowOf?_cons, ih, hk, show key r ≠ k from hk ▸ h]
      · simp [putRow, rowOf?_cons, ih, h, hk]

theorem mem_of_mem_putRow {row r : α} {rows : List α} (h : r ∈ putRow key row rows) :
    r = row ∨ r ∈ rows := by
  induction rows with
  | nil => exact .inl (List.mem_singleton.mp h)
  | cons a rest ih =>
    by_cases ha : key a = key row
    · rw [putRow, if_pos ha] at h
      exact (List.mem_cons.mp h).imp_right (List.mem_cons_of_mem a)
    · rw [putRow, if_neg ha] at h
      rcases List.mem_cons.mp h with rfl | h
      · exact .inr (List.mem_cons_self ..)
      · exact (ih h).imp_right (List.mem_cons_of_mem a)

theorem sum_putRow (f : α → Int) (row : α) (rows : List α) :
    ((putRow key row rows).map f).sum =
      (rows.map f).sum + f row - ((rowOf? key (key row) rows).map f).getD 0 := by
  induction rows with
  | nil => simp
  | cons r rest ih =>
    by_cases h : key r = key row
    · simp [putRow, rowOf?_cons, h]
      omega
    · simp [putRow, rowOf?_cons, h, ih]
      omega

theorem map_putRow_inj {β : Type} {f : α → β} {row row' : α} (hkey : key row = key row')
    (rows : List α) :
    (putRow key row rows).map f = (putRow key row' rows).map f ↔ f row = f row' := by
  induction rows with
  | nil => simp
  | cons r rest ih => by_cases h : key r = key row' <;> simp [putRow, hkey, h, ih]

/-! ### Rows replaced in place -/

variable {R : α → α → Prop}

theorem forall₂_putRow (hrefl : ∀ r, R r r) {row stored : α} {rows : List α}
    (hstored : rowOf? key (key row) rows = some stored) (hrow : R stored row) :
    List.Forall₂ R rows (putRow key row rows) := by
  induction rows with
  | nil => cases hstored
  | cons r rest ih =>
    rw [rowOf?_cons] at hstored
    by_cases h : key r = key row
    · rw [if_pos h] at hstored
      obtain rfl := Option.some.inj hstored
      rw [putRow, if_pos h]
      exact .cons hrow (List.forall₂_same.mpr fun a _ => hrefl a)
    · rw [if_neg h] at hstored
      rw [putRow, if_neg h]
      exact .cons (hrefl r) (ih hstored)

theorem forall₂_putRow_pair {β κ' : Type} [DecidableEq κ'] {key' : β → κ'} {S : α → β → Prop}
    {row : α} {row' : β} {rows : List α} {rows' : List β} (h : List.Forall₂ S rows rows')
    (hkeys : ∀ a ∈ rows, ∀ b ∈ rows', S a b → (key a = key row ↔ key' b = key' row'))
    (hrow : S row row') : List.Forall₂ S (putRow key row rows) (putRow key' row' rows') := by
  induction h with
  | nil => exact .cons hrow .nil
  | @cons a b as bs hab htail ih =>
    have hiff := hkeys a (List.mem_cons_self ..) b (List.mem_cons_self ..) hab
    rw [putRow, putRow]
    by_cases ha : key a = key row
    · rw [if_pos ha, if_pos (hiff.mp ha)]
      exact .cons hrow htail
    · rw [if_neg ha, if_neg fun hb => ha (hiff.mpr hb)]
      exact .cons hab (ih fun x hx y hy =>
        hkeys x (List.mem_cons_of_mem a hx) y (List.mem_cons_of_mem b hy))

theorem forall₂_putRow_both (hkey : ∀ a b, R a b → key b = key a) {row row' : α}
    {rows rows' : List α} (h : List.Forall₂ R rows rows') (hrow : R row row') :
    List.Forall₂ R (putRow key row rows) (putRow key row' rows') :=
  forall₂_putRow_pair h (fun a _ b _ hab => by rw [hkey a b hab, hkey row row' hrow]) hrow

theorem forall₂_putRow_of_nodup {row stored : α} {rows : List α} (hn : (rows.map key).Nodup)
    (hstored : stored ∈ rows) (hkey : key stored = key row) :
    List.Forall₂ (fun r r' => (r = stored → r' = row) ∧ (r ≠ stored → r' = r)) rows
      (putRow key row rows) := by
  induction rows with
  | nil => cases hstored
  | cons r rest ih =>
    rw [List.map_cons, List.nodup_cons] at hn
    rcases List.mem_cons.mp hstored with rfl | hmem
    · have hne : ∀ a ∈ rest, a ≠ stored := by
        rintro a ha rfl
        exact hn.1 (List.mem_map_of_mem ha)
      rw [putRow, if_pos hkey]
      refine .cons ⟨fun _ => rfl, fun h => absurd rfl h⟩ ?_
      exact List.forall₂_same.mpr fun a ha => ⟨fun h => absurd h (hne a ha), fun _ => rfl⟩
    · have hne : key r ≠ key stored := fun he => hn.1 (he ▸ List.mem_map_of_mem hmem)
      rw [putRow, if_neg (hkey ▸ hne)]
      exact .cons ⟨fun h => absurd (congrArg key h) hne, fun _ => rfl⟩ (ih hn.2 hmem)

theorem rowOf?_forall₂ {β : Type} {key' : β → κ} {S : α → β → Prop}
    (hkey : ∀ a b, S a b → key' b = key a) {rows : List α} {rows' : List β}
    (h : List.Forall₂ S rows rows') (k : κ) :
    Option.Rel S (rowOf? key k rows) (rowOf? key' k rows') := by
  induction h with
  | nil => exact .none
  | @cons a b as bs hab _ ih =>
    rw [rowOf?_cons, rowOf?_cons, hkey a b hab]
    split
    · exact .some hab
    · exact ih

theorem map_rowOf?_of_forall₂ {β : Type} {f : α → β} (hkey : ∀ a b, R a b → key b = key a)
    (hf : ∀ a b, R a b → f b = f a) {rows rows' : List α} (h : List.Forall₂ R rows rows') (k : κ) :
    (rowOf? key k rows').map f = (rowOf? key k rows).map f := by
  have hrel := rowOf?_forall₂ hkey h k
  generalize rowOf? key k rows = r, rowOf? key k rows' = r' at hrel ⊢
  cases hrel with
  | none => rfl
  | some hr => exact congrArg some (hf _ _ hr)

omit [DecidableEq κ] in
theorem forall₂_trans {β : Type} {S T : α → β → Prop} (hT : ∀ a b c, R a b → S b c → T a c)
    {xs ys : List α} {zs : List β} (h : List.Forall₂ R xs ys) (h' : List.Forall₂ S ys zs) :
    List.Forall₂ T xs zs := by
  induction h generalizing zs with
  | nil =>
    cases h'
    exact .nil
  | cons hab _ ih =>
    obtain _ | ⟨hbc, htail⟩ := h'
    exact .cons (hT _ _ _ hab hbc) (ih htail)

omit [DecidableEq κ] in
theorem exists_of_forall₂ {β : Type} {S : α → β → Prop} {rows : List α} {rows' : List β}
    (h : List.Forall₂ S rows rows') {b : β} (hb : b ∈ rows') : ∃ a ∈ rows, S a b := by
  induction h with
  | nil => cases hb
  | @cons a b' as bs hab _ ih =>
    rcases List.mem_cons.mp hb with rfl | hb
    · exact ⟨a, List.mem_cons_self .., hab⟩
    · obtain ⟨x, hx, hxb⟩ := ih hb
      exact ⟨x, List.mem_cons_of_mem a hx, hxb⟩

omit [DecidableEq κ] in
theorem exists_of_forall₂_left {β : Type} {S : α → β → Prop} {rows : List α} {rows' : List β}
    (h : List.Forall₂ S rows rows') {a : α} (ha : a ∈ rows) : ∃ b ∈ rows', S a b :=
  exists_of_forall₂ (S := flip S) (List.Forall₂.flip h) ha

omit [DecidableEq κ] in
theorem map_eq_of_forall₂ {β γ : Type} {S : α → β → Prop} {f : α → γ} {g : β → γ}
    (hf : ∀ a b, S a b → g b = f a) {rows : List α} {rows' : List β}
    (h : List.Forall₂ S rows rows') : rows'.map g = rows.map f := by
  induction h with
  | nil => rfl
  | @cons a b as bs hab _ ih => rw [List.map_cons, List.map_cons, hf a b hab, ih]

end OneName

/-! ## Two names -/

section TwoNames

variable {α κ ρ : Type} {key : α → κ} {name : α → ρ}

def Fits (key : α → κ) (name : α → ρ) (row : α) (rows : List α) : Prop :=
  ∀ r ∈ rows, key r = key row ↔ name r = name row

theorem Fits.rowOf?_putRow [DecidableEq κ] [DecidableEq ρ] {row : α} {rows : List α}
    (h : Fits key name row rows) (n : ρ) :
    rowOf? name n (putRow key row rows) =
      if name row = n then some row else rowOf? name n rows := by
  induction rows with
  | nil => exact rowOf?_cons n row []
  | cons r rest ih =>
    have hr := h r (List.mem_cons_self ..)
    have ih := ih fun a ha => h a (List.mem_cons_of_mem r ha)
    by_cases hk : key r = key row
    · have hn : name r = name row := hr.mp hk
      by_cases hrow : name row = n <;> simp [putRow, rowOf?_cons, hk, hn, hrow]
    · have hn : name r ≠ name row := fun he => hk (hr.mpr he)
      by_cases hrow : name row = n
      · simp [putRow, rowOf?_cons, hk, ih, hrow, show name r ≠ n from hrow ▸ hn]
      · simp [putRow, rowOf?_cons, hk, ih, hrow]

theorem rowOf?_putRow_of_first [DecidableEq κ] [DecidableEq ρ] {row stored : α} {rows : List α}
    (hk : (rows.map key).Nodup) (hstored : rowOf? name (name row) rows = some stored)
    (hkey : key stored = key row) (n : ρ) :
    rowOf? name n (putRow key row rows) =
      if name row = n then some row else rowOf? name n rows := by
  induction rows with
  | nil => cases hstored
  | cons r rest ih =>
    rw [List.map_cons, List.nodup_cons] at hk
    rw [rowOf?_cons] at hstored
    by_cases hr : name r = name row
    · rw [if_pos hr] at hstored
      obtain rfl := Option.some.inj hstored
      rw [putRow, if_pos hkey, rowOf?_cons, rowOf?_cons, hr]
      by_cases hn : name row = n <;> simp [hn]
    · rw [if_neg hr] at hstored
      have hne : key r ≠ key row := fun he =>
        hk.1 (he.trans hkey.symm ▸ List.mem_map_of_mem (mem_of_rowOf? hstored))
      rw [putRow, if_neg hne, rowOf?_cons, rowOf?_cons, ih hk.2 hstored]
      by_cases hn : name row = n
      · simp [hn, show name r ≠ n from hn ▸ hr]
      · simp [hn]

theorem Fits.nodup_putRow [DecidableEq κ] {row : α} {rows : List α}
    (h : Fits key name row rows) (hn : (rows.map name).Nodup) :
    ((putRow key row rows).map name).Nodup := by
  induction rows with
  | nil => exact List.nodup_singleton _
  | cons r rest ih =>
    have hr := h r (List.mem_cons_self ..)
    rw [List.map_cons, List.nodup_cons] at hn
    by_cases hk : key r = key row
    · rw [putRow, if_pos hk, List.map_cons, List.nodup_cons]
      exact ⟨hr.mp hk ▸ hn.1, hn.2⟩
    · rw [putRow, if_neg hk, List.map_cons, List.nodup_cons]
      refine ⟨fun hmem => ?_, ih (fun a ha => h a (List.mem_cons_of_mem r ha)) hn.2⟩
      obtain ⟨a, ha, he⟩ := List.mem_map.mp hmem
      rcases mem_of_mem_putRow ha with rfl | ha
      · exact hk (hr.mpr he.symm)
      · exact hn.1 (he ▸ List.mem_map_of_mem ha)

theorem fits_self (row : α) (rows : List α) : Fits key key row rows := fun _ _ => Iff.rfl

theorem fits_of_stored {row stored : α} {rows : List α} (hk : (rows.map key).Nodup)
    (hn : (rows.map name).Nodup) (hmem : stored ∈ rows) (hkey : key row = key stored)
    (hname : name row = name stored) : Fits key name row rows := by
  intro r hr
  rw [hkey, hname]
  exact ⟨fun h => congrArg name (List.inj_on_of_nodup_map hk hr hmem h),
    fun h => congrArg key (List.inj_on_of_nodup_map hn hr hmem h)⟩

theorem fits_of_new [DecidableEq ρ] {row : α} {rows : List α} (hk : ∀ r ∈ rows, key r ≠ key row)
    (hn : rowOf? name (name row) rows = none) : Fits key name row rows :=
  fun r hr => iff_of_false (hk r hr) (rowOf?_eq_none.mp hn r hr)

end TwoNames
end PrepaidLedger
