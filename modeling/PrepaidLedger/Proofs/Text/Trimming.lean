import Mathlib.Data.List.DropRight
import Mathlib.Data.List.TakeWhile
import PrepaidLedger.Text.Blank

/-! Trimmed texts. A text has one trimmed form, which stands in it between blanks and neither begins
nor ends with one, and that is what trimming leaves. -/

namespace PrepaidLedger.Text

variable {s t : String} {cs before core after : List Char}

structure IsTrim (cs : List Char) : Prop where
  first : ∀ c ∈ cs.head?, isBlank c = false
  last : ∀ c ∈ cs.getLast?, isBlank c = false

/-- The trimmed form of a text stands in it between blanks. -/
def TrimsTo (s t : String) : Prop :=
  ∃ before after, s.toList = before ++ t.toList ++ after ∧
    (∀ c ∈ before ++ after, isBlank c) ∧ IsTrim t.toList

theorem exists_trimChars (cs : List Char) :
    ∃ before after, cs = before ++ trimChars cs ++ after ∧ ∀ c ∈ before ++ after, isBlank c := by
  refine ⟨cs.takeWhile isBlank, (cs.dropWhile isBlank).rtakeWhile isBlank, ?_, fun c hc => ?_⟩
  · change cs = _ ++ (cs.dropWhile isBlank).rdropWhile isBlank ++ _
    rw [List.append_assoc, List.rdropWhile_append_rtakeWhile, List.takeWhile_append_dropWhile]
  · rcases List.mem_append.mp hc with hc | hc
    · exact List.mem_takeWhile_imp hc
    · exact List.mem_rtakeWhile_imp hc

theorem isBlank_head?_dropWhile {c : Char} (hc : c ∈ (cs.dropWhile isBlank).head?) :
    isBlank c = false := by
  have hnot := List.head?_dropWhile_not isBlank cs
  rwa [Option.mem_def.mp hc] at hnot

theorem isTrim_trimChars (cs : List Char) : IsTrim (trimChars cs) where
  first c hc := by
    have hprefix : trimChars cs <+: cs.dropWhile isBlank := List.rdropWhile_prefix ..
    obtain ⟨rest, hrest⟩ := hprefix
    have hhead : c ∈ (cs.dropWhile isBlank).head? := by
      rw [← hrest, List.head?_append, Option.mem_def.mp hc]
      rfl
    exact isBlank_head?_dropWhile hhead
  last c hc := by
    unfold trimChars at hc
    rw [List.getLast?_reverse] at hc
    exact isBlank_head?_dropWhile hc

theorem dropWhile_isBlank (h : ∀ c ∈ cs.head?, isBlank c = false) : cs.dropWhile isBlank = cs := by
  cases cs with
  | nil => rfl
  | cons c cs => exact List.dropWhile_cons_of_neg (by simp [h c rfl])

theorem IsTrim.trimChars_append (hcore : IsTrim core) (hblank : ∀ c ∈ before ++ after, isBlank c) :
    trimChars (before ++ core ++ after) = core := by
  have hbefore : ∀ c ∈ before, isBlank c := fun c hc => hblank c (List.mem_append_left _ hc)
  have hafter : ∀ c ∈ after.reverse, isBlank c := fun c hc =>
    hblank c (List.mem_append_right _ (List.mem_reverse.mp hc))
  have hfirst : core ≠ [] → (core ++ after).dropWhile isBlank = core ++ after := by
    intro hne
    refine dropWhile_isBlank fun c hc => hcore.first c ?_
    rwa [List.head?_append_of_ne_nil _ hne] at hc
  have hlast : core.reverse.dropWhile isBlank = core.reverse := by
    refine dropWhile_isBlank fun c hc => hcore.last c ?_
    rwa [List.head?_reverse] at hc
  unfold trimChars
  rw [List.append_assoc, List.dropWhile_append_of_pos hbefore]
  by_cases hne : core = []
  · have hnone : (core ++ after).dropWhile isBlank = [] := by
      rw [hne]
      exact List.dropWhile_eq_nil_iff.mpr fun c hc => hafter c (List.mem_reverse.mpr hc)
    rw [hnone, hne]
    rfl
  · rw [hfirst hne, List.reverse_append, List.dropWhile_append_of_pos hafter, hlast,
      List.reverse_reverse]

theorem trimChars_append (hblank : ∀ c ∈ before ++ after, isBlank c)
    (hcore : ∀ c ∈ core, isBlank c = false) : trimChars (before ++ core ++ after) = core :=
  IsTrim.trimChars_append ⟨fun c hc => hcore c (List.mem_of_mem_head? hc),
    fun c hc => hcore c (List.mem_of_mem_getLast? hc)⟩ hblank

theorem trimsTo_iff : TrimsTo s t ↔ trimChars s.toList = t.toList := by
  constructor
  · rintro ⟨before, after, hsplit, hblank, htrim⟩
    rw [hsplit]
    exact htrim.trimChars_append hblank
  · intro h
    obtain ⟨before, after, hsplit, hblank⟩ := exists_trimChars s.toList
    have htrim := isTrim_trimChars s.toList
    rw [h] at hsplit htrim
    exact ⟨before, after, hsplit, hblank, htrim⟩

theorem trimChars_eq_nil : trimChars cs = [] ↔ ∀ c ∈ cs, isBlank c := by
  constructor
  · intro h
    obtain ⟨before, after, hsplit, hblank⟩ := exists_trimChars cs
    rw [h, List.append_nil] at hsplit
    rwa [hsplit]
  · intro h
    have hnone : IsTrim [] := ⟨by simp, by simp⟩
    have hall : ∀ c ∈ cs ++ [], isBlank c := by rwa [List.append_nil]
    simpa using hnone.trimChars_append hall

theorem TrimsTo.self (h : TrimsTo s t) : TrimsTo t t := by
  obtain ⟨-, -, -, -, htrim⟩ := h
  exact ⟨[], [], by simp, by simp, htrim⟩

theorem TrimsTo.blank_iff (h : TrimsTo s t) :
    (∀ c ∈ t.toList, isBlank c) ↔ ∀ c ∈ s.toList, isBlank c := by
  rw [← trimChars_eq_nil, ← trimChars_eq_nil, trimsTo_iff.mp h, trimsTo_iff.mp h.self]

end PrepaidLedger.Text
