import Mathlib.Data.Bool.AllAny
import PrepaidLedger.Text.LowerCase

/-! Searching in lower case. There letters may turn into others, into two, or into what their
neighbours make of them; but what is made of small ASCII letters without a `k`, and does not end in
an `i`, stands in the small text where it stands in the text but for the case of ASCII letters. -/

namespace PrepaidLedger.Text

/-! ## Letters -/

/-- A small character of ASCII other than `k`, which the sign of the kelvin becomes in lower case.
-/
structure IsPlain (c : Char) : Prop where
  printed : 0x20 ≤ c.toNat
  ascii : c.toNat < 0x80
  small : c.toLower = c
  other : c ≠ 'k'

instance (c : Char) : Decidable (IsPlain c) :=
  decidable_of_iff (0x20 ≤ c.toNat ∧ c.toNat < 0x80 ∧ c.toLower = c ∧ c ≠ 'k')
    ⟨fun ⟨h₁, h₂, h₃, h₄⟩ => ⟨h₁, h₂, h₃, h₄⟩, fun ⟨h₁, h₂, h₃, h₄⟩ => ⟨h₁, h₂, h₃, h₄⟩⟩

variable {c d : Char}

theorem toLower_of_not_capital (h : ¬ (65 ≤ c.toNat ∧ c.toNat ≤ 90)) : c.toLower = c := by
  have hcapital : ¬ (c.val ≥ 'A'.val ∧ c.val ≤ 'Z'.val) := fun ⟨hfrom, hto⟩ =>
    h ⟨UInt32.le_iff_toNat_le.mp hfrom, UInt32.le_iff_toNat_le.mp hto⟩
  unfold Char.toLower
  rw [dif_neg hcapital]

theorem toLower_of_not_ascii (h : 0x80 ≤ c.toNat) : c.toLower = c :=
  toLower_of_not_capital (by omega)

def asciiCapitals : ShiftRange := ⟨65, 90, 1, 32⟩

theorem eq_asciiCapitals_or_beyond : ∀ r ∈ capitalRanges, r = asciiCapitals ∨
    (0x80 ≤ r.first ∧ ((r.first = 0x212A ∧ r.last = 0x212A ∧ r.shift = 0x6B - 0x212A) ∨
      0x80 ≤ (r.first : Int) + r.shift)) :=
  List.all_iff_forall_prop.mp (by decide +kernel)

theorem smallLetter_of_none (h : capitalRanges.find? (·.covers c.toNat) = none) :
    smallLetter c = c := by
  rw [smallLetter, counterpart?, h]
  rfl

theorem smallLetter_of_some {r : ShiftRange}
    (h : capitalRanges.find? (·.covers c.toNat) = some r) :
    smallLetter c = Char.ofNat (c.toNat + r.shift : Int).toNat ∧ r ∈ capitalRanges ∧
      r.first ≤ c.toNat ∧ c.toNat ≤ r.last := by
  have hcovers : r.covers c.toNat = true := by simpa using List.find?_some h
  unfold ShiftRange.covers at hcovers
  simp only [Bool.and_eq_true, decide_eq_true_eq] at hcovers
  refine ⟨?_, List.mem_of_find?_eq_some h, hcovers.1⟩
  rw [smallLetter, counterpart?, h]
  rfl

theorem smallLetter_of_ascii (h : c.toNat < 0x80) : smallLetter c = c.toLower := by
  cases hfind : capitalRanges.find? (·.covers c.toNat) with
  | none =>
    have hcapital : ¬ (65 ≤ c.toNat ∧ c.toNat ≤ 90) := by
      intro hletter
      have hcovers : asciiCapitals.covers c.toNat = true := by
        unfold ShiftRange.covers
        simp only [Bool.and_eq_true, decide_eq_true_eq]
        exact ⟨hletter, beq_iff_eq.mpr (Nat.mod_one _)⟩
      exact List.find?_eq_none.mp hfind asciiCapitals (by decide) hcovers
    rw [smallLetter_of_none hfind, toLower_of_not_capital hcapital]
  | some r =>
    obtain ⟨hsmall, hmem, hfirst, hlast⟩ := smallLetter_of_some hfind
    obtain rfl : r = asciiCapitals :=
      (eq_asciiCapitals_or_beyond r hmem).resolve_right fun hbeyond => by omega
    have hletters : ∀ n : Nat, n ≤ 90 → 65 ≤ n →
        Char.ofNat (n + asciiCapitals.shift : Int).toNat = (Char.ofNat n).toLower := by decide
    rw [hsmall, hletters c.toNat hlast hfirst, Char.ofNat_toNat]

theorem toNat_ofNat (n : Nat) : (Char.ofNat n).toNat = n ∨ (Char.ofNat n).toNat = 0 := by
  unfold Char.ofNat
  by_cases h : n.isValidChar
  · rw [dif_pos h]
    exact .inl rfl
  · rw [dif_neg h]
    exact .inr rfl

theorem smallLetter_ne_of_not_ascii (h : 0x80 ≤ c.toNat) (hd : IsPlain d) : smallLetter c ≠ d := by
  have hprinted := hd.printed
  have hascii := hd.ascii
  rintro rfl
  cases hfind : capitalRanges.find? (·.covers c.toNat) with
  | none =>
    rw [smallLetter_of_none hfind] at hascii
    omega
  | some r =>
    obtain ⟨hsmall, hmem, hfirst, hlast⟩ := smallLetter_of_some hfind
    rcases eq_asciiCapitals_or_beyond r hmem with
      rfl | ⟨-, ⟨hkelvin, hkelvin', hshift⟩ | hbeyond⟩
    · change c.toNat ≤ 90 at hlast
      omega
    · have hk : (c.toNat + r.shift : Int).toNat = 0x6B := by omega
      rw [hk] at hsmall
      exact hd.other hsmall
    · rw [hsmall] at hprinted hascii
      rcases toNat_ofNat (c.toNat + r.shift : Int).toNat with hn | hn <;> omega

theorem smallLetter_eq_iff (c : Char) (hd : IsPlain d) : smallLetter c = d ↔ c.toLower = d := by
  -- To plain characters no others are lowered than in ASCII.
  by_cases h : c.toNat < 0x80
  · rw [smallLetter_of_ascii h]
  · have hbeyond : 0x80 ≤ c.toNat := Nat.le_of_not_lt h
    have hne : c ≠ d := fun he => h (he ▸ hd.ascii)
    rw [toLower_of_not_ascii hbeyond]
    exact iff_of_false (smallLetter_ne_of_not_ascii hbeyond hd) hne

theorem IsPlain.ne_of_not_ascii (hd : IsPlain d) (h : 0x80 ≤ c.toNat) : c ≠ d := by
  rintro rfl
  exact Nat.not_lt_of_le h hd.ascii

theorem exists_lowerAt (before : List Char) (hc : c ≠ dottedCapitalI) (after : List Char) :
    ∃ x, lowerAt before c after = [x] ∧ ∀ d, IsPlain d → (x = d ↔ c.toLower = d) := by
  unfold lowerAt
  by_cases hsigma : c = capitalSigma
  · rw [if_pos hsigma]
    refine ⟨_, rfl, fun d hd => iff_of_false ?_ ?_⟩
    · split
      · exact hd.ne_of_not_ascii (by decide)
      · exact hd.ne_of_not_ascii (by decide)
    · rw [hsigma]
      exact hd.ne_of_not_ascii (by decide)
  · rw [if_neg hsigma, if_neg hc]
    exact ⟨_, rfl, fun d hd => smallLetter_eq_iff c hd⟩

/-! ## Phrases -/

/-- Plain characters, of which the last is no `i`: what the capital I with a dot becomes begins with
one, but ends with the dot. -/
structure IsSought (phrase : List Char) : Prop where
  plain : ∀ c ∈ phrase, IsPlain c
  last : phrase.getLast? ≠ some 'i'

variable {phrase before cs : List Char}

theorem IsSought.tail (h : IsSought (d :: phrase)) : IsSought phrase where
  plain c hc := h.plain c (List.mem_cons_of_mem d hc)
  last hlast := by
    refine h.last ?_
    cases phrase with
    | nil => cases hlast
    | cons e phrase => exact hlast

theorem IsSought.not_prefix_dotted (h : IsSought (d :: phrase)) (rest : List Char) :
    ¬ d :: phrase <+: 'i' :: combiningDotAbove :: rest ∧
      ¬ d :: phrase <+: combiningDotAbove :: rest := by
  -- No sought phrase begins at the capital I with a dot or within what it becomes.
  have hdot {e : Char} (he : IsPlain e) : combiningDotAbove ≠ e := he.ne_of_not_ascii (by decide)
  simp only [List.cons_prefix_cons]
  refine ⟨?_, fun hp => hdot (h.plain d (List.mem_cons_self ..)) hp.1.symm⟩
  rintro ⟨rfl, hp⟩
  cases phrase with
  | nil => exact h.last rfl
  | cons e phrase =>
    have he : IsPlain e := h.plain e (List.mem_cons_of_mem _ (List.mem_cons_self ..))
    exact hdot he (List.cons_prefix_cons.mp hp).1.symm

theorem prefix_lowerFrom_iff (h : IsSought phrase) :
    phrase <+: lowerFrom before cs ↔ phrase <+: cs.map Char.toLower := by
  induction cs generalizing phrase before with
  | nil => rfl
  | cons c cs ih =>
    cases phrase with
    | nil => simp
    | cons d phrase =>
      have hd : IsPlain d := h.plain d (List.mem_cons_self ..)
      rw [lowerFrom, List.map_cons]
      by_cases hc : c = dottedCapitalI
      · have hupper : c.toLower ≠ d := by
          rw [hc]
          exact hd.ne_of_not_ascii (by decide)
        rw [hc]
        refine iff_of_false (h.not_prefix_dotted _).1 fun hp => ?_
        rw [← hc] at hp
        exact hupper (List.cons_prefix_cons.mp hp).1.symm
      · obtain ⟨x, hx, hlower⟩ := exists_lowerAt before hc cs
        rw [hx, List.singleton_append, List.cons_prefix_cons, List.cons_prefix_cons, ih h.tail,
          eq_comm, hlower d hd, eq_comm]

theorem IsSought.infix_lowerFrom_cons (h : IsSought phrase) (c : Char) :
    phrase <:+: lowerFrom before (c :: cs) ↔
      phrase <+: lowerFrom before (c :: cs) ∨ phrase <:+: lowerFrom (c :: before) cs := by
  -- What a character becomes is passed over as a whole.
  cases phrase with
  | nil => simp
  | cons d phrase =>
    rw [lowerFrom]
    by_cases hc : c = dottedCapitalI
    · have hlower : lowerAt before c cs = ['i', combiningDotAbove] := by
        rw [hc]
        rfl
      obtain ⟨-, hdot⟩ := h.not_prefix_dotted (lowerFrom (c :: before) cs)
      rw [hlower, List.cons_append, List.singleton_append, List.infix_cons_iff,
        List.infix_cons_iff (a := combiningDotAbove), or_iff_right hdot]
    · obtain ⟨x, hx, -⟩ := exists_lowerAt before hc cs
      rw [hx, List.singleton_append, List.infix_cons_iff]

theorem infix_lowerFrom_iff (h : IsSought phrase) :
    phrase <:+: lowerFrom before cs ↔ phrase <:+: cs.map Char.toLower := by
  induction cs generalizing before with
  | nil => rfl
  | cons c cs ih =>
    rw [h.infix_lowerFrom_cons, prefix_lowerFrom_iff h, ih, List.map_cons, ← List.infix_cons_iff]

theorem sameUpToAsciiCase_iff {a b : String} :
    sameUpToAsciiCase a b = true ↔ a.toList.map Char.toLower = b.toList.map Char.toLower :=
  beq_iff_eq

end PrepaidLedger.Text
