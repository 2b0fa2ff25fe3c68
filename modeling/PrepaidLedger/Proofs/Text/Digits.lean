import Mathlib.Algebra.Group.Nat.Defs
import Mathlib.Data.Bool.AllAny
import PrepaidLedger.Uuid

/-! Hexadecimal digits. Bytes and identifiers are read back from the digits that they are written
in, so no two of them are written alike. -/

namespace PrepaidLedger

namespace Text

/-! ## Bytes -/

theorem hexDigit_mem : ∀ n < 16, hexDigit n ∈ hexDigits := by decide

-- The digits are gone through as a list, and not as some of all the characters there are.
theorem toLower_of_mem_hexDigits : ∀ c ∈ hexDigits, c.toLower = c :=
  List.all_iff_forall_prop.mp (by decide)

theorem hexValue?_eq_some {c : Char} {n : Nat} :
    hexValue? c = some n ↔ n < 16 ∧ c.toLower = hexDigit n := by
  constructor
  · intro h
    obtain ⟨hn, hdigit, -⟩ := List.findIdx?_eq_some_iff_getElem.mp h
    refine ⟨hn, ?_⟩
    rw [← eq_of_beq hdigit, hexDigit, List.getD_eq_getElem?_getD, List.getElem?_eq_getElem hn,
      Option.getD_some]
  · rintro ⟨hn, hdigit⟩
    have hfound : ∀ n < 16, hexDigits.findIdx? (· == hexDigit n) = some n := by decide
    unfold hexValue?
    rw [hdigit]
    exact hfound n hn

theorem bytesOfHex?_eq_some :
    ∀ {cs : List Char} {bs : List UInt8},
      bytesOfHex? cs = some bs ↔ cs.map Char.toLower = hexOfBytes bs
  | [], bs => by cases bs <;> simp [bytesOfHex?, hexOfBytes]
  | [c], bs => by cases bs <;> simp [bytesOfHex?, hexOfBytes]
  | high :: low :: rest, bs => by
    constructor
    · intro h
      unfold bytesOfHex? at h
      split at h
      next x y bytes hx hy hbytes =>
        obtain rfl := Option.some.inj h
        obtain ⟨hx16, hhigh⟩ := hexValue?_eq_some.mp hx
        obtain ⟨hy16, hlow⟩ := hexValue?_eq_some.mp hy
        have hbyte : (UInt8.ofNat (x * 16 + y)).toNat = x * 16 + y :=
          UInt8.toNat_ofNat_of_lt' (by change x * 16 + y < 256; omega)
        have hdiv : (x * 16 + y) / 16 = x := by omega
        have hmod : (x * 16 + y) % 16 = y := by omega
        rw [List.map_cons, List.map_cons, hexOfBytes, hbyte, hdiv, hmod, hhigh, hlow,
          bytesOfHex?_eq_some.mp hbytes]
      · cases h
    · intro h
      cases bs with
      | nil => cases h
      | cons b bytes =>
        simp only [List.map_cons, hexOfBytes, List.cons.injEq] at h
        obtain ⟨hhigh, hlow, hrest⟩ := h
        have hb : b.toNat < 256 := b.toNat_lt
        have hx := hexValue?_eq_some.mpr ⟨by omega, hhigh⟩
        have hy := hexValue?_eq_some.mpr ⟨Nat.mod_lt _ (by decide), hlow⟩
        have hbyte : b.toNat / 16 * 16 + b.toNat % 16 = b.toNat := Nat.div_add_mod' ..
        rw [bytesOfHex?, hx, hy, bytesOfHex?_eq_some.mpr hrest]
        dsimp only
        rw [hbyte, UInt8.ofNat_toNat]

theorem length_hexOfBytes (bs : List UInt8) : (hexOfBytes bs).length = 2 * bs.length := by
  induction bs with
  | nil => rfl
  | cons b rest ih =>
    simp only [hexOfBytes, List.length_cons, ih]
    omega

theorem mem_hexDigits_of_mem_hexOfBytes {c : Char} {bs : List UInt8} (h : c ∈ hexOfBytes bs) :
    c ∈ hexDigits := by
  induction bs with
  | nil => cases h
  | cons b rest ih =>
    have hb : b.toNat < 256 := b.toNat_lt
    rcases List.mem_cons.mp h with rfl | h
    · exact hexDigit_mem _ (by omega)
    rcases List.mem_cons.mp h with rfl | h
    · exact hexDigit_mem _ (Nat.mod_lt _ (by decide))
    · exact ih h

theorem map_toLower_hexOfBytes (bs : List UInt8) :
    (hexOfBytes bs).map Char.toLower = hexOfBytes bs := by
  refine (List.map_congr_left fun c hc => ?_).trans (List.map_id _)
  exact toLower_of_mem_hexDigits c (mem_hexDigits_of_mem_hexOfBytes hc)

end Text

/-! ## Identifiers -/

namespace Uuid

theorem hexValue?_digit (u : Uuid) (i : Nat) :
    Text.hexValue? (u.digit i) = some (u.bits.toNat / 16 ^ (31 - i) % 16) := by
  have hlt : u.bits.toNat / 16 ^ (31 - i) % 16 < 16 := Nat.mod_lt _ (by decide)
  exact Text.hexValue?_eq_some.mpr ⟨hlt, Text.toLower_of_mem_hexDigits _ (Text.hexDigit_mem _ hlt)⟩

theorem digit_ne_hyphen (u : Uuid) (i : Nat) : u.digit i ≠ '-' := by
  have hlt : u.bits.toNat / 16 ^ (31 - i) % 16 < 16 := Nat.mod_lt _ (by decide)
  have hdigits : ∀ c ∈ Text.hexDigits, c ≠ '-' := List.all_iff_forall_prop.mp (by decide)
  exact hdigits _ (Text.hexDigit_mem _ hlt)

theorem valueOfDigits?_group (u : Uuid) {k : Nat} (hk : k ≤ 32) :
    valueOfDigits? (u.group 0 k) = some (u.bits.toNat / 16 ^ (32 - k)) := by
  -- One digit more is one division by sixteen less, and its rest is the digit.
  induction k with
  | zero =>
    have hlt : u.bits.toNat < 16 ^ 32 := u.bits.isLt
    rw [Nat.sub_zero, Nat.div_eq_of_lt hlt]
    rfl
  | succ k ih =>
    have hgroup : u.group 0 (k + 1) = u.group 0 k ++ [u.digit k] := by
      unfold group
      rw [List.range'_concat, List.map_append]
      simp
    have hstep : u.bits.toNat / 16 ^ (32 - k) * 16 + u.bits.toNat / 16 ^ (31 - k) % 16 =
        u.bits.toNat / 16 ^ (31 - k) := by
      have hpow : 16 ^ (32 - k) = 16 ^ (31 - k) * 16 := by
        rw [← Nat.pow_succ]
        congr 1
        omega
      rw [hpow, ← Nat.div_div_eq_div_mul]
      exact Nat.div_add_mod' ..
    have hrest : 32 - (k + 1) = 31 - k := by omega
    unfold valueOfDigits? at ih ⊢
    rw [hgroup, List.foldlM_append, ih (by omega), hrest]
    simp only [Option.bind_eq_bind, Option.bind_some, List.foldlM_cons, List.foldlM_nil,
      hexValue?_digit, Option.map_some, hstep]
    rfl

theorem filter_group (u : Uuid) (start count : Nat) :
    (u.group start count).filter (· ≠ '-') = u.group start count := by
  refine List.filter_eq_self.mpr fun c hc => ?_
  obtain ⟨i, -, rfl⟩ := List.mem_map.mp hc
  exact decide_eq_true (u.digit_ne_hyphen i)

theorem ofText?_text (u : Uuid) : ofText? u.text = some u := by
  have hchars : u.text.toList = u.chars := String.toList_ofList
  have hhyphens : u.chars.length = 36 ∧ (u.chars[8]? == some '-') = true ∧
      (u.chars[13]? == some '-') = true ∧ (u.chars[18]? == some '-') = true ∧
      (u.chars[23]? == some '-') = true := ⟨rfl, rfl, rfl, rfl, rfl⟩
  have hdigits : u.chars.filter (· ≠ '-') = u.group 0 32 := by
    unfold chars
    simp only [List.filter_append, List.filter_cons, filter_group, ne_eq, not_true_eq_false,
      decide_false, Bool.false_eq_true, if_false]
    rfl
  have hlength : (u.group 0 32).length = 32 := rfl
  unfold ofText?
  dsimp only
  rw [hchars, if_pos hhyphens, hdigits, if_pos hlength, valueOfDigits?_group u (Nat.le_refl 32)]
  simp

structure IsHyphenated (text : String) : Prop where
  length : text.length = 36
  groups : ∃ groups : List (List Char), text.toList = ['-'].intercalate groups ∧
    groups.map List.length = [8, 4, 4, 4, 12] ∧ ∀ g ∈ groups, ∀ c ∈ g, c ∈ Text.hexDigits

theorem length_chars (u : Uuid) : u.chars.length = 36 := rfl

theorem mem_hexDigits_of_mem_group {u : Uuid} {start count : Nat} {c : Char}
    (h : c ∈ u.group start count) : c ∈ Text.hexDigits := by
  obtain ⟨i, -, rfl⟩ := List.mem_map.mp h
  exact Text.hexDigit_mem _ (Nat.mod_lt _ (by decide))

theorem isHyphenated_text (u : Uuid) : IsHyphenated u.text where
  length := String.length_ofList
  groups := by
    refine ⟨[u.group 0 8, u.group 8 4, u.group 12 4, u.group 16 4, u.group 20 12], ?_, rfl, ?_⟩
    · rw [text, String.toList_ofList]
      rfl
    · intro g hg c hc
      simp only [List.mem_cons, List.not_mem_nil, or_false] at hg
      rcases hg with rfl | rfl | rfl | rfl | rfl <;> exact mem_hexDigits_of_mem_group hc

theorem chars_injective {u u' : Uuid} (h : u.chars = u'.chars) : u = u' := by
  have hread : ofText? u.text = ofText? u'.text := congrArg (fun cs => ofText? (String.ofList cs)) h
  rw [ofText?_text, ofText?_text] at hread
  exact Option.some.inj hread

end Uuid
end PrepaidLedger
