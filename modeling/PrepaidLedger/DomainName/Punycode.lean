import PrepaidLedger.Text.Range

/-!
Texts beyond ASCII in letters, digits and hyphens. The ASCII characters stand first, before the last
hyphen. Each of the others follows in order of its code point, as the number of places and code
points passed over since the one before, written in digits to a base that adapts to their size.
-/
namespace PrepaidLedger.DomainName.Punycode

def base : Nat := 36
def lowestThreshold : Nat := 1
def highestThreshold : Nat := 26
def firstBias : Nat := 72
def firstCode : Nat := 0x80

def wordBound : Nat := Nat.pow 2 32

def digitChar (d : Nat) : Char :=
  Char.ofNat (if d < 26 then 'a'.toNat + d else '0'.toNat + (d - 26))

def digitValue? (c : Char) : Option Nat :=
  if c.isLower then some (c.toNat - 'a'.toNat)
  else if c.isUpper then some (c.toNat - 'A'.toNat)
  else if c.isDigit then some (c.toNat - '0'.toNat + 26)
  else none

def threshold (place bias : Nat) : Nat :=
  min highestThreshold (max lowestThreshold (place - bias))

theorem threshold_pos (place bias : Nat) : 0 < threshold place bias := by
  unfold threshold lowestThreshold highestThreshold
  omega

def settle (n place : Nat) : Nat × Nat :=
  if (base - lowestThreshold) * highestThreshold / 2 < n then
    settle (n / (base - lowestThreshold)) (place + base)
  else (n, place)
termination_by n
decreasing_by
  exact Nat.div_lt_self (by omega) (by decide)

def adapt (delta count : Nat) (isFirst : Bool) : Nat :=
  let halved := if isFirst then delta / 700 else delta / 2
  let (n, place) := settle (halved + halved / count) 0
  place + base * n / (n + 38)

/-! ## Reading -/

def readNumber? (bias : Nat) (place weight sum : Nat) : List Char → Option (Nat × List Char)
  | [] => none
  | c :: rest => do
    let digit ← digitValue? c
    let sum := sum + digit * weight
    let t := threshold place bias
    if wordBound ≤ sum then none
    else if digit < t then some (sum, rest)
    else if wordBound ≤ weight * (base - t) then none
    else readNumber? bias (place + base) (weight * (base - t)) sum rest

theorem readNumber?_length_lt {bias place weight sum : Nat} {cs : List Char} {n : Nat}
    {rest : List Char} (h : readNumber? bias place weight sum cs = some (n, rest)) :
    rest.length < cs.length := by
  induction cs generalizing place weight sum with
  | nil => simp [readNumber?] at h
  | cons c cs ih =>
    simp only [readNumber?, Option.bind_eq_bind, Option.bind_eq_some_iff] at h
    obtain ⟨digit, -, h⟩ := h
    split at h
    · cases h
    · split at h
      · cases h
        simp
      · split at h
        · cases h
        · exact Nat.lt_succ_of_lt (ih h)

/-- Puts one character after the other into `text`. The place of the next is counted from `place`,
and every round through all places is one code point. -/
def insertAll? (bias code place : Nat) (text : List Char) (cs : List Char) : Option (List Char) :=
  match cs with
  | [] => some text
  | c :: rest =>
    match _h : readNumber? bias base 1 place (c :: rest) with
    | none => none
    | some (n, after) =>
      let count := text.length + 1
      let code := code + n / count
      if code.isValidChar then
        insertAll? (adapt (n - place) count (place = 0)) code (n % count + 1)
          (text.insertIdx (n % count) (Char.ofNat code)) after
      else none
termination_by cs.length
decreasing_by
  exact readNumber?_length_lt _h

def cut (cs : List Char) : List Char × List Char :=
  let tail := (cs.reverse.takeWhile (· ≠ '-')).reverse
  let front := cs.take (cs.length - tail.length - 1)
  if front = [] then ([], cs) else (front, tail)

def decode? (cs : List Char) : Option (List Char) :=
  let (front, tail) := cut cs
  if cs.all Text.isAscii then insertAll? firstBias firstCode 0 front tail else none

/-! ## Writing -/

def digits (bias place n : Nat) : List Char :=
  let t := threshold place bias
  if n < t then [digitChar n]
  else digitChar (t + (n - t) % (base - t)) :: digits bias (place + base) ((n - t) / (base - t))
termination_by n
decreasing_by
  have := threshold_pos place bias
  exact Nat.lt_of_le_of_lt (Nat.div_le_self _ _) (by omega)

structure Writer where
  written : List Char
  delta : Nat
  bias : Nat
  count : Nat
deriving Repr

def Writer.pass (code basics : Nat) (w : Writer) (c : Char) : Writer :=
  if c.toNat < code then { w with delta := w.delta + 1 }
  else if c.toNat = code then
    { written := w.written ++ digits w.bias base w.delta
      delta := 0
      bias := adapt w.delta (w.count + 1) (w.count = basics)
      count := w.count + 1 }
  else w

def writeAll (text : List Char) (basics : Nat) : Nat → List Nat → Writer → Writer
  | _, [], w => w
  | lowest, code :: codes, w =>
    let w := { w with delta := w.delta + (code - lowest) * (w.count + 1) }
    let w := text.foldl (Writer.pass code basics) w
    writeAll text basics (code + 1) codes { w with delta := w.delta + 1 }

def encode (text : List Char) : List Char :=
  let basics := text.filter Text.isAscii
  let codes := ((text.filter (!Text.isAscii ·)).map Char.toNat).mergeSort.eraseDups
  basics ++ (if basics = [] then [] else ['-']) ++
    (writeAll text basics.length firstCode codes ⟨[], 0, firstBias, basics.length⟩).written

end PrepaidLedger.DomainName.Punycode
