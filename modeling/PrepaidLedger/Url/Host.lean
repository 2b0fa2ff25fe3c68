import PrepaidLedger.DomainName.Basic
import PrepaidLedger.Text.Hex

/-!
Hosts of addresses: names, four-byte addresses in any of their spellings, and sixteen-byte ones in
brackets.
-/
namespace PrepaidLedger

inductive Host
  | domain (name : String)
  | ipv4 (n : Nat)
  | ipv6 (text : String)
  /-- Nothing is known of hosts under schemes of their own. -/
  | plain (text : String)
  | empty
deriving DecidableEq, Repr

namespace Host

/-! ## Four bytes -/

def digitsIn (base : Nat) (cs : List Char) : Option Nat :=
  cs.foldlM
    (fun n c =>
      match Text.hexValue? c with
      | some d => if d < base then some (n * base + d) else none
      | none => none)
    0

/-- A part in decimal, octal after a zero, or hexadecimal after `0x`. -/
def numberPart? : List Char → Option Nat
  | [] => none
  | '0' :: 'x' :: digits => digitsIn 16 digits
  | '0' :: 'X' :: digits => digitsIn 16 digits
  | ['0'] => some 0
  | '0' :: digits => digitsIn 8 digits
  | digits => digitsIn 10 digits

def parts (name : List Char) : List (List Char) :=
  let all := Text.splitOn '.' name
  if all.getLast? = some [] then all.dropLast else all

def endsInNumber (name : List Char) : Bool :=
  match (parts name).getLast? with
  | none => false
  | some last => (last ≠ [] && last.all Char.isDigit) || (numberPart? last).isSome

/-- Each part but the last is a byte, and the last one fills what is left of the four. -/
def ipv4OfName? (name : List Char) : Option Nat :=
  let parts := parts name
  if 4 < parts.length then none
  else
    match parts.mapM numberPart? with
    | none => none
    | some numbers =>
      match numbers.getLast? with
      | none => none
      | some last =>
        let front := numbers.dropLast
        if front.any (255 < ·) ∨ Nat.pow 256 (4 - front.length) ≤ last then none
        else some (front.foldl (fun n b => n * 256 + b) 0 * Nat.pow 256 (4 - front.length) + last)

def ipv4Text (n : Nat) : String :=
  ".".intercalate ([3, 2, 1, 0].map fun i => toString (n / Nat.pow 256 i % 256))

/-! ## Sixteen bytes -/

def isGroup (cs : List Char) : Bool :=
  1 ≤ cs.length && cs.length ≤ 4 && cs.all fun c => (Text.hexValue? c).isSome

def isDecimalByte (cs : List Char) : Bool :=
  cs ≠ [] && cs.all Char.isDigit && (cs = ['0'] || cs.head? ≠ some '0') &&
    (digitsIn 10 cs).any (· ≤ 255)

def isDottedQuad (cs : List Char) : Bool :=
  let parts := Text.splitOn '.' cs
  parts.length = 4 && parts.all isDecimalByte

def groupCount? : List (List Char) → Option Nat
  | [] => some 0
  | [last] => if isGroup last then some 1 else if isDottedQuad last then some 2 else none
  | g :: rest => if isGroup g then (groupCount? rest).map (· + 1) else none

def cutGap (seen : List Char) : List Char → Option (List Char × List Char)
  | ':' :: ':' :: rest => some (seen.reverse, rest)
  | c :: rest => cutGap (c :: seen) rest
  | [] => none

def groupsOf (cs : List Char) : List (List Char) := if cs = [] then [] else Text.splitOn ':' cs

def isIpv6 (cs : List Char) : Bool :=
  match cutGap [] cs with
  | none => groupCount? (groupsOf cs) = some 8
  | some (front, back) =>
    let noDots := front.all (· ≠ '.')
    match groupCount? (groupsOf front), groupCount? (groupsOf back) with
    | some m, some n => noDots && m + n ≤ 7
    | _, _ => false

/-! ## Names -/

def percentDecoded : List Char → List UInt8
  | [] => []
  | '%' :: h :: l :: rest =>
    match Text.hexValue? h, Text.hexValue? l with
    | some a, some b => UInt8.ofNat (a * 16 + b) :: percentDecoded rest
    | _, _ => 37 :: percentDecoded (h :: l :: rest)
  | c :: rest => (String.singleton c).toUTF8.toList ++ percentDecoded rest

def isForbidden (c : Char) : Bool :=
  c.toNat ≤ 0x20 || c.toNat = 0x7F || c ∈ "#/:<>?@[\\]^|%".toList

def ofChars? (cs : List Char) : Option Host :=
  match cs with
  | '[' :: rest =>
    if rest.getLast? = some ']' ∧ isIpv6 rest.dropLast then
      some (.ipv6 (String.ofList rest.dropLast))
    else none
  | _ =>
    match (String.fromUTF8? ⟨(percentDecoded cs).toArray⟩).bind (DomainName.ascii? ·.toList) with
    | none => none
    | some name =>
      if name = [] ∨ name.any isForbidden then none
      else if endsInNumber name then (ipv4OfName? name).map .ipv4
      else some (.domain (String.ofList name))

def plainOfChars? (cs : List Char) : Option Host :=
  match cs with
  | [] => some .empty
  | '[' :: _ => ofChars? cs
  | _ =>
    if cs.any fun c => c = '\x00' || c ∈ "\t\n\r #/<>?@[\\]^|:".toList then none
    else some (.plain (String.ofList cs))

def text : Host → String
  | .domain name => name
  | .ipv4 n => ipv4Text n
  | .ipv6 s => "[" ++ s ++ "]"
  | .plain s => s
  | .empty => ""

end Host
end PrepaidLedger
