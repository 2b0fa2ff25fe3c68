import PrepaidLedger.Json.Draft
import PrepaidLedger.Json.Literal

/-!
Strict JSON text, as bytes, into a draft: no comments, no trailing commas, no text after the value,
control characters only as escapes.
-/
namespace PrepaidLedger.Json

abbrev Bytes := List UInt8

def isSpace (b : UInt8) : Bool := b == 0x20 || b == 0x09 || b == 0x0A || b == 0x0D

def skipSpace (cs : Bytes) : Bytes := cs.dropWhile isSpace

def isDigitByte (b : UInt8) : Bool := 0x30 ≤ b && b ≤ 0x39

def digitsOf (cs : Bytes) : List Nat := cs.map fun b => b.toNat - 0x30

/-! ## Strings -/

inductive Piece
  | byte (b : UInt8)
  | unit (u : Nat)

def hexByte? (b : UInt8) : Option Nat :=
  if 0x30 ≤ b && b ≤ 0x39 then some (b.toNat - 0x30)
  else if 0x41 ≤ b && b ≤ 0x46 then some (b.toNat - 0x41 + 10)
  else if 0x61 ≤ b && b ≤ 0x66 then some (b.toNat - 0x61 + 10)
  else none

def shortEscape? (b : UInt8) : Option UInt8 :=
  if b == 0x22 || b == 0x5C || b == 0x2F then some b
  else if b == 0x62 then some 0x08
  else if b == 0x66 then some 0x0C
  else if b == 0x6E then some 0x0A
  else if b == 0x72 then some 0x0D
  else if b == 0x74 then some 0x09
  else none

def lexPieces (acc : List Piece) : Bytes → Option (List Piece × Bytes)
  | [] => none
  | 0x22 :: rest => some (acc, rest)
  | 0x5C :: 0x75 :: a :: b :: c :: d :: rest =>
    match hexByte? a, hexByte? b, hexByte? c, hexByte? d with
    | some a, some b, some c, some d =>
      lexPieces (.unit (a * 4096 + b * 256 + c * 16 + d) :: acc) rest
    | _, _, _, _ => none
  | 0x5C :: e :: rest =>
    match shortEscape? e with
    | some b => lexPieces (.byte b :: acc) rest
    | none => none
  | b :: rest => if b < 0x20 then none else lexPieces (.byte b :: acc) rest

def utf8Bytes (code : Nat) : Bytes :=
  (String.singleton (Char.ofNat code)).toUTF8.toList

/-- The bytes that the pieces stand for; a surrogate must be one of a pair, the high one first. -/
def pieceBytes (acc : Bytes) : List Piece → Option Bytes
  | [] => some acc.reverse
  | .byte b :: rest => pieceBytes (b :: acc) rest
  | .unit u :: rest =>
    if 0xD800 ≤ u ∧ u < 0xDC00 then
      match rest with
      | .unit v :: rest =>
        if 0xDC00 ≤ v ∧ v < 0xE000 then
          let code := 0x10000 + (u - 0xD800) * 0x400 + (v - 0xDC00)
          pieceBytes ((utf8Bytes code).reverse ++ acc) rest
        else none
      | _ => none
    else if 0xDC00 ≤ u ∧ u < 0xE000 then none
    else pieceBytes ((utf8Bytes u).reverse ++ acc) rest

def textOfBytes? (bytes : Bytes) : Option String :=
  String.fromUTF8? ⟨bytes.toArray⟩

def lexString (cs : Bytes) : Option (Option String × Bytes) :=
  (lexPieces [] cs).map fun (pieces, rest) =>
    ((pieceBytes [] pieces.reverse).bind textOfBytes?, rest)

/-! ## Numbers -/

def lexDigits (cs : Bytes) : Option (Bytes × Bytes) :=
  match cs.span isDigitByte with
  | ([], _) => none
  | parts => some parts

def lexWhole (cs : Bytes) : Option (Bytes × Bytes) :=
  match lexDigits cs with
  | some (0x30 :: _ :: _, _) => none
  | parts => parts

def lexFraction : Bytes → Option (Option Bytes × Bytes)
  | 0x2E :: rest => (lexDigits rest).map fun (ds, rest) => (some ds, rest)
  | cs => some (none, cs)

def decimalValue (digits : List Nat) : Nat := digits.foldl (fun n d => n * 10 + d) 0

def exponentCap : Nat := Nat.pow 10 12

def exponentValue (negative : Bool) (digits : Bytes) : Int :=
  let significant := (digitsOf digits).dropWhile (· = 0)
  let size := if significant.length ≤ 12 then decimalValue significant else exponentCap
  if negative then -(size : Int) else size

def lexExponentDigits (negative : Bool) (cs : Bytes) : Option (Option Int × Bytes) :=
  (lexDigits cs).map fun (ds, rest) => (some (exponentValue negative ds), rest)

def lexExponent : Bytes → Option (Option Int × Bytes)
  | e :: rest =>
    if e == 0x65 || e == 0x45 then
      match rest with
      | 0x2B :: rest => lexExponentDigits false rest
      | 0x2D :: rest => lexExponentDigits true rest
      | rest => lexExponentDigits false rest
    else some (none, e :: rest)
  | [] => some (none, [])

def lexNumber (cs : Bytes) : Option (Option Number × Bytes) := do
  let (negative, cs) := match cs with
    | 0x2D :: rest => (true, rest)
    | cs => (false, cs)
  let (whole, cs) ← lexWhole cs
  let (fraction, cs) ← lexFraction cs
  let (exponent, cs) ← lexExponent cs
  return (numberLiteral negative (digitsOf whole) (fraction.map digitsOf) exponent, cs)

/-! ## Values -/

def lexWord (word : Bytes) (value : Draft) (cs : Bytes) : Option (Draft × Bytes) :=
  if word.isPrefixOf cs then some (value, cs.drop word.length) else none

def trueWord : Bytes := [0x74, 0x72, 0x75, 0x65]
def falseWord : Bytes := [0x66, 0x61, 0x6C, 0x73, 0x65]
def nullWord : Bytes := [0x6E, 0x75, 0x6C, 0x6C]

mutual

def lexValue : Nat → Bytes → Option (Draft × Bytes)
  | 0, _ => none
  | fuel + 1, cs =>
    match skipSpace cs with
    | [] => none
    | 0x22 :: rest => (lexString rest).map fun (s, rest) => (.string s, rest)
    | 0x5B :: rest =>
      match skipSpace rest with
      | 0x5D :: rest => some (.array [], rest)
      | rest => lexItems fuel [] rest
    | 0x7B :: rest =>
      match skipSpace rest with
      | 0x7D :: rest => some (.object [], rest)
      | rest => lexMembers fuel [] rest
    | b :: rest =>
      if b == 0x74 then lexWord trueWord (.bool true) (b :: rest)
      else if b == 0x66 then lexWord falseWord (.bool false) (b :: rest)
      else if b == 0x6E then lexWord nullWord .null (b :: rest)
      else (lexNumber (b :: rest)).map fun (n, rest) => (.number n, rest)

def lexItems : Nat → List Draft → Bytes → Option (Draft × Bytes)
  | 0, _, _ => none
  | fuel + 1, acc, cs =>
    match lexValue fuel cs with
    | none => none
    | some (item, rest) =>
      match skipSpace rest with
      | 0x2C :: rest => lexItems fuel (item :: acc) rest
      | 0x5D :: rest => some (.array (item :: acc).reverse, rest)
      | _ => none

def lexMembers : Nat → List (Option String × Draft) → Bytes → Option (Draft × Bytes)
  | 0, _, _ => none
  | fuel + 1, acc, cs =>
    match skipSpace cs with
    | 0x22 :: rest =>
      match lexString rest with
      | none => none
      | some (name, rest) =>
        match skipSpace rest with
        | 0x3A :: rest =>
          match lexValue fuel rest with
          | none => none
          | some (item, rest) =>
            match skipSpace rest with
            | 0x2C :: rest => lexMembers fuel ((name, item) :: acc) rest
            | 0x7D :: rest => some (.object ((name, item) :: acc).reverse, rest)
            | _ => none
        | _ => none
    | _ => none

end

/-- The draft that a whole text is. Each step of the parser takes a byte, which bounds the steps. -/
def Draft.ofBytes? (bytes : Bytes) : Option Draft :=
  match lexValue (2 * bytes.length + 2) bytes with
  | some (draft, rest) => if (skipSpace rest).isEmpty then some draft else none
  | none => none

def Draft.ofText? (s : String) : Option Draft := ofBytes? s.toUTF8.toList

def ofText? (s : String) : Option Json := (Draft.ofText? s).bind (·.value? Draft.depthLimit)

end PrepaidLedger.Json
