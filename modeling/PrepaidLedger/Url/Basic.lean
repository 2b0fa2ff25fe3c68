import PrepaidLedger.Url.Host

/-!
Addresses of services, read without another address to stand on. On the web slashes lean either way,
blanks around an address do not count, and the path is brought into one form.
-/
namespace PrepaidLedger

structure Url where
  scheme : String
  host : Host
  port : Option Nat
  path : String
  query : Option String
deriving DecidableEq, Repr

namespace Url

/-! ## Paths and queries -/

def hexCapital (n : Nat) : Char := (Text.hexDigit n).toUpper

def percentEncoded (c : Char) : List Char :=
  (String.singleton c).toUTF8.toList.flatMap fun b =>
    ['%', hexCapital (b.toNat / 16), hexCapital (b.toNat % 16)]

def encode (set : List Char) (cs : List Char) : List Char :=
  cs.flatMap fun c =>
    if c.toNat < 0x20 ∨ 0x7E < c.toNat ∨ c ∈ set then percentEncoded c else [c]

def pathSet : List Char := " \"#<>?\x60\x7b\x7d".toList

def querySet : List Char := " \"#<>'".toList

def isSingleDot (segment : List Char) : Bool :=
  String.ofList (segment.map Char.toLower) ∈ [".", "%2e"]

def isDoubleDot (segment : List Char) : Bool :=
  String.ofList (segment.map Char.toLower) ∈ ["..", ".%2e", "%2e.", "%2e%2e"]

/-- Appends segments to those before, the latest first. A dot stays where it is, two go one back,
and either leaves an empty segment at the end. -/
def walk (before : List (List Char)) : List (List Char) → List (List Char)
  | [] => before
  | [last] =>
    if isDoubleDot last then [] :: before.tail
    else if isSingleDot last then [] :: before
    else encode pathSet last :: before
  | s :: rest =>
    if isDoubleDot s then walk before.tail rest
    else if isSingleDot s then walk before rest
    else walk (encode pathSet s :: before) rest

def pathOf (cs : List Char) : String :=
  let forward := cs.map fun c => if c = '\\' then '/' else c
  let segments := Text.splitOn '/' (if forward.head? = some '/' then forward.tail else forward)
  String.ofList ((walk [] segments).reverse.flatMap ('/' :: ·))

/-! ## Authority -/

def isSlash (c : Char) : Bool := c = '/' || c = '\\'

def isPortDigit (c : Char) : Bool := c.isDigit

def maxPort : Nat := 65535

/-- The port written after a colon; nothing after it is no port. A backslash ends it, where one can
stand there at all. -/
def portOf? (cs : List Char) : Option (Option Nat) :=
  let digits := cs.takeWhile isPortDigit
  if (cs.drop digits.length).head?.any (· ≠ '\\') then none
  else if digits = [] then some none
  else
    match Host.digitsIn 10 digits with
    | some n => if n ≤ maxPort then some (some n) else none
    | none => none

def cutUser (cs : List Char) : Option (List Char) × List Char :=
  let host := (cs.reverse.takeWhile (· ≠ '@')).reverse
  if host.length = cs.length then (none, cs)
  else (some (cs.take (cs.length - host.length - 1)), host)

def cutPort (inside : Bool) : List Char → List Char × Option (List Char)
  | [] => ([], none)
  | c :: cs =>
    if c = ':' ∧ !inside then ([], some cs)
    else
      let (host, port) := cutPort (c = '[' || (inside && c ≠ ']')) cs
      (c :: host, port)

def hasUser (more : Bool) : List Char → Bool
  | [] => more
  | user => user ≠ [':']

/-- Reads what stands between the slashes and the path. With a user or a port there is a host, and
`more` says whether anything follows. -/
def authority? (host? : List Char → Option Host) (more : Bool) (cs : List Char) :
    Option (Host × Option Nat) :=
  let (user, rest) := cutUser cs
  let (hostChars, portChars) := cutPort false rest
  if hostChars = [] ∧ (user.any (hasUser (more && rest = []) ·) ∨ portChars.isSome) then none
  else
    match host? hostChars, portOf? (portChars.getD []) with
    | some host, some port => some (host, port)
    | _, _ => none

/-! ## Whole addresses -/

def isSchemeChar (c : Char) : Bool := c.isAlphanum || c ∈ ['+', '-', '.']

def scheme? (cs : List Char) : Option (String × List Char) :=
  let scheme := cs.takeWhile isSchemeChar
  match scheme, cs.dropWhile isSchemeChar with
  | c :: _, ':' :: rest =>
    if c.isAlpha then some (String.ofList (scheme.map Char.toLower), rest) else none
  | _, _ => none

def webSchemes : List String := ["http", "https", "ws", "wss", "ftp"]

def endsPath (c : Char) : Bool := c = '?' || c = '#'

def queryOf (tail : List Char) : Option String :=
  match tail.dropWhile (!endsPath ·) with
  | '?' :: rest => some (String.ofList (encode querySet (rest.takeWhile (· ≠ '#'))))
  | _ => none

def web? (scheme : String) (cs : List Char) : Option Url :=
  let body := cs.dropWhile isSlash
  let ends (c : Char) : Bool := isSlash c || endsPath c
  let tail := body.dropWhile (!ends ·)
  (authority? Host.ofChars? (tail ≠ []) (body.takeWhile (!ends ·))).map fun (host, port) =>
    ⟨scheme, host, port, pathOf (tail.takeWhile (!endsPath ·)), queryOf tail⟩

def isDriveLetter : List Char → Bool
  | [c, d] => c.isAlpha && (d = ':' || d = '|')
  | _ => false

/-- The host of a file is read, but never needed. -/
def file? (cs : List Char) : Option Url :=
  let hostless := some ⟨"file", .empty, none, "/", none⟩
  match cs with
  | a :: b :: rest =>
    let host := rest.takeWhile fun c => !isSlash c && !endsPath c
    if !isSlash a || !isSlash b || host = [] || isDriveLetter host then hostless
    else (Host.ofChars? host).map fun h => ⟨"file", h, none, "/", none⟩
  | _ => hostless

def other? (scheme : String) (cs : List Char) : Option Url :=
  match cs with
  | '/' :: '/' :: body =>
    let ends (c : Char) : Bool := c = '/' || endsPath c
    let tail := body.dropWhile (!ends ·)
    (authority? Host.plainOfChars? (tail ≠ []) (body.takeWhile (!ends ·))).map fun (host, port) =>
      ⟨scheme, host, port, String.ofList tail, none⟩
  | _ => some ⟨scheme, .empty, none, String.ofList cs, none⟩

def isTrimmed (c : Char) : Bool := c.toNat ≤ 0x20

def isSkipped (c : Char) : Bool := c = '\t' || c = '\n' || c = '\r'

def ofText? (s : String) : Option Url :=
  let trimmed := ((s.toList.dropWhile isTrimmed).reverse.dropWhile isTrimmed).reverse
  match scheme? (trimmed.filter (!isSkipped ·)) with
  | none => none
  | some (scheme, rest) =>
    if scheme ∈ webSchemes then web? scheme rest
    else if scheme = "file" then file? rest
    else other? scheme rest

def target (u : Url) : String :=
  match u.query with
  | some q => u.path ++ "?" ++ q
  | none => u.path

end Url
end PrepaidLedger
