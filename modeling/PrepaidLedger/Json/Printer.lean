import PrepaidLedger.Json.Basic
import PrepaidLedger.Number.Shortest
import PrepaidLedger.Text.Hex

/-!
JSON values as text on one line, without blanks.
-/
namespace PrepaidLedger.Json

def escapeChar (c : Char) : List Char :=
  if c = '"' then ['\\', '"']
  else if c = '\\' then ['\\', '\\']
  else if c.toNat = 0x08 then ['\\', 'b']
  else if c.toNat = 0x0C then ['\\', 'f']
  else if c.toNat = 0x0A then ['\\', 'n']
  else if c.toNat = 0x0D then ['\\', 'r']
  else if c.toNat = 0x09 then ['\\', 't']
  else if c.toNat < 0x20 then
    ['\\', 'u', '0', '0', Text.hexDigit (c.toNat / 16), Text.hexDigit (c.toNat % 16)]
  else [c]

def quote (s : String) : String :=
  "\"" ++ String.ofList (s.toList.flatMap escapeChar) ++ "\""

def Number.text : Number → String
  | .int n => toString n
  | .float x => x.jsonText

mutual

def textOnto (before : String) : Json → String
  | .null => before ++ "null"
  | .bool b => before ++ if b then "true" else "false"
  | .number n => before ++ n.text
  | .string s => before ++ quote s
  | .array items => itemsOnto (before ++ "[") items ++ "]"
  | .object members => membersOnto (before ++ "\x7b") members ++ "\x7d"

def itemsOnto (before : String) : List Json → String
  | [] => before
  | [v] => v.textOnto before
  | v :: vs => itemsOnto (v.textOnto before ++ ",") vs

def membersOnto (before : String) : List (String × Json) → String
  | [] => before
  | [(n, v)] => v.textOnto (before ++ quote n ++ ":")
  | (n, v) :: vs => membersOnto (v.textOnto (before ++ quote n ++ ":") ++ ",") vs

end

def text (v : Json) : String := v.textOnto ""

end PrepaidLedger.Json
