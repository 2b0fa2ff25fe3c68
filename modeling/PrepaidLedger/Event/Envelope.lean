import PrepaidLedger.Json.Parser
import PrepaidLedger.Json.Shape
import PrepaidLedger.Text.Blank

/-!
The envelope in which the provider posts every event, and the clean-up of its body.
-/
namespace PrepaidLedger

open Json.Draft

structure Envelope where
  id : String
  resource : String
  action : String
  body : Json
deriving Repr

def Envelope.fields : List Field :=
  [required "id", required "resource", required "action", defaulted "body"]

def Envelope.read? (d : Json.Draft) : Option Envelope :=
  match fields? fields d with
  | some [id, resource, action, body] => do
    return {
      id := ← present? text? id
      resource := ← present? text? resource
      action := ← present? text? action
      body := ← orDefault? .null (·.value? (depthLimit - 1)) body }
  | _ => none

def Envelope.ofBytes? (bytes : List UInt8) : Option Envelope :=
  (Json.Draft.ofBytes? bytes).bind Envelope.read?

/-! ## Clean-up -/

def isPersonalName (name : String) : Bool :=
  "merchant".toList.isPrefixOf name.toList || "user".toList.isPrefixOf name.toList

/-- Text without the blanks around it, and null where nothing is left. -/
def tidyText (s : String) : Json :=
  match Text.trimChars s.toList with
  | [] => .null
  | cs => .string (String.ofList cs)

mutual

def tidy (inside : Bool) : Json → Json
  | .string s => if inside then tidyText s else .string s
  | .array items => .array (tidyItems inside items)
  | .object members => .object (tidyMembers inside members)
  | v => v

def tidyItems (inside : Bool) : List Json → List Json
  | [] => []
  | v :: vs => tidy inside v :: tidyItems inside vs

def tidyMembers (inside : Bool) : List (String × Json) → List (String × Json)
  | [] => []
  | (name, v) :: vs => (name, tidy (inside || isPersonalName name) v) :: tidyMembers inside vs

end

def normalizeBody (body : Json) : Json := tidy false body

end PrepaidLedger
