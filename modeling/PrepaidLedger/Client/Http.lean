import PrepaidLedger.Json.Printer
import PrepaidLedger.Url.Basic

/-!
Calls of other services over HTTP, and what their answers mean.
-/
namespace PrepaidLedger.Client

structure HttpCall where
  method : String
  url : Url
  -- Names in small letters.
  headers : List (String × String)
  body : String
deriving Repr

structure HttpAnswer where
  status : Nat
  body : String
deriving DecidableEq, Repr

def isSendable (value : String) : Bool :=
  value.toList.all fun c => c = '\t' || (0x20 ≤ c.toNat && c.toNat ≠ 0x7F)

def HttpCall.prepare? (method address : String) (headers : List (String × String)) (body : Json) :
    Option HttpCall :=
  if headers.all fun h => isSendable h.2 then
    (Url.ofText? address).map fun url => ⟨method, url, headers, body.text⟩
  else none

inductive CallError
  | unreadable
  | refused (status : Nat) (body : String)
deriving DecidableEq, Repr

def CallError.message : CallError → String
  | .unreadable => "HTTP error: error decoding response body"
  | .refused status body => "Provider returned " ++ toString status ++ ": " ++ body

namespace HttpAnswer

def isFinal (a : HttpAnswer) : Bool := (200 ≤ a.status && a.status < 1000) || a.status = 101

def content (a : HttpAnswer) : String := if a.status ∈ [101, 204, 304] then "" else a.body

def byteOrderMark : Char := Char.ofNat 0xFEFF

def text (a : HttpAnswer) : String :=
  match a.content.toList with
  | c :: rest => if c = byteOrderMark then String.ofList rest else a.content
  | [] => ""

def isSuccess (a : HttpAnswer) : Bool := 200 ≤ a.status && a.status < 300

def accepted (a : HttpAnswer) : Except CallError String :=
  if !a.isFinal then .error .unreadable
  else if a.isSuccess then .ok a.content
  else .error (.refused a.status a.text)

end HttpAnswer

def jsonContent : String × String := ("content-type", "application/json")

end PrepaidLedger.Client
