/-!
Reading a bounded whole number from text: an optional sign, then ASCII digits and nothing else. The
first thing wrong from the left is the fault reported.
-/
namespace PrepaidLedger.Text

inductive IntegerFault
  | empty
  | invalidDigit
  | tooLarge
  | tooSmall
deriving DecidableEq, Repr

def IntegerFault.message : IntegerFault → String
  | .empty => "cannot parse integer from empty string"
  | .invalidDigit => "invalid digit found in string"
  | .tooLarge => "number too large to fit in target type"
  | .tooSmall => "number too small to fit in target type"

def readDigits (low high : Int) (negative : Bool) (value : Int) :
    List Char → Except IntegerFault Int
  | [] => .ok value
  | c :: rest =>
    if c.isDigit then
      let digit : Int := c.toNat - '0'.toNat
      let next := if negative then value * 10 - digit else value * 10 + digit
      if next < low then .error .tooSmall
      else if high < next then .error .tooLarge
      else readDigits low high negative next rest
    else .error .invalidDigit

/-- A minus sign is a sign only where the range has negative numbers. -/
def readInteger (low high : Int) (s : String) : Except IntegerFault Int :=
  match s.toList with
  | [] => .error .empty
  | ['+'] => .error .invalidDigit
  | ['-'] => .error .invalidDigit
  | '+' :: digits => readDigits low high false 0 digits
  | '-' :: digits =>
    if low < 0 then readDigits low high true 0 digits else .error .invalidDigit
  | digits => readDigits low high false 0 digits

end PrepaidLedger.Text
