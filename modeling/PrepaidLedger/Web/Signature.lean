import PrepaidLedger.Digest.Hmac
import PrepaidLedger.Text.Blank
import PrepaidLedger.Text.Hex

/-!
Signatures of event bodies: the keyed hash of the bytes as received, in hexadecimal digits of either
case, with or without the name of the hash before it.
-/
namespace PrepaidLedger.Signature

def scheme : List Char := "sha256=".toList

def withoutScheme (cs : List Char) : List Char :=
  if scheme.isPrefixOf cs then cs.drop scheme.length else cs

def digest? (signature : String) : Option (List UInt8) :=
  Text.bytesOfHex? (withoutScheme (Text.trimChars signature.toList))

def verify (secret body : List UInt8) (signature : String) : Bool :=
  digest? signature = some (Digest.hmacSha256 secret body)

def ofBody (secret body : List UInt8) : String :=
  String.ofList (scheme ++ Text.hexOfBytes (Digest.hmacSha256 secret body))

end PrepaidLedger.Signature
