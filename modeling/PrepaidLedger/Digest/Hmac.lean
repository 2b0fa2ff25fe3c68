import PrepaidLedger.Digest.Sha256

/-!
Keyed hashing with SHA-256: the key, spread to one block, is mixed into two nested hashes.
-/
namespace PrepaidLedger.Digest

namespace Hmac

def blockKey (key : List UInt8) : List UInt8 :=
  let short := if Sha256.blockSize < key.length then sha256 key else key
  short ++ List.replicate (Sha256.blockSize - short.length) 0

end Hmac

def hmacSha256 (key message : List UInt8) : List UInt8 :=
  let masked (mask : UInt8) := (Hmac.blockKey key).map (· ^^^ mask)
  sha256 (masked 0x5c ++ sha256 (masked 0x36 ++ message))

theorem length_hmacSha256 (key message : List UInt8) : (hmacSha256 key message).length = 32 :=
  length_sha256 _

end PrepaidLedger.Digest
