import BundleTrust.Crypto.Sha256

/-!
# HMAC-SHA-256

The keyed hash of FIPS 198-1 over SHA-256.
-/

namespace BundleTrust
namespace Crypto

/-- A key as one block: hashed if it is longer, then filled with zeros. -/
def hmacBlock (key : List UInt8) : List UInt8 :=
  let key := if key.length > 64 then sha256 key else key
  key ++ List.replicate (64 - key.length) 0

/-- The HMAC-SHA-256 of a message under a key. -/
def hmac (key message : List UInt8) : List UInt8 :=
  let block := hmacBlock key
  sha256 (block.map (· ^^^ 0x5c) ++ sha256 (block.map (· ^^^ 0x36) ++ message))

end Crypto
end BundleTrust
