import BundleTrust.Compress.Crc32
import BundleTrust.Compress.Inflate

/-!
# Compressed files

The file format of RFC 1952: a header, a deflate stream, and the checksum and the length of
what was compressed.  Only the first member of a file is read.
-/

namespace BundleTrust
namespace Compress

/-- Why a compressed file cannot be read. -/
inductive GzipError where
  /-- The header is not that of a compressed file. -/
  | invalidHeader
  /-- A name or a comment in the header is too long. -/
  | longField
  /-- The file ends in its header or in what follows the stream. -/
  | unexpectedEnd
  /-- The stream cannot be decoded. -/
  | stream (cause : InflateError)
  /-- The checksum or the length is wrong. -/
  | wrongChecksum
  deriving DecidableEq, Repr

/-- The wording of a failure. -/
def GzipError.message : GzipError → String
  | .invalidHeader => "invalid gzip header"
  | .longField => "gzip header field too long"
  | .unexpectedEnd => "unexpected end of file"
  | .stream .incomplete => "incomplete deflate stream"
  | .stream .corrupt => "corrupt deflate stream"
  | .wrongChecksum => "corrupt gzip stream does not have a matching checksum"

/-- The number that octets denote, lowest octet first. -/
def natOfLowFirst (octets : List UInt8) : Nat :=
  octets.foldr (fun octet value => 256 * value + octet.toNat) 0

/-- What follows a number of octets. -/
def skipOctets (count : Nat) (source : List UInt8) : Except GzipError (List UInt8) :=
  if source.length < count then .error .unexpectedEnd else .ok (source.drop count)

/-- The greatest number of octets of a name or a comment. -/
def greatestField : Nat := 65535

/-- What follows octets up to and including a null. -/
def skipField (source : List UInt8) : Except GzipError (List UInt8) :=
  let field := source.takeWhile (· ≠ 0)
  if greatestField < field.length then .error .longField
  else skipOctets (field.length + 1) source

/-- What follows the extra data of a header, which starts with its length. -/
def skipExtra (source : List UInt8) : Except GzipError (List UInt8) := do
  let rest ← skipOctets 2 source
  skipOctets (natOfLowFirst (source.take 2)) rest

/-- What follows the checksum of a header, which covers everything before it. -/
def checkHeader (header source : List UInt8) : Except GzipError (List UInt8) := do
  let rest ← skipOctets 2 source
  if natOfLowFirst (source.take 2) = crc32 header % UInt16.size then pure rest
  else throw .wrongChecksum

/-- What follows the header of a compressed file. -/
def skipHeader (source : List UInt8) : Except GzipError (List UInt8) := do
  let rest ← skipOctets 10 source
  match source with
  | 0x1f :: 0x8b :: 0x08 :: flags :: _ =>
      if flags &&& 0xe0 ≠ 0 then throw .invalidHeader
      let rest ← if flags &&& 4 ≠ 0 then skipExtra rest else pure rest
      let rest ← if flags &&& 8 ≠ 0 then skipField rest else pure rest
      let rest ← if flags &&& 16 ≠ 0 then skipField rest else pure rest
      if flags &&& 2 ≠ 0 then checkHeader (source.take (source.length - rest.length)) rest
      else pure rest
  | _ => throw .invalidHeader

/-- The content of a compressed file. -/
def gunzip (source : List UInt8) : Except GzipError (List UInt8) := do
  let stream ← skipHeader source
  let (content, rest) ← (inflate stream).mapError .stream
  let _ ← skipOctets 8 rest
  if natOfLowFirst (rest.take 4) = crc32 content ∧
      natOfLowFirst ((rest.drop 4).take 4) = content.length % UInt32.size then
    pure content
  else throw .wrongChecksum

end Compress
end BundleTrust
