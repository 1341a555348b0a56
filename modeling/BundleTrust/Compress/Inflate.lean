/-!
# Inflating

The decoder of the deflate format of RFC 1951: blocks that are stored, or coded with fixed
or with transmitted Huffman codes, and copies of what was decoded before.
-/

namespace BundleTrust
namespace Compress

/-- Why a deflate stream cannot be decoded. -/
inductive InflateError where
  /-- The data ends inside the stream. -/
  | incomplete
  /-- The data breaks the format. -/
  | corrupt
  deriving DecidableEq, Repr

/-- A value decoded at the front of a stream of bits, and the bits after it. -/
abbrev Decoded (Value : Type) := Except InflateError (Value × List Bool)

/-- The bits of octets, the lowest bit of each octet first. -/
def bitsOfOctets (octets : List UInt8) : List Bool :=
  octets.flatMap fun octet => (List.range 8).map fun place => octet.toNat.testBit place

/-- Read a number of bits, the lowest one first. -/
def takeBits : (count : Nat) → List Bool → Decoded Nat
  | 0, bits => .ok (0, bits)
  | _ + 1, [] => .error .incomplete
  | count + 1, bit :: bits =>
      (takeBits count bits).map fun (value, rest) => (2 * value + bit.toNat, rest)

/-- A canonical Huffman code. -/
structure HuffmanCode where
  /-- The number of symbols with codes of one bit, of two bits, and so on. -/
  counts : List Nat
  /-- The symbols in the order of their codes. -/
  symbols : Array Nat

namespace HuffmanCode

/-- The greatest length of a code. -/
def greatestLength : Nat := 15

/-- The code in which every symbol has a given length; a length of zero is for a symbol
without a code. -/
def ofLengths (lengths : List Nat) : HuffmanCode :=
  let byLength := (List.range greatestLength).map fun index =>
    (lengths.zipIdx.filter fun entry => entry.1 = index + 1).map Prod.snd
  ⟨byLength.map List.length, (byLength.flatten).toArray⟩

/-- How many codes of the greatest length the codes of given counts leave unused; none if
they are too many. -/
def unused? : (room : Nat) → (counts : List Nat) → Option Nat
  | room, [] => some room
  | room, count :: counts =>
      if 2 * room < count then none else unused? (2 * room - count) counts

/-- Whether every sequence of bits starts with a code. -/
def isComplete (code : HuffmanCode) : Bool :=
  unused? 1 code.counts == some 0

/-- Whether a code may be used although it is not complete: it has at most one symbol. -/
def isTrivial (code : HuffmanCode) : Bool :=
  code.symbols.size ≤ 1

/-- Read the code of a symbol.  Of the codes of the current length, `first` is the lowest one,
and their symbols start at `index`; `value` holds the bits read. -/
def decodeFrom (symbols : Array Nat) :
    (counts : List Nat) → (value first index : Nat) → List Bool → Decoded Nat
  | [], _, _, _, _ => .error .corrupt
  | _ :: _, _, _, _, [] => .error .incomplete
  | count :: counts, value, first, index, bit :: bits =>
      let value := 2 * value + bit.toNat
      if value < first + count then
        match symbols[index + (value - first)]? with
        | some symbol => .ok (symbol, bits)
        | none => .error .corrupt
      else decodeFrom symbols counts value (2 * (first + count)) (index + count) bits

/-- Read the code of a symbol. -/
def decode (code : HuffmanCode) (bits : List Bool) : Decoded Nat :=
  decodeFrom code.symbols code.counts 0 0 0 bits

end HuffmanCode

/-- The least lengths of copies and the numbers of bits added to them. -/
def lengthTable : List (Nat × Nat) :=
  [(3, 0), (4, 0), (5, 0), (6, 0), (7, 0), (8, 0), (9, 0), (10, 0), (11, 1), (13, 1), (15, 1),
    (17, 1), (19, 2), (23, 2), (27, 2), (31, 2), (35, 3), (43, 3), (51, 3), (59, 3), (67, 4),
    (83, 4), (99, 4), (115, 4), (131, 5), (163, 5), (195, 5), (227, 5), (258, 0)]

/-- The least distances of copies and the numbers of bits added to them. -/
def distanceTable : List (Nat × Nat) :=
  [(1, 0), (2, 0), (3, 0), (4, 0), (5, 1), (7, 1), (9, 2), (13, 2), (17, 3), (25, 3), (33, 4),
    (49, 4), (65, 5), (97, 5), (129, 6), (193, 6), (257, 7), (385, 7), (513, 8), (769, 8),
    (1025, 9), (1537, 9), (2049, 10), (3073, 10), (4097, 11), (6145, 11), (8193, 12),
    (12289, 12), (16385, 13), (24577, 13)]

/-- Read the number that a symbol and the bits added to it denote. -/
def readTabled (table : List (Nat × Nat)) (symbol : Nat) (bits : List Bool) : Decoded Nat :=
  match table[symbol]? with
  | none => .error .corrupt
  | some (least, count) =>
      (takeBits count bits).map fun (added, rest) => (least + added, rest)

/-- The octet at a distance before the end of an output.  The window starts out as zeros, so
that is what lies before the start. -/
def octetBack (distance : Nat) (output : Array UInt8) : UInt8 :=
  if output.size < distance then 0 else output.getD (output.size - distance) 0

/-- Copy a number of octets from a distance back to the end; the copy may overlap its
source. -/
def copyBack : (length distance : Nat) → Array UInt8 → Array UInt8
  | 0, _, output => output
  | length + 1, distance, output =>
      copyBack length distance (output.push (octetBack distance output))

/-- Decode the symbols of a block up to its end.  Every symbol takes one unit of fuel. -/
def inflateSymbols (literals distances : HuffmanCode) :
    (fuel : Nat) → Array UInt8 → List Bool → Decoded (Array UInt8)
  | 0, _, _ => .error .incomplete
  | fuel + 1, output, bits =>
      match literals.decode bits with
      | .error failure => .error failure
      | .ok (symbol, bits) =>
          if symbol < 256 then
            inflateSymbols literals distances fuel (output.push (UInt8.ofNat symbol)) bits
          else if symbol = 256 then .ok (output, bits)
          else
            match readTabled lengthTable (symbol - 257) bits with
            | .error failure => .error failure
            | .ok (length, bits) =>
                match distances.decode bits with
                | .error failure => .error failure
                | .ok (symbol, bits) =>
                    match readTabled distanceTable symbol bits with
                    | .error failure => .error failure
                    | .ok (distance, bits) =>
                        inflateSymbols literals distances fuel
                          (copyBack length distance output) bits

/-- The fixed code of literals and lengths. -/
def fixedLiterals : HuffmanCode :=
  .ofLengths
    (List.replicate 144 8 ++ List.replicate 112 9 ++ List.replicate 24 7 ++ List.replicate 8 8)

/-- The fixed code of distances. -/
def fixedDistances : HuffmanCode := .ofLengths (List.replicate 32 5)

/-- The order in which the lengths of the code of lengths are transmitted. -/
def lengthOrder : List Nat :=
  [16, 17, 18, 0, 8, 7, 9, 6, 10, 5, 11, 4, 12, 3, 13, 2, 14, 1, 15]

/-- Read a number of fields of three bits. -/
def readTriples : (count : Nat) → List Bool → Decoded (List Nat)
  | 0, bits => .ok ([], bits)
  | count + 1, bits =>
      match takeBits 3 bits with
      | .error failure => .error failure
      | .ok (value, bits) =>
          (readTriples count bits).map fun (values, rest) => (value :: values, rest)

/-- Read code lengths up to a number of them, the last one first in what was read before.
Every symbol takes one unit of fuel. -/
def readLengths (code : HuffmanCode) (total : Nat) :
    (fuel : Nat) → (reversed : List Nat) → List Bool → Decoded (List Nat)
  | 0, _, _ => .error .incomplete
  | fuel + 1, reversed, bits =>
      if total < reversed.length then .error .corrupt
      else if reversed.length = total then .ok (reversed.reverse, bits)
      else
        match code.decode bits with
        | .error failure => .error failure
        | .ok (symbol, bits) =>
            if symbol < 16 then readLengths code total fuel (symbol :: reversed) bits
            else if symbol = 16 then
              match reversed, takeBits 2 bits with
              | [], _ => .error .corrupt
              | _, .error failure => .error failure
              | last :: _, .ok (count, bits) =>
                  readLengths code total fuel (List.replicate (count + 3) last ++ reversed) bits
            else
              let (width, least) := if symbol = 17 then (3, 3) else (7, 11)
              match takeBits width bits with
              | .error failure => .error failure
              | .ok (count, bits) =>
                  readLengths code total fuel (List.replicate (count + least) 0 ++ reversed)
                    bits

/-- Read the two codes that are transmitted before a block. -/
def readCodes (bits : List Bool) :
    Except InflateError ((HuffmanCode × HuffmanCode) × List Bool) := do
  let (literalCount, bits) ← takeBits 5 bits
  let (distanceCount, bits) ← takeBits 5 bits
  let (lengthCount, bits) ← takeBits 4 bits
  let literalCount := literalCount + 257
  let distanceCount := distanceCount + 1
  if 286 < literalCount || 30 < distanceCount then throw .corrupt
  let (widths, bits) ← readTriples (lengthCount + 4) bits
  let lengthCode := HuffmanCode.ofLengths ((List.range 19).map fun symbol =>
    (((lengthOrder.zip widths).lookup symbol).getD 0))
  if !lengthCode.isComplete then throw .corrupt
  let total := literalCount + distanceCount
  let (lengths, bits) ← readLengths lengthCode total (total + 1) [] bits
  let literals := HuffmanCode.ofLengths (lengths.take literalCount)
  let distances := HuffmanCode.ofLengths (lengths.drop literalCount)
  if (literals.isComplete || literals.isTrivial) &&
      (distances.isComplete || distances.isTrivial) then
    pure ((literals, distances), bits)
  else throw .corrupt

/-- Read a number of whole octets. -/
def takeOctets : (count : Nat) → Array UInt8 → List Bool → Decoded (Array UInt8)
  | 0, output, bits => .ok (output, bits)
  | count + 1, output, bits =>
      match takeBits 8 bits with
      | .error failure => .error failure
      | .ok (value, bits) => takeOctets count (output.push (UInt8.ofNat value)) bits

/-- Decode a stored block.  It starts at a whole octet, with its length and the complement
of it. -/
def inflateStored (output : Array UInt8) (bits : List Bool) :
    Except InflateError (Array UInt8 × List Bool) := do
  let (length, bits) ← takeBits 16 (bits.drop (bits.length % 8))
  let (complement, bits) ← takeBits 16 bits
  if length + complement ≠ 0xffff then throw .corrupt
  takeOctets length output bits

/-- Decode blocks up to the last one.  Every block takes one unit of fuel. -/
def inflateBlocks :
    (fuel : Nat) → Array UInt8 → List Bool → Except InflateError (Array UInt8 × List Bool)
  | 0, _, _ => .error .incomplete
  | fuel + 1, output, bits => do
      let (isLast, bits) ← takeBits 1 bits
      let (kind, bits) ← takeBits 2 bits
      let (output, bits) ←
        match kind with
        | 0 => inflateStored output bits
        | 1 => inflateSymbols fixedLiterals fixedDistances (bits.length + 1) output bits
        | 2 => do
            let ((literals, distances), bits) ← readCodes bits
            inflateSymbols literals distances (bits.length + 1) output bits
        | _ => throw .corrupt
      if isLast = 1 then pure (output, bits) else inflateBlocks fuel output bits

/-- Decode a deflate stream; the octets after the one in which it ends come with the
output. -/
def inflate (source : List UInt8) : Except InflateError (List UInt8 × List UInt8) :=
  let bits := bitsOfOctets source
  (inflateBlocks (bits.length + 1) #[] bits).map fun (output, rest) =>
    (output.toList, source.drop (source.length - rest.length / 8))

end Compress
end BundleTrust
