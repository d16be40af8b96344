import Whereabouts.Gzip.Huffman

/-!
# Compressed data

Data in the format `deflate`: blocks that are stored, or compressed by back references and Huffman
codes. `inflate?` gives the data and the bits after them, `none` where the bits are not of this
form.
-/

namespace Whereabouts.Gzip

/-- The bits of bytes, the lowest bit of a byte first. -/
def bitsOfBytes (bytes : List UInt8) : List Bool :=
  bytes.flatMap fun b => (List.range 8).map fun i => (b.toNat >>> i) % 2 == 1

def bitsValue (bits : List Bool) : Nat := bits.foldr (fun b n => 2 * n + b.toNat) 0

def takeBits? (count : Nat) (bits : List Bool) : Option (Nat × List Bool) :=
  let (front, rest) := bits.splitAt count
  if front.length < count then none else some (bitsValue front, rest)

def alignBits (bits : List Bool) : List Bool := bits.drop (bits.length % 8)

def takeBytes? : Nat → List Bool → Option (List UInt8 × List Bool)
  | 0, bits => some ([], bits)
  | count + 1, bits => do
    let (n, bits) ← takeBits? 8 bits
    let (rest, bits) ← takeBytes? count bits
    return (UInt8.ofNat n :: rest, bits)

/-- The least length or distance of each symbol, and how many bits refine it. -/
abbrev Scale := List (Nat × Nat)

/-- The lengths of back references, from the symbol 257 on. -/
def lengthScale : Scale :=
  [(3, 0), (4, 0), (5, 0), (6, 0), (7, 0), (8, 0), (9, 0), (10, 0), (11, 1), (13, 1), (15, 1),
    (17, 1), (19, 2), (23, 2), (27, 2), (31, 2), (35, 3), (43, 3), (51, 3), (59, 3), (67, 4),
    (83, 4), (99, 4), (115, 4), (131, 5), (163, 5), (195, 5), (227, 5), (258, 0)]

def distanceScale : Scale :=
  [(1, 0), (2, 0), (3, 0), (4, 0), (5, 1), (7, 1), (9, 2), (13, 2), (17, 3), (25, 3), (33, 4),
    (49, 4), (65, 5), (97, 5), (129, 6), (193, 6), (257, 7), (385, 7), (513, 8), (769, 8),
    (1025, 9), (1537, 9), (2049, 10), (3073, 10), (4097, 11), (6145, 11), (8193, 12), (12289, 12),
    (16385, 13), (24577, 13)]

/-- The value of a symbol on a scale, refined by the next bits. -/
def Scale.read? (scale : Scale) (symbol : Nat) (bits : List Bool) : Option (Nat × List Bool) := do
  let (base, extra) ← scale[symbol]?
  let (n, bits) ← takeBits? extra bits
  return (base + n, bits)

/-- Repeats `length` bytes from `distance` bytes before the end. -/
def copyBack (distance : Nat) : Nat → Array UInt8 → Option (Array UInt8)
  | 0, out => some out
  | length + 1, out =>
    if distance ≤ out.size then
      copyBack distance length (out.push (out.getD (out.size - distance) 0))
    else none

/-- The codes of a compressed block: one for bytes and lengths, one for distances. -/
structure Codes where
  literals : Tree
  distances : Tree

/-- Reads the contents of a compressed block. Every symbol takes a bit at least, so that `fuel` bits
suffice. -/
def readSymbols? (codes : Codes) : Nat → List Bool → Array UInt8 →
    Option (Array UInt8 × List Bool)
  | 0, _, _ => none
  | fuel + 1, bits, out => do
    let (symbol, bits) ← codes.literals.decode? bits
    if symbol < 256 then readSymbols? codes fuel bits (out.push (UInt8.ofNat symbol))
    else if symbol = 256 then return (out, bits)
    else
      let (length, bits) ← lengthScale.read? (symbol - 257) bits
      let (distanceSymbol, bits) ← codes.distances.decode? bits
      let (distance, bits) ← distanceScale.read? distanceSymbol bits
      readSymbols? codes fuel bits (← copyBack distance length out)

def fixedCodes? : Option Codes := do
  let lengths := List.replicate 144 8 ++ List.replicate 112 9 ++ List.replicate 24 7
    ++ List.replicate 8 8
  return ⟨← Tree.ofLengths? lengths, ← Tree.ofLengths? (List.replicate 32 5)⟩

/-- The order in which the lengths of the code of lengths are written. -/
def lengthOrder : List Nat := [16, 17, 18, 0, 8, 7, 9, 6, 10, 5, 11, 4, 12, 3, 13, 2, 14, 1, 15]

def takeTriples? : Nat → List Bool → Option (List Nat × List Bool)
  | 0, bits => some ([], bits)
  | count + 1, bits => do
    let (n, bits) ← takeBits? 3 bits
    let (rest, bits) ← takeTriples? count bits
    return (n :: rest, bits)

/-- Reads `count` code lengths, some of which are written as repetitions. -/
def readLengths? (code : Tree) (count : Nat) : Nat → List Bool → List Nat →
    Option (List Nat × List Bool)
  | 0, _, _ => none
  | fuel + 1, bits, reversed =>
    if count < reversed.length then none
    else if reversed.length = count then some (reversed.reverse, bits)
    else do
      let (symbol, bits) ← code.decode? bits
      if symbol < 16 then readLengths? code count fuel bits (symbol :: reversed)
      else if symbol = 16 then
        let last ← reversed.head?
        let (n, bits) ← takeBits? 2 bits
        readLengths? code count fuel bits (List.replicate (n + 3) last ++ reversed)
      else if symbol = 17 then
        let (n, bits) ← takeBits? 3 bits
        readLengths? code count fuel bits (List.replicate (n + 3) 0 ++ reversed)
      else
        let (n, bits) ← takeBits? 7 bits
        readLengths? code count fuel bits (List.replicate (n + 11) 0 ++ reversed)

/-- Reads the codes of a block that brings its own. -/
def readCodes? (bits : List Bool) : Option (Codes × List Bool) := do
  let (hlit, bits) ← takeBits? 5 bits
  let (hdist, bits) ← takeBits? 5 bits
  let (hclen, bits) ← takeBits? 4 bits
  let literals := hlit + 257
  let distances := hdist + 1
  if 286 < literals ∨ 30 < distances then none
  let (triples, bits) ← takeTriples? (hclen + 4) bits
  let written := lengthOrder.zip triples
  let codeLengths := (List.range 19).map fun s =>
    ((written.find? fun entry => entry.1 == s).map (·.2)).getD 0
  let code ← Tree.ofLengths? codeLengths
  let (lengths, bits) ← readLengths? code (literals + distances) (literals + distances + 1) bits []
  return (⟨← Tree.ofLengths? (lengths.take literals), ← Tree.ofLengths? (lengths.drop literals)⟩,
    bits)

def readStored? (bits : List Bool) (out : Array UInt8) : Option (Array UInt8 × List Bool) := do
  let (length, bits) ← takeBits? 16 (alignBits bits)
  let (complement, bits) ← takeBits? 16 bits
  if length + complement ≠ 65535 then none
  let (bytes, bits) ← takeBytes? length bits
  return (out ++ bytes.toArray, bits)

/-- Reads one block; the flag tells whether it is the last. -/
def readBlock? (bits : List Bool) (out : Array UInt8) :
    Option (Bool × Array UInt8 × List Bool) := do
  let (last, bits) ← takeBits? 1 bits
  let (kind, bits) ← takeBits? 2 bits
  let (out, bits) ←
    match kind with
    | 0 => readStored? bits out
    | 1 => do readSymbols? (← fixedCodes?) (bits.length + 1) bits out
    | 2 => do
      let (codes, bits) ← readCodes? bits
      readSymbols? codes (bits.length + 1) bits out
    | _ => none
  return (last == 1, out, bits)

/-- Reads blocks up to the last; each takes three bits at least. -/
def readBlocks? : Nat → List Bool → Array UInt8 → Option (Array UInt8 × List Bool)
  | 0, _, _ => none
  | fuel + 1, bits, out => do
    let (last, out, bits) ← readBlock? bits out
    if last then return (out, bits) else readBlocks? fuel bits out

/-- The data of compressed bits, and the bits after them. -/
def inflate? (bits : List Bool) : Option (List UInt8 × List Bool) :=
  (readBlocks? (bits.length + 1) bits #[]).map fun (out, rest) => (out.toList, rest)

end Whereabouts.Gzip
