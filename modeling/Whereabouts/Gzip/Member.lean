import Whereabouts.Gzip.Inflate

/-!
# Gzip files

A file in the format gzip: a header, compressed data, and their checksum and length. What follows
the first member of a file is not read.
-/

namespace Whereabouts.Gzip

/-- One step of the checksum for each bit of a byte. -/
def crcBits : Nat → UInt32 → UInt32
  | 0, c => c
  | n + 1, c => crcBits n (if c % 2 = 1 then (c >>> 1) ^^^ 0xEDB88320 else c >>> 1)

def crc32 (bytes : List UInt8) : UInt32 :=
  (bytes.foldl (fun c b => crcBits 8 (c ^^^ b.toUInt32)) 0xFFFFFFFF) ^^^ 0xFFFFFFFF

def littleEndian (bytes : List UInt8) : Nat := bytes.foldr (fun b n => 256 * n + b.toNat) 0

def take? (count : Nat) (bytes : List UInt8) : Option (List UInt8 × List UInt8) :=
  let (front, rest) := bytes.splitAt count
  if front.length < count then none else some (front, rest)

def skipText? (bytes : List UInt8) : Option (List UInt8) :=
  match bytes.dropWhile (· != 0) with
  | [] => none
  | _ :: rest => some rest

def flag (flags : UInt8) (bit : Nat) : Bool := (flags.toNat >>> bit) % 2 == 1

def skipHeader? (bytes : List UInt8) : Option (List UInt8) := do
  let (fixed, rest) ← take? 10 bytes
  let flags := fixed.getD 3 0
  if fixed.take 3 != [0x1f, 0x8b, 8] || flag flags 5 || flag flags 6 || flag flags 7 then none
  let rest ← if flag flags 2 then do
      let (length, rest) ← take? 2 rest
      (take? (littleEndian length) rest).map (·.2)
    else some rest
  let rest ← if flag flags 3 then skipText? rest else some rest
  let rest ← if flag flags 4 then skipText? rest else some rest
  if flag flags 1 then do
    let header := bytes.take (bytes.length - rest.length)
    let (sum, rest) ← take? 2 rest
    if littleEndian sum = (crc32 header).toNat % 65536 then some rest else none
  else some rest

/-- The contents of a gzip file, `none` where it is damaged. -/
def decompress? (bytes : List UInt8) : Option (List UInt8) := do
  let (data, rest) ← inflate? (bitsOfBytes (← skipHeader? bytes))
  let (trailer, _) ← takeBytes? 8 (alignBits rest)
  if littleEndian (trailer.take 4) = (crc32 data).toNat
      ∧ littleEndian (trailer.drop 4) = data.length % Nat.pow 2 32 then some data
  else none

end Whereabouts.Gzip
