import Whereabouts.Decimal.Reading
import Whereabouts.Text.Basic
import Whereabouts.Url.Percent

/-!
# Hosts

Whether a text names a host: a domain, an address of four numbers, or an address of eight groups in
brackets.
-/

namespace Whereabouts.Url

open Text (pieces)

/-- The value of digits to a base, `none` for other characters. -/
def numberIn? (base : Nat) (cs : List Char) : Option Nat :=
  cs.foldlM (fun n c => do
    let d ← hexValue? c
    if d < base then some (base * n + d) else none) 0

/-- A part of an address of four numbers: decimal, octal after `0`, hexadecimal after `0x`. -/
def addressPart? (cs : List Char) : Option Nat :=
  match cs with
  | [] => none
  | '0' :: x :: digits =>
    if x = 'x' ∨ x = 'X' then numberIn? 16 digits else numberIn? 8 (x :: digits)
  | _ => numberIn? 10 cs

/-- The parts of a host between its dots; an empty part at the end does not count. -/
def addressParts (cs : List Char) : List (List Char) :=
  let parts := pieces (· == '.') cs
  if 1 < parts.length ∧ parts.getLast? = some [] then parts.dropLast else parts

/-- Whether a host has to be an address of four numbers, because its last part is a number. -/
def endsInNumber (cs : List Char) : Bool :=
  match (addressParts cs).getLast? with
  | none | some [] => false
  | some part => part.all Char.isDigit || (addressPart? part).isSome

/-- Whether a host is an address of at most four numbers, the last of which fills what is left. -/
def isAddress (cs : List Char) : Bool :=
  let parts := addressParts cs
  match parts.mapM addressPart? with
  | none => false
  | some values =>
    values.length ≤ 4 && values.dropLast.all (· < 256)
      && values.getLast?.all fun last => last < Nat.pow 256 (5 - values.length)

/-- Whether a text is a decimal number below 256 without leading zeros. -/
def isOctet (cs : List Char) : Bool :=
  !cs.isEmpty && cs.all Char.isDigit && Decimal.digitsValue cs < 256
    && (cs.length == 1 || cs.head? != some '0')

/-- How many groups of an address a piece stands for: one for up to four hexadecimal digits, two for
four decimal numbers at the end. -/
def groupCount? (isLast : Bool) (cs : List Char) : Option Nat :=
  if cs.length ≤ 4 ∧ !cs.isEmpty ∧ cs.all (fun c => (hexValue? c).isSome) then some 1
  else
    let octets := pieces (· == '.') cs
    if isLast ∧ octets.length = 4 ∧ octets.all isOctet then some 2 else none

/-- How many groups the pieces of an address stand for. -/
def groupCounts? (atEnd : Bool) : List (List Char) → Option Nat
  | [] => some 0
  | [piece] => groupCount? atEnd piece
  | piece :: rest => do
    return (← groupCount? false piece) + (← groupCounts? atEnd rest)

/-- The text before and after the first two colons in a row. -/
def splitGap : List Char → Option (List Char × List Char)
  | ':' :: ':' :: rest => some ([], rest)
  | c :: rest => (splitGap rest).map fun (before, after) => (c :: before, after)
  | [] => none

/-- Whether a text is an address of eight groups, a gap of which may be left out. -/
def isGroupAddress (cs : List Char) : Bool :=
  let count? (atEnd : Bool) (side : List Char) : Option Nat :=
    if side.isEmpty then some 0 else groupCounts? atEnd (pieces (· == ':') side)
  match splitGap cs with
  | none => count? true cs == some 8
  | some (before, after) =>
    match count? false before, count? true after with
    | some m, some n => m + n ≤ 7
    | _, _ => false

def forbiddenInHost : List Char :=
  ['\x00', '\t', '\n', '\r', ' ', '#', '/', ':', '<', '>', '?', '@', '[', '\\', ']', '^', '|']

/-- Whether a character may not stand in a domain. -/
def isForbiddenInDomain (c : Char) : Bool :=
  forbiddenInHost.contains c || c.toNat < 0x20 || c == '%' || c == '\x7f'

def isBracketed (cs : List Char) : Bool :=
  match cs.getLast? with
  | some ']' => isGroupAddress (cs.drop 1).dropLast
  | _ => false

/-- Whether a text is the host of an address of the web. -/
def isHost (cs : List Char) : Bool :=
  if cs.head? = some '[' then isBracketed cs
  else
    match String.fromUTF8? ⟨(decode cs).toArray⟩ with
    | none => false
    | some domain =>
      let domain := domain.toList
      !domain.isEmpty && !domain.any isForbiddenInDomain
        && (!endsInNumber domain || isAddress domain)

/-- Whether a text is the host of an address of another scheme. -/
def isOtherHost (cs : List Char) : Bool :=
  if cs.head? = some '[' then isBracketed cs else !cs.any forbiddenInHost.contains

end Whereabouts.Url
