import Whereabouts.Json.Source

/-!
# Tokens of JSON texts

A machine that reads one character after the other and gives the tokens of a text. It never goes
back: a number ends at the first character that cannot continue it, and that character is read anew.
-/

namespace Whereabouts.Json

/-- A token; `junk` stands where the text is no longer JSON. -/
inductive Token where
  | openArray
  | closeArray
  | openObject
  | closeObject
  | comma
  | colon
  | null
  | bool (b : Bool)
  | number (n : Numeral)
  | string (text : Option String)
  | junk

/-- How far a number has been read. -/
inductive NumeralPhase where
  | sign
  | zero
  | whole
  | point
  | fraction
  | marker
  | exponentSign
  | exponent
deriving DecidableEq

/-- How far the part of a string has been read that is no plain character. -/
inductive StringPhase where
  | plain
  | escape
  | hex (left : Nat) (value : Nat)

/-- Where the machine stands. -/
inductive Scan where
  | between
  | word (rest : List Char) (token : Token)
  | numeral (phase : NumeralPhase) (n : Numeral)
  /-- A string: its characters so far in reverse, a first surrogate that waits for the second. -/
  | string (chars : List Char) (sound : Bool) (surrogate : Option Nat) (phase : StringPhase)
  | stopped

namespace Scan

/-- Whether a character may stand between tokens. -/
def isSpace (c : Char) : Bool := c = ' ' || c = '\n' || c = '\t' || c = '\r'

/-- What a character does that does not continue a token. -/
def start (c : Char) : Option Token × Scan :=
  match c with
  | '[' => (some .openArray, .between)
  | ']' => (some .closeArray, .between)
  | '{' => (some .openObject, .between)
  | '}' => (some .closeObject, .between)
  | ',' => (some .comma, .between)
  | ':' => (some .colon, .between)
  | '"' => (none, .string [] true none .plain)
  | 'n' => (none, .word "ull".toList .null)
  | 't' => (none, .word "rue".toList (.bool true))
  | 'f' => (none, .word "alse".toList (.bool false))
  | '-' => (none, .numeral .sign ⟨true, [], none, none⟩)
  | _ =>
    if isSpace c then (none, .between)
    else if c = '0' then (none, .numeral .zero ⟨false, [c], none, none⟩)
    else if c.isDigit then (none, .numeral .whole ⟨false, [c], none, none⟩)
    else (some .junk, .stopped)

/-- The digits of a number in the order of the text; they are collected in reverse. -/
def ordered (n : Numeral) : Numeral :=
  ⟨n.negative, n.whole.reverse, n.fraction.map List.reverse,
    n.exponent.map fun e => (e.1, e.2.reverse)⟩

/-- How a character continues a number; `none` where it does not. -/
def continueNumeral? (phase : NumeralPhase) (n : Numeral) (c : Char) : Option Scan :=
  let wholePart : Option Scan :=
    if c = '.' then some (.numeral .point { n with fraction := some [] })
    else if c = 'e' ∨ c = 'E' then some (.numeral .marker { n with exponent := some (false, []) })
    else none
  match phase with
  | .sign =>
    if c = '0' then some (.numeral .zero { n with whole := [c] })
    else if c.isDigit then some (.numeral .whole { n with whole := [c] })
    else none
  | .zero => wholePart
  | .whole =>
    if c.isDigit then some (.numeral .whole { n with whole := c :: n.whole }) else wholePart
  | .point | .fraction =>
    if c.isDigit then some (.numeral .fraction { n with fraction := n.fraction.map (c :: ·) })
    else if phase = .fraction ∧ (c = 'e' ∨ c = 'E') then
      some (.numeral .marker { n with exponent := some (false, []) })
    else none
  | .marker | .exponentSign | .exponent =>
    if c.isDigit then
      some (.numeral .exponent { n with exponent := n.exponent.map fun e => (e.1, c :: e.2) })
    else if phase = .marker ∧ c = '+' then some (.numeral .exponentSign n)
    else if phase = .marker ∧ c = '-' then
      some (.numeral .exponentSign { n with exponent := some (true, []) })
    else none

/-- Whether a number may end here before the character `next`. -/
def numeralEnds (phase : NumeralPhase) (next : Option Char) : Bool :=
  match phase with
  | .zero => !(next.any Char.isDigit)
  | .whole | .fraction | .exponent => true
  | _ => false

/-- The character that a letter after a backslash stands for. -/
def escaped? : Char → Option Char
  | '"' => some '"'
  | '\\' => some '\\'
  | '/' => some '/'
  | 'b' => some '\x08'
  | 'f' => some '\x0c'
  | 'n' => some '\n'
  | 'r' => some '\r'
  | 't' => some '\t'
  | _ => none

def hexDigit? (c : Char) : Option Nat :=
  if c.isDigit then some (c.toNat - '0'.toNat)
  else if 'a' ≤ c ∧ c ≤ 'f' then some (c.toNat - 'a'.toNat + 10)
  else if 'A' ≤ c ∧ c ≤ 'F' then some (c.toNat - 'A'.toNat + 10)
  else none

/-- Adds a unit of 16 bits that was written as an escape. -/
def addUnit (chars : List Char) (sound : Bool) (surrogate : Option Nat) (unit : Nat) : Scan :=
  let first := 0xD800 ≤ unit && unit < 0xDC00
  let second := 0xDC00 ≤ unit && unit < 0xE000
  match surrogate with
  | some high =>
    if second then
      .string (Char.ofNat (0x10000 + (high - 0xD800) * 0x400 + (unit - 0xDC00)) :: chars) sound none
        .plain
    else .string chars false none .plain
  | none =>
    if first then .string chars sound (some unit) .plain
    else if second then .string chars false none .plain
    else .string (Char.ofNat unit :: chars) sound none .plain

def inString (chars : List Char) (sound : Bool) (surrogate : Option Nat) (phase : StringPhase)
    (c : Char) : Option Token × Scan :=
  match phase with
  | .plain =>
    -- A first surrogate that is followed by anything but an escape names no character.
    let sound' := sound && surrogate.isNone
    if c = '"' then
      (some (.string (if sound' then some (String.ofList chars.reverse) else none)), .between)
    else if c = '\\' then (none, .string chars sound surrogate .escape)
    else if c.toNat < 0x20 then (some .junk, .stopped)
    else (none, .string (c :: chars) sound' none .plain)
  | .escape =>
    if c = 'u' then (none, .string chars sound surrogate (.hex 4 0))
    else match escaped? c with
      | some e => (none, .string (e :: chars) (sound && surrogate.isNone) none .plain)
      | none => (some .junk, .stopped)
  | .hex left value =>
    match hexDigit? c with
    | none => (some .junk, .stopped)
    | some d =>
      let value := 16 * value + d
      if left ≤ 1 then (none, addUnit chars sound surrogate value)
      else (none, .string chars sound surrogate (.hex (left - 1) value))

/-- One character: the tokens that it ends, and the state after it. -/
def step (scan : Scan) (c : Char) : List Token × Scan :=
  match scan with
  | .stopped => ([], .stopped)
  | .between =>
    let (token, next) := start c
    (token.toList, next)
  | .word rest token =>
    match rest with
    | [] => ([.junk], .stopped)
    | [last] => if c = last then ([token], .between) else ([.junk], .stopped)
    | expected :: more => if c = expected then ([], .word more token) else ([.junk], .stopped)
  | .string chars sound surrogate phase =>
    let (token, next) := inString chars sound surrogate phase c
    (token.toList, next)
  | .numeral phase n =>
    match continueNumeral? phase n c with
    | some next => ([], next)
    | none =>
      if numeralEnds phase (some c) then
        let (token, next) := start c
        (.number (ordered n) :: token.toList, next)
      else ([.junk], .stopped)

def finish : Scan → List Token
  | .between | .stopped => []
  | .numeral phase n => if numeralEnds phase none then [.number (ordered n)] else [.junk]
  | _ => [.junk]

end Scan

/-- The tokens of a text; nothing follows `junk`. -/
def tokens (text : List Char) : List Token :=
  let (reversed, scan) := text.foldl
    (fun (acc, scan) c =>
      let (new, next) := Scan.step scan c
      (new.reverse ++ acc, next))
    (([] : List Token), Scan.between)
  reversed.reverse ++ scan.finish

end Whereabouts.Json
