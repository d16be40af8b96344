import Whereabouts.Decimal.Reading
import Whereabouts.Text.Basic
import Whereabouts.Text.Utf8
import Whereabouts.Url.Percent

/-!
# Request targets and query strings

What a request asks for: a path and a query. The fields of a query are written as `name=value` with
`&` between them; a plus sign stands for a space, and other characters may be percent-encoded.
-/

namespace Whereabouts.Http

/-- Whether a character may stand in the path of a target. -/
def isPathChar (c : Char) : Bool :=
  let n := c.toNat
  n == 0x21 || (0x24 ≤ n && n ≤ 0x3b) || n == 0x3d || (0x40 ≤ n && n ≤ 0x5f)
    || (0x61 ≤ n && n ≤ 0x7e) || 0x7e < n || c == '"'

/-- Whether a character may stand in the query of a target. -/
def isQueryChar (c : Char) : Bool :=
  let n := c.toNat
  n == 0x21 || (0x24 ≤ n && n ≤ 0x3b) || n == 0x3d || 0x3f ≤ n

/-- What a request asks for. -/
structure Target where
  path : String
  query : String
deriving DecidableEq, Repr

/-- The target of a text, `none` where a character has to be percent-encoded. What follows a `#` is
no part of it. -/
def Target.ofText? (s : String) : Option Target :=
  let cs := s.toList.takeWhile (· != '#')
  let path := cs.takeWhile (· != '?')
  let query := (cs.drop path.length).drop 1
  if path.all isPathChar && query.all isQueryChar then
    some ⟨String.ofList path, String.ofList query⟩
  else none

/-- The text of a name or value. -/
def decoded (cs : List Char) : String :=
  let spaced := cs.map fun c => if c == '+' then ' ' else c
  Text.lossy (Url.decode spaced)

def field (cs : List Char) : String × String :=
  let name := cs.takeWhile (· != '=')
  (decoded name, decoded ((cs.drop name.length).drop 1))

def fields (query : String) : List (String × String) :=
  ((Text.pieces (· == '&') query.toList).filter (!·.isEmpty)).map field

/-- The value of a field that may be missing; a field that is given twice, or whose value cannot be
read, is refused. -/
def optional {β : Type} (read : String → Option β) (name : String)
    (fields : List (String × String)) : Option (Option β) :=
  match fields.filter (·.1 == name) with
  | [] => some none
  | [(_, value)] => (read value).map some
  | _ => none

def required {β : Type} (read : String → Option β) (name : String)
    (fields : List (String × String)) : Option β :=
  (optional read name fields).join

end Whereabouts.Http
