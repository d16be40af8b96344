import Whereabouts.Url.Basic
import Whereabouts.Url.Host

/-!
# Reading addresses

`Url.ofText?` reads an address that stands for itself: it has to begin with a scheme.
-/

namespace Whereabouts.Url

open Text (pieces)

/-- Whether a character may be dropped from the ends of an address. -/
def isPadding (c : Char) : Bool := c.toNat ≤ 0x20

/-- The text as it is read: without padding at its ends and without tabs and line ends. -/
def cleaned (s : String) : List Char :=
  (((s.toList.dropWhile isPadding).reverse.dropWhile isPadding).reverse).filter (!isLayout ·)

/-- The scheme in front of an address, in lower case, and what follows the colon. -/
def scheme? (cs : List Char) : Option (String × List Char) :=
  let name := cs.takeWhile fun c => c.isAlphanum || c == '+' || c == '-' || c == '.'
  match name, cs.drop name.length with
  | first :: _, ':' :: rest =>
    if first.isAlpha then some (String.ofList (name.map Char.toLower), rest) else none
  | _, _ => none

/-- The text before the first of some characters, and the text from there on. -/
def spanUntil (stops : List Char) (cs : List Char) : List Char × List Char :=
  (cs.takeWhile (!stops.contains ·), cs.dropWhile (!stops.contains ·))

def tail (special : Bool) (cs : List Char) : Option String × Option String :=
  let fragment (cs : List Char) := String.ofList (encode fragmentSet cs)
  match cs with
  | '?' :: rest =>
    let (query, rest) := spanUntil ['#'] rest
    (some (String.ofList (encode (querySet special) query)),
      match rest with
      | '#' :: f => some (fragment f)
      | _ => none)
  | '#' :: f => (none, some (fragment f))
  | _ => (none, none)

/-- Whether a character parts the segments of a path. -/
def isSlash (special : Bool) (c : Char) : Bool := c == '/' || (special && c == '\\')

def steps (path : List String) : List (List Char) → List String
  | [] => path
  | [last] => step path true last
  | segment :: rest => steps (step path false segment) rest

def segments (special : Bool) (cs : List Char) : List String :=
  let encoded := (pieces (isSlash special) cs).map (encode pathSet)
  match cs, encoded with
  | c :: _, _ :: rest => if isSlash special c then steps [] rest else steps [] encoded
  | _, _ => if special then [""] else []

/-- The host and the number of the socket behind the name of a user. -/
def hostPart (authority : List Char) : List Char :=
  ((authority.reverse.takeWhile (· != '@')).reverse)

/-- The host, and what follows it from the colon on; a colon in brackets is part of the host. -/
def splitSocket (cs : List Char) : List Char × List Char :=
  let inside (cs : List Char) := cs.takeWhile (· != ']')
  match cs with
  | '[' :: _ =>
    let (host, socket) := spanUntil [':'] (cs.drop (inside cs).length)
    (inside cs ++ host, socket)
  | _ => spanUntil [':'] cs

/-- Whether a text is nothing, or a colon and the number of a socket. -/
def isSocket : List Char → Bool
  | [] => true
  | _ :: digits => digits.all Char.isDigit && Decimal.digitsValue digits < 65536

def isAuthority (special : Bool) (authority : List Char) : Bool :=
  let (host, socket) := splitSocket (hostPart authority)
  isSocket socket
    && if special then !host.isEmpty && isHost host
      else (!host.isEmpty || (socket.isEmpty && !authority.contains '@')) && isOtherHost host

def withAuthority? (scheme : String) (special : Bool) (cs : List Char) : Option Url :=
  let (authority, rest) := spanUntil (['/', '?', '#'] ++ if special then ['\\'] else []) cs
  if isAuthority special authority then
    let (path, rest) := spanUntil ['?', '#'] rest
    let (query, fragment) := tail special rest
    some ⟨scheme, some (String.ofList authority), .segments (segments special path), query,
      fragment⟩
  else none

/-- An address whose path is a list of segments, without an authority. -/
def withSegments (scheme : String) (special : Bool) (cs : List Char) : Url :=
  let (path, rest) := spanUntil ['?', '#'] cs
  let (query, fragment) := tail special rest
  ⟨scheme, none, .segments (segments special path), query, fragment⟩

/-- An address of a file; its host may be missing. -/
def file? (cs : List Char) : Option Url :=
  match cs with
  | a :: b :: rest =>
    if isSlash true a && isSlash true b then
      let (host, path) := spanUntil ['/', '\\', '?', '#'] rest
      if host.isEmpty || isHost host then
        some { withSegments "file" true path with authority := some (String.ofList host) }
      else none
    else some (withSegments "file" true cs)
  | _ => some (withSegments "file" true cs)

def ofText? (s : String) : Option Url := do
  let (scheme, rest) ← scheme? (cleaned s)
  if scheme = "file" then file? rest
  else if specialSchemes.contains scheme then
    withAuthority? scheme true (rest.dropWhile (isSlash true))
  else
    match rest with
    | '/' :: '/' :: rest => withAuthority? scheme false rest
    | '/' :: _ => some (withSegments scheme false rest)
    | _ =>
      let (path, rest) := spanUntil ['?', '#'] rest
      let (query, fragment) := tail false rest
      some ⟨scheme, none, .plain (String.ofList (encode [] path)), query, fragment⟩

end Whereabouts.Url
