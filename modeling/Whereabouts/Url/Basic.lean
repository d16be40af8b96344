import Whereabouts.Url.Percent

/-!
# Addresses

The address of a resource: a scheme, a host where there is one, a path and a query. `child` goes
down a path, whatever characters the names of its segments have.
-/

namespace Whereabouts

/-- The path of an address. -/
inductive Url.Path where
  /-- A text that is no list of segments, as in `mailto:someone`. -/
  | plain (text : String)
  | segments (list : List String)
deriving DecidableEq, Repr

/-- An address. -/
structure Url where
  scheme : String
  /-- The host with the number of its socket and the name of the user. -/
  authority : Option String
  path : Url.Path
  query : Option String
  fragment : Option String
deriving DecidableEq, Repr

namespace Url

/-- The schemes whose addresses always have a path of segments. -/
def specialSchemes : List String := ["http", "https", "ws", "wss", "ftp", "file"]

/-- Whether the scheme of an address is one of the web. -/
def isSpecial (url : Url) : Bool := specialSchemes.contains url.scheme

def Path.text : Path → String
  | .plain text => text
  | .segments list => String.join (list.map ("/" ++ ·))

/-- A mark followed by a text, nothing where there is no text. -/
def marked (mark : String) (text : Option String) : String :=
  (text.map (mark ++ ·)).getD ""

/-- What is requested of a server: the path and the query. -/
def target (url : Url) : String := url.path.text ++ marked "?" url.query

def text (url : Url) : String :=
  url.scheme ++ ":" ++ marked "//" url.authority ++ url.target ++ marked "#" url.fragment

/-- The path without the empty segment at its end, of which the root alone consists. -/
def withoutTrailing (path : List String) : List String :=
  if 1 < path.length ∧ path.getLast? = some "" then path.dropLast else path

/-- Whether a segment stands for the place it is in. -/
def isHere (segment : List Char) : Bool :=
  ["." , "%2e"].contains (String.ofList (segment.map Char.toLower))

/-- Whether a segment stands for the place above. -/
def isAbove (segment : List Char) : Bool :=
  ["..", ".%2e", "%2e.", "%2e%2e"].contains (String.ofList (segment.map Char.toLower))

/-- Goes on by a segment; after the last one the path ends in a segment, be it an empty one. -/
def step (path : List String) (isLast : Bool) (segment : List Char) : List String :=
  let rest := if isAbove segment then path.dropLast else path
  if isAbove segment || isHere segment then (if isLast then rest ++ [""] else rest)
  else path ++ [String.ofList segment]

/-- Whether a character is a tab or ends a line; these are dropped from addresses. -/
def isLayout (c : Char) : Bool := c == '\t' || c == '\n' || c == '\r'

/-- The path with one more segment, whose name is taken as it is. The segments `.` and `..` are left
out. -/
def child (special : Bool) (path : List String) (name : String) : List String :=
  if name = "." ∨ name = ".." then path
  else
    let parent := if path = [""] then [] else path
    step parent true (encode (segmentSet special) (name.toList.filter (!isLayout ·)))

/-- The address below another one with a query of its own, `none` where the path of the other is no
list of segments. -/
def below? (url : Url) (names : List String) (query : String) : Option Url :=
  match url.path with
  | .plain _ => none
  | .segments path =>
    some { url with
      path := .segments (names.foldl (child url.isSpecial) (withoutTrailing path))
      query := some (String.ofList (encode (querySet url.isSpecial) query.toList)) }

end Url

end Whereabouts
