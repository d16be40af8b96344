import Whereabouts.Json.Token

/-!
# Reading JSON texts

The tree of a text is built from its tokens with a stack of the arrays and objects that are still
open. `read` always gives a tree: where a token does not fit, the leaf `broken` takes the place of
what was expected, and all that is open is closed.
-/

namespace Whereabouts.Json

/-- An array or object that is still open, its contents in reverse; an object with its last key. -/
inductive Frame where
  | array (items : List Source)
  | object (members : List (Option String × Source)) (key : Option String)

/-- What the next token has to be. -/
inductive Expected where
  /-- A value, or the end of an array where the array is still empty. -/
  | value (orClose : Bool)
  | separator
  /-- The name of a member, or the end of an object where the object is still empty. -/
  | key (orClose : Bool)
  | colon
deriving DecidableEq

/-- A text that is being read, or that has been read to an end. -/
inductive Builder where
  | building (frames : List Frame) (expected : Expected)
  | complete (root : Source)
  | failed (root : Source)
  | trailing (root : Source)

namespace Builder

/-- Puts a value into the innermost open container. -/
def Frame.add (frame : Frame) (value : Source) : Frame :=
  match frame with
  | .array items => .array (value :: items)
  | .object members key => .object ((key, value) :: members) none

def Frame.close : Frame → Source
  | .array items => .array items.reverse
  | .object members _ => .object members.reverse

def deliver (frames : List Frame) (value : Source) : Builder :=
  match frames with
  | [] => .complete value
  | frame :: outer => .building (Frame.add frame value :: outer) .separator

/-- The text breaks off: the innermost container ends in `broken`, and all are closed. -/
def fail (frames : List Frame) : Builder :=
  .failed (frames.foldl (fun value frame => Frame.close (Frame.add frame value)) .broken)

def close (frames : List Frame) : Builder :=
  match frames with
  | [] => fail []
  | frame :: outer => deliver outer (Frame.close frame)

def onValue (frames : List Frame) (orClose : Bool) (token : Token) : Builder :=
  match token with
  | .null => deliver frames .null
  | .bool b => deliver frames (.bool b)
  | .number n => deliver frames (.number n)
  | .string text => deliver frames (.string text)
  | .openArray => .building (.array [] :: frames) (.value true)
  | .openObject => .building (.object [] none :: frames) (.key true)
  | .closeArray => if orClose then close frames else fail frames
  | _ => fail frames

/-- Reads a token after a value inside a container. -/
def onSeparator (frames : List Frame) (token : Token) : Builder :=
  match frames, token with
  | .array _ :: _, .comma => .building frames (.value false)
  | .array _ :: _, .closeArray => close frames
  | .object _ _ :: _, .comma => .building frames (.key false)
  | .object _ _ :: _, .closeObject => close frames
  | _, _ => fail frames

/-- Reads a token where the name of a member is expected. -/
def onKey (frames : List Frame) (orClose : Bool) (token : Token) : Builder :=
  match frames, token with
  | .object members _ :: outer, .string text => .building (.object members text :: outer) .colon
  | _, .closeObject => if orClose then close frames else fail frames
  | _, _ => fail frames

def step (b : Builder) (token : Token) : Builder :=
  match b with
  | .building frames (.value orClose) => onValue frames orClose token
  | .building frames .separator => onSeparator frames token
  | .building frames (.key orClose) => onKey frames orClose token
  | .building frames .colon =>
    match token with
    | .colon => .building frames (.value false)
    | _ => fail frames
  | .complete root => .trailing root
  | other => other

def finish : Builder → Document
  | .building frames _ =>
    match fail frames with
    | .failed root => ⟨root, false⟩
    | _ => ⟨.broken, false⟩
  | .complete root => ⟨root, true⟩
  | .failed root | .trailing root => ⟨root, false⟩

end Builder

def read (text : String) : Document :=
  ((tokens text.toList).foldl Builder.step (.building [] (.value false))).finish

/-- The value of a JSON text, `none` where it is not JSON or cannot be built. -/
def parse? (text : String) : Option Json := (read text).value?

end Whereabouts.Json
