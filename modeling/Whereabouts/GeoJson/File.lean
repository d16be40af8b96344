import Whereabouts.GeoJson.Layers
import Whereabouts.Gzip.Member

/-!
# Files of collections

A layer is loaded from a file, which is compressed where its name says so.
-/

namespace Whereabouts.GeoJson

/-- Why a file was not loaded. -/
inductive LoadError where
  | cannotOpen (path : String)
  | cannotRead (path : String)
  | invalid (path : String)
  | noCollection (path : String)
deriving DecidableEq, Repr

def LoadError.message : LoadError → String
  | .cannotOpen path => "Failed to open GeoJSON file: " ++ path
  | .cannotRead path => "Failed to read " ++ path
  | .invalid path => "Invalid GeoJSON in " ++ path
  | .noCollection path => path ++ " is not a FeatureCollection"

def fileName (path : String) : List Char :=
  (((path.toList.reverse.dropWhile (· == '/')).takeWhile (· != '/'))).reverse

/-- Whether the name of a file ends in `.gz` after at least one more character. -/
def isCompressed (path : String) : Bool :=
  match (fileName path).reverse with
  | 'z' :: 'g' :: '.' :: _ :: _ => true
  | _ => false

/-- The text of bytes in UTF-8, `none` where they are not. -/
def text? (bytes : List UInt8) : Option String := String.fromUTF8? ⟨bytes.toArray⟩

/-- Reads a collection from the contents of a file, `none` where there is no such file. -/
def readCollection (path : String) (contents : Option (List UInt8)) :
    Except LoadError (List Feature) :=
  match contents with
  | none => .error (.cannotOpen path)
  | some bytes =>
    let data := if isCompressed path then Gzip.decompress? bytes else some bytes
    match data.bind text? with
    | none => .error (.cannotRead path)
    | some text =>
      match Document.ofText? text with
      | none => .error (.invalid path)
      | some .other => .error (.noCollection path)
      | some (.collection features) => .ok features

end Whereabouts.GeoJson
