import Whereabouts.Query.Envelope

/-!
# Packing

The order in which an index holds its entries. Entries that lie close together are packed into
leaves of at most six: a larger group is cut into slabs by latitude, each slab into clusters by
longitude, and each cluster is packed in the same way. Features that a plan does not tell apart come
in this order.
-/

namespace Whereabouts

/-- A feature and the upright rectangle around it. -/
structure Indexed (α τ : Type) where
  feature : τ
  extent : Envelope α

namespace Packing

variable {α τ : Type} [Scalar α]

/-- How many entries a leaf holds, and how many groups a group of groups. -/
def capacity : Nat := 6

/-- The greatest power of the capacity below `n`, from `power` on. -/
def subtreeSize (n power : Nat) : Nat → Nat
  | 0 => power
  | fuel + 1 => if capacity * power < n then subtreeSize n (capacity * power) fuel else power

/-- Into how many slabs, and each slab into how many clusters, `n` entries are cut. -/
def slabCount (n : Nat) : Nat :=
  let size := subtreeSize n 1 n
  if (n + size - 1) / size ≤ 4 then 2 else 3

/-- The place in a list of the first of its greatest items; `best` is the greatest so far. -/
def greatestAt (key : Indexed α τ → α) (best : Nat × α) (place : Nat) :
    List (Indexed α τ) → Nat
  | [] => best.1
  | entry :: rest =>
    greatestAt key (if best.2 < key entry then (place, key entry) else best) (place + 1) rest

/-- The list with the item at a place exchanged with the last one. -/
def exchangeLast (place : Nat) (entries : List (Indexed α τ)) : List (Indexed α τ) :=
  match (entries.drop place), (entries.drop (place + 1)).getLast? with
  | chosen :: rest, some last => entries.take place ++ last :: rest.dropLast ++ [chosen]
  | _, _ => entries

/-- Brings the `size` first entries along an axis to the front. -/
def select (key : Indexed α τ → α) (size : Nat) (entries : List (Indexed α τ)) :
    List (Indexed α τ) :=
  match entries with
  | first :: rest =>
    if size + 1 = entries.length then exchangeLast (greatestAt key (0, key first) 1 rest) entries
    else entries.mergeSort fun a b => !(decide (key b < key a))
  | [] => []

/-- Cuts entries into at most `count` slabs of `size` entries along an axis. -/
def slabs (key : Indexed α τ → α) (size : Nat) : Nat → List (Indexed α τ) →
    List (List (Indexed α τ))
  | 0, entries => [entries]
  | count + 1, entries =>
    if entries.length ≤ size then [entries]
    else
      let selected := select key size entries
      selected.take size :: slabs key size count (selected.drop size)

/-- Cuts entries into `count` slabs along an axis. -/
def cut (key : Indexed α τ → α) (count : Nat) (entries : List (Indexed α τ)) :
    List (List (Indexed α τ)) :=
  slabs key ((entries.length + count - 1) / count) count entries

/-- `pack` for groups that are nested at most `depth` deep. -/
def packWithin : Nat → List (Indexed α τ) → List (Indexed α τ)
  | 0, entries => entries.reverse
  | depth + 1, entries =>
    if entries.length ≤ capacity then entries.reverse
    else
      let count := slabCount entries.length
      (cut (·.extent.minLat) count entries).flatMap fun slab =>
        (cut (·.extent.minLon) count slab).flatMap (packWithin depth)

/-- The entries in the order in which the leaves hold them. -/
def pack (entries : List (Indexed α τ)) : List (Indexed α τ) := packWithin entries.length entries

end Packing

end Whereabouts
