/-!
# Huffman codes

A code is given by the length of the code word of each symbol: words of one length are assigned in
the order of the symbols. It is kept as a tree along whose branches the bits of a word are followed.
-/

namespace Whereabouts.Gzip

/-- The tree of a code; `missing` stands where no word leads. -/
inductive Tree where
  | missing
  | leaf (symbol : Nat)
  | node (zero one : Tree)

namespace Tree

/-- Adds the word with the given bits, the first bit first. -/
def insert (symbol : Nat) : List Bool → Tree → Tree
  | [], _ => .leaf symbol
  | bit :: bits, tree =>
    let (zero, one) := match tree with
      | .node zero one => (zero, one)
      | _ => (.missing, .missing)
    if bit then .node zero (insert symbol bits one) else .node (insert symbol bits zero) one

/-- The symbol of the word at the front of the bits, and the bits after it. -/
def decode? : Tree → List Bool → Option (Nat × List Bool)
  | .missing, _ => none
  | .leaf symbol, bits => some (symbol, bits)
  | .node _ _, [] => none
  | .node zero one, bit :: bits => if bit then one.decode? bits else zero.decode? bits

end Tree

def wordBits (length word : Nat) : List Bool :=
  (List.range length).map fun i => (word >>> (length - 1 - i)) % 2 == 1

/-- The symbols whose words have a length, in order. -/
def symbolsOfLength (lengths : List Nat) (length : Nat) : List Nat :=
  (lengths.zip (List.range lengths.length)).filterMap fun (l, s) =>
    if l = length then some s else none

/-- Adds the words of one length, the first of them being `word`; gives also the word after them. -/
def addWords (length : Nat) (tree : Tree) (word : Nat) (symbols : List Nat) : Tree × Nat :=
  symbols.foldl (fun (tree, word) s => (tree.insert s (wordBits length word), word + 1))
    (tree, word)

/-- Which part of all words a code uses, in units of `2 ^ -15`. -/
def usage (lengths : List Nat) : Nat :=
  lengths.foldl (fun sum l => if l = 0 then sum else sum + Nat.pow 2 (15 - l)) 0

/-- The tree of a code, `none` where the lengths give no code. A code that leaves words unused is
accepted only if it has at most one symbol. -/
def Tree.ofLengths? (lengths : List Nat) : Option Tree :=
  let used := (lengths.filter (· ≠ 0)).length
  if usage lengths > Nat.pow 2 15 ∨ (usage lengths ≠ Nat.pow 2 15 ∧ 1 < used) then none
  else
    let step := fun (acc : Tree × Nat) (k : Nat) =>
      let length := k + 1
      addWords length acc.1 (2 * acc.2) (symbolsOfLength lengths length)
    some ((List.range 15).foldl step (.missing, 0)).1

end Whereabouts.Gzip
