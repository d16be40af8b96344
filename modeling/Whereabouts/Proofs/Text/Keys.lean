import Mathlib
import Whereabouts.Text.Key

/-!
# Names with one key

The lower case of a text is not that of its characters one by one: some have a lower case of several
characters, and a capital sigma has another one at the end of a word, so it depends on what stands
around it. Out of the lower case what no key holds is taken run by run. A key sees nothing of this,
as no key holds a sigma: it is put together from what each character contributes.

* `Text.projects_spell`: the laws of texts that are put together from what characters contribute.
* `Text.settled_lowercase`: no character of a lower case has another lower case.
* `Text.Casing.key_eq_spell`: a key comes character by character, whatever the tables.
* `Text.nameKey_projects`: the main statement.
-/

namespace Whereabouts.Text

section Spelling

variable {part : Char → List Char} {isMark : Char → Prop}

/-- The text that is put together from what the characters of a name contribute. -/
def spell (part : Char → List Char) (name : String) : String :=
  String.ofList (name.toList.flatMap part)

/-- Whether what characters contribute stands for itself. -/
def Settled (part : Char → List Char) : Prop := ∀ c, ∀ d ∈ part c, part d = [d]

/-- Whether the second text is the first one with marks put in, anywhere and in any number. -/
inductive Marked (isMark : Char → Prop) : List Char → List Char → Prop where
  | nil :
    Marked isMark [] []
  | keep {c as bs} :
    Marked isMark as bs →
    Marked isMark (c :: as) (c :: bs)
  | mark {c as bs} :
    isMark c →
    Marked isMark as bs →
    Marked isMark as (c :: bs)

/-- Whether keys are a projection that respects concatenation and does not see marks. -/
structure Projects (key : String → String) (isMark : Char → Prop) : Prop where
  append : ∀ a b, key (a ++ b) = key a ++ key b
  again : ∀ a, key (key a) = key a
  marked : ∀ a b : String, Marked isMark a.toList b.toList → key b = key a

/-- A text in two parts is spelled part by part. -/
lemma spell_append (a b : String) : spell part (a ++ b) = spell part a ++ spell part b := by
  unfold spell
  rw [String.toList_append, List.flatMap_append, String.ofList_append]

/-- What a character contributes stands for itself, character by character. -/
lemma Settled.flatMap (settled : Settled part) (c : Char) : (part c).flatMap part = part c := by
  rw [List.flatMap_congr (settled c), List.flatMap_singleton']

/-- Spelling a text again changes nothing. -/
lemma spell_spell (settled : Settled part) (name : String) :
    spell part (spell part name) = spell part name := by
  unfold spell
  rw [String.toList_ofList, List.flatMap_assoc]
  exact congrArg _ (List.flatMap_congr fun c _ => settled.flatMap c)

/-- Marks that contribute nothing may be put in anywhere. -/
lemma flatMap_of_marked (none : ∀ c, isMark c → part c = []) {as bs : List Char}
    (marked : Marked isMark as bs) : bs.flatMap part = as.flatMap part := by
  induction marked with
  | nil => rfl
  | keep _ ih => rw [List.flatMap_cons, List.flatMap_cons, ih]
  | mark mark _ ih => rw [List.flatMap_cons, none _ mark, List.nil_append, ih]

/-- What is put together from settled characters obeys the laws of keys. -/
lemma projects_spell (settled : Settled part) (none : ∀ c, isMark c → part c = []) :
    Projects (spell part) isMark where
  append := spell_append
  again := spell_spell settled
  marked _ _ marked := congrArg String.ofList (flatMap_of_marked none marked)

end Spelling

section Table

namespace CaseRun

variable {r s : CaseRun} {n : Nat}

/-- A run covers every so many characters from its first to its last. -/
lemma covers_iff : r.covers n = true ↔
    (r.first ≤ n ∧ n ≤ r.last) ∧ (n - r.first) % r.step = 0 := by
  simp only [covers, Bool.and_eq_true, decide_eq_true_eq, beq_iff_eq]

/-- The run of the lower case of the characters of a run. -/
def lowerRun (r : CaseRun) : CaseRun :=
  ⟨(r.first + r.shift).toNat, (r.last + r.shift).toNat, r.step, 0⟩

/-- The lower case of a character that a run covers is covered by the run of the lower cases. -/
lemma covers_lowerRun (nonneg : 0 ≤ r.first + r.shift) (covers : r.covers n = true) :
    r.lowerRun.covers (n + r.shift).toNat = true := by
  rw [covers_iff] at *
  obtain ⟨⟨above, below⟩, place⟩ := covers
  have above' : (r.first + r.shift).toNat ≤ (n + r.shift).toNat := by omega
  have below' : (n + r.shift).toNat ≤ (r.last + r.shift).toNat := by omega
  have same : (n + r.shift).toNat - (r.first + r.shift).toNat = n - r.first := by omega
  exact ⟨⟨above', below'⟩, same ▸ place⟩

/-- Whether one run lies below another one, above it, or between its characters. -/
def apart (r s : CaseRun) : Bool :=
  r.last < s.first || s.last < r.first ||
    ((r.first + s.first) % 2 == 1 && s.step == 2 && (r.step == 2 || r.first == r.last))

/-- A character is covered by one of two runs that lie apart, and not by the other. -/
lemma not_covers_of_apart (apart : r.apart s = true) (covers : r.covers n = true) :
    ¬ s.covers n = true := by
  unfold CaseRun.apart at apart
  simp only [Bool.or_eq_true, Bool.and_eq_true, decide_eq_true_eq, beq_iff_eq] at apart
  rw [covers_iff] at *
  rintro ⟨⟨above', below'⟩, place'⟩
  obtain ⟨⟨above, below⟩, place⟩ := covers
  rcases apart with (low | high) | ⟨⟨odd, second⟩, second' | single⟩
  · omega
  · omega
  · rw [second] at place'
    rw [second'] at place
    omega
  · rw [second] at place'
    omega

end CaseRun

/-- The capital I with a dot, as a run of its own. -/
def dottedRun : CaseRun := ⟨0x130, 0x130, 1, 0⟩

/-- No lower case lies below the first code point. -/
lemma runs_nonneg : ∀ r ∈ caseRuns, 0 ≤ r.first + r.shift := by
  decide +kernel

/-- No lower case by a run has a lower case by the same run or another one. -/
lemma runs_apart : ∀ r ∈ caseRuns, ∀ s ∈ dottedRun :: caseRuns, r.lowerRun.apart s = true := by
  have all : (caseRuns.all fun r => (dottedRun :: caseRuns).all r.lowerRun.apart) = true := by
    decide +kernel
  simpa only [List.all_eq_true] using all

/-- No run begins with the first code point. -/
lemma runs_pos : ∀ s ∈ dottedRun :: caseRuns, 0 < s.first := by
  decide

/-- A character in no run has no lower case but itself. -/
lemma lowercase_eq_self {c : Char}
    (outside : ∀ s ∈ dottedRun :: caseRuns, ¬ s.covers c.toNat = true) : lowercase c = [c] := by
  have dotted : c.toNat ≠ 0x130 := by
    intro e
    exact outside dottedRun List.mem_cons_self (e ▸ rfl)
  have none : caseRuns.find? (·.covers c.toNat) = none :=
    List.find?_eq_none.2 fun s mem => outside s (List.mem_cons_of_mem _ mem)
  unfold lowercase
  rw [if_neg dotted, none]

/-- The lower case by a run has no lower case but itself. -/
lemma lowercase_lowerRun {r : CaseRun} {n : Nat} (run : r ∈ caseRuns) (covers : r.covers n = true) :
    lowercase (Char.ofNat (n + r.shift).toNat) = [Char.ofNat (n + r.shift).toNat] := by
  have lower := CaseRun.covers_lowerRun (runs_nonneg r run) covers
  apply lowercase_eq_self
  intro s hs
  rw [Char.toNat_ofNat]
  split
  next => exact CaseRun.not_covers_of_apart (runs_apart r run s hs) lower
  next =>
    -- a number of no character counts as that of the first one, which is in no run
    rw [CaseRun.covers_iff]
    exact fun first => Nat.not_le.2 (runs_pos s hs) first.1.1

/-- No character of a lower case has another lower case. -/
lemma settled_lowercase : Settled lowercase := by
  intro c d mem
  unfold lowercase at mem
  split at mem
  next =>
    rcases List.mem_pair.1 mem with rfl | rfl
    · rfl
    · rfl
  next plain =>
    split at mem
    next r found =>
      have covers := List.find?_some found
      rw [List.mem_singleton.1 mem]
      exact lowercase_lowerRun (List.mem_of_find?_eq_some found) covers
    next none =>
      rw [List.mem_singleton.1 mem]
      unfold lowercase
      rw [if_neg plain, none]

/-- What a character contributes to a key stands for itself. -/
lemma settled_keyChars : Settled keyChars := by
  intro c d mem
  obtain ⟨mem, isKey⟩ := List.mem_filter.1 mem
  unfold keyChars
  rw [settled_lowercase c d mem, List.filter_singleton, isKey]
  rfl

end Table

/-- The tables by which a text is put into lower case. -/
structure Casing where
  /-- The lower case of a character that stands for itself. -/
  lower : Char → List Char
  /-- Whether a character is a letter of upper, lower or title case. -/
  isCased : Char → Bool
  /-- Whether a character is passed over where a cased one is looked for. -/
  isIgnorable : Char → Bool

namespace Casing

variable (rules : Casing)

/-- Whether a cased character comes first, but for those that are passed over. -/
def startsCased (cs : List Char) : Bool := (cs.dropWhile rules.isIgnorable).head?.any rules.isCased

/-- The lower case of a capital sigma: another one at the end of a word. The text before it is read
backwards. -/
def sigma (before after : List Char) : Char :=
  if rules.startsCased before && !rules.startsCased after then 'ς' else 'σ'

/-- The lower case of a character between two texts. -/
def lowerAt (before : List Char) (c : Char) (after : List Char) : List Char :=
  if c = 'Σ' then [rules.sigma before after] else rules.lower c

/-- The lower case of a text that comes after another one. -/
def lowerAfter (before : List Char) : List Char → List Char
  | [] => []
  | c :: after => rules.lowerAt before c after ++ lowerAfter (c :: before) after

end Casing

/-- Puts a new text in place of each run of characters that satisfy `isOut`; `within` says whether
the text begins within such a run. -/
def replaceRuns (isOut : Char → Bool) (new : List Char) (within : Bool) : List Char → List Char
  | [] => []
  | c :: cs =>
    if isOut c then (if within then [] else new) ++ replaceRuns isOut new true cs
    else c :: replaceRuns isOut new false cs

/-- Replacing runs of characters by nothing is leaving these characters out. -/
lemma replaceRuns_nil (isOut : Char → Bool) (within : Bool) (cs : List Char) :
    replaceRuns isOut [] within cs = cs.filter fun c => !isOut c := by
  induction cs generalizing within with
  | nil => rfl
  | cons c cs ih =>
    unfold replaceRuns
    cases out : isOut c with
    | false => simp [out, ih]
    | true => simp [out, ih]

namespace Casing

variable (rules : Casing)

/-- The key of a name by the rules of Unicode: its lower case without the runs of what no key
holds. -/
def key (name : String) : String :=
  String.ofList (replaceRuns (fun c => !isKeyChar c) [] false (rules.lowerAfter [] name.toList))

/-- Whether no key holds the lower case of a character, whatever stands around it. -/
def IsMark (c : Char) : Prop :=
  ∀ before after, ∀ d ∈ rules.lowerAt before c after, isKeyChar d = false

/-- What a character contributes to a key, whatever stands around it. -/
def keyPart (c : Char) : List Char := if c = 'Σ' then [] else (rules.lower c).filter isKeyChar

/-- A key holds neither of the two forms of the sigma. -/
lemma not_isKeyChar_sigma (before after : List Char) :
    isKeyChar (rules.sigma before after) = false := by
  unfold sigma
  split
  · decide
  · decide

/-- What stands around a character does not matter for keys. -/
lemma filter_lowerAt (before : List Char) (c : Char) (after : List Char) :
    (rules.lowerAt before c after).filter isKeyChar = rules.keyPart c := by
  unfold lowerAt keyPart
  split
  · rw [List.filter_singleton, not_isKeyChar_sigma]
    rfl
  · rfl

/-- What a key keeps of a lower case is contributed character by character, whatever stands around.
-/
lemma filter_lowerAfter (before cs : List Char) :
    (rules.lowerAfter before cs).filter isKeyChar = cs.flatMap rules.keyPart := by
  induction cs generalizing before with
  | nil => rfl
  | cons c cs ih =>
    unfold lowerAfter
    rw [List.filter_append, filter_lowerAt, ih, List.flatMap_cons]

/-- A key is put together from what each character contributes. -/
lemma key_eq_spell : rules.key = spell rules.keyPart := by
  funext name
  unfold key spell
  rw [replaceRuns_nil, ← filter_lowerAfter rules []]
  simp only [Bool.not_not]

/-- A mark contributes nothing to a key. -/
lemma keyPart_of_isMark {c : Char} (mark : rules.IsMark c) : rules.keyPart c = [] := by
  rw [← filter_lowerAt rules [] c []]
  exact List.filter_eq_nil_iff.2 fun d mem => Bool.eq_false_iff.1 (mark [] [] d mem)

variable {rules}

/-- Where lower cases stand for themselves, so do the contributions to a key. -/
lemma settled_keyPart (settled : Settled rules.lower) : Settled rules.keyPart := by
  intro c d mem
  unfold keyPart at mem
  split at mem
  next => cases mem
  next =>
    obtain ⟨mem, isKey⟩ := List.mem_filter.1 mem
    have ne : d ≠ 'Σ' := by
      rintro rfl
      exact absurd isKey (by decide)
    unfold keyPart
    rw [if_neg ne, settled c d mem, List.filter_singleton, isKey]
    rfl

/-- Keys by any tables whose lower cases stand for themselves obey the three laws. -/
lemma projects_key (settled : Settled rules.lower) : Projects rules.key rules.IsMark := by
  rw [key_eq_spell]
  exact projects_spell (settled_keyPart settled) fun c => rules.keyPart_of_isMark

/-- Tables that agree on what belongs to keys give the same keys. -/
lemma key_eq_nameKey (agree : ∀ c, c ≠ 'Σ' → (rules.lower c).filter isKeyChar = keyChars c) :
    rules.key = nameKey := by
  rw [key_eq_spell]
  refine congrArg spell (funext fun c => ?_)
  unfold keyPart
  split
  next e =>
    rw [e]
    rfl
  next ne => exact agree c ne

end Casing

section Main

/-- **Keys are a projection that respects concatenation.** The key of two names put together is that
of the first followed by that of the second, a key is its own key, and characters whose lower case
no key holds can be put in anywhere. The same holds by the rules of Unicode, where the form of a
sigma depends on what stands around it and what no key holds is taken out run by run, for all tables
by which no character of a lower case has another one. Tables that agree with those above on what
belongs to keys give the same keys. -/
theorem nameKey_projects :
    Projects nameKey (fun c => ∀ d ∈ lowercase c, isKeyChar d = false) ∧
    (∀ rules : Casing, Settled rules.lower → Projects rules.key rules.IsMark) ∧
    ∀ rules : Casing,
      (∀ c, c ≠ 'Σ' → (rules.lower c).filter isKeyChar = (lowercase c).filter isKeyChar) →
      rules.key = nameKey := by
  refine ⟨projects_spell settled_keyChars fun c mark => ?_, fun _ => Casing.projects_key,
    fun _ => Casing.key_eq_nameKey⟩
  exact List.filter_eq_nil_iff.2 fun d mem => Bool.eq_false_iff.1 (mark d mem)

end Main

section Sample

/-- Tables for letters of the two scripts, where a full stop is passed over. -/
def letterCasing : Casing := ⟨lowercase, fun c => isLatin c || isCyrillic c, fun c => c == '.'⟩

/-- The second sigma ends a word, and would not if it stood alone. The key holds neither. -/
theorem line_name_keyed :
    Settled letterCasing.lower ∧
    (∀ c, c ≠ 'Σ' → (letterCasing.lower c).filter isKeyChar = (lowercase c).filter isKeyChar) ∧
    letterCasing.lowerAfter [] "LÍNIA A.Σ.BΣ İ9".toList = "línia a.σ.bς i\u03079".toList ∧
    letterCasing.lowerAfter [] "Σ İ9".toList = "σ i\u03079".toList ∧
    letterCasing.key "LÍNIA A.Σ.BΣ İ9" =
      letterCasing.key "LÍNIA A.Σ.B" ++ letterCasing.key "Σ İ9" ∧
    letterCasing.key "LÍNIA A.Σ.BΣ İ9" = "líniaabi9" ∧
    letterCasing.key = nameKey := by
  obtain ⟨-, projects, agree⟩ := nameKey_projects
  have settled : Settled letterCasing.lower := settled_lowercase
  refine ⟨settled, fun _ _ => rfl, by decide, by decide, ?_, by decide, agree _ fun _ _ => rfl⟩
  exact (projects _ settled).append "LÍNIA A.Σ.B" "Σ İ9"

end Sample

end Whereabouts.Text
