import Mathlib.Data.List.Basic
import Whereabouts.Stream.Broker

/-!
# Names of entries

Every entry of a stream has a name of its own, and the offsets of the stream lead from the written
name back to the entry.

* `MessageId.text_injective`: names that are written alike are equal.
* `MessageId.before_next`: the name that follows another one was not given before.
* `Broker.lookUp_put`: a keyed list gives back what was put under a key, and keeps the rest.
* `Stream.Named.append`: the offsets stay exact when an entry is appended.
-/

namespace Whereabouts

namespace MessageId

/-- The digits of a number hold no dash. -/
lemma dash_notMem_toDigits (n : Nat) : '-' ∉ Nat.toDigits 10 n := by
  intro h
  have dig := Nat.isDigit_of_mem_toDigits (by decide) (by decide) h
  exact absurd dig (by decide)

/-- The characters of a written name. -/
lemma toList_text (id : MessageId) :
    id.text.toList = Nat.toDigits 10 id.millis ++ '-' :: Nat.toDigits 10 id.seq := by
  simp [text]

/-- A number is known by its digits. -/
lemma toDigits_inj {m n : Nat} (e : Nat.toDigits 10 m = Nat.toDigits 10 n) : m = n := by
  have h := congrArg (Nat.ofDigitChars 10 · 0) e
  simpa using h

/-- Names that are written alike are equal. -/
lemma text_injective : Function.Injective text := by
  intro a b e
  have chars := congrArg String.toList e
  rw [toList_text, toList_text] at chars
  obtain ⟨e1, -, e2⟩ := (List.append_cons_inj_of_notMem
    (dash_notMem_toDigits _) (dash_notMem_toDigits _)).1 chars
  cases a; cases b
  cases toDigits_inj e1; cases toDigits_inj e2
  rfl

/-- A name is among names where its text is among their texts. -/
lemma text_mem_map {id : MessageId} {ids : List MessageId} :
    id.text ∈ ids.map (·.text) ↔ id ∈ ids :=
  List.mem_map_of_injective text_injective

/-- A name stands before another one by its time, and by its count at the same time. -/
lemma before_iff {a b : MessageId} :
    a.before b = true ↔ a.millis < b.millis ∨ a.millis = b.millis ∧ a.seq < b.seq := by
  simp [before]

/-- A name stands before those that come after the ones it stands before. -/
lemma before_trans {a b c : MessageId} (h1 : a.before b = true) (h2 : b.before c = true) :
    a.before c = true := by
  rw [before_iff] at *
  omega

/-- No name stands before itself. -/
lemma before_irrefl (a : MessageId) : ¬ a.before a = true := by
  rw [before_iff]
  omega

/-- Whatever the clock shows, the name that follows is a later one. -/
lemma before_next (last : MessageId) (now : Int) : last.before (last.next now) = true := by
  rw [before_iff]
  unfold next
  split
  next h => exact .inl h
  next => exact .inr ⟨rfl, Nat.lt_succ_self _⟩

end MessageId

namespace Broker

variable {β : Type}

/-- Putting a value under a key changes what is looked up there, and nothing else. -/
lemma lookUp_put (key k : String) (value : β) (entries : List (String × β)) :
    lookUp k (put key value entries) = if k = key then some value else lookUp k entries := by
  induction entries with
  | nil =>
    by_cases e : key = k
    · simp [put, lookUp, e]
    · simp [put, lookUp, e, Ne.symm e]
  | cons head rest ih =>
    obtain ⟨k1, v1⟩ := head
    unfold put
    by_cases e1 : k1 = key
    · subst e1
      by_cases e : k1 = k
      · simp [lookUp, e]
      · simp [lookUp, e, Ne.symm e]
    · by_cases e : k1 = k
      · subst e
        simp [lookUp, e1]
      · simp only [lookUp] at ih
        simp [lookUp, e1, e, ih]

/-- Putting the value that is there changes nothing. -/
lemma put_eq_self {key : String} {value : β} {entries : List (String × β)}
    (h : lookUp key entries = some value) : put key value entries = entries := by
  induction entries with
  | nil => simp [lookUp] at h
  | cons head rest ih =>
    obtain ⟨k1, v1⟩ := head
    unfold put
    by_cases e : k1 = key
    · subst e
      have ev : v1 = value := by simpa [lookUp] using h
      simp [ev]
    · have h' : lookUp key rest = some value := by simpa [lookUp, e] using h
      simp [e, ih h']

end Broker

namespace Stream

/-- The offsets lead from the written name of every entry to its place and from nothing else, and
no name was given after the last one. -/
structure Named (s : Stream) : Prop where
  offsets : ∀ name offset, Broker.lookUp name s.offsets = some offset ↔
    (s.entries[offset]?).map (·.id.text) = some name
  last : ∀ m ∈ s.entries, m.id = s.last ∨ m.id.before s.last = true

/-- In an empty stream every entry is found by its name. -/
lemma Named.empty : Named {} where
  offsets := by simp [Broker.lookUp]
  last := by simp

/-- The name of the next entry is after the names of all entries so far. -/
lemma Named.before_next {s : Stream} (nm : s.Named) (now : Int) {m : Message} (h : m ∈ s.entries) :
    m.id.before (s.last.next now) = true := by
  have following := MessageId.before_next s.last now
  rcases nm.last m h with last | before
  · exact last ▸ following
  · exact MessageId.before_trans before following

/-- The name of the next entry is the name of no entry so far. -/
lemma Named.fresh {s : Stream} (nm : s.Named) (now : Int) {m : Message} (h : m ∈ s.entries) :
    m.id ≠ s.last.next now := by
  intro e
  have before := nm.before_next now h
  rw [e] at before
  exact MessageId.before_irrefl _ before

/-- Appending an entry keeps the offsets exact. -/
lemma Named.append {s : Stream} (nm : s.Named) (now : Int) (payload : String) :
    (s.append now payload).2.Named where
  offsets := by
    intro name offset
    simp only [Stream.append, Broker.lookUp_put]
    by_cases e : name = (s.last.next now).text
    · -- a place before the end would hold an entry with the name that is only given now
      rw [if_pos e, Option.some.injEq]
      constructor
      · rintro rfl
        simp [e]
      · intro h
        rw [List.getElem?_append] at h
        split at h
        next lt =>
          rw [List.getElem?_eq_getElem lt, Option.map_some, Option.some.injEq, e] at h
          exact absurd (MessageId.text_injective h) (nm.fresh now (List.getElem_mem lt))
        next ge =>
          obtain ⟨m, hm, -⟩ := Option.map_eq_some_iff.1 h
          have := (List.getElem?_eq_some_iff.1 hm).1
          simp only [List.length_singleton] at this
          omega
    · rw [if_neg e, nm.offsets, List.getElem?_append]
      split
      next => rfl
      next ge =>
        rw [List.getElem?_eq_none (by omega), Option.map_none]
        constructor
        · intro h
          cases h
        · intro h
          obtain ⟨m, hm, et⟩ := Option.map_eq_some_iff.1 h
          have em := List.mem_of_getElem? hm
          rw [List.mem_singleton] at em
          subst em
          exact absurd et.symm e
  last := by
    intro m h
    simp only [Stream.append, List.mem_append, List.mem_singleton] at h ⊢
    obtain old | rfl := h
    · exact .inr (nm.before_next now old)
    · exact .inl rfl

/-- The place of a name is the place of the entry that has it. -/
lemma Named.offset?_eq_some_iff {s : Stream} (nm : s.Named) {name : String} {offset : Nat} :
    s.offset? name = some offset ↔ ∃ m, s.entries[offset]? = some m ∧ m.id.text = name := by
  unfold offset?
  rw [nm.offsets, Option.map_eq_some_iff]

/-- Entries with the same name stand at the same place. -/
lemma Named.id_inj {s : Stream} (nm : s.Named) {o1 o2 : Nat} {m1 m2 : Message}
    (h1 : s.entries[o1]? = some m1) (h2 : s.entries[o2]? = some m2) (e : m1.id = m2.id) :
    o1 = o2 := by
  have p1 := nm.offset?_eq_some_iff.2 ⟨m1, h1, rfl⟩
  have p2 := nm.offset?_eq_some_iff.2 ⟨m2, h2, congrArg MessageId.text e.symm⟩
  rw [p1] at p2
  exact Option.some.inj p2

end Stream

end Whereabouts
