import Whereabouts.Proofs.Stream.Group
import Whereabouts.Proofs.Stream.Naming

/-!
# What is seen of a broker

A broker is looked at through the entries of its streams and the states of its groups. For each
operation one statement says when it succeeds and what is seen afterwards; nothing else is needed
of the operations.

* `Broker.createGroup_spec`, `Broker.publish_spec`, `Broker.poll_spec`,
  `Broker.ackNames_spec`.
* `Broker.Sound`: names lead to entries and groups are sound; every operation keeps it.
-/

namespace Whereabouts

namespace Stream

/-- Setting a group changes what is found under its name, and nothing else. -/
lemma group?_setGroup (s : Stream) (name k : String) (g : Group) :
    (s.setGroup name g).group? k = if k = name then some g else s.group? k :=
  Broker.lookUp_put name k g s.groups

/-- Setting a group to what it is changes nothing. -/
lemma setGroup_self {s : Stream} {name : String} {g : Group} (h : s.group? name = some g) :
    s.setGroup name g = s := by
  unfold setGroup
  rw [Broker.put_eq_self h]

end Stream

namespace Broker

/-- The state of a group on a stream, `none` where either is missing. -/
def group? (b : Broker) (stream group : String) : Option Group :=
  (b.stream? stream).bind (·.group? group)

/-- The place of an entry of a stream. -/
def offset? (b : Broker) (stream name : String) : Option Nat :=
  (b.stream? stream).bind (·.offset? name)

/-- The names of all streams lead to their entries, and all groups are sound. -/
structure Sound (b : Broker) : Prop where
  named : ∀ stream s, b.stream? stream = some s → s.Named
  groups : ∀ stream group g, b.group? stream group = some g →
    g.Sound (b.entries stream).length

/-- A broker without streams is sound. -/
lemma Sound.empty (claimIdle : Nat) : Sound { claimIdle } where
  named := by simp [stream?, lookUp]
  groups := by simp [group?, stream?, lookUp]

section Set

variable (b : Broker) (name : String) (s : Stream)

/-- Setting a stream changes what is found under its name, and nothing else. -/
lemma stream?_setStream (k : String) :
    (b.setStream name s).stream? k = if k = name then some s else b.stream? k :=
  lookUp_put name k s b.streams

/-- The entries of a stream that is set are those that it was set to. -/
lemma entries_setStream (k : String) :
    (b.setStream name s).entries k = if k = name then s.entries else b.entries k := by
  unfold entries
  rw [stream?_setStream]
  split <;> rfl

/-- The groups of a stream that is set are those that it was set to. -/
lemma group?_setStream (k l : String) :
    (b.setStream name s).group? k l = if k = name then s.group? l else b.group? k l := by
  unfold group?
  rw [stream?_setStream]
  split <;> rfl

variable {b name s}

/-- The entries of a broker are those of its streams. -/
lemma entries_eq (h : b.stream? name = some s) : b.entries name = s.entries := by
  simp [entries, h]

/-- The groups of a broker are those of its streams. -/
lemma group?_eq (h : b.stream? name = some s) (group : String) :
    b.group? name group = s.group? group := by
  simp [group?, h]

/-- A stream that is missing has the entries of an empty one. -/
lemma entries_getD (b : Broker) (name : String) :
    ((b.stream? name).getD {}).entries = b.entries name := by
  unfold entries
  cases b.stream? name <;> rfl

/-- A stream that is missing has the groups of an empty one. -/
lemma group?_getD (b : Broker) (name group : String) :
    ((b.stream? name).getD {}).group? group = b.group? name group := by
  unfold group?
  cases b.stream? name with
  | none => rfl
  | some s => rfl

/-- The entries of a sound broker are found by their names, also where the stream is missing. -/
lemma Sound.named_getD (sd : b.Sound) (name : String) : ((b.stream? name).getD {}).Named := by
  cases e : b.stream? name with
  | none => exact .empty
  | some s => exact sd.named name s e

end Set

/-- An operation finds a stream and a group where both are there and the broker is open. -/
lemma find_eq_ok_iff {b : Broker} {stream group : String} {s : Stream} {g : Group} :
    b.find stream group = .ok (s, g) ↔
      b.closed = false ∧ b.stream? stream = some s ∧ s.group? group = some g := by
  unfold find
  constructor
  · intro h
    cases hc : b.closed with
    | true =>
      rw [hc] at h
      cases h
    | false =>
      cases hs : b.stream? stream with
      | none =>
        rw [hc, hs] at h
        cases h
      | some s1 =>
        cases hg : s1.group? group with
        | none =>
          simp only [hc, hs, hg] at h
          cases h
        | some g1 =>
          simp only [hc, hs, hg] at h
          cases h
          exact ⟨rfl, rfl, hg⟩
  · rintro ⟨hc, hs, hg⟩
    simp only [hc, hs, hg]
    rfl

/-- The groups of a broker, one of them in a new state. -/
def withGroup (b : Broker) (stream group : String) (g : Group) (k l : String) : Option Group :=
  if k = stream ∧ l = group then some g else b.group? k l

/-- The entries of a broker, one of the streams with one more. -/
def withEntry (b : Broker) (stream : String) (m : Message) (k : String) : List Message :=
  if k = stream then b.entries k ++ [m] else b.entries k

/-- The first broker is open and becomes the second one, which has the entries and the groups. -/
structure Becomes (b b' : Broker) (entries : String → List Message)
    (groups : String → String → Option Group) : Prop where
  was_open : b.closed = false
  is_open : b'.closed = false
  claimIdle : b'.claimIdle = b.claimIdle
  entries : ∀ k, b'.entries k = entries k
  groups : ∀ k l, b'.group? k l = groups k l

/-- A new state of a group is seen as such, and nothing else changes. -/
lemma becomes_setGroup {b : Broker} {stream group : String} {s : Stream} {g : Group}
    (op : b.closed = false) (hs : (b.stream? stream).getD {} = s) :
    b.Becomes (b.setStream stream (s.setGroup group g)) b.entries (b.withGroup stream group g) where
  was_open := op
  is_open := op
  claimIdle := rfl
  entries := by
    intro k
    rw [entries_setStream]
    split
    next e =>
      subst e hs
      exact entries_getD b k
    next => rfl
  groups := by
    intro k l
    unfold withGroup
    rw [group?_setStream]
    by_cases ek : k = stream
    · subst ek hs
      by_cases el : l = group
      · simp [Stream.group?_setGroup, el]
      · simp [Stream.group?_setGroup, el, group?_getD]
    · simp [ek]

/-- Setting a sound stream keeps a broker sound. -/
lemma Sound.setStream {b : Broker} (sd : b.Sound) {name : String} {s : Stream} (nm : s.Named)
    (gs : ∀ group g, s.group? group = some g → g.Sound s.entries.length) :
    (b.setStream name s).Sound where
  named := by
    intro k s1 h
    rw [stream?_setStream] at h
    split at h
    next =>
      cases h
      exact nm
    next => exact sd.named k s1 h
  groups := by
    intro k l g h
    rw [group?_setStream] at h
    rw [entries_setStream]
    split at h
    next e =>
      rw [if_pos e]
      exact gs l g h
    next e =>
      rw [if_neg e]
      exact sd.groups k l g h

/-- Setting a sound group keeps a broker sound. -/
lemma Sound.setGroup {b : Broker} (sd : b.Sound) {stream : String} (group : String) {s : Stream}
    {g : Group} (hs : (b.stream? stream).getD {} = s) (gs : g.Sound (b.entries stream).length) :
    (b.setStream stream (s.setGroup group g)).Sound := by
  subst hs
  have nm := sd.named_getD stream
  have len : (((b.stream? stream).getD {}).setGroup group g).entries = b.entries stream :=
    entries_getD b stream
  apply sd.setStream
  · exact ⟨nm.offsets, nm.last⟩
  · intro l g1 h
    rw [len]
    rw [Stream.group?_setGroup] at h
    split at h
    next =>
      cases h
      exact gs
    next =>
      rw [group?_getD] at h
      exact sd.groups stream l g1 h

section Operations

variable {b b' : Broker} {stream group : String}

/-- Creating a group in an open broker sets a new one, or the one that is there once more. -/
lemma createGroup_of_open (op : b.closed = false) (stream group : String) :
    b.createGroup stream group = .ok (b.setStream stream
      (((b.stream? stream).getD {}).setGroup group ((b.group? stream group).getD {}))) := by
  rw [← group?_getD]
  unfold createGroup
  rw [op]
  cases hg : ((b.stream? stream).getD {}).group? group with
  | none => simp [hg]
  | some g => simp [hg, Stream.setGroup_self hg]

/-- Groups are created in an open broker only. -/
lemma open_of_createGroup (h : b.createGroup stream group = .ok b') : b.closed = false := by
  cases op : b.closed with
  | false => rfl
  | true =>
    simp only [createGroup, op] at h
    cases h

/-- Creating a group makes sure that it is there. -/
lemma createGroup_spec (h : b.createGroup stream group = .ok b') :
    b.Becomes b' b.entries (b.withGroup stream group ((b.group? stream group).getD {})) := by
  have op := open_of_createGroup h
  rw [createGroup_of_open op] at h
  cases h
  exact becomes_setGroup op rfl

/-- Creating a group keeps a broker sound. -/
lemma Sound.createGroup (sd : b.Sound) (h : b.createGroup stream group = .ok b') : b'.Sound := by
  rw [createGroup_of_open (open_of_createGroup h)] at h
  cases h
  apply sd.setGroup group rfl
  cases e : b.group? stream group with
  | none => exact .empty _
  | some g => exact sd.groups stream group g e

/-- A group that exists is not created again. -/
lemma createGroup_of_exists {g : Group} (op : b.closed = false)
    (h : b.group? stream group = some g) : b.createGroup stream group = .ok b := by
  obtain ⟨s, hs, hg⟩ := Option.bind_eq_some_iff.1 h
  have same : b.setStream stream s = b := by
    unfold setStream
    rw [put_eq_self hs]
  rw [createGroup_of_open op, h, hs]
  simp [Stream.setGroup_self hg, same]

/-- What publishing does where it succeeds. -/
lemma publish_inv {now : Int} {payload : String} {id : MessageId}
    (h : b.publish now stream payload = .ok (id, b')) :
    b.closed = false ∧ id = (((b.stream? stream).getD {}).append now payload).1 ∧
      b' = b.setStream stream (((b.stream? stream).getD {}).append now payload).2 := by
  unfold publish at h
  cases op : b.closed with
  | true =>
    rw [op] at h
    cases h
  | false =>
    rw [op] at h
    cases h
    exact ⟨rfl, rfl, rfl⟩

/-- Publishing appends an entry. -/
lemma publish_spec {now : Int} {payload : String} {id : MessageId}
    (h : b.publish now stream payload = .ok (id, b')) :
    b.Becomes b' (b.withEntry stream ⟨id, payload⟩) b.group? := by
  obtain ⟨op, rfl, rfl⟩ := publish_inv h
  refine ⟨op, op, rfl, ?_, ?_⟩
  · intro k
    unfold withEntry
    rw [entries_setStream]
    split
    next e =>
      subst e
      rw [← entries_getD]
      rfl
    next => rfl
  · intro k l
    rw [group?_setStream]
    split
    next e =>
      subst e
      exact group?_getD b k l
    next => rfl

/-- Publishing to an open broker succeeds. -/
lemma publish_of_open (op : b.closed = false) (now : Int) (stream payload : String) :
    ∃ id b', b.publish now stream payload = .ok (id, b') := by
  unfold publish
  rw [op]
  exact ⟨_, _, rfl⟩

/-- Publishing keeps a broker sound. -/
lemma Sound.publish (sd : b.Sound) {now : Int} {payload : String} {id : MessageId}
    (h : b.publish now stream payload = .ok (id, b')) : b'.Sound := by
  obtain ⟨-, -, rfl⟩ := publish_inv h
  apply sd.setStream ((sd.named_getD stream).append now payload)
  intro l g hg
  have hg' : b.group? stream l = some g := by
    rw [← group?_getD]
    exact hg
  apply (sd.groups stream l g hg').grow
  simp [Stream.append, entries_getD]

/-- What a successful poll has done: it has delivered from the group that it found. -/
lemma poll_inv {now max : Nat} {consumer : String} {messages : List Message}
    (h : b.poll now stream group consumer max = .ok (messages, b')) :
    ∃ s g, b.closed = false ∧ b.stream? stream = some s ∧ s.group? group = some g ∧
      messages = (g.deliver b.claimIdle now consumer max s.entries.length).1.filterMap
        (fun offset => s.entries[offset]?) ∧
      b' = b.setStream stream (s.setGroup group
        (g.deliver b.claimIdle now consumer max s.entries.length).2) := by
  unfold poll at h
  cases hf : b.find stream group with
  | error e =>
    rw [hf] at h
    cases h
  | ok found =>
    obtain ⟨s, g⟩ := found
    rw [hf] at h
    cases h
    obtain ⟨op, hs, hg⟩ := find_eq_ok_iff.1 hf
    exact ⟨s, g, op, hs, hg, rfl, rfl⟩

/-- Polling gives what the group delivers. -/
lemma poll_spec {now max : Nat} {consumer : String} {messages : List Message}
    (h : b.poll now stream group consumer max = .ok (messages, b')) :
    ∃ g, b.group? stream group = some g ∧
      messages = (g.deliver b.claimIdle now consumer max (b.entries stream).length).1.filterMap
        (fun offset => (b.entries stream)[offset]?) ∧
      b.Becomes b' b.entries (b.withGroup stream group
        (g.deliver b.claimIdle now consumer max (b.entries stream).length).2) := by
  obtain ⟨s, g, op, hs, hg, rfl, rfl⟩ := poll_inv h
  rw [entries_eq hs]
  refine ⟨g, (group?_eq hs group).trans hg, rfl, ?_⟩
  exact becomes_setGroup op (by rw [hs]; rfl)

/-- Polling keeps a broker sound. -/
lemma Sound.poll (sd : b.Sound) {now max : Nat} {consumer : String} {messages : List Message}
    (h : b.poll now stream group consumer max = .ok (messages, b')) : b'.Sound := by
  obtain ⟨s, g, -, hs, hg, -, rfl⟩ := poll_inv h
  have gs := sd.groups stream group g ((group?_eq hs group).trans hg)
  rw [← entries_eq hs]
  exact sd.setGroup group (by rw [hs]; rfl) (gs.deliver max)

/-- What acknowledging does where it succeeds. -/
lemma ackNames_inv {names : List String} {count : Nat}
    (h : b.ackNames stream group names = .ok (count, b')) :
    ∃ s g, b.closed = false ∧ b.stream? stream = some s ∧ s.group? group = some g ∧
      count = (g.acknowledgeAll (names.filterMap s.offset?)).1 ∧
      b' = b.setStream stream (s.setGroup group
        (g.acknowledgeAll (names.filterMap s.offset?)).2) := by
  unfold ackNames at h
  cases hf : b.find stream group with
  | error e =>
    rw [hf] at h
    cases h
  | ok found =>
    obtain ⟨s, g⟩ := found
    rw [hf] at h
    cases h
    obtain ⟨op, hs, hg⟩ := find_eq_ok_iff.1 hf
    exact ⟨s, g, op, hs, hg, rfl, rfl⟩

/-- Acknowledging takes the named entries off the pending ones of the group. -/
lemma ackNames_spec {names : List String} {count : Nat}
    (h : b.ackNames stream group names = .ok (count, b')) :
    ∃ g, b.group? stream group = some g ∧
      count = (g.acknowledgeAll (names.filterMap (b.offset? stream))).1 ∧
      b.Becomes b' b.entries (b.withGroup stream group
        (g.acknowledgeAll (names.filterMap (b.offset? stream))).2) := by
  obtain ⟨s, g, op, hs, hg, rfl, rfl⟩ := ackNames_inv h
  have ho : b.offset? stream = s.offset? := by
    funext name
    simp [offset?, hs]
  rw [ho]
  refine ⟨g, (group?_eq hs group).trans hg, rfl, ?_⟩
  exact becomes_setGroup op (by rw [hs]; rfl)

/-- An open broker takes acknowledgements for every group that exists. -/
lemma ackNames_of_open {g : Group} (op : b.closed = false) (h : b.group? stream group = some g)
    (names : List String) : ∃ count b', b.ackNames stream group names = .ok (count, b') := by
  obtain ⟨s, hs, hg⟩ := Option.bind_eq_some_iff.1 h
  have hf := find_eq_ok_iff.2 ⟨op, hs, hg⟩
  unfold ackNames
  rw [hf]
  exact ⟨_, _, rfl⟩

/-- Acknowledging in an open broker succeeds where the group is there. -/
lemma ack_of_open {g : Group} (op : b.closed = false) (h : b.group? stream group = some g)
    (ids : List MessageId) : ∃ count b', b.ack stream group ids = .ok (count, b') :=
  ackNames_of_open op h (ids.map MessageId.text)

/-- Acknowledging keeps a broker sound. -/
lemma Sound.ackNames (sd : b.Sound) {names : List String} {count : Nat}
    (h : b.ackNames stream group names = .ok (count, b')) : b'.Sound := by
  obtain ⟨s, g, -, hs, hg, -, rfl⟩ := ackNames_inv h
  have gs := sd.groups stream group g ((group?_eq hs group).trans hg)
  exact sd.setGroup group (by rw [hs]; rfl) (gs.acknowledgeAll _)

/-- Closing keeps a broker sound. -/
lemma Sound.close (sd : b.Sound) : b.close.Sound := ⟨sd.named, sd.groups⟩

/-- The place of a name is the place of the entry that has it. -/
lemma Sound.offset?_eq_some_iff (sd : b.Sound) {name : String} {offset : Nat} :
    b.offset? stream name = some offset ↔
      ∃ m, (b.entries stream)[offset]? = some m ∧ m.id.text = name := by
  unfold offset? entries
  cases hs : b.stream? stream with
  | none => simp
  | some s => exact (sd.named stream s hs).offset?_eq_some_iff

/-- Entries of one stream with the same name are the same entry. -/
lemma Sound.id_inj (sd : b.Sound) {o1 o2 : Nat} {m1 m2 : Message}
    (h1 : (b.entries stream)[o1]? = some m1) (h2 : (b.entries stream)[o2]? = some m2)
    (e : m1.id = m2.id) : o1 = o2 := by
  have p1 := sd.offset?_eq_some_iff.2 ⟨m1, h1, rfl⟩
  have p2 := sd.offset?_eq_some_iff.2 ⟨m2, h2, congrArg MessageId.text e.symm⟩
  rw [p1] at p2
  exact Option.some.inj p2

end Operations

end Broker

end Whereabouts
