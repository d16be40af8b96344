import Mathlib.Data.Prod.Lex
import Whereabouts.Proofs.Stream.Fleet

/-!
# The order of names

Whatever the clock shows, the names of the entries of a stream only grow, and they stay different
when they are written. So a name leads back to the entry that it was given to, for good.

* `Stream.of_mem_appendAll`: what a name is that is given later.
* `Stream.entries_appendAll`: the entries have the names that were given.
* `Stream.leads_back`: a name leads to its entry, also after more is appended.
* `Broker.Sound.publish_leads_back`: so it does in a broker, among any other operations.
* `names_lead_back`: the main statement.
-/

namespace Whereabouts

namespace MessageId

/-- The name that follows is that of a later moment, or the next one of the same moment. -/
lemma next_cases (last : MessageId) (now : Int) :
    (last.next now).millis = now ∧ (last.next now).seq = 0 ∨
      (last.next now).millis = last.millis ∧ (last.next now).seq = last.seq + 1 := by
  unfold next
  split
  next later => exact .inl ⟨by dsimp only; omega, rfl⟩
  next => exact .inr ⟨rfl, rfl⟩

/-- One name is before another one by the moment first, then by the count. -/
lemma before_iff_lex {a b : MessageId} :
    a.before b = true ↔ toLex (a.millis, a.seq) < toLex (b.millis, b.seq) := by
  rw [before_iff, Prod.Lex.toLex_lt_toLex]

end MessageId

namespace Stream

/-- Appends entries one after the other, each at a reading of the clock, and gives their names. -/
def appendAll (s : Stream) : List (Int × String) → List MessageId × Stream
  | [] => ([], s)
  | (now, payload) :: rest =>
    let (id, s) := s.append now payload
    let (ids, s) := s.appendAll rest
    (id :: ids, s)

variable {s : Stream} {appends : List (Int × String)}

/-- Appending some entries appends the first one and then the others. -/
lemma appendAll_cons (s : Stream) (e : Int × String) (rest : List (Int × String)) :
    s.appendAll (e :: rest) = ((s.append e.1 e.2).1 :: ((s.append e.1 e.2).2.appendAll rest).1,
      ((s.append e.1 e.2).2.appendAll rest).2) :=
  rfl

/-- Appending in two parts is appending one after the other. -/
lemma appendAll_append (s : Stream) (earlier later : List (Int × String)) :
    s.appendAll (earlier ++ later) =
      ((s.appendAll earlier).1 ++ ((s.appendAll earlier).2.appendAll later).1,
        ((s.appendAll earlier).2.appendAll later).2) := by
  induction earlier generalizing s with
  | nil => rfl
  | cons e earlier ih => rw [List.cons_append, appendAll_cons, ih, appendAll_cons, List.cons_append]

/-- The names stay exact while entries are appended. -/
lemma Named.appendAll (nm : s.Named) (appends : List (Int × String)) :
    (s.appendAll appends).2.Named := by
  induction appends generalizing s with
  | nil => exact nm
  | cons e appends ih => exact ih (nm.append e.1 e.2)

/-- A name that is given later is after the last one, counts no more entries than are appended, and
is that of the last moment or of a reading of the clock. -/
lemma of_mem_appendAll {id : MessageId} (mem : id ∈ (s.appendAll appends).1) :
    s.last.before id = true ∧ id.seq ≤ s.last.seq + appends.length ∧
      (id.millis = s.last.millis ∨ ∃ e ∈ appends, (id.millis : Int) = e.1) := by
  induction appends generalizing s with
  | nil => cases mem
  | cons e appends ih =>
    have following := MessageId.before_next s.last e.1
    have cases := MessageId.next_cases s.last e.1
    rcases List.mem_cons.1 mem with rfl | mem
    · refine ⟨following, ?_, ?_⟩
      · show (s.last.next e.1).seq ≤ _
        rw [List.length_cons]
        omega
      · exact cases.elim (fun now => .inr ⟨e, List.mem_cons_self, now.1⟩) fun same => .inl same.1
    · obtain ⟨after, count, moment⟩ := ih mem
      change (s.last.next e.1).before id = true at after
      change id.seq ≤ (s.last.next e.1).seq + _ at count
      change id.millis = (s.last.next e.1).millis ∨ _ at moment
      refine ⟨MessageId.before_trans following after, ?_, ?_⟩
      · rw [List.length_cons]
        omega
      · rcases moment with same | ⟨e', there, reading⟩
        · rw [same]
          exact cases.elim (fun now => .inr ⟨e, List.mem_cons_self, now.1⟩) fun old => .inl old.1
        · exact .inr ⟨e', List.mem_cons_of_mem e there, reading⟩

/-- The names are given in order. -/
lemma pairwise_appendAll (s : Stream) (appends : List (Int × String)) :
    (s.appendAll appends).1.Pairwise fun a b => a.before b = true := by
  induction appends generalizing s with
  | nil => exact .nil
  | cons e appends ih =>
    -- the first name is the last one of the stream to which the rest is appended
    exact List.pairwise_cons.2 ⟨fun id mem => (of_mem_appendAll mem).1, ih _⟩

/-- Every entry that is appended gets a name. -/
lemma length_appendAll (s : Stream) (appends : List (Int × String)) :
    (s.appendAll appends).1.length = appends.length := by
  induction appends generalizing s with
  | nil => rfl
  | cons e appends ih => exact congrArg (· + 1) (ih _)

/-- The entries come with the names that were given. -/
lemma entries_appendAll (s : Stream) (appends : List (Int × String)) :
    (s.appendAll appends).2.entries = s.entries ++
      (s.appendAll appends).1.zipWith (fun id e => ⟨id, e.2⟩) appends := by
  induction appends generalizing s with
  | nil => exact (List.append_nil _).symm
  | cons e appends ih =>
    have rest := ih (s.append e.1 e.2).2
    have first : (s.append e.1 e.2).2.entries = s.entries ++ [⟨(s.append e.1 e.2).1, e.2⟩] := rfl
    rw [first, List.append_assoc] at rest
    exact rest

/-- What was given as a name stays the name of its entry, whatever is appended later. -/
lemma leads_back (appends later : List (Int × String)) {id : MessageId} {e : Int × String} {i : Nat}
    (named : (({} : Stream).appendAll appends).1[i]? = some id) (given : appends[i]? = some e) :
    let s := (({} : Stream).appendAll (appends ++ later)).2
    s.offset? id.text = some i ∧ s.entries[i]? = some ⟨id, e.2⟩ := by
  intro s
  have there : s.entries[i]? = some ⟨id, e.2⟩ := by
    obtain ⟨lt, -⟩ := List.getElem?_eq_some_iff.1 named
    rw [entries_appendAll, List.nil_append, List.getElem?_zipWith, appendAll_append,
      List.getElem?_append_left lt, named, List.getElem?_append_left (length_appendAll _ _ ▸ lt), given]
  exact ⟨(Named.empty.appendAll _).offset?_eq_some_iff.2 ⟨_, there, rfl⟩, there⟩

end Stream

namespace Broker

variable {b b' : Broker} {stream payload : String} {now : Int} {id : MessageId}

/-- Operations take back nothing and keep a broker sound. -/
lemma Sound.afterAll (sd : b.Sound) (ops : List Operation) :
    (b.afterAll ops).Sound ∧ b.Grows (b.afterAll ops) := by
  induction ops using List.reverseRecOn with
  | nil => exact ⟨sd, .refl b⟩
  | append_singleton ops op ih =>
    obtain ⟨sound, grown⟩ := ih
    have step := (b.afterAll ops).grows_after op
    rw [afterAll_concat]
    exact ⟨sound.after op, step.claimIdle.trans grown.claimIdle,
      fun k => (grown.entries k).trans (step.entries k), step.closed ∘ grown.closed⟩

/-- The name that is given to an entry leads to it. -/
lemma Sound.publish_leads_back (sd : b.Sound) (h : b.publish now stream payload = .ok (id, b'))
    (later : List Operation) :
    (b'.afterAll later).offset? stream id.text = some (b.entries stream).length ∧
      ((b'.afterAll later).entries stream)[(b.entries stream).length]? = some ⟨id, payload⟩ := by
  obtain ⟨sound, grown⟩ := (sd.publish h).afterAll later
  have there : (b'.entries stream)[(b.entries stream).length]? = some ⟨id, payload⟩ := by
    rw [(publish_spec h).entries]
    simp [withEntry]
  exact ⟨sound.offset?_eq_some_iff.2 ⟨_, grown.getElem? there, rfl⟩, grown.getElem? there⟩

/-- The name of the next entry is after the names of all entries so far. -/
lemma Sound.before_published (sd : b.Sound) (h : b.publish now stream payload = .ok (id, b'))
    {m : Message} (mem : m ∈ b.entries stream) : m.id.before id = true := by
  obtain ⟨-, rfl, -⟩ := publish_inv h
  rw [← entries_getD] at mem
  exact (sd.named_getD stream).before_next now mem

end Broker

/-- **Names only grow, and each leads back to its entry.** Append entries to a stream, and let the
clock stand still, jump or go back as it likes. The names are given in order, by moment and by
count; each moment is a reading of the clock or the first of all, and the count never exceeds the
number of entries. Written names are different, and each leads to the entry that it was given to and
to no other, also after more is appended. So it is for an entry that is published to a broker, whatever
operations come before it and after it, and every later entry of the stream has a later name. -/
theorem names_lead_back :
    (∀ appends later : List (Int × String),
      let ids := (({} : Stream).appendAll appends).1
      let s := (({} : Stream).appendAll (appends ++ later)).2
      ids.length = appends.length ∧
      ids.Pairwise (fun a b => toLex (a.millis, a.seq) < toLex (b.millis, b.seq)) ∧
      (∀ id ∈ ids, id.seq ≤ appends.length ∧
        (id.millis = 0 ∨ ∃ e ∈ appends, (id.millis : Int) = e.1)) ∧
      (ids.map (·.text)).Nodup ∧
      ∀ i id e, ids[i]? = some id → appends[i]? = some e →
        s.offset? id.text = some i ∧ s.entries[i]? = some ⟨id, e.2⟩) ∧
    ∀ (claimIdle : Nat) (earlier later : List Operation) (stream payload : String) (now : Int)
      (id : MessageId) (b' : Broker),
      let b := Broker.afterAll { claimIdle } earlier
      b.publish now stream payload = .ok (id, b') →
      (b'.afterAll later).offset? stream id.text = some (b.entries stream).length ∧
      ((b'.afterAll later).entries stream)[(b.entries stream).length]? = some ⟨id, payload⟩ ∧
      ∀ now' payload' id' b'', (b'.afterAll later).publish now' stream payload' = .ok (id', b'') →
        toLex (id.millis, id.seq) < toLex (id'.millis, id'.seq) := by
  constructor
  · intro appends later ids s
    have ordered : ids.Pairwise fun a b => a.before b = true := Stream.pairwise_appendAll _ _
    refine ⟨Stream.length_appendAll _ _, ?_, ?_, ?_, ?_⟩
    · exact ordered.imp fun before => MessageId.before_iff_lex.1 before
    · intro id mem
      obtain ⟨-, count, moment⟩ := Stream.of_mem_appendAll mem
      exact ⟨count.trans (Nat.zero_add _).le, moment⟩
    · refine List.Nodup.map MessageId.text_injective (ordered.imp fun before same => ?_)
      subst same
      exact MessageId.before_irrefl _ before
    · exact fun i id e named given => Stream.leads_back appends later named given
  · intro claimIdle earlier later stream payload now id b' b published
    have sd : b.Sound := Broker.sound_afterAll claimIdle earlier
    obtain ⟨back, there⟩ := sd.publish_leads_back published later
    refine ⟨back, there, fun now' payload' id' b'' next => MessageId.before_iff_lex.1 ?_⟩
    have sound := ((sd.publish published).afterAll later).1
    exact sound.before_published next (List.mem_of_getElem? there)

/-- The clock goes back behind the epoch, and then on. -/
example : (({} : Stream).appendAll [(5, "a"), (-3, "b"), (4, "c"), (7, "d")]).1.map (·.text) =
    ["5-0", "5-1", "5-2", "7-0"] := by
  decide

end Whereabouts
