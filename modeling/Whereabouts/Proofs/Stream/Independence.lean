import Whereabouts.Proofs.Stream.History

/-!
# Groups do not interfere

What a group is answered depends on the entries of its stream and on what the group itself does.
Two brokers that look alike to a group stay alike when they do what concerns the group, and what
concerns other groups or streams cannot be told from nothing.

* `Broker.Alike.step`: an operation that concerns the group.
* `Broker.alike_after`: an operation that does not.
* `Broker.Alike.run`: a whole run, by induction on the operations.
* `Broker.Kept.whole`: a group that is given less than it asks for was given the whole stream.
* `Broker.groups_apart`: the main statement.
-/

namespace Whereabouts

/-- Whether an operation can matter to a group: the group makes it, it publishes on the stream of
the group, or it closes the broker. -/
def Operation.Concerns (stream group : String) : Operation → Prop
  | .publish _ k _ => k = stream
  | .poll _ k l _ _ => k = stream ∧ l = group
  | .ack k l _ => k = stream ∧ l = group
  | .close => True
  | .createGroup _ _ => False

section Decidable

variable (stream group : String)

instance : DecidablePred (Operation.Touches stream group)
  | .poll _ k l _ _ => inferInstanceAs (Decidable (k = stream ∧ l = group))
  | .ack k l _ => inferInstanceAs (Decidable (k = stream ∧ l = group))
  | .createGroup .. | .publish .. | .close => inferInstanceAs (Decidable False)

instance : DecidablePred (Operation.Concerns stream group)
  | .publish _ k _ => inferInstanceAs (Decidable (k = stream))
  | .poll _ k l _ _ => inferInstanceAs (Decidable (k = stream ∧ l = group))
  | .ack k l _ => inferInstanceAs (Decidable (k = stream ∧ l = group))
  | .close => inferInstanceAs (Decidable True)
  | .createGroup .. => inferInstanceAs (Decidable False)

end Decidable

/-- What touches a group concerns it. -/
lemma Operation.Touches.concerns {stream group : String} {op : Operation}
    (h : op.Touches stream group) : op.Concerns stream group := by
  cases op with
  | poll => exact h
  | ack => exact h
  | createGroup => exact h.elim
  | publish => exact h.elim
  | close => exact h.elim

/-- A stream as one of its groups sees it: without the other groups. -/
structure StreamView where
  entries : List Message
  offsets : List (String × Nat)
  last : MessageId
  group : Option Group

/-- What a group sees of a stream. -/
def Stream.view (s : Stream) (group : String) : StreamView :=
  ⟨s.entries, s.offsets, s.last, s.group? group⟩

namespace Broker

/-- What a broker answers to an operation. -/
def answer (b : Broker) (op : Operation) : Except BrokerError Answer := ((execute op).run b).1

/-- What a broker answers to the operations of a group in the course of a run. -/
def answers (b : Broker) (stream group : String) : List Operation → List (Except BrokerError Answer)
  | [] => []
  | op :: ops =>
    let later := (b.after op).answers stream group ops
    if op.Touches stream group then b.answer op :: later else later

/-- Two brokers that look alike to a group: they hold the same stream for it, and are open and
deliver again alike. -/
structure Alike (stream group : String) (b b' : Broker) : Prop where
  claimIdle : b.claimIdle = b'.claimIdle
  closed : b.closed = b'.closed
  view : (b.stream? stream).map (·.view group) = (b'.stream? stream).map (·.view group)

variable {stream group : String} {b b' b'' : Broker}

/-- A broker is alike itself. -/
lemma Alike.refl (b : Broker) : Alike stream group b b := ⟨rfl, rfl, rfl⟩

/-- Likeness is handed on. -/
lemma Alike.trans (al : Alike stream group b b') (al' : Alike stream group b' b'') :
    Alike stream group b b'' :=
  ⟨al.claimIdle.trans al'.claimIdle, al.closed.trans al'.closed, al.view.trans al'.view⟩

/-- A group is the same in brokers that are alike for it. -/
lemma Alike.group?_eq (al : Alike stream group b b') :
    b.group? stream group = b'.group? stream group := by
  have same := congrArg (·.bind StreamView.group) al.view
  simpa [Option.bind_map, Function.comp_def, Stream.view, group?] using same

/-- Its stream has the same entries in brokers that are alike for a group. -/
lemma Alike.entries_eq (al : Alike stream group b b') :
    b.entries stream = b'.entries stream := by
  have same := congrArg (fun view => (view.map StreamView.entries).getD []) al.view
  simpa [Option.map_map, Function.comp_def, Stream.view, entries] using same

section Concerned

variable {s s' : Stream} {g : Group}

/-- Streams that look alike name a new entry alike, and look alike with it. -/
lemma view_append (same : s.view group = s'.view group) (now : Int) (payload : String) :
    (s.append now payload).1 = (s'.append now payload).1 ∧
      (s.append now payload).2.view group = (s'.append now payload).2.view group := by
  obtain ⟨entries, offsets, last, there⟩ := StreamView.mk.inj same
  unfold Stream.append Stream.view
  dsimp only
  rw [entries, offsets, last]
  refine ⟨rfl, ?_⟩
  rw [StreamView.mk.injEq]
  exact ⟨rfl, rfl, rfl, there⟩

/-- Streams that look alike to a group look alike with a new state of the group. -/
lemma view_setGroup (same : s.view group = s'.view group) (g : Group) :
    (s.setGroup group g).view group = (s'.setGroup group g).view group := by
  obtain ⟨entries, offsets, last, -⟩ := StreamView.mk.inj same
  unfold Stream.view
  rw [Stream.group?_setGroup, Stream.group?_setGroup, StreamView.mk.injEq]
  exact ⟨entries, offsets, last, by rw [if_pos rfl, if_pos rfl]⟩

/-- Setting streams that look the same to a group keeps brokers alike for it. -/
lemma Alike.setStream (al : Alike stream group b b') (same : s.view group = s'.view group) :
    Alike stream group (b.setStream stream s) (b'.setStream stream s') where
  claimIdle := al.claimIdle
  closed := al.closed
  view := by
    rw [stream?_setStream, stream?_setStream, if_pos rfl, if_pos rfl]
    exact congrArg some same

/-- Publishing appends to the stream. -/
lemma apply_publish (op : b.closed = false) (hs : b.stream? stream = some s) (now : Int)
    (payload : String) : b.apply (.publish now stream payload) =
      .ok (.published (s.append now payload).1, b.setStream stream (s.append now payload).2) := by
  unfold apply publish
  dsimp only
  rw [op, hs]
  rfl

/-- Polling delivers from the group. -/
lemma poll_eq (op : b.closed = false) (hs : b.stream? stream = some s)
    (hg : s.group? group = some g) (now : Nat) (consumer : String) (max : Nat) :
    b.poll now stream group consumer max =
      .ok ((g.deliver b.claimIdle now consumer max s.entries.length).1.filterMap
          fun offset => s.entries[offset]?,
        b.setStream stream (s.setGroup group
          (g.deliver b.claimIdle now consumer max s.entries.length).2)) := by
  have found := find_eq_ok_iff.2 ⟨op, hs, hg⟩
  unfold poll
  rw [found]
  rfl

/-- A poll is answered with the entries at the places that are delivered. -/
lemma apply_poll (op : b.closed = false) (hs : b.stream? stream = some s)
    (hg : s.group? group = some g) (now : Nat) (consumer : String) (max : Nat) :
    b.apply (.poll now stream group consumer max) =
      .ok (.delivered ((g.deliver b.claimIdle now consumer max s.entries.length).1.filterMap
          fun offset => s.entries[offset]?),
        b.setStream stream (s.setGroup group
          (g.deliver b.claimIdle now consumer max s.entries.length).2)) := by
  unfold apply
  dsimp only
  rw [poll_eq op hs hg]
  rfl

/-- An acknowledgement is answered with the number of deliveries it has ended. -/
lemma apply_ack (op : b.closed = false) (hs : b.stream? stream = some s)
    (hg : s.group? group = some g) (names : List String) :
    b.apply (.ack stream group names) =
      .ok (.acknowledged (g.acknowledgeAll (names.filterMap s.offset?)).1,
        b.setStream stream
          (s.setGroup group (g.acknowledgeAll (names.filterMap s.offset?)).2)) := by
  have found := find_eq_ok_iff.2 ⟨op, hs, hg⟩
  unfold apply ackNames
  dsimp only
  rw [found]
  rfl

/-- An operation that succeeds gives its answer. -/
lemma answer_of_ok {op : Operation} {answer : Answer} (h : b.apply op = .ok (answer, b')) :
    b.answer op = .ok answer := by
  unfold Broker.answer execute perform
  simp only [StateT.run, h]
  rfl

/-- An operation that fails gives its error. -/
lemma answer_of_error {op : Operation} {e : BrokerError} (h : b.apply op = .error e) :
    b.answer op = .error e := by
  unfold Broker.answer execute perform
  simp only [StateT.run, h]
  rfl

/-- A closed broker finds no group. -/
lemma find_of_closed (closed : b.closed = true) (stream group : String) :
    b.find stream group = .error .closed := by
  unfold find
  rw [closed]
  rfl

/-- A broker that is closed refuses everything but to be closed again. -/
lemma apply_of_closed (closed : b.closed = true) {op : Operation} (ne : op ≠ .close) :
    b.apply op = .error .closed := by
  cases op with
  | createGroup => simp [apply, createGroup, closed, Except.map]
  | publish => simp [apply, publish, closed, Except.map]
  | poll now k l consumer max =>
    simp only [apply, poll, find_of_closed closed]
    rfl
  | ack k l names =>
    simp only [apply, ackNames, find_of_closed closed]
    rfl
  | close => exact absurd rfl ne

/-- A group that is there has a stream, which looks the same in brokers that look alike. -/
lemma Alike.exists_stream (al : Alike stream group b b') (hg : b.group? stream group = some g) :
    ∃ s s', b.stream? stream = some s ∧ b'.stream? stream = some s' ∧
      s.view group = s'.view group ∧ s.group? group = some g ∧ s'.group? group = some g := by
  obtain ⟨s, hs, hsg⟩ := Option.bind_eq_some_iff.1 hg
  obtain ⟨s', hs', hsg'⟩ := Option.bind_eq_some_iff.1 (al.group?_eq.symm.trans hg)
  have same := al.view
  rw [hs, hs'] at same
  exact ⟨s, s', hs, hs', Option.some.inj same, hsg, hsg'⟩

/-- Two brokers that succeed alike. -/
lemma Alike.succeed {b1 b1' : Broker} {op : Operation} {answer : Answer}
    (h : b.apply op = .ok (answer, b1)) (h' : b'.apply op = .ok (answer, b1'))
    (al : Alike stream group b1 b1') :
    b.answer op = b'.answer op ∧ Alike stream group (b.after op) (b'.after op) := by
  rw [answer_of_ok h, answer_of_ok h', after_of_ok h, after_of_ok h']
  exact ⟨rfl, al⟩

/-- Two brokers that fail alike. -/
lemma Alike.fail {op : Operation} {e : BrokerError} (h : b.apply op = .error e)
    (h' : b'.apply op = .error e) (al : Alike stream group b b') :
    b.answer op = b'.answer op ∧ Alike stream group (b.after op) (b'.after op) := by
  rw [answer_of_error h, answer_of_error h', after_of_error h, after_of_error h']
  exact ⟨rfl, al⟩

/-- Brokers that look alike to a group do the same where it is concerned, and still look alike. -/
lemma Alike.step (al : Alike stream group b b') (there : (b.group? stream group).isSome)
    {op : Operation} (cn : op.Concerns stream group) :
    b.answer op = b'.answer op ∧ Alike stream group (b.after op) (b'.after op) := by
  obtain ⟨g, hg⟩ := Option.isSome_iff_exists.1 there
  obtain ⟨s, s', hs, hs', same, hsg, hsg'⟩ := al.exists_stream hg
  obtain ⟨entries, offsets, -, -⟩ := StreamView.mk.inj same
  -- closing is the only operation that a closed broker does not refuse
  by_cases shut : op = .close
  · rw [shut]
    exact Alike.succeed rfl rfl ⟨al.claimIdle, rfl, al.view⟩
  · cases closed : b.closed with
    | true =>
      exact Alike.fail (apply_of_closed closed shut)
        (apply_of_closed (al.closed.symm.trans closed) shut) al
    | false =>
      have closed' := al.closed.symm.trans closed
      cases op with
      | createGroup => exact cn.elim
      | publish now k payload =>
        obtain rfl : k = stream := cn
        obtain ⟨id, later⟩ := view_append same now payload
        have done := apply_publish closed' hs' now payload
        rw [← id] at done
        exact Alike.succeed (apply_publish closed hs now payload) done (al.setStream later)
      | poll now k l consumer max =>
        obtain ⟨rfl, rfl⟩ := cn
        have done := apply_poll closed' hs' hsg' now consumer max
        rw [← al.claimIdle, ← (show s.entries = s'.entries from entries)] at done
        exact Alike.succeed (apply_poll closed hs hsg now consumer max) done
          (al.setStream (view_setGroup same _))
      | ack k l names =>
        obtain ⟨rfl, rfl⟩ := cn
        have places : s.offset? = s'.offset? := by
          funext name
          exact congrArg (lookUp name) offsets
        have done := apply_ack closed' hs' hsg' names
        rw [← places] at done
        exact Alike.succeed (apply_ack closed hs hsg names) done
          (al.setStream (view_setGroup same _))
      | close => exact absurd rfl shut

end Concerned

section Unconcerned

/-- A stream in which other groups change looks the same to a group. -/
lemma view_setGroup_of_ne {l : String} (ne : group ≠ l) (s : Stream) (g : Group) :
    (s.setGroup l g).view group = s.view group := by
  unfold Stream.view
  rw [Stream.group?_setGroup, if_neg ne]
  rfl

/-- What is set in other streams, or in a way that cannot be told, changes nothing. -/
lemma alike_setStream {k : String} {s : Stream}
    (same : k = stream → (b.stream? stream).map (·.view group) = some (s.view group)) :
    Alike stream group (b.setStream k s) b where
  claimIdle := rfl
  closed := rfl
  view := by
    rw [stream?_setStream]
    split
    next e => exact (same e.symm).symm
    next => rfl

/-- A group that is there cannot tell from nothing what does not concern it. -/
lemma alike_after (there : (b.group? stream group).isSome) {op : Operation}
    (nc : ¬ op.Concerns stream group) : Alike stream group (b.after op) b := by
  obtain ⟨g, hg⟩ := Option.isSome_iff_exists.1 there
  obtain ⟨s, hs, hsg⟩ := Option.bind_eq_some_iff.1 hg
  obtain ⟨-, -, e⟩ | ⟨answer, sc⟩ := after_inv b op
  · rw [e]
    exact .refl b
  · generalize b.after op = b' at sc
    cases sc with
    | @createGroup k l _ h =>
      rw [createGroup_of_open (open_of_createGroup h)] at h
      cases h
      apply alike_setStream
      rintro rfl
      rw [hs]
      -- a group that is there is left as it is when it is created once more
      by_cases own : l = group
      · subst own
        rw [hg, Option.getD_some, Option.getD_some, Stream.setGroup_self hsg]
        rfl
      · exact congrArg some (view_setGroup_of_ne (Ne.symm own) _ _).symm
    | publish h =>
      obtain ⟨-, -, rfl⟩ := publish_inv h
      exact alike_setStream fun e => absurd e nc
    | @poll now k l consumer max _ _ h =>
      obtain ⟨s', g', -, hs', -, -, rfl⟩ := poll_inv h
      apply alike_setStream
      rintro rfl
      rw [hs']
      exact congrArg some (view_setGroup_of_ne (fun e => nc ⟨rfl, e.symm⟩) _ _).symm
    | @ack k l names _ _ h =>
      obtain ⟨s', g', -, hs', -, -, rfl⟩ := ackNames_inv h
      apply alike_setStream
      rintro rfl
      rw [hs']
      exact congrArg some (view_setGroup_of_ne (fun e => nc ⟨rfl, e.symm⟩) _ _).symm
    | close => exact absurd trivial nc

end Unconcerned

section Run

/-- A group is drained in both of two brokers that are alike for it, or in none. -/
lemma Alike.isDrained_eq (al : Alike stream group b b') :
    b.isDrained stream group = b'.isDrained stream group := by
  have same := congrArg (fun view : Option StreamView =>
    view.all fun v => v.group.all fun g => g.isDrained v.entries.length) al.view
  have drained : ∀ b : Broker, b.isDrained stream group =
      ((b.stream? stream).map (·.view group)).all fun v =>
        v.group.all fun g => g.isDrained v.entries.length := by
    intro b
    unfold isDrained
    cases b.stream? stream <;> rfl
  rw [drained b, drained b']
  exact same

/-- A group has as many pending entries in brokers that are alike for it. -/
lemma Alike.pendingCount_eq (al : Alike stream group b b') :
    b.pendingCount stream group = b'.pendingCount stream group := by
  have same := al.group?_eq
  unfold group? at same
  unfold pendingCount
  rw [same]

/-- A group that is there stays. -/
lemma isSome_group?_after (there : (b.group? stream group).isSome) (op : Operation) :
    ((b.after op).group? stream group).isSome := by
  have kept : ∀ {b' : Broker} {entries k l g}, b.Becomes b' entries (b.withGroup k l g) →
      (b'.group? stream group).isSome := by
    intro b' entries k l g bc
    rw [bc.groups, withGroup]
    split
    next => rfl
    next => exact there
  obtain ⟨-, -, e⟩ | ⟨answer, sc⟩ := after_inv b op
  · rw [e]
    exact there
  · generalize b.after op = b' at sc
    cases sc with
    | createGroup h => exact kept (createGroup_spec h)
    | publish h =>
      rw [(publish_spec h).groups]
      exact there
    | poll h =>
      obtain ⟨g, -, -, bc⟩ := poll_spec h
      exact kept bc
    | ack h =>
      obtain ⟨g, -, -, bc⟩ := ackNames_spec h
      exact kept bc
    | close => exact there

/-- A group that is there stays there. -/
lemma isSome_group?_afterAll (there : (b.group? stream group).isSome) (ops : List Operation) :
    ((b.afterAll ops).group? stream group).isSome := by
  induction ops generalizing b with
  | nil => exact there
  | cons op ops ih => exact ih (isSome_group?_after there op)

/-- A run is to a group what is left of it when all that does not concern the group is taken out. -/
lemma Alike.run (al : Alike stream group b b') (there : (b.group? stream group).isSome)
    (ops : List Operation) :
    b.answers stream group ops =
        b'.answers stream group (ops.filter (·.Concerns stream group)) ∧
      Alike stream group (b.afterAll ops)
        (b'.afterAll (ops.filter (·.Concerns stream group))) := by
  induction ops generalizing b b' with
  | nil => exact ⟨rfl, al⟩
  | cons op ops ih =>
    by_cases cn : op.Concerns stream group
    · obtain ⟨same, next⟩ := al.step there cn
      obtain ⟨later, final⟩ := ih next (isSome_group?_after there op)
      rw [List.filter_cons, if_pos (decide_eq_true cn)]
      refine ⟨?_, final⟩
      rw [answers, answers, same, later]
    · have next := (alike_after there cn).trans al
      obtain ⟨later, final⟩ := ih next (isSome_group?_after there op)
      rw [List.filter_cons, if_neg (by simpa using cn)]
      refine ⟨?_, final⟩
      rw [answers, if_neg fun own => cn own.concerns]
      exact later

end Run

section Whole

/-- When a group was given less than it asked for, or asked for all there is, it was given the whole
stream. -/
lemma Kept.whole {past : List Handover} (kp : b.Kept stream group past) (sd : b.Sound)
    {now max : Nat} {consumer : String} {messages : List Message}
    (h : b.poll now stream group consumer max = .ok (messages, b'))
    (enough : messages.length < max ∨ (b.entries stream).length ≤ max) :
    ((past ++ messages.map (Handover.mk now)).map Handover.message).eraseDups =
      b.entries stream := by
  have firsts := (kp.poll sd h).firsts
  obtain ⟨g, hg, em, bc⟩ := poll_spec h
  have gs := sd.groups stream group g hg
  have full : (b.entries stream).length ≤
      (g.deliver b.claimIdle now consumer max (b.entries stream).length).2.next := by
    obtain short | all := enough
    · have lt : ∀ offset ∈ (g.deliver b.claimIdle now consumer max (b.entries stream).length).1,
          offset < (b.entries stream).length := fun _ => gs.delivered_lt
      rw [em, length_filterMap_getElem? _ lt] at short
      exact (Group.deliver_of_lt g short).1
    · exact gs.next_deliver all
  have next : b'.next stream group =
      (g.deliver b.claimIdle now consumer max (b.entries stream).length).2.next := by
    rw [Broker.next, bc.groups, withGroup, if_pos ⟨rfl, rfl⟩]
    rfl
  rw [firsts, delivered, bc.entries, next]
  exact List.take_of_length_le full

end Whole

/-- How a run goes for a group: what the group is answered, and what is seen of it afterwards. -/
structure Course where
  answers : List (Except BrokerError Answer)
  isDrained : Bool
  pendingCount : Nat
  entries : List Message

def course (b : Broker) (stream group : String) (ops : List Operation) : Course where
  answers := b.answers stream group ops
  isDrained := (b.afterAll ops).isDrained stream group
  pendingCount := (b.afterAll ops).pendingCount stream group
  entries := (b.afterAll ops).entries stream

/-- A run goes for a group as what is left of it when all that does not concern the group is taken
out. -/
lemma Alike.course_eq (al : Alike stream group b b') (there : (b.group? stream group).isSome)
    (ops : List Operation) : b.course stream group ops =
      b'.course stream group (ops.filter (·.Concerns stream group)) := by
  obtain ⟨answers, final⟩ := al.run there ops
  rw [course, course, Course.mk.injEq]
  exact ⟨answers, final.isDrained_eq, final.pendingCount_eq, final.entries_eq⟩

/-- **Groups do not interfere.** Let a group be there at some moment. How the run goes for the group
from then on depends on nothing but the stream and the group as they are at this moment and what
concerns the group afterwards: everything else can be taken out. Whatever the others do, while the
broker is open the group is given what it polls for, and at the first poll that gives less than it
asks for, or asks for as many entries as there are, it has been given the whole stream in order. -/
theorem groups_apart {claimIdle : Nat} {earlier : List Operation} {stream group : String}
    (there : ((afterAll { claimIdle } earlier).group? stream group).isSome) :
    (∀ b', Alike stream group (afterAll { claimIdle } earlier) b' → ∀ ops ops',
      ops.filter (·.Concerns stream group) = ops'.filter (·.Concerns stream group) →
      (afterAll { claimIdle } earlier).course stream group ops = b'.course stream group ops') ∧
    (∀ ops, (afterAll { claimIdle } earlier).course stream group ops =
      (afterAll { claimIdle } earlier).course stream group
        (ops.filter (·.Concerns stream group))) ∧
    ∀ ops, (afterAll { claimIdle } (earlier ++ ops)).closed = false → ∀ now consumer max,
      ∃ messages b', (afterAll { claimIdle } (earlier ++ ops)).poll now stream group consumer max =
          .ok (messages, b') ∧
        (messages.length < max ∨
            ((afterAll { claimIdle } (earlier ++ ops)).entries stream).length ≤ max →
          ((history { claimIdle } stream group
              (earlier ++ ops ++ [.poll now stream group consumer max])).map
                (·.message)).eraseDups =
            (afterAll { claimIdle } (earlier ++ ops)).entries stream) := by
  refine ⟨?_, ?_, ?_⟩
  · intro b' al ops ops' same
    rw [al.course_eq there ops, same]
    exact ((Alike.refl b').course_eq (al.group?_eq ▸ there) ops').symm
  · exact (Alike.refl _).course_eq there
  · intro ops op now consumer max
    have later : ((afterAll { claimIdle } (earlier ++ ops)).group? stream group).isSome := by
      rw [afterAll, List.foldl_append]
      exact isSome_group?_afterAll there ops
    obtain ⟨g, hg⟩ := Option.isSome_iff_exists.1 later
    obtain ⟨s, hs, hsg⟩ := Option.bind_eq_some_iff.1 hg
    have h := poll_eq op hs hsg now consumer max
    refine ⟨_, _, h, ?_⟩
    intro enough
    rw [history_concat]
    have kp := kept_afterAll claimIdle (earlier ++ ops) stream group
    have whole := kp.whole (sound_afterAll claimIdle _) h enough
    simp only [handovers, h]
    exact whole

section Sample

/-- A stream with two entries and two groups. -/
def forTwoGroups : List Operation :=
  [.createGroup "in" "g", .createGroup "in" "h", .publish 1 "in" "home", .publish 1 "in" "work"]

/-- What `g` does, while `h` reads all there is, and more is published here and elsewhere. -/
def amongOthers : List Operation :=
  [.poll 5 "in" "h" "x" 10, .publish 5 "aside" "noise", .ack "in" "h" ["1-0", "1-1"],
    .poll 7 "in" "g" "a" 1, .createGroup "in" "k", .publish 8 "in" "gym", .poll 9 "in" "h" "x" 10,
    .ack "in" "g" ["1-0"]]

/-- What `g` does, by itself. -/
def alone : List Operation :=
  [.poll 7 "in" "g" "a" 1, .publish 8 "in" "gym", .ack "in" "g" ["1-0"]]

/-- A group that reads slowly cannot tell whether another one reads fast, and misses nothing. -/
theorem slow_reader_undisturbed :
    ((afterAll { claimIdle := 30 } forTwoGroups).group? "in" "g").isSome ∧
    (afterAll { claimIdle := 30 } forTwoGroups).course "in" "g" amongOthers =
      (afterAll { claimIdle := 30 } forTwoGroups).course "in" "g" alone ∧
    (afterAll { claimIdle := 30 } forTwoGroups).course "in" "g" alone =
      ⟨[.ok (.delivered [⟨⟨1, 0⟩, "home"⟩]), .ok (.acknowledged 1)], false, 0,
        [⟨⟨1, 0⟩, "home"⟩, ⟨⟨1, 1⟩, "work"⟩, ⟨⟨8, 0⟩, "gym"⟩]⟩ ∧
    ((history { claimIdle := 30 } "in" "g"
        (forTwoGroups ++ amongOthers ++ [.poll 9 "in" "g" "a" 5])).map (·.message)).eraseDups =
      [⟨⟨1, 0⟩, "home"⟩, ⟨⟨1, 1⟩, "work"⟩, ⟨⟨8, 0⟩, "gym"⟩] := by
  have there : ((afterAll { claimIdle := 30 } forTwoGroups).group? "in" "g").isSome := rfl
  obtain ⟨same, -, served⟩ := groups_apart there
  obtain ⟨messages, b', -, whole⟩ := served amongOthers rfl 9 "a" 5
  exact ⟨there, same _ (Alike.refl _) amongOthers alone rfl, rfl, whole (.inr (by decide))⟩

end Sample

end Broker

end Whereabouts
