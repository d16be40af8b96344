import Mathlib.Data.List.Sort
import Whereabouts.Proofs.Stream.Delivery

/-!
# The history of a group

What a group was given is read off the answers to the polls: `history` lists every entry that a run
of operations has handed over to the group, with the time. Main statement, `Broker.delivery_law`: as
long as the clock does not go back, the first handovers follow the stream without gap or repetition,
and every poll is lawful. It gives nothing that was acknowledged, gives an entry again only if the
entry is pending and was handed over long enough ago, and stays below what was asked for only if
nothing is left to give.

* `Broker.Kept`: what the state of a group says about its history.
* `Broker.Kept.after`, `Broker.kept_afterAll`: one operation keeps this up, and so does every run.
* `Broker.Kept.lawful`: a poll in such a state is lawful.
-/

namespace Whereabouts

/-- What the clock shows at a poll. -/
def Operation.pollTime? : Operation → Option Nat
  | .poll now _ _ _ _ => some now
  | _ => none

/-- Whether the clock of the polls never goes back. -/
def Clocked (ops : List Operation) : Prop :=
  (ops.filterMap Operation.pollTime?).Pairwise (· ≤ ·)

/-- An entry that was given to a group, and when. -/
structure Handover where
  time : Nat
  message : Message

namespace Handover

/-- When an entry was handed over for the last time, `none` if it never was. -/
def lastTime? (past : List Handover) (m : Message) : Option Nat :=
  ((past.filter fun h => h.message = m).getLast?).map (·.time)

/-- After a delivery its messages were delivered last at this time, and the others when they were.
-/
lemma lastTime?_append (past : List Handover) (now : Nat) (messages : List Message) (m : Message) :
    lastTime? (past ++ messages.map fun m => ⟨now, m⟩) m =
      if m ∈ messages then some now else lastTime? past m := by
  have new : (messages.map fun m => Handover.mk now m).filter (fun h => h.message = m) =
      (messages.filter (· = m)).map fun m => ⟨now, m⟩ := by
    rw [List.filter_map]
    rfl
  unfold lastTime?
  rw [List.filter_append, List.getLast?_append, new, List.getLast?_map]
  split
  next mem =>
    have some : m ∈ messages.filter (· = m) := List.mem_filter.2 ⟨mem, decide_eq_true rfl⟩
    rw [List.getLast?_eq_some_getLast (List.ne_nil_of_mem some)]
    rfl
  next left =>
    have none : messages.filter (· = m) = [] :=
      List.filter_eq_nil_iff.2 fun x hx e => left (of_decide_eq_true e ▸ hx)
    rw [none]
    rfl

/-- What was delivered at a time is among what was handed over. -/
lemma mem_of_lastTime? {past : List Handover} {m : Message} {time : Nat}
    (h : lastTime? past m = some time) : ∃ handover ∈ past, handover.message = m ∧
      handover.time = time := by
  obtain ⟨handover, last, e⟩ := Option.map_eq_some_iff.1 h
  obtain ⟨mem, em⟩ := List.mem_filter.1 (List.mem_of_getLast? last)
  exact ⟨handover, mem, of_decide_eq_true em, e⟩

/-- A message was never delivered where it was never handed over. -/
lemma lastTime?_eq_none_iff {past : List Handover} {m : Message} :
    lastTime? past m = none ↔ m ∉ past.map (·.message) := by
  simp [lastTime?]

end Handover

namespace Broker

section Lists

variable {β : Type}

/-- A list without duplicates is as it is without them. -/
lemma eraseDups_of_nodup [BEq β] [LawfulBEq β] {l : List β} (nd : l.Nodup) : l.eraseDups = l := by
  induction l with
  | nil => rfl
  | cons x l ih =>
    obtain ⟨ni, nd'⟩ := List.nodup_cons.1 nd
    have same : (l.filter fun y => !y == x) = l :=
      List.filter_eq_self.2 fun y hy => by simpa using fun e : y = x => ni (e ▸ hy)
    rw [List.eraseDups_cons, same, ih nd']

/-- Items that are picked at ascending places stand in the order of the list. -/
lemma filterMap_getElem?_sublist (l : List β) {places : List Nat}
    (asc : places.Pairwise (· < ·)) (lt : ∀ i ∈ places, i < l.length) :
    (places.filterMap fun i => l[i]?).Sublist l := by
  have sub : places.Sublist (List.range l.length) := by
    apply List.sublist_of_subperm_of_sortedLE
    · exact List.subperm_of_subset (asc.imp Nat.ne_of_lt) fun i hi => List.mem_range.2 (lt i hi)
    · exact (asc.imp Nat.le_of_lt).sortedLE
    · exact (List.pairwise_lt_range.imp Nat.le_of_lt).sortedLE
  have all : ((List.range l.length).filterMap fun i => l[i]?) = l := by
    rw [List.range_eq_range']
    simpa using (take_add_range' l 0 l.length).symm
  have picked := sub.filterMap fun i => l[i]?
  rw [all] at picked
  exact picked

/-- Places within a list all have an item. -/
lemma length_filterMap_getElem? (l : List β) {places : List Nat} (lt : ∀ i ∈ places, i < l.length) :
    (places.filterMap fun i => l[i]?).length = places.length := by
  induction places with
  | nil => rfl
  | cons i places ih =>
    have first := List.getElem?_eq_getElem (lt i List.mem_cons_self)
    rw [List.filterMap_cons, first]
    exact congrArg Nat.succ (ih fun j hj => lt j (List.mem_cons_of_mem i hj))

end Lists

/-- The state of a group; a group that is missing is like a new one. -/
def groupState (b : Broker) (stream group : String) : Group := (b.group? stream group).getD {}

/-- What an operation hands over to a group. -/
def handovers (b : Broker) (stream group : String) : Operation → List Handover
  | .poll now k l consumer max =>
    match b.poll now k l consumer max with
    | .ok (messages, _) =>
      if k = stream ∧ l = group then messages.map fun m => ⟨now, m⟩ else []
    | .error _ => []
  | _ => []

/-- What a list of operations hands over to a group. -/
def history (b : Broker) (stream group : String) : List Operation → List Handover
  | [] => []
  | op :: ops => b.handovers stream group op ++ (b.after op).history stream group ops

/-- What a group was given so far, as its state has it: the entries before `next` were handed over
first, in the order of the stream, and the last time of each pending entry stands with it. -/
structure Kept (b : Broker) (stream group : String) (past : List Handover) : Prop where
  firsts : (past.map (·.message)).eraseDups = b.delivered stream group
  times : ∀ d ∈ (b.groupState stream group).pending, ∃ m, (b.entries stream)[d.offset]? = some m ∧
    Handover.lastTime? past m = some d.time

section History

variable {stream group : String} {b b' : Broker} {past : List Handover}

/-- One operation more hands over after the others. -/
lemma history_concat (b : Broker) (ops : List Operation) (op : Operation) :
    b.history stream group (ops ++ [op]) =
      b.history stream group ops ++ (b.afterAll ops).handovers stream group op := by
  induction ops generalizing b with
  | nil => simp [history, afterAll]
  | cons first ops ih =>
    rw [List.cons_append, history, ih, history, List.append_assoc]
    rfl

/-- Everything is handed over by a poll, at the time of the poll. -/
lemma pollTime?_of_mem_handovers {op : Operation} {handover : Handover}
    (h : handover ∈ b.handovers stream group op) : op.pollTime? = some handover.time := by
  cases op with
  | poll now k l consumer max =>
    cases e : b.poll now k l consumer max with
    | error =>
      simp only [handovers, e] at h
      cases h
    | ok answer =>
      simp only [handovers, e] at h
      split at h
      next =>
        obtain ⟨m, -, rfl⟩ := List.mem_map.1 h
        rfl
      next => cases h
  | createGroup => cases h
  | publish => cases h
  | ack => cases h
  | close => cases h

/-- Messages are handed over at the times of polls. -/
lemma time_mem_of_mem_history {ops : List Operation} {handover : Handover}
    (h : handover ∈ b.history stream group ops) :
    handover.time ∈ ops.filterMap Operation.pollTime? := by
  induction ops generalizing b with
  | nil => cases h
  | cons op ops ih =>
    obtain now | later := List.mem_append.1 h
    · exact List.mem_filterMap.2 ⟨op, List.mem_cons_self, pollTime?_of_mem_handovers now⟩
    · obtain ⟨op', mem, e⟩ := List.mem_filterMap.1 (ih later)
      exact List.mem_filterMap.2 ⟨op', List.mem_cons_of_mem op mem, e⟩

/-- The place of the first new entry is that of the state of the group. -/
lemma next_eq (b : Broker) (stream group : String) :
    b.next stream group = (b.groupState stream group).next := by
  unfold next groupState
  cases b.group? stream group <;> rfl

/-- The state of a group that is there is this group. -/
lemma groupState_eq {g : Group} (h : b.group? stream group = some g) :
    b.groupState stream group = g := by
  simp [groupState, h]

/-- Where one group changes, the states of the others stay. -/
lemma Becomes.groupState_eq {entries : String → List Message} {k l : String} {g : Group}
    (bc : b.Becomes b' entries (b.withGroup k l g)) :
    b'.groupState stream group =
      if stream = k ∧ group = l then g else b.groupState stream group := by
  unfold groupState
  rw [bc.groups]
  unfold withGroup
  split
  · rfl
  · rfl

/-- In a sound broker the state of every group is sound. -/
lemma Sound.groupState (sd : b.Sound) (stream group : String) :
    (b.groupState stream group).Sound (b.entries stream).length := by
  unfold Broker.groupState
  cases h : b.group? stream group with
  | none => exact .empty _
  | some g => exact sd.groups stream group g h

/-- Before anything is done the history of a group is kept. -/
lemma Kept.initial (claimIdle : Nat) (stream group : String) :
    ({ claimIdle } : Broker).Kept stream group [] where
  firsts := rfl
  times := nofun

/-- Nothing changes for a group while nothing is delivered to it and nothing becomes pending. -/
lemma Kept.mono (kp : b.Kept stream group past) (sd : b.Sound) (gr : b.Grows b')
    (next : (b'.groupState stream group).next = (b.groupState stream group).next)
    (pending : ∀ d ∈ (b'.groupState stream group).pending,
      d ∈ (b.groupState stream group).pending) : b'.Kept stream group past where
  firsts := by
    rw [gr.delivered_eq sd]
    · exact kp.firsts
    · rw [next_eq, next_eq, next]
  times := by
    intro d hd
    obtain ⟨m, hm, e⟩ := kp.times d (pending d hd)
    exact ⟨m, gr.getElem? hm, e⟩

/-- An entry was handed over if and only if it stands before the first fresh one. -/
lemma Kept.mem_iff (kp : b.Kept stream group past) (sd : b.Sound) {offset : Nat} {m : Message}
    (hm : (b.entries stream)[offset]? = some m) :
    m ∈ past.map (·.message) ↔ offset < (b.groupState stream group).next := by
  rw [← List.mem_eraseDups, kp.firsts, delivered, next_eq, List.mem_take_iff_getElem]
  constructor
  · rintro ⟨i, lt, e⟩
    have same := sd.id_inj hm (List.getElem?_eq_getElem (by omega)) (congrArg (·.id) e.symm)
    omega
  · intro lt
    obtain ⟨len, e⟩ := List.getElem?_eq_some_iff.1 hm
    exact ⟨offset, by omega, e⟩

/-- An entry is among those at some places only where its own place is one of them. -/
lemma Sound.mem_places (sd : b.Sound) {places : List Nat} {offset : Nat} {m : Message}
    (hm : (b.entries stream)[offset]? = some m)
    (mem : m ∈ places.filterMap fun i => (b.entries stream)[i]?) : offset ∈ places := by
  obtain ⟨i, hi, e⟩ := List.mem_filterMap.1 mem
  cases sd.id_inj e hm rfl
  exact hi

/-- What stands before the first fresh entry was handed over. -/
lemma Kept.handed (kp : b.Kept stream group past) (sd : b.Sound) {places : List Nat}
    (before : ∀ i ∈ places, i < (b.groupState stream group).next) :
    ∀ m ∈ places.filterMap fun i => (b.entries stream)[i]?, m ∈ past.map (·.message) := by
  intro m hm
  obtain ⟨i, hi, here⟩ := List.mem_filterMap.1 hm
  exact (kp.mem_iff sd here).2 (before i hi)

/-- Fresh entries were never handed over. -/
lemma Kept.not_handed (kp : b.Kept stream group past) (sd : b.Sound) {places : List Nat}
    (fresh : ∀ i ∈ places, (b.groupState stream group).next ≤ i) :
    ∀ m ∈ places.filterMap fun i => (b.entries stream)[i]?, m ∉ past.map (·.message) := by
  intro m hm
  obtain ⟨i, hi, here⟩ := List.mem_filterMap.1 hm
  rw [kp.mem_iff sd here]
  exact Nat.not_lt.2 (fresh i hi)

/-- A poll hands over for the first time what is fresh, in the order of the stream. -/
lemma Kept.firsts_poll (kp : b.Kept stream group past) (sd : b.Sound) {now max : Nat}
    {consumer : String} {messages : List Message}
    (h : b.poll now stream group consumer max = .ok (messages, b')) :
    ((past ++ messages.map fun m => (⟨now, m⟩ : Handover)).map (·.message)).eraseDups =
      b'.delivered stream group := by
  obtain ⟨g, hg, em, bc⟩ := poll_spec h
  have gs := sd.groups stream group g hg
  have state := groupState_eq hg
  have state' : b'.groupState stream group = _ := bc.groupState_eq.trans (if_pos ⟨rfl, rfl⟩)
  obtain ⟨again, fresh, sub, le, ed, en, -⟩ := Group.deliver_cases b.claimIdle now consumer g max
    (b.entries stream).length
  -- of what is given, the fresh entries are handed over for the first time, and no others
  have old : ∀ m ∈ again.filterMap fun i => (b.entries stream)[i]?, m ∈ past.map (·.message) :=
    kp.handed sd fun i hi => state ▸ gs.pending_lt i (sub.subset hi)
  have new : ∀ m ∈ (List.range' g.next fresh).filterMap fun i => (b.entries stream)[i]?,
      m ∉ past.map (·.message) :=
    kp.not_handed sd fun i hi => state ▸ (List.mem_range'_1.1 hi).1
  have nodup : ((List.range' g.next fresh).filterMap fun i => (b.entries stream)[i]?).Nodup := by
    refine List.Nodup.sublist ?_ (sd.nodup_ids stream).of_map
    apply filterMap_getElem?_sublist _ List.pairwise_lt_range'
    intro i hi
    have lt := (List.mem_range'_1.1 hi).2
    have nl := gs.next_le
    omega
  have removed : messages.removeAll (past.map (·.message)) =
      (List.range' g.next fresh).filterMap fun i => (b.entries stream)[i]? := by
    rw [em, ed, List.filterMap_append, List.removeAll, List.filter_append,
      List.filter_eq_nil_iff.2, List.nil_append, List.filter_eq_self.2]
    · intro m hm
      simpa using new m hm
    · intro m hm
      simpa using old m hm
  have firsts := kp.firsts
  rw [delivered, next_eq, state] at firsts
  rw [delivered, next_eq, state', en, bc.entries, take_add_range', ← firsts, List.map_append,
    List.eraseDups_append, List.map_map]
  simp only [Function.comp_def, List.map_id_fun', id]
  rw [removed, eraseDups_of_nodup nodup]

/-- After a poll, what is pending stands with the time at which it was last handed over: the time
of the poll for what the poll gives, the time from before for what it leaves. -/
lemma Kept.times_poll (kp : b.Kept stream group past) (sd : b.Sound) {now max : Nat}
    {consumer : String} {messages : List Message}
    (h : b.poll now stream group consumer max = .ok (messages, b')) :
    ∀ d ∈ (b'.groupState stream group).pending, ∃ m, (b'.entries stream)[d.offset]? = some m ∧
      Handover.lastTime? (past ++ messages.map fun m => ⟨now, m⟩) m = some d.time := by
  obtain ⟨g, hg, em, bc⟩ := poll_spec h
  have gs := sd.groups stream group g hg
  have state := groupState_eq hg
  have state' : b'.groupState stream group = _ := bc.groupState_eq.trans (if_pos ⟨rfl, rfl⟩)
  intro d hd
  rw [state'] at hd
  rw [bc.entries, em]
  have mem : d.offset ∈
      (g.deliver b.claimIdle now consumer max (b.entries stream).length).2.offsets :=
    List.mem_map_of_mem hd
  have lt : d.offset < (b.entries stream).length := by
    have sd' : (g.deliver b.claimIdle now consumer max (b.entries stream).length).2.Sound
        (b.entries stream).length := gs.deliver max
    exact Nat.lt_of_lt_of_le (sd'.pending_lt d.offset mem) sd'.next_le
  have here := List.getElem?_eq_getElem lt
  refine ⟨_, here, ?_⟩
  rw [Handover.lastTime?_append]
  obtain ⟨given, time⟩ | ⟨old, left⟩ := gs.pending_deliver hd
  · rw [if_pos (List.mem_filterMap.2 ⟨d.offset, given, here⟩), time]
  · rw [if_neg fun given => left (sd.mem_places here given)]
    obtain ⟨m, hm, e⟩ := kp.times d (state ▸ old)
    rw [here] at hm
    cases hm
    exact e

/-- A poll keeps up what the state of the group says about its history. -/
lemma Kept.poll (kp : b.Kept stream group past) (sd : b.Sound) {now max : Nat} {consumer : String}
    {messages : List Message} (h : b.poll now stream group consumer max = .ok (messages, b')) :
    b'.Kept stream group (past ++ messages.map fun m => ⟨now, m⟩) where
  firsts := kp.firsts_poll sd h
  times := kp.times_poll sd h

/-- An acknowledgement hands over nothing and makes nothing pending. -/
lemma Kept.ack (kp : b.Kept stream group past) (sd : b.Sound) {names : List String} {count : Nat}
    (h : b.ackNames stream group names = .ok (count, b')) : b'.Kept stream group past := by
  obtain ⟨g, hg, -, bc⟩ := ackNames_spec h
  have state := groupState_eq hg
  have state' : b'.groupState stream group = _ := bc.groupState_eq.trans (if_pos ⟨rfl, rfl⟩)
  apply kp.mono sd bc.grows
  · rw [state', state, Group.next_acknowledgeAll]
  · rw [state', state]
    exact g.pending_acknowledgeAll_subset _

/-- What does not touch a group hands nothing over to it. -/
lemma handovers_of_not_touches {op : Operation} (nt : ¬ op.Touches stream group) (b : Broker) :
    b.handovers stream group op = [] := by
  cases op with
  | poll now k l consumer max =>
    cases e : b.poll now k l consumer max with
    | error => simp only [handovers, e]
    | ok answer =>
      simp only [handovers, e]
      exact if_neg nt
  | createGroup => rfl
  | publish => rfl
  | ack => rfl
  | close => rfl

/-- An operation that is none of the group's business leaves its state as it is. -/
lemma groupState_after {op : Operation} (nt : ¬ op.Touches stream group) :
    (b.after op).groupState stream group = b.groupState stream group := by
  obtain ⟨-, -, same⟩ | ⟨answer, sc⟩ := after_inv b op
  · rw [same]
  · generalize b.after op = b' at sc
    cases sc with
    | createGroup h =>
      -- a group that is created is as it was seen while it was missing
      rw [(createGroup_spec h).groupState_eq]
      split
      next e =>
        obtain ⟨rfl, rfl⟩ := e
        rfl
      next => rfl
    | publish h =>
      unfold Broker.groupState
      rw [(publish_spec h).groups]
    | poll h =>
      obtain ⟨g, -, -, bc⟩ := poll_spec h
      rw [bc.groupState_eq, if_neg]
      rintro ⟨rfl, rfl⟩
      exact nt ⟨rfl, rfl⟩
    | ack h =>
      obtain ⟨g, -, -, bc⟩ := ackNames_spec h
      rw [bc.groupState_eq, if_neg]
      rintro ⟨rfl, rfl⟩
      exact nt ⟨rfl, rfl⟩
    | close => rfl

/-- Every operation keeps up what the state of a group says about its history. -/
lemma Kept.after (kp : b.Kept stream group past) (sd : b.Sound) (op : Operation) :
    (b.after op).Kept stream group (past ++ b.handovers stream group op) := by
  by_cases touches : op.Touches stream group
  · cases op with
    | poll now k l consumer max =>
      obtain ⟨rfl, rfl⟩ := touches
      cases h : b.poll now k l consumer max with
      | error e =>
        have same : b.after (.poll now k l consumer max) = b :=
          after_of_error (by simp only [apply, h]; rfl)
        simpa [same, handovers, h] using kp
      | ok answer =>
        have next : b.after (.poll now k l consumer max) = answer.2 :=
          after_of_ok (by simp only [apply, h]; rfl)
        simpa [next, handovers, h] using kp.poll sd h
    | ack k l names =>
      obtain ⟨rfl, rfl⟩ := touches
      cases h : b.ackNames k l names with
      | error e =>
        have same : b.after (.ack k l names) = b :=
          after_of_error (by simp only [apply, h]; rfl)
        simpa [same, handovers] using kp
      | ok answer =>
        have next : b.after (.ack k l names) = answer.2 :=
          after_of_ok (by simp only [apply, h]; rfl)
        simpa [next, handovers] using kp.ack sd h
    | createGroup => exact touches.elim
    | publish => exact touches.elim
    | close => exact touches.elim
  · have state := groupState_after (b := b) touches
    rw [handovers_of_not_touches touches, List.append_nil]
    apply kp.mono sd (b.grows_after op)
    · rw [state]
    · rw [state]
      exact fun d => id

/-- The history of a group is kept by any operations. -/
lemma kept_afterAll (claimIdle : Nat) (ops : List Operation) (stream group : String) :
    (afterAll { claimIdle } ops).Kept stream group (history { claimIdle } stream group ops) := by
  induction ops using List.reverseRecOn with
  | nil => exact .initial claimIdle stream group
  | append_singleton ops op ih =>
    rw [afterAll_concat, history_concat]
    exact ih.after (sound_afterAll claimIdle ops) op

/-- The idle time of a broker stays. -/
lemma claimIdle_afterAll (b : Broker) (ops : List Operation) :
    (b.afterAll ops).claimIdle = b.claimIdle := by
  induction ops generalizing b with
  | nil => rfl
  | cons op ops ih => exact (ih (b.after op)).trans (b.grows_after op).claimIdle

end History

/-- How a group is to be served: a poll at `now` for at most `max` entries gives `messages` and
leaves the broker `b'`, when the group was given `past` and has acknowledged some of it. -/
structure LawfulPoll (b b' : Broker) (claimIdle : Nat) (past : List Handover) (acked : Nat → Prop)
    (stream group : String) (now max : Nat) (messages : List Message) : Prop where
  /-- What was acknowledged is not given again. -/
  not_acked : ∀ offset m, (b.entries stream)[offset]? = some m → acked offset → m ∉ messages
  /-- What is given again is pending, and its last time lies back for long enough. -/
  again : ∀ offset m time, (b.entries stream)[offset]? = some m → m ∈ messages →
    Handover.lastTime? past m = some time → b.IsPending stream group offset ∧ time + claimIdle ≤ now
  at_most : messages.length ≤ max
  /-- Every entry is given once, and they stand in the order of the stream. -/
  nodup : messages.Nodup
  in_order : messages.Sublist (b.entries stream)
  /-- What is given again comes before what is given for the first time. -/
  fresh_last : ∃ again fresh, messages = again ++ fresh ∧
    (∀ m ∈ again, (Handover.lastTime? past m).isSome) ∧
    ∀ m ∈ fresh, Handover.lastTime? past m = none
  /-- A poll that gives less than was asked for leaves no entry undelivered. -/
  none_fresh : messages.length < max → ∀ offset < (b'.entries stream).length,
    ¬ b'.IsFresh stream group offset
  /-- A poll that gives less than was asked for leaves out no entry that was pending for long. -/
  none_idle : messages.length < max → ∀ offset m, (b.entries stream)[offset]? = some m →
    b.IsPending stream group offset → ∃ time, Handover.lastTime? past m = some time ∧
      (time + claimIdle ≤ now → m ∈ messages)

section Law

variable {stream group : String} {b b' : Broker} {past : List Handover}

/-- The last time of a pending entry stands with what is pending. -/
lemma Kept.lastTime_of_pending (kp : b.Kept stream group past) {g : Group}
    (hg : b.group? stream group = some g) {d : Delivery} (hd : d ∈ g.pending) {m : Message}
    (hm : (b.entries stream)[d.offset]? = some m) : Handover.lastTime? past m = some d.time := by
  obtain ⟨m', hm', e⟩ := kp.times d (groupState_eq hg ▸ hd)
  cases hm.symm.trans hm'
  exact e

/-- A message that was handed over lies before the next one. -/
lemma Kept.lt_next (kp : b.Kept stream group past) (sd : b.Sound) {g : Group}
    (hg : b.group? stream group = some g) {offset time : Nat} {m : Message}
    (hm : (b.entries stream)[offset]? = some m) (e : Handover.lastTime? past m = some time) :
    offset < g.next := by
  obtain ⟨handover, mem, same, -⟩ := Handover.mem_of_lastTime? e
  rw [← groupState_eq hg, ← kp.mem_iff sd hm]
  exact List.mem_map.2 ⟨handover, mem, same⟩

/-- What a group is given again comes before what it is given for the first time. -/
lemma Kept.again_fresh (kp : b.Kept stream group past) (sd : b.Sound) {g : Group}
    (hg : b.group? stream group = some g) (now : Nat) (consumer : String) (max : Nat) :
    ∃ again fresh, ((g.deliver b.claimIdle now consumer max (b.entries stream).length).1.filterMap
        fun i => (b.entries stream)[i]?) = again ++ fresh ∧
      (∀ m ∈ again, (Handover.lastTime? past m).isSome) ∧
      ∀ m ∈ fresh, Handover.lastTime? past m = none := by
  have gs := sd.groups stream group g hg
  have state := groupState_eq hg
  obtain ⟨again, fresh, sub, -, ed, -, -⟩ := Group.deliver_cases b.claimIdle now consumer g max
    (b.entries stream).length
  rw [ed, List.filterMap_append]
  refine ⟨_, _, rfl, ?_, ?_⟩
  · intro m hm
    rw [Option.isSome_iff_ne_none, Ne, Handover.lastTime?_eq_none_iff, not_not]
    exact kp.handed sd (fun i hi => state ▸ gs.pending_lt i (sub.subset hi)) m hm
  · intro m hm
    rw [Handover.lastTime?_eq_none_iff]
    exact kp.not_handed sd (fun i hi => state ▸ (List.mem_range'_1.1 hi).1) m hm

/-- A poll serves a group as it is to be served, where no handover lies in the future. -/
lemma Kept.lawful (kp : b.Kept stream group past) (sd : b.Sound) {now max : Nat}
    {consumer : String} {messages : List Message}
    (h : b.poll now stream group consumer max = .ok (messages, b'))
    (clock : ∀ handover ∈ past, handover.time ≤ now) :
    b.LawfulPoll b' b.claimIdle past (b.IsSettled stream group) stream group now max messages := by
  obtain ⟨g, hg, em, bc⟩ := poll_spec h
  have gs := sd.groups stream group g hg
  have lt : ∀ offset ∈ (g.deliver b.claimIdle now consumer max (b.entries stream).length).1,
      offset < (b.entries stream).length := fun _ => gs.delivered_lt
  have sub : messages.Sublist (b.entries stream) :=
    em ▸ filterMap_getElem?_sublist _ (gs.ascending_deliver max) lt
  have len : messages.length =
      (g.deliver b.claimIdle now consumer max (b.entries stream).length).1.length :=
    em ▸ length_filterMap_getElem? _ lt
  have given : ∀ offset m, (b.entries stream)[offset]? = some m → m ∈ messages →
      offset ∈ (g.deliver b.claimIdle now consumer max (b.entries stream).length).1 := by
    intro offset m hm mem
    exact sd.mem_places hm (em ▸ mem)
  constructor
  case not_acked =>
    intro offset m hm settled mem
    obtain ⟨before, left⟩ := (isSettled_iff hg).1 settled
    obtain ⟨d, hd, rfl, -⟩ := Group.idle_of_delivered (given offset m hm mem) before
    exact left (List.mem_map_of_mem hd)
  case again =>
    intro offset m time hm mem e
    obtain ⟨d, hd, rfl, idle⟩ := Group.idle_of_delivered (given offset m hm mem)
      (kp.lt_next sd hg hm e)
    refine ⟨⟨g, hg, List.mem_map_of_mem hd⟩, ?_⟩
    cases e.symm.trans (kp.lastTime_of_pending hg hd hm)
    obtain ⟨handover, hh, -, et⟩ := Handover.mem_of_lastTime? e
    -- the clock is needed here: a difference of times would not see a handover in the future
    have past := et ▸ clock handover hh
    have long : b.claimIdle ≤ now - d.time := of_decide_eq_true idle
    omega
  case at_most =>
    rw [len]
    exact Group.length_deliver_le g max _
  case nodup => exact List.Nodup.sublist sub (sd.nodup_ids stream).of_map
  case in_order => exact sub
  case fresh_last =>
    rw [em]
    exact kp.again_fresh sd hg now consumer max
  case none_fresh =>
    rintro short offset within ⟨g', hg', fresh⟩
    rw [bc.groups, withGroup, if_pos ⟨rfl, rfl⟩] at hg'
    cases hg'
    rw [bc.entries] at within
    have full := (Group.deliver_of_lt g (len ▸ short)).1
    omega
  case none_idle =>
    rintro short offset m hm ⟨g', hg', pending⟩
    cases hg.symm.trans hg'
    obtain ⟨d, hd, rfl⟩ := List.mem_map.1 pending
    refine ⟨d.time, kp.lastTime_of_pending hg hd hm, ?_⟩
    intro long
    have idle : Group.isIdle b.claimIdle now d = true := by
      apply decide_eq_true
      omega
    have mem := (Group.deliver_of_lt g (len ▸ short)).2 d hd idle
    rw [em]
    exact List.mem_filterMap.2 ⟨d.offset, mem, hm⟩

end Law

/-- **The law of delivery.** In every run of operations whose polls see a clock that does not go
back, the first handovers to a group are a prefix of the entries of its stream, and each poll that
is answered is lawful: it gives nothing that was acknowledged before, gives nothing again that is
not pending or was handed over less than `claimIdle` before, gives at most what was asked for, each
entry once and the fresh ones last, and if it gives less, leaves nothing fresh and nothing idle. -/
theorem delivery_law {claimIdle : Nat} {ops : List Operation} (clock : Clocked ops)
    (stream group : String) :
    ((history { claimIdle } stream group ops).map (·.message)).eraseDups <+:
      (afterAll { claimIdle } ops).entries stream ∧
    ∀ earlier now consumer max later, ops = earlier ++ .poll now stream group consumer max :: later →
      ∀ messages b',
        (afterAll { claimIdle } earlier).poll now stream group consumer max = .ok (messages, b') →
        (afterAll { claimIdle } earlier).LawfulPoll b' claimIdle
          (history { claimIdle } stream group earlier) (Acknowledged claimIdle earlier stream group)
          stream group now max messages := by
  constructor
  · rw [(kept_afterAll claimIdle ops stream group).firsts]
    exact List.take_prefix _ _
  · rintro earlier now consumer max later rfl messages b' h
    have kp := kept_afterAll claimIdle earlier stream group
    have past : ∀ handover ∈ history { claimIdle } stream group earlier, handover.time ≤ now := by
      intro handover mem
      unfold Clocked at clock
      rw [List.filterMap_append, List.pairwise_append] at clock
      exact clock.2.2 _ (time_mem_of_mem_history mem) now List.mem_cons_self
    have lawful := kp.lawful (sound_afterAll claimIdle earlier) h past
    have acked : Acknowledged claimIdle earlier stream group =
        (afterAll { claimIdle } earlier).IsSettled stream group := by
      funext offset
      exact propext (acknowledged_iff claimIdle earlier stream group offset)
    rw [claimIdle_afterAll] at lawful
    rw [acked]
    exact lawful

section Sample

/-- Two entries, of which the first is given to a consumer that says nothing more. -/
def afterSilence : List Operation :=
  [.publish 1 "in" "home", .createGroup "in" "g", .publish 1 "in" "work",
    .poll 10 "in" "g" "a" 1]

/-- Thirty moments later another consumer is given both entries, the older one again. -/
theorem home_given_again :
    Clocked (afterSilence ++ [.poll 40 "in" "g" "b" 5]) ∧
    ∃ b', (afterAll { claimIdle := 30 } afterSilence).poll 40 "in" "g" "b" 5 =
        .ok ([⟨⟨1, 0⟩, "home"⟩, ⟨⟨1, 1⟩, "work"⟩], b') ∧
      (afterAll { claimIdle := 30 } afterSilence).LawfulPoll b' 30 [⟨10, ⟨⟨1, 0⟩, "home"⟩⟩]
        (Acknowledged 30 afterSilence "in" "g") "in" "g" 40 5
        [⟨⟨1, 0⟩, "home"⟩, ⟨⟨1, 1⟩, "work"⟩] := by
  have clock : Clocked (afterSilence ++ [.poll 40 "in" "g" "b" 5]) := by
    unfold Clocked
    decide
  exact ⟨clock, _, rfl, (delivery_law clock "in" "g").2 afterSilence 40 "b" 5 [] rfl _ _ rfl⟩

end Sample

end Broker

end Whereabouts
