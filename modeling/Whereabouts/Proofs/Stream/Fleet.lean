import Whereabouts.Proofs.Stream.Iteration
import Whereabouts.Proofs.Stream.Ledger

/-!
# Fleets of workers

Several workers of one group share a broker. A fleet makes a step when a worker begins an iteration,
when a worker makes its next call, or when something else is done to the broker; the steps come in
any order. What may be done to the broker from outside, what the clock may show and what may come of
enriching is part of the setting.

* `Fleet.Step.effect`: what a step does to the broker and to the worker that makes it.
* `Fleet.Step.grows`: no step takes back an entry or opens a broker again.
-/

namespace Whereabouts

namespace Broker

/-- The second broker has all that the first one has, is closed where the first one is, and delivers
again as soon as the first one. -/
structure Grows (b b' : Broker) : Prop where
  claimIdle : b'.claimIdle = b.claimIdle
  entries : ∀ stream, b.entries stream <+: b'.entries stream
  closed : b.closed = true → b'.closed = true

/-- A broker has grown from itself. -/
lemma Grows.refl (b : Broker) : b.Grows b := ⟨rfl, fun _ => List.prefix_rfl, id⟩

/-- Entries stay in a broker that grows. -/
lemma Grows.mem {b b' : Broker} (gr : b.Grows b') {stream : String} {m : Message}
    (h : m ∈ b.entries stream) : m ∈ b'.entries stream :=
  (gr.entries stream).subset h

/-- Where the entries stay, nothing is taken back. -/
lemma Becomes.grows {b b' : Broker} {groups : String → String → Option Group}
    (bc : b.Becomes b' b.entries groups) : b.Grows b' where
  claimIdle := bc.claimIdle
  entries stream := by rw [bc.entries]
  closed h := by simp [bc.was_open] at h

/-- No operation takes back an entry or opens a broker again. -/
lemma grows_after (b : Broker) (op : Operation) : b.Grows (b.after op) := by
  obtain ⟨-, -, e⟩ | ⟨answer, sc⟩ := after_inv b op
  · rw [e]
    exact .refl b
  · generalize b.after op = b' at sc
    cases sc with
    | createGroup h => exact (createGroup_spec h).grows
    | @publish now stream payload id _ h =>
      have bc := publish_spec h
      constructor
      · exact bc.claimIdle
      · intro k
        rw [bc.entries]
        unfold withEntry
        split
        · exact List.prefix_append _ _
        · exact List.prefix_rfl
      · intro closed
        rw [bc.was_open] at closed
        cases closed
    | poll h =>
      obtain ⟨g, -, -, bc⟩ := poll_spec h
      exact bc.grows
    | ack h =>
      obtain ⟨g, -, -, bc⟩ := ackNames_spec h
      exact bc.grows
    | close => exact ⟨rfl, fun _ => List.prefix_rfl, fun _ => rfl⟩

/-- Entries of a sound broker with the same name are the same. -/
lemma Sound.eq_of_id {b : Broker} (sd : b.Sound) {stream : String} {m m' : Message}
    (h : m ∈ b.entries stream) (h' : m' ∈ b.entries stream) (e : m.id = m'.id) : m = m' := by
  obtain ⟨offset, hm⟩ := List.mem_iff_getElem?.1 h
  obtain ⟨offset', hm'⟩ := List.mem_iff_getElem?.1 h'
  cases sd.id_inj hm hm' e
  rw [hm] at hm'
  exact Option.some.inj hm'

/-- Entries stay at their places in a broker that grows. -/
lemma Grows.getElem? {b b' : Broker} (gr : b.Grows b') {stream : String} {offset : Nat}
    {entry : Message} (h : (b.entries stream)[offset]? = some entry) :
    (b'.entries stream)[offset]? = some entry := by
  obtain ⟨lt, -⟩ := List.getElem?_eq_some_iff.1 h
  obtain ⟨more, e⟩ := gr.entries stream
  rw [← e, List.getElem?_append_left lt]
  exact h

/-- What is settled is an entry that is there already. -/
lemma Grows.entry_of_settled {b b' : Broker} (gr : b.Grows b') (sd : b.Sound)
    {stream group : String} {offset : Nat} {entry : Message} (st : b.IsSettled stream group offset)
    (h : (b'.entries stream)[offset]? = some entry) :
    (b.entries stream)[offset]? = some entry := by
  obtain ⟨g, hg, lt, -⟩ := st
  have le := (sd.groups stream group g hg).next_le
  obtain ⟨more, e⟩ := gr.entries stream
  rw [← e, List.getElem?_append_left (by omega)] at h
  exact h

/-- What the answer of an operation that is performed comes from. -/
lemma perform_inv {β : Type} {operation : Broker → Except BrokerError (β × Broker)} {b b' : Broker}
    {answer : Except BrokerError β} (h : (perform (m := Id) operation).run b = (answer, b')) :
    (∃ value, answer = .ok value ∧ operation b = .ok (value, b')) ∨
      ∃ e, answer = .error e ∧ operation b = .error e ∧ b' = b := by
  unfold perform at h
  simp only [StateT.run] at h
  cases e : operation b with
  | ok r =>
    rw [e] at h
    cases h
    exact .inl ⟨_, rfl, rfl⟩
  | error e1 =>
    rw [e] at h
    cases h
    exact .inr ⟨e1, rfl, rfl, rfl⟩

/-- The broker after an operation is the one after it was performed. -/
lemma after_eq {op : Operation} {β : Type} {operation : Broker → Except BrokerError (β × Broker)}
    {said : β → Answer} {b b' : Broker} {answer : Except BrokerError β}
    (e : ∀ b, b.apply op = (operation b).map fun (value, b) => (said value, b))
    (h : (perform (m := Id) operation).run b = (answer, b')) : b.after op = b' := by
  obtain ⟨value, -, ok⟩ | ⟨e1, -, no, rfl⟩ := perform_inv h
  · apply after_of_ok
    rw [e, ok]
    rfl
  · apply after_of_error
    rw [e, no]
    rfl

end Broker

namespace Exchange

variable {α : Type}

/-- What a call does to a broker at a moment. -/
def operation (time : Instant) : Exchange α → Option Operation
  | .createGroup stream group _ => some (.createGroup stream group)
  | .poll stream group consumer max _ => some (.poll time.ticks stream group consumer max)
  | .ack stream group ids _ => some (.ack stream group (ids.map (·.text)))
  | .publish stream payload _ => some (.publish time.wall stream payload)
  | .enrich .. => none

/-- What the answer to a call says of the broker from then on. -/
def Holds (b : Broker) : Exchange α → Prop
  | .poll stream _ _ _ (.ok messages) => ∀ m ∈ messages, m ∈ b.entries stream
  | .publish stream payload (.ok id) => ⟨id, payload⟩ ∈ b.entries stream
  | .publish _ _ (.error _) => b.closed = true
  | _ => True

/-- What an answer says of the broker stays true. -/
lemma Holds.mono {b b' : Broker} (gr : b.Grows b') {x : Exchange α} (h : x.Holds b) :
    x.Holds b' := by
  match x with
  | .poll stream _ _ _ (.ok messages) => exact fun m hm => gr.mem (h m hm)
  | .publish stream payload (.ok id) => exact gr.mem h
  | .publish _ _ (.error _) => exact gr.closed h
  | .createGroup .. | .poll _ _ _ _ (.error _) | .ack .. | .enrich .. => trivial

end Exchange

namespace Worker

variable {α : Type} {codec : Codec α}
  {enrich : List (Input α) → Except EnrichError (BatchResult α)} {time : Instant} {w w' : Worker α}
  {b b' : Broker} {x : Exchange α}

/-- A call does its operation to the broker. -/
lemma Does.broker_eq (ds : Does codec (Broker.calls (m := Id) enrich (pure time)) w b x w' b') :
    b' = (x.operation time).elim b b.after := by
  cases ds with
  | poll _ h => exact (Broker.after_eq (fun _ => rfl) h).symm
  | drop _ h => exact (Broker.after_eq (fun _ => rfl) h).symm
  | enrich _ h h' =>
    cases h
    cases h'
    rfl
  | publish _ h => exact (Broker.after_eq (fun _ => rfl) h).symm
  | ack _ h => exact (Broker.after_eq (fun _ => rfl) h).symm

/-- The answer to a call holds of the broker afterwards. -/
lemma Does.holds (ds : Does codec (Broker.calls (m := Id) enrich (pure time)) w b x w' b') :
    x.Holds b' := by
  cases ds with
  | poll _ h =>
    obtain ⟨messages, rfl, ok⟩ | ⟨e, rfl, -, -⟩ := Broker.perform_inv h
    · obtain ⟨g, -, rfl, bc⟩ := Broker.poll_spec ok
      intro m hm
      obtain ⟨offset, -, at_offset⟩ := List.mem_filterMap.1 hm
      rw [bc.entries]
      exact List.mem_of_getElem? at_offset
    · trivial
  | drop => trivial
  | enrich => trivial
  | publish _ h =>
    obtain ⟨id, rfl, ok⟩ | ⟨e, rfl, no, rfl⟩ := Broker.perform_inv h
    · have bc := Broker.publish_spec ok
      show _ ∈ b'.entries _
      rw [bc.entries]
      simp [Broker.withEntry]
    · show b'.closed = true
      by_contra op
      obtain ⟨id, b1, ok⟩ := Broker.publish_of_open (Bool.eq_false_of_not_eq_true op) _ _ _
      rw [ok] at no
      cases no
  | ack => trivial

/-- A call of a worker lets the broker grow. -/
lemma Does.grows (ds : Does codec (Broker.calls (m := Id) enrich (pure time)) w b x w' b') :
    b.Grows b' := by
  rw [ds.broker_eq]
  cases x.operation time with
  | none => exact .refl b
  | some op => exact b.grows_after op

/-- A call of a worker keeps the broker sound. -/
lemma Does.sound (ds : Does codec (Broker.calls (m := Id) enrich (pure time)) w b x w' b')
    (sd : b.Sound) : b'.Sound := by
  rw [ds.broker_eq]
  cases x.operation time with
  | none => exact sd
  | some op => exact sd.after op

/-- A call settles only what it acknowledges. -/
lemma Does.settled (ds : Does codec (Broker.calls (m := Id) enrich (pure time)) w b x w' b')
    (sd : b.Sound) {stream group : String} {offset : Nat} (st : b'.IsSettled stream group offset) :
    b.IsSettled stream group offset ∨
      ∃ ids answer, x = .ack stream group ids answer ∧
        b.Acks stream group (ids.map (·.text)) offset := by
  rw [ds.broker_eq] at st
  cases hx : x.operation time with
  | none =>
    rw [hx] at st
    exact .inl st
  | some op =>
    rw [hx] at st
    obtain st | ⟨names, rfl, ak⟩ := (sd.isSettled_after op).1 st
    · exact .inl st
    · cases x with
      | ack stream group ids answer =>
        cases hx
        exact .inr ⟨ids, answer, rfl, ak⟩
      | _ => cases hx

end Worker

/-- A worker, and what it has said in its earlier iterations and in the current one. -/
structure Member (α : Type) where
  worker : Worker α
  past : List (List (Exchange α)) := []
  current : List (Exchange α) := []

/-- What workers share, and what they have to expect. -/
structure Setting (α : Type) where
  codec : Codec α
  inbound : String
  outbound : String
  group : String
  /-- What may come of enriching batches. -/
  enriches : (List (Input α) → Except EnrichError (BatchResult α)) → Prop
  /-- What may be done to the broker from outside. -/
  outside : Operation → Prop
  /-- What the clock may show. -/
  reads : Broker → Instant → Prop

/-- Workers that share a broker. -/
structure Fleet (α : Type) where
  broker : Broker
  members : List (Member α)

variable {α : Type}

namespace Member

/-- What a worker has said, iteration by iteration. -/
def sessions (m : Member α) : List (List (Exchange α)) := m.past ++ [m.current]

/-- The worker at the beginning of an iteration. -/
def start (m : Member α) : Member α := ⟨m.worker.start, m.sessions, []⟩

/-- The worker and the broker after the next call of the worker. -/
def act (codec : Codec α) (calls : Calls (StateM Broker) α) (m : Member α) (b : Broker) :
    Member α × Broker :=
  let ((worker, current), b) := ((m.worker.step codec calls.recorded).run m.current).run b
  ({ m with worker, current }, b)

/-- The worker after a call. -/
def say (m : Member α) (x : Exchange α) (w : Worker α) : Member α :=
  { m with worker := w, current := m.current ++ [x] }

/-- A worker that acts rests, or makes a call. -/
lemma act_inv (codec : Codec α) (calls : Calls (StateM Broker) α) (m : Member α) (b : Broker) :
    m.act codec calls b = (m, b) ∨ ∃ x w b', Worker.Does codec calls m.worker b x w b' ∧
      m.act codec calls b = (m.say x w, b') := by
  obtain ⟨outcome, ph⟩ | ⟨x, w, b', ds, -, e⟩ :=
    Worker.step_recorded codec calls m.worker m.current b
  · left
    unfold act
    rw [(Worker.step_of_resting ph m.current b).2]
  · refine .inr ⟨x, w, b', ds, ?_⟩
    unfold act
    rw [e]
    rfl

/-- The second worker is the first one after it has said more. -/
structure Extends (m m' : Member α) : Prop where
  config : m'.worker.config = m.worker.config
  sessions : ∀ said ∈ m.sessions, ∃ more, said ++ more ∈ m'.sessions

/-- A worker has said no less than it has said. -/
lemma Extends.refl (m : Member α) : m.Extends m where
  config := rfl
  sessions said hs := ⟨[], (List.append_nil said).symm ▸ hs⟩

/-- A worker that starts anew has said no less than before. -/
lemma extends_start (m : Member α) : m.Extends m.start where
  config := rfl
  sessions said hs :=
    ⟨[], List.mem_append_left _ ((List.append_nil said).symm ▸ hs)⟩

/-- A worker that says something has said no less than before. -/
lemma extends_say (m : Member α) (x : Exchange α) {w : Worker α}
    (ec : w.config = m.worker.config) : m.Extends (m.say x w) where
  config := ec
  sessions := by
    intro said hs
    obtain hs | hs := List.mem_append.1 hs
    · exact ⟨[], List.mem_append_left _ ((List.append_nil said).symm ▸ hs)⟩
    · rw [List.mem_singleton.1 hs]
      exact ⟨[x], List.mem_append_right _ List.mem_cons_self⟩

/-- What a worker has said agrees with its phase, and it has completed its earlier iterations. -/
structure Tells [Scalar α] (codec : Codec α) (m : Member α) : Prop where
  past : ∀ said ∈ m.past, said = [] ∨ ∃ outcome, Transcript codec m.worker.config said outcome
  current : (m.current = [] ∧ ∃ outcome, m.worker.phase = .resting outcome) ∨
    Trace codec m.worker.config m.current m.worker.phase

/-- What a worker has said before it makes a call. -/
lemma Tells.trace [Scalar α] {codec : Codec α} {calls : Calls (StateM Broker) α} {m : Member α}
    {b b' : Broker} {x : Exchange α} {w : Worker α} (tl : m.Tells codec)
    (ds : Worker.Does codec calls m.worker b x w b') :
    Trace codec m.worker.config m.current m.worker.phase := by
  obtain ⟨-, outcome, ph⟩ | tr := tl.current
  · exact absurd ph ds.not_resting
  · exact tr

end Member

namespace Setting

/-- The settings of a worker, with the streams and the group of the setting. -/
def configure (k : Setting α) (config : WorkerConfig) : WorkerConfig :=
  { config with inbound := k.inbound, outbound := k.outbound, group := k.group }

/-- Whether a worker has the streams and the group of the setting. -/
def Fits (k : Setting α) (config : WorkerConfig) : Prop := k.configure config = config

/-- Whether the results of a batch report its events one by one. -/
def Reports [Scalar α] (k : Setting α) : Prop :=
  ∀ enrich, k.enriches enrich → ∀ inputs result, enrich inputs = .ok result →
    List.Forall₂ Item.Reports inputs result.items

end Setting

namespace Fleet

/-- The fleet after a worker that rests begins an iteration. -/
def start (i : Nat) (f : Fleet α) : Fleet α :=
  match f.members[i]? with
  | some m =>
    match m.worker.phase with
    | .resting _ => ⟨f.broker, f.members.set i m.start⟩
    | _ => f
  | none => f

/-- The fleet after a worker makes its next call. -/
def act (k : Setting α) (enrich : List (Input α) → Except EnrichError (BatchResult α))
    (time : Instant) (i : Nat) (f : Fleet α) : Fleet α :=
  match f.members[i]? with
  | some m =>
    let (m, b) := m.act k.codec (Broker.calls (m := Id) enrich (pure time)) f.broker
    ⟨b, f.members.set i m⟩
  | none => f

/-- The fleet after something else is done to the broker. -/
def after (op : Operation) (f : Fleet α) : Fleet α := ⟨f.broker.after op, f.members⟩

/-- A fleet makes a step. -/
inductive Step (k : Setting α) (f : Fleet α) : Fleet α → Prop where
  | start (i) : Step k f (f.start i)
  | act (i) {enrich time} :
    k.enriches enrich →
    k.reads f.broker time →
    Step k f (f.act k enrich time i)
  | outside {op} :
    k.outside op →
    Step k f (f.after op)

/-- What can happen in a step. -/
inductive Effect (k : Setting α) (f : Fleet α) : Fleet α → Prop where
  | none : Effect k f f
  | start {i m outcome} :
    f.members[i]? = some m →
    m.worker.phase = .resting outcome →
    Effect k f ⟨f.broker, f.members.set i m.start⟩
  | call {i m enrich time x w b'} :
    f.members[i]? = some m →
    k.enriches enrich →
    k.reads f.broker time →
    Worker.Does k.codec (Broker.calls (m := Id) enrich (pure time)) m.worker f.broker x w b' →
    Effect k f ⟨b', f.members.set i (m.say x w)⟩
  | outside {op} :
    k.outside op →
    Effect k f ⟨f.broker.after op, f.members⟩

/-- A step of a fleet is a call of a worker, the beginning of an iteration, or something from
outside. -/
lemma Step.effect {k : Setting α} {f f' : Fleet α} (st : Step k f f') : Effect k f f' := by
  cases st with
  | start i =>
    unfold Fleet.start
    split
    next m hm =>
      split
      next outcome ph => exact .start hm ph
      next => exact .none
    next => exact .none
  | @act i enrich time he hr =>
    unfold Fleet.act
    split
    next m hm =>
      obtain e | ⟨x, w, b', ds, e⟩ :=
        m.act_inv k.codec (Broker.calls (m := Id) enrich (pure time)) f.broker
      · -- a worker that rests stays as it is, and so does the fleet
        obtain ⟨lt, same⟩ := List.getElem?_eq_some_iff.1 hm
        rw [e]
        dsimp only
        rw [← same, List.set_getElem_self lt]
        exact .none
      · rw [e]
        exact .call hm he hr ds
    next => exact .none
  | outside ho => exact .outside ho

/-- An empty broker, and workers that have done nothing so far. -/
def initial (k : Setting α) (claimIdle : Nat) (configs : List WorkerConfig) : Fleet α :=
  ⟨{ claimIdle }, configs.map fun config => { worker := { config := k.configure config } }⟩

/-- What a fleet can come to by any number of steps. -/
inductive Reachable (k : Setting α) (claimIdle : Nat) (configs : List WorkerConfig) :
    Fleet α → Prop where
  | initial : Reachable k claimIdle configs (initial k claimIdle configs)
  | step {f f'} :
    Reachable k claimIdle configs f →
    Step k f f' →
    Reachable k claimIdle configs f'

section Reachable

variable {k : Setting α} {claimIdle : Nat} {configs : List WorkerConfig} {f f' : Fleet α}

/-- A step of a fleet lets its broker grow. -/
lemma Step.grows (st : Step k f f') : f.broker.Grows f'.broker := by
  cases st.effect with
  | none => exact .refl f.broker
  | start => exact .refl f.broker
  | call _ _ _ ds => exact ds.grows
  | outside => exact f.broker.grows_after _

/-- Where one worker has said more, every worker has said no less. -/
lemma extends_set {members : List (Member α)} {i : Nat} {m1 m1' : Member α}
    (h1 : members[i]? = some m1) (ext : m1.Extends m1') :
    ∀ m ∈ members, ∃ m' ∈ members.set i m1', m.Extends m' := by
  intro m hm
  obtain ⟨j, hj⟩ := List.mem_iff_getElem?.1 hm
  by_cases e : i = j
  · subst e
    rw [h1] at hj
    cases hj
    exact ⟨m1', List.mem_set (List.getElem?_eq_some_iff.1 h1).1 m1', ext⟩
  · refine ⟨m, List.mem_iff_getElem?.2 ⟨j, ?_⟩, .refl m⟩
    rw [List.getElem?_set_ne e]
    exact hj

/-- In no step a worker takes back what it has said. -/
lemma Step.extends (st : Step k f f') : ∀ m ∈ f.members, ∃ m' ∈ f'.members, m.Extends m' := by
  cases st.effect with
  | none => exact fun m hm => ⟨m, hm, .refl m⟩
  | start hm => exact extends_set hm (Member.extends_start _)
  | call hm _ _ ds => exact extends_set hm (Member.extends_say _ _ ds.config_eq)
  | outside => exact fun m hm => ⟨m, hm, .refl m⟩

/-- The broker of a fleet is always sound. -/
lemma Reachable.sound (rc : Reachable k claimIdle configs f) : f.broker.Sound := by
  induction rc with
  | initial => exact .empty claimIdle
  | step _ st ih =>
    cases st.effect with
    | none => exact ih
    | start => exact ih
    | call _ _ _ ds => exact ds.sound ih
    | outside => exact ih.after _

/-- The idle time of the broker stays in every state of a fleet. -/
lemma Reachable.claimIdle_eq (rc : Reachable k claimIdle configs f) :
    f.broker.claimIdle = claimIdle := by
  induction rc with
  | initial => rfl
  | step _ st ih => exact st.grows.claimIdle.trans ih

/-- What is true of new workers, and stays true when the broker grows, when they begin an iteration
and when they make a call, is always true of all workers. -/
lemma Reachable.forall_members {P : Broker → Member α → Prop}
    (rc : Reachable k claimIdle configs f)
    (fresh : ∀ config, k.Fits config → P { claimIdle } { worker := { config } })
    (grow : ∀ {b b' m}, b.Grows b' → P b m → P b' m)
    (start : ∀ {b m outcome}, m.worker.phase = .resting outcome → P b m → P b m.start)
    (call : ∀ {b b' m enrich time x w}, k.enriches enrich →
      Worker.Does k.codec (Broker.calls (m := Id) enrich (pure time)) m.worker b x w b' →
      P b m → P b' (m.say x w)) : ∀ m ∈ f.members, P f.broker m := by
  induction rc with
  | initial =>
    intro m hm
    obtain ⟨config, -, rfl⟩ := List.mem_map.1 hm
    exact fresh (k.configure config) rfl
  | step _ st ih =>
    have kept := fun m hm => grow st.grows (ih m hm)
    cases st.effect with
    | none => exact kept
    | start hm ph =>
      intro m' hm'
      obtain old | rfl := List.mem_or_eq_of_mem_set hm'
      · exact kept m' old
      · exact start ph (ih _ (List.mem_of_getElem? hm))
    | call hm he _ ds =>
      intro m' hm'
      obtain old | rfl := List.mem_or_eq_of_mem_set hm'
      · exact kept m' old
      · exact call he ds (ih _ (List.mem_of_getElem? hm))
    | outside => exact kept

/-- The settings of every worker fit in every state of a fleet. -/
lemma Reachable.fits (rc : Reachable k claimIdle configs f) :
    ∀ m ∈ f.members, k.Fits m.worker.config := by
  refine rc.forall_members (P := fun _ m => k.Fits m.worker.config) ?_ ?_ ?_ ?_
  · exact fun config fit => fit
  · exact fun _ fit => fit
  · exact fun _ fit => fit
  · intro b b' m enrich time x w _ ds fit
    show k.Fits w.config
    rw [ds.config_eq]
    exact fit

/-- What the workers were answered is true of the broker. -/
lemma Reachable.holds (rc : Reachable k claimIdle configs f) :
    ∀ m ∈ f.members, ∀ said ∈ m.sessions, ∀ x ∈ said, x.Holds f.broker := by
  refine rc.forall_members (P := fun b m => ∀ said ∈ m.sessions, ∀ x ∈ said, x.Holds b) ?_ ?_ ?_ ?_
  · intro config _ said hs x hx
    rw [List.mem_singleton.1 hs] at hx
    cases hx
  · exact fun gr hold said hs x hx => (hold said hs x hx).mono gr
  · intro b m outcome _ hold said hs x hx
    obtain hs | hs := List.mem_append.1 hs
    · exact hold said hs x hx
    · rw [List.mem_singleton.1 hs] at hx
      cases hx
  · intro b b' m enrich time x w _ ds hold said hs y hy
    obtain hs | hs := List.mem_append.1 hs
    · exact (hold said (List.mem_append_left _ hs) y hy).mono ds.grows
    · rw [List.mem_singleton.1 hs] at hy
      obtain hy | hy := List.mem_append.1 hy
      · exact (hold m.current (List.mem_append_right _ List.mem_cons_self) y hy).mono ds.grows
      · rw [List.mem_singleton.1 hy]
        exact ds.holds

/-- What all workers have said agrees with their phases. -/
lemma Reachable.tells [Scalar α] (rp : k.Reports) (rc : Reachable k claimIdle configs f) :
    ∀ m ∈ f.members, m.Tells k.codec := by
  refine rc.forall_members (P := fun _ m => m.Tells k.codec) ?_ ?_ ?_ ?_
  · intro config _
    exact ⟨fun said hs => absurd hs List.not_mem_nil, .inl ⟨rfl, _, rfl⟩⟩
  · exact fun _ tl => tl
  · intro b m outcome ph tl
    -- the iteration that has come to rest is one of the earlier ones from now on
    refine ⟨?_, .inr .polling⟩
    intro said hs
    obtain hs | hs := List.mem_append.1 hs
    · exact tl.past said hs
    · rw [List.mem_singleton.1 hs]
      obtain ⟨e, -⟩ | tr := tl.current
      · exact .inl e
      · rw [ph] at tr
        exact .inr ⟨outcome, tr.transcript⟩
  · intro b b' m enrich time x w he ds tl
    have tr := ds.trace (fun _ _ _ h => rp enrich he _ _ (congrArg Prod.fst h)) (tl.trace ds)
    rw [← ds.config_eq] at tr
    refine ⟨?_, .inr tr⟩
    show ∀ said ∈ m.past, said = [] ∨ ∃ outcome, Transcript k.codec w.config said outcome
    rw [ds.config_eq]
    exact tl.past

end Reachable

end Fleet

end Whereabouts
