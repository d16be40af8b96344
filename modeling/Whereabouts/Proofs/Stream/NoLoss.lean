import Whereabouts.Geometry.Binary64
import Whereabouts.Geometry.Ellipsoid.Area
import Whereabouts.Proofs.Stream.Fleet

/-!
# No event is lost

Workers share a broker that may be closed at any time, entries may be delivered again while another
worker still holds them, and enriching may fail. An entry that was delivered and is not pending any
more holds no event, or its record is on the outbound stream.

* `Records`: an iteration has published the record of an entry.
* `Fleet.AllKept.step`: every step keeps the record of every entry that is settled.
* `Fleet.no_event_lost`: the statement, for every state that can be reached.
-/

namespace Whereabouts

variable {α : Type} [Scalar α]

/-- An iteration has published the record of an entry: its event was one of those that were
enriched, and the record of the result for this event was taken in under a name. -/
inductive Records (codec : Codec α) (config : WorkerConfig) (entry : Message) (event : Event α)
    (out : Message) : List (Exchange α) → Prop where
  | mk {messages items log item} {k : Nat} {answers : List (Except BrokerError MessageId)}
      (time rest) :
    Enriches codec config messages items log →
    answers.length = items.length →
    (codec.events messages)[k]? = some (entry.id, event) →
    items[k]? = some item →
    item.propertyId = event.propertyId →
    answers[k]? = some (.ok out.id) →
    out.payload = codec.record item time →
    Records codec config entry event out (log ++ config.publishes codec time items answers ++ rest)

/-- A record that was published stays so, whatever is said afterwards. -/
lemma Records.append {codec : Codec α} {config : WorkerConfig} {entry out : Message}
    {event : Event α} {said : List (Exchange α)} (rec : Records codec config entry event out said)
    (more : List (Exchange α)) : Records codec config entry event out (said ++ more) := by
  cases rec with
  | mk time rest en len ev it pr an out =>
    rw [List.append_assoc]
    exact .mk time _ en len ev it pr an out

/-- Workers whose broker may be closed at any time and whose gateway may fail at any time; nobody
else acknowledges in their group. -/
def Setting.faulty [Measured α] (codec : Codec α) (inbound outbound group : String) :
    Setting α where
  codec
  inbound
  outbound
  group
  enriches enrich := ∃ (σ : Type) (e : Enricher (StateM σ) α) (s : σ),
    enrich = fun inputs => ((e.enrich inputs).run.run s).1
  outside op := ∀ names, op ≠ .ack inbound group names
  reads _ _ := True

/-- Whatever fails, what is enriched reports on the events. -/
lemma Setting.reports_faulty [Measured α] (codec : Codec α) (inbound outbound group : String) :
    (faulty codec inbound outbound group).Reports := by
  rintro _ ⟨σ, e, s, rfl⟩ inputs result h
  exact e.enrich_reports (Prod.ext h rfl)

namespace Fleet

variable {k : Setting α} {claimIdle : Nat} {configs : List WorkerConfig} {f f' : Fleet α}

/-- A worker has published the record of an entry, and it is on the outbound stream. -/
def Recorded (k : Setting α) (f : Fleet α) (entry : Message) (event : Event α) : Prop :=
  ∃ m ∈ f.members, ∃ said ∈ m.sessions, ∃ out ∈ f.broker.entries k.outbound,
    Records k.codec m.worker.config entry event out said

/-- An entry holds no event, or its record was published. -/
def Kept (k : Setting α) (f : Fleet α) (entry : Message) : Prop :=
  k.codec.event? entry.payload = none ∨
    ∃ event, k.codec.event? entry.payload = some event ∧ Recorded k f entry event

/-- What was published stays so in every step. -/
lemma Kept.step {entry : Message} (st : Step k f f') (kp : Kept k f entry) : Kept k f' entry := by
  obtain none | ⟨event, he, m, hm, said, hs, out, ho, rec⟩ := kp
  · exact .inl none
  · obtain ⟨m', hm', ext⟩ := st.extends m hm
    obtain ⟨more, hs'⟩ := ext.sessions said hs
    refine .inr ⟨event, he, m', hm', _, hs', out, st.grows.mem ho, ?_⟩
    rw [ext.config]
    exact rec.append more

section Acknowledged

variable {m : Member α} {entry : Message}

omit [Scalar α] in
/-- An entry with the name of a message that was delivered is this message. -/
lemma eq_of_polled (sd : f.broker.Sound) (fit : k.Fits m.worker.config)
    (hold : ∀ x ∈ m.current, x.Holds f.broker) {messages : List Message}
    (hp : m.worker.config.poll (.ok messages) ∈ m.current)
    (he : entry ∈ f.broker.entries k.inbound) {message : Message} (hm : message ∈ messages)
    (e : message.id = entry.id) : message = entry := by
  have there : message ∈ f.broker.entries m.worker.config.inbound := hold _ hp message hm
  rw [← fit] at there
  exact sd.eq_of_id there he e

/-- An entry that is dropped holds no event. -/
lemma no_event_of_dropped {batch : MessageBatch α} (sd : f.broker.Sound)
    (fit : k.Fits m.worker.config) (hold : ∀ x ∈ m.current, x.Holds f.broker)
    (tr : Trace k.codec m.worker.config m.current (.dropping batch))
    (he : entry ∈ f.broker.entries k.inbound) (hid : entry.id ∈ batch.malformed) :
    k.codec.event? entry.payload = none := by
  obtain ⟨messages, rfl, -, said⟩ := tr.dropping_inv
  rw [MessageBatch.malformed_ofMessages, Codec.mem_rejects] at hid
  obtain ⟨message, hm, none, e⟩ := hid
  have hp : m.worker.config.poll (.ok messages) ∈ m.current := by simp [said]
  rw [← eq_of_polled sd fit hold hp he hm e]
  exact none

/-- While the broker is open, the record of every event of a batch that is to be acknowledged was
published. -/
lemma recorded_of_acking {batch : MessageBatch α} {flags : List Bool} (sd : f.broker.Sound)
    (op : f.broker.closed = false) (fit : k.Fits m.worker.config)
    (hold : ∀ x ∈ m.current, x.Holds f.broker)
    (tr : Trace k.codec m.worker.config m.current (.acking batch flags))
    (he : entry ∈ f.broker.entries k.inbound) (hid : entry.id ∈ batch.ids) :
    ∃ event out, k.codec.event? entry.payload = some event ∧ out ∈ f.broker.entries k.outbound ∧
      Records k.codec m.worker.config entry event out m.current := by
  obtain ⟨messages, items, log, answers, time, rfl, rfl, -, en, len, said⟩ := tr.acking_inv
  rw [MessageBatch.ids_ofMessages] at hid
  obtain ⟨⟨id, event⟩, hev, rfl⟩ := List.mem_map.1 hid
  obtain ⟨n, hn⟩ := List.mem_iff_getElem?.1 hev
  have lt : n < items.length := en.length_eq ▸ (List.getElem?_eq_some_iff.1 hn).1
  have hi : items[n]? = some items[n] := List.getElem?_eq_getElem lt
  have ha : answers[n]? = some answers[n] := List.getElem?_eq_getElem (len ▸ lt)
  -- the record of the event and the answer to it stand among what was said
  have hx : .publish m.worker.config.outbound (k.codec.record items[n] time) answers[n] ∈
      m.current := by
    rw [said]
    exact List.mem_append_right _ (m.worker.config.publish_mem hi ha)
  have holds := hold _ hx
  -- and the event is the one of the entry
  obtain ⟨message, hm, hev', e⟩ := (k.codec.mem_events messages).1 hev
  have hp : m.worker.config.poll (.ok messages) ∈ m.current := by
    rw [said]
    exact List.mem_append_left _ (en.poll_mem_iff.2 rfl)
  rw [eq_of_polled sd fit hold hp he hm e] at hev'
  obtain ⟨id, event', hn', rp⟩ := en.reports hi
  rw [hn] at hn'
  cases hn'
  cases hans : answers[n] with
  | error e =>
    -- a record is refused by a closed broker only, and that stays closed
    rw [hans] at holds
    have closed : f.broker.closed = true := holds
    rw [op] at closed
    cases closed
  | ok name =>
    rw [hans] at holds ha
    have out : (⟨name, k.codec.record items[n] time⟩ : Message) ∈
        f.broker.entries m.worker.config.outbound := holds
    rw [← fit] at out
    refine ⟨event, _, hev', out, ?_⟩
    rw [said, ← List.append_nil (log ++ _)]
    exact .mk time [] en len hn hi rp.propertyId_eq ha rfl

/-- An entry that is acknowledged holds no event, or its record was published just before. -/
lemma recorded_of_acked {calls : Calls (StateM Broker) α} {stream group : String}
    {ids : List MessageId} {answer : Except BrokerError Nat} {w : Worker α} {b' : Broker}
    (ds : Worker.Does k.codec calls m.worker f.broker (.ack stream group ids answer) w b')
    (sd : f.broker.Sound) (op : f.broker.closed = false) (fit : k.Fits m.worker.config)
    (hold : ∀ x ∈ m.current, x.Holds f.broker) (tl : m.Tells k.codec)
    (he : entry ∈ f.broker.entries k.inbound) (hid : entry.id ∈ ids) :
    k.codec.event? entry.payload = none ∨ ∃ event out,
      k.codec.event? entry.payload = some event ∧ out ∈ f.broker.entries k.outbound ∧
      Records k.codec m.worker.config entry event out m.current := by
  have tr := tl.trace ds
  cases ds with
  | drop ph =>
    rw [ph] at tr
    exact .inl (no_event_of_dropped sd fit hold tr he hid)
  | ack ph =>
    rw [ph] at tr
    have parsed := AckPolicy.select_subset _ _ _ hid
    exact .inr (recorded_of_acking sd op fit hold tr he parsed)

end Acknowledged

/-- Every entry that is settled holds no event, or its record was published. -/
def AllKept (k : Setting α) (f : Fleet α) : Prop :=
  ∀ offset entry, (f.broker.entries k.inbound)[offset]? = some entry →
    f.broker.IsSettled k.inbound k.group offset → Kept k f entry

/-- Where only the workers acknowledge, every step settles only entries whose records were
published. -/
lemma AllKept.step (rp : k.Reports)
    (own : ∀ op, k.outside op → ∀ names, op ≠ .ack k.inbound k.group names)
    (rc : Reachable k claimIdle configs f) (st : Step k f f') (kp : AllKept k f) :
    AllKept k f' := by
  intro offset entry he hs
  have sd := rc.sound
  -- an entry that was settled before the step has kept its record
  have old : f.broker.IsSettled k.inbound k.group offset → Kept k f' entry := by
    intro hs
    exact (kp offset entry (st.grows.entry_of_settled sd hs he) hs).step st
  cases st.effect with
  | none => exact old hs
  | start => exact old hs
  | @call i m enrich time x w b' hm _ _ ds =>
    obtain hs | ⟨ids, answer, rfl, op, -, entry', he', hid⟩ := ds.settled sd hs
    · exact old hs
    · -- the call has acknowledged the entry, whose record the worker has published before
      have same : entry' = entry := Option.some.inj ((ds.grows.getElem? he').symm.trans he)
      rw [same] at he' hid
      have mem := List.mem_of_getElem? hm
      have hold := rc.holds m mem m.current (List.mem_append_right _ List.mem_cons_self)
      obtain none | ⟨event, out, hev, ho, rec⟩ :=
        recorded_of_acked ds sd op (rc.fits m mem) hold (rc.tells rp m mem)
          (List.mem_of_getElem? he') (MessageId.text_mem_map.1 hid)
      · exact .inl none
      · have kept : Kept k f entry := .inr ⟨event, hev, m, mem, m.current,
          List.mem_append_right _ List.mem_cons_self, out, ho, rec⟩
        exact kept.step st
  | outside ho =>
    obtain hs | ⟨names, rfl, -⟩ := (sd.isSettled_after _).1 hs
    · exact old hs
    · exact absurd rfl (own _ ho names)

/-- In every state that can be reached the record of every entry that is settled is kept. -/
lemma Reachable.allKept (rp : k.Reports)
    (own : ∀ op, k.outside op → ∀ names, op ≠ .ack k.inbound k.group names)
    (rc : Reachable k claimIdle configs f) : AllKept k f := by
  induction rc with
  | initial =>
    rintro offset entry - ⟨g, hg, -⟩
    cases hg
  | step rc st ih => exact ih.step rp own rc st

/-- **No event is lost.** Whatever the order of the calls of the workers and of what is done to
their broker from outside, whatever the clock shows, whether the broker is closed and whatever the
gateway does: an entry that was delivered and is not pending any more holds no event, or a worker
has enriched its event and the record of the result is on the outbound stream. So when a group that
exists is drained, the record of every event is there. -/
theorem no_event_lost [Measured α] (codec : Codec α) (inbound outbound group : String)
    (claimIdle : Nat) (configs : List WorkerConfig) {f : Fleet α}
    (rc : Reachable (.faulty codec inbound outbound group) claimIdle configs f) :
    (∀ offset entry, (f.broker.entries inbound)[offset]? = some entry →
      f.broker.IsSettled inbound group offset → codec.event? entry.payload = none ∨
        ∃ event, codec.event? entry.payload = some event ∧
          Recorded (.faulty codec inbound outbound group) f entry event) ∧
    ((f.broker.group? inbound group).isSome → f.broker.isDrained inbound group = true →
      ∀ entry ∈ f.broker.entries inbound, ∀ event, codec.event? entry.payload = some event →
        Recorded (.faulty codec inbound outbound group) f entry event) := by
  have kept := rc.allKept (Setting.reports_faulty codec inbound outbound group) fun op ho => ho
  refine ⟨kept, ?_⟩
  intro there drained entry he event hev
  obtain ⟨offset, at_offset⟩ := List.mem_iff_getElem?.1 he
  obtain missing | all := rc.sound.isDrained_iff.1 drained
  · rw [missing] at there
    cases there
  · have lt := (List.getElem?_eq_some_iff.1 at_offset).1
    obtain none | ⟨event', hev', rec⟩ := kept offset entry at_offset (all offset lt)
    · exact absurd (hev.symm.trans none) (by simp)
    · cases hev.symm.trans hev'
      exact rec

section Sample

/-- Events without coordinates: a payload is the property, and the empty one is no event. -/
def propertyOnly : Codec Float where
  event? payload :=
    if payload = "" then none
    else some ⟨payload, "", none, none, none, none, none, none, none, none, none, none⟩
  record item _ := item.propertyId

/-- What comes of events with no map at hand. -/
def withoutMap (inputs : List (Input Float)) : Except EnrichError (BatchResult Float) :=
  let e : Enricher (StateM Unit) Float :=
    ⟨⟨fun _ => pure [], fun _ => pure [], fun _ => pure []⟩, .standard, none⟩
  ((e.enrich inputs).run.run ()).1

/-- The settings of the only worker. -/
def oneWorker : List WorkerConfig := [⟨"", "", "", "w", 8, ⟨0, 0, 0⟩, .strict⟩]

/-- One worker after it has worked off an event and an entry that holds none. -/
def afterTwoEntries : Fleet Float :=
  let k : Setting Float := .faulty propertyOnly "in" "out" "g"
  let call := act k withoutMap ⟨5, 0, "now"⟩ 0
  let ready := initial k 10 oneWorker |>.after (.publish 1 "in" "home")
    |>.after (.publish 2 "in" "") |>.after (.createGroup "in" "g") |>.start 0
  call (call (call (call (call ready))))

/-- The worker reaches the state in which both entries are settled. -/
lemma reachable_afterTwoEntries :
    Reachable (.faulty propertyOnly "in" "out" "g") 10 oneWorker afterTwoEntries := by
  let k : Setting Float := .faulty propertyOnly "in" "out" "g"
  have call : ∀ {f}, Reachable k 10 oneWorker f →
      Reachable k 10 oneWorker (act k withoutMap ⟨5, 0, "now"⟩ 0 f) :=
    fun rc => rc.step (.act 0 ⟨Unit, _, (), rfl⟩ trivial)
  have publish : ∀ {f} now payload, Reachable k 10 oneWorker f →
      Reachable k 10 oneWorker (f.after (.publish now "in" payload)) :=
    fun now payload rc => rc.step (.outside fun names e => by cases e)
  have group : ∀ {f}, Reachable k 10 oneWorker f →
      Reachable k 10 oneWorker (f.after (.createGroup "in" "g")) :=
    fun rc => rc.step (.outside fun names e => by cases e)
  have ready := (group (publish 2 "" (publish 1 "home" .initial))).step (.start 0)
  exact call (call (call (call (call ready))))

/-- The event has not been lost. -/
theorem home_not_lost : ∃ f entry event,
    Reachable (.faulty propertyOnly "in" "out" "g") 10 oneWorker f ∧
    entry ∈ f.broker.entries "in" ∧ propertyOnly.event? entry.payload = some event ∧
    Recorded (.faulty propertyOnly "in" "out" "g") f entry event :=
  ⟨afterTwoEntries, ⟨⟨1, 0⟩, "home"⟩, _, reachable_afterTwoEntries, by decide, rfl,
    (no_event_lost propertyOnly "in" "out" "g" 10 oneWorker reachable_afterTwoEntries).2
      (by decide) (by decide) _ (by decide) _ rfl⟩

end Sample

end Fleet

end Whereabouts
