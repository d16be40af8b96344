import Whereabouts.Proofs.Enrich.Each
import Whereabouts.Proofs.Stream.Iteration

/-!
# Iterations in which nothing fails

Over a gateway that answers from memory, an iteration in which no call fails publishes one record
for each event that it has read, in order: the record that enriching this event alone gives.

* `Enriches.faithful`: this is so for what is published of a batch.
* `Transcript.faithful`: this is so for whole iterations.
-/

namespace Whereabouts

variable {α : Type}

namespace Exchange

/-- The messages that a poll was answered with. -/
def polled : Exchange α → List Message
  | .poll _ _ _ _ (.ok messages) => messages
  | _ => []

/-- The entry that a record has become. -/
def published : Exchange α → List Message
  | .publish _ payload (.ok id) => [⟨id, payload⟩]
  | _ => []

/-- Whether a call has not failed, and events were enriched one by one; a poll may be refused, for
there may be no group so far. -/
def Succeeds (itemOf : Input α → Item α) : Exchange α → Prop
  | .ack _ _ _ answer => ∃ count, answer = .ok count
  | .publish _ _ answer => ∃ id, answer = .ok id
  | .enrich inputs answer => answer = .ok (.ofItems (inputs.map itemOf))
  | _ => True

end Exchange

/-- The events of messages. -/
def Codec.contents (codec : Codec α) (messages : List Message) : List (Event α) :=
  messages.filterMap fun m => codec.event? m.payload

/-- The events of messages, without the names. -/
lemma Codec.map_events (codec : Codec α) (messages : List Message) :
    (codec.events messages).map (·.2) = codec.contents messages := by
  unfold events contents
  rw [List.map_filterMap]
  congr 1
  funext m
  cases codec.event? m.payload <;> rfl

section Session

variable {codec : Codec α} {config : WorkerConfig} {messages : List Message}
  {items : List (Item α)} {said : List (Exchange α)} {itemOf : Input α → Item α}

/-- A message is the record of an item, written at some time. -/
def Codec.Writes (codec : Codec α) (item : Item α) (out : Message) : Prop :=
  ∃ time, out.payload = codec.record item time

/-- Where every record is taken, the entries are the records of the items. -/
lemma writes_publishes {time : String} {answers : List (Except BrokerError MessageId)}
    (len : answers.length = items.length)
    (ok : ∀ x ∈ config.publishes codec time items answers, x.Succeeds itemOf) :
    List.Forall₂ codec.Writes items
      ((config.publishes codec time items answers).flatMap Exchange.published) := by
  induction items generalizing answers with
  | nil => exact .nil
  | cons item items ih =>
    cases answers with
    | nil => cases len
    | cons answer answers =>
      obtain ⟨id, rfl⟩ := ok _ List.mem_cons_self
      exact .cons ⟨time, rfl⟩ (ih (Nat.succ.inj len) fun x hx => ok x (List.mem_cons_of_mem _ hx))

/-- Publishing takes no messages. -/
lemma polled_publishes (codec : Codec α) (config : WorkerConfig) (time : String)
    (items : List (Item α)) (answers : List (Except BrokerError MessageId)) :
    (config.publishes codec time items answers).flatMap Exchange.polled = [] := by
  rw [List.flatMap_eq_nil_iff]
  intro x hx
  obtain ⟨item, answer, rfl⟩ := config.mem_publishes hx
  rfl

/-- The inputs of a batch hold the events of its messages, one by one. -/
lemma forall₂_inputs (codec : Codec α) (messages : List Message) :
    List.Forall₂ (fun event (input : Input α) => input.event = event) (codec.contents messages)
      (codec.inputs messages) := by
  rw [← codec.map_events]
  apply List.forall₂_iff_get.2
  constructor
  · simp
  · intro i h1 h2
    simp [Codec.inputs]

/-- The messages that were read until there are events to enrich; nothing was published. -/
lemma Reads.polled_published (rd : Reads codec config messages said) :
    said.flatMap Exchange.polled = messages ∧ said.flatMap Exchange.published = [] := by
  cases rd with
  | all => exact ⟨List.append_nil _, rfl⟩
  | some => exact ⟨List.append_nil _, rfl⟩

variable [Scalar α]

/-- Until a batch is enriched its messages were taken and nothing was published. -/
lemma Enriches.polled_published (en : Enriches codec config messages items said) :
    said.flatMap Exchange.polled = messages ∧ said.flatMap Exchange.published = [] := by
  cases en with
  | mk _ rd _ =>
    obtain ⟨e1, e2⟩ := rd.polled_published
    simp [e1, e2, Exchange.polled, Exchange.published]

/-- What is said until there are records to publish, where the enrichment does not fail. -/
lemma Enriches.items_eq (en : Enriches codec config messages items said)
    (ok : ∀ x ∈ said, x.Succeeds itemOf) : items = (codec.inputs messages).map itemOf := by
  cases en with
  | mk _ _ _ =>
    have result := ok _ (List.mem_append_right _ List.mem_cons_self)
    simp only [Exchange.Succeeds, Except.ok.injEq, BatchResult.ofItems, BatchResult.mk.injEq]
      at result
    exact result.1

variable [Measured α] {data : MapData α} {e : Enricher Id α}

/-- A message is the record of what enriching an event alone gives. -/
def Enricher.RecordsAlone (e : Enricher Id α) (codec : Codec α) (event : Event α) (out : Message) :
    Prop :=
  ∃ result item, e.enrich [⟨0, event⟩] = pure result ∧ result.items = [item] ∧
    codec.Writes item out

/-- The entries that were published are the records of the events that were read, in order. -/
def Faithful (e : Enricher Id α) (codec : Codec α) (said : List (Exchange α)) : Prop :=
  List.Forall₂ (e.RecordsAlone codec) (codec.contents (said.flatMap Exchange.polled))
    (said.flatMap Exchange.published)

/-- What takes and publishes nothing is faithful. -/
lemma Faithful.of_nil (e1 : said.flatMap Exchange.polled = [])
    (e2 : said.flatMap Exchange.published = []) : Faithful e codec said := by
  unfold Faithful
  rw [e1, e2]
  exact .nil

/-- What is said after something faithful, and faithful itself, makes a faithful whole. -/
lemma Faithful.append {more : List (Exchange α)} (ff : Faithful e codec said)
    (ff' : Faithful e codec more) : Faithful e codec (said ++ more) := by
  unfold Faithful Codec.contents at *
  rw [List.flatMap_append, List.flatMap_append, List.filterMap_append]
  exact List.rel_append ff ff'

/-- Sessions that are faithful are so together. -/
lemma Faithful.flatten {sessions : List (List (Exchange α))}
    (ff : ∀ said ∈ sessions, Faithful e codec said) : Faithful e codec sessions.flatten := by
  induction sessions with
  | nil => exact .of_nil rfl rfl
  | cons said sessions ih =>
    exact (ff said List.mem_cons_self).append (ih fun more h => ff more (List.mem_cons_of_mem _ h))

/-- Where nothing fails, the records of a batch are those of its events alone. -/
lemma Enriches.faithful (he : e.gateway = data.gateway Id)
    (plain : ∀ item index time, codec.record { item with index } time = codec.record item time)
    {time : String} {answers : List (Except BrokerError MessageId)}
    (en : Enriches codec config messages items said) (len : answers.length = items.length)
    (ok : ∀ x ∈ said ++ config.publishes codec time items answers, x.Succeeds (e.itemOf data)) :
    Faithful e codec (said ++ config.publishes codec time items answers) := by
  obtain ⟨polled, published⟩ := en.polled_published
  have items_eq := en.items_eq fun x hx => ok x (List.mem_append_left _ hx)
  have written := writes_publishes len fun x hx => ok x (List.mem_append_right _ hx)
  unfold Faithful
  rw [List.flatMap_append, List.flatMap_append, polled, published, polled_publishes,
    List.append_nil, List.nil_append]
  subst items_eq
  rw [List.forall₂_map_left_iff] at written
  refine (forall₂_comp_iff.2 ⟨_, forall₂_inputs codec messages, written⟩).imp ?_
  rintro event out ⟨⟨index, event⟩, rfl, time, payload⟩
  refine ⟨_, _, Enricher.each_enrich he _, rfl, time, ?_⟩
  -- the number of an event is all that the batch adds to its item, and no record shows it
  rw [payload, Enricher.itemOf_index]
  exact plain _ index time

/-- An iteration in which nothing fails publishes the records of the events that it has read. -/
lemma Transcript.faithful (he : e.gateway = data.gateway Id)
    (plain : ∀ item index time, codec.record { item with index } time = codec.record item time)
    {outcome : Except WorkerError Iteration} (tr : Transcript codec config said outcome)
    (ok : ∀ x ∈ said, x.Succeeds (e.itemOf data)) : Faithful e codec said := by
  cases tr with
  | refused => exact .of_nil rfl rfl
  | idle => exact .of_nil rfl rfl
  | keepsRejects =>
    obtain ⟨count, e⟩ := ok _ (List.mem_cons_of_mem _ List.mem_cons_self)
    cases e
  | noEvents _ none rd =>
    obtain ⟨polled, published⟩ := rd.polled_published
    unfold Faithful
    rw [polled, published, ← codec.map_events, none]
    exact .nil
  | notEnriched =>
    have e := ok _ (List.mem_append_right _ List.mem_cons_self)
    cases e
  | unacknowledged time en len => exact en.faithful he plain len ok
  | acknowledged time count en len =>
    exact (en.faithful he plain len fun x hx => ok x (List.mem_append_left _ hx)).append
      (.of_nil rfl rfl)
  | notAcknowledged =>
    obtain ⟨count, e⟩ := ok _ (List.mem_append_right _ List.mem_cons_self)
    cases e

end Session

end Whereabouts
