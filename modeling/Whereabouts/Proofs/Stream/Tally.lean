import Mathlib.Algebra.GroupWithZero.Nat
import Whereabouts.Proofs.Stream.ExactlyOnce

/-!
# What the counters of a worker say

The counters of a worker are an extract of what it has said, whoever answers its calls.

* `Worker.Does.stats_eq`: what a call adds to the counters.
* `Member.Tallies.say`: the counters of a worker say what it has said, after each call.
* `Transcript.records`: an iteration publishes as many records as it has enriched events.
-/

namespace Whereabouts

variable {α : Type}

namespace Exchange

/-- How many pending entries were acknowledged. -/
def acked : Exchange α → Nat
  | .ack _ _ _ (.ok count) => count
  | _ => 0

/-- Whether a call is to publish a record. -/
def isRecord : Exchange α → Bool
  | .publish .. => true
  | _ => false

/-- Whether a call has enriched a batch. -/
def isEnriched : Exchange α → Bool
  | .enrich _ (.ok _) => true
  | _ => false

end Exchange

/-- The messages that hold no events. -/
def Codec.malformed (codec : Codec α) (messages : List Message) : List Message :=
  messages.filter fun m => (codec.event? m.payload).isNone

/-- A message holds an event or it does not. -/
lemma Codec.length_malformed_add (codec : Codec α) (messages : List Message) :
    (codec.malformed messages).length + (codec.contents messages).length = messages.length := by
  induction messages with
  | nil => rfl
  | cons m rest ih =>
    unfold malformed contents at ih ⊢
    cases e : codec.event? m.payload with
    | none =>
      simp only [List.filter_cons, List.filterMap_cons, e, Option.isNone_none, List.length_cons,
        if_true]
      omega
    | some event =>
      simp only [List.filter_cons, List.filterMap_cons, e, Option.isNone_some, List.length_cons,
        Bool.false_eq_true, if_false]
      omega

/-- The events of the batch of an iteration in which the batch was enriched. -/
def Codec.enriched (codec : Codec α) (said : List (Exchange α)) : List (Event α) :=
  if said.any Exchange.isEnriched then codec.contents (said.flatMap Exchange.polled) else []

namespace Worker

/-- How many iterations are under way. -/
def underWay (w : Worker α) : Nat :=
  match w.phase with
  | .resting _ => 0
  | _ => 1

/-- Nothing is under way where a worker is at rest. -/
lemma underWay_eq_zero_iff {w : Worker α} :
    w.underWay = 0 ↔ ∃ outcome, w.phase = .resting outcome := by
  unfold underWay
  cases w.phase <;> simp

/-- At most one iteration is under way. -/
lemma underWay_le (w : Worker α) : w.underWay ≤ 1 := by
  unfold underWay
  split
  · exact Nat.zero_le 1
  · exact Nat.le_refl 1

section Stats

variable (w : Worker α) (batch : MessageBatch α) (flags : List Bool)

/-- Going on to the events counts nothing. -/
@[simp] lemma stats_toEvents : (w.toEvents batch).stats = w.stats := by
  unfold toEvents
  split <;> rfl

/-- Going on to the acknowledgements counts nothing. -/
@[simp] lemma stats_toAcks : (w.toAcks batch flags).stats = w.stats := by
  unfold toAcks
  split <;> rfl

/-- Going on to the records counts nothing. -/
@[simp] lemma stats_toRecords (time : String) (items : List (Item α)) :
    (w.toRecords batch time items flags).stats = w.stats := by
  cases items with
  | nil => exact stats_toAcks w batch flags
  | cons => rfl

end Stats

end Worker

/-- The counters after a call that does not end the iteration with an error. -/
def WorkerStats.count (codec : Codec α) (stats : WorkerStats) : Exchange α → WorkerStats
  | .poll _ _ _ _ (.ok messages) =>
    { stats with
      polled := stats.polled + messages.length
      malformed := stats.malformed + (codec.malformed messages).length }
  | .ack _ _ _ (.ok count) => { stats with acked := stats.acked + count }
  | .publish _ _ (.ok _) => { stats with published := stats.published + 1 }
  | .publish _ _ (.error _) => { stats with publishFailures := stats.publishFailures + 1 }
  | _ => stats

/-- What a call adds to the counters, whether the iteration ends with it or not. -/
lemma WorkerStats.count_spec (codec : Codec α) (stats : WorkerStats) (x : Exchange α) :
    (stats.count codec x).polled = stats.polled + x.polled.length ∧
    (stats.count codec x).malformed = stats.malformed + (codec.malformed x.polled).length ∧
    (stats.count codec x).acked = stats.acked + x.acked ∧
    (stats.count codec x).published = stats.published + x.published.length ∧
    (stats.count codec x).published + (stats.count codec x).publishFailures =
      stats.published + stats.publishFailures + [x].countP Exchange.isRecord ∧
    (stats.count codec x).batchFailures = stats.batchFailures ∧
    (stats.count codec x).iterations = stats.iterations := by
  match x with
  | .publish _ _ (.ok _) =>
    exact ⟨rfl, rfl, rfl, rfl, Nat.add_right_comm _ _ _, rfl, rfl⟩
  | .poll _ _ _ _ (.ok _) | .poll _ _ _ _ (.error _) | .ack _ _ _ (.ok _)
  | .ack _ _ _ (.error _) | .publish _ _ (.error _) | .createGroup .. | .enrich .. =>
    exact ⟨rfl, rfl, rfl, rfl, rfl, rfl, rfl⟩

namespace Worker

variable {σ : Type} {codec : Codec α} {calls : Calls (StateM σ) α} {w w' : Worker α} {s s' : σ}
  {x : Exchange α}

/-- Only a worker whose iteration is under way makes a call. -/
lemma Does.underWay (ds : Does codec calls w s x w' s') : w.underWay = 1 := by
  unfold Worker.underWay
  cases ds with
  | poll ph => rw [ph]
  | drop ph => rw [ph]
  | enrich ph => rw [ph]
  | publish ph => rw [ph]
  | ack ph => rw [ph]

/-- A call is counted, and so is the failure of the iteration that ends with it. -/
lemma Does.stats_eq (ds : Does codec calls w s x w' s') :
    w'.stats = w.stats.count codec x ∨ w'.underWay = 0 ∧
      w'.stats = { w.stats.count codec x with batchFailures := w.stats.batchFailures + 1 } := by
  cases ds with
  | @poll answer _ ph _ =>
    cases answer with
    | error e => exact .inr ⟨rfl, rfl⟩
    | ok messages =>
      left
      cases messages with
      | nil => rfl
      | cons m rest =>
        unfold afterPoll
        dsimp only
        split
        · rw [stats_toEvents, MessageBatch.malformed_ofMessages, Codec.rejects, List.length_map]
          rfl
        · rw [MessageBatch.malformed_ofMessages, Codec.rejects, List.length_map]
          rfl
  | @drop batch answer _ ph _ =>
    cases answer with
    | error e => exact .inr ⟨rfl, rfl⟩
    | ok count => exact .inl (stats_toEvents (w.addAcked count) batch)
  | @enrich batch answer time s1 _ ph he _ =>
    cases answer with
    | error e => exact .inr ⟨rfl, rfl⟩
    | ok result => exact .inl (stats_toRecords w batch _ time result.items)
  | @publish batch time item items flags answer _ ph _ =>
    left
    cases answer with
    | error e => exact stats_toRecords _ batch flags time items
    | ok id => exact stats_toRecords _ batch _ time items
  | @ack batch flags answer _ ph _ =>
    cases answer with
    | error e => exact .inr ⟨rfl, rfl⟩
    | ok count => exact .inl rfl

end Worker

namespace Member

/-- The counters of a worker say what it has said. -/
structure Tallies (codec : Codec α) (m : Member α) : Prop where
  polled : m.worker.stats.polled = m.polled.length
  malformed : m.worker.stats.malformed = (codec.malformed m.polled).length
  acked : m.worker.stats.acked = (m.said.map Exchange.acked).sum
  published : m.worker.stats.published = m.published.length
  records : m.worker.stats.published + m.worker.stats.publishFailures =
    m.said.countP Exchange.isRecord
  /-- An iteration fails once at most, and not while it is under way. -/
  failures : m.worker.stats.batchFailures + m.worker.underWay ≤ m.worker.stats.iterations

variable {codec : Codec α} {m : Member α}

/-- A worker that has said nothing has counted nothing. -/
lemma Tallies.fresh (codec : Codec α) (config : WorkerConfig) :
    Tallies codec { worker := { config } } := ⟨rfl, rfl, rfl, rfl, rfl, Nat.le_refl 0⟩

/-- Beginning an iteration is counted, and says nothing. -/
lemma Tallies.start (tl : m.Tallies codec) {outcome : Except WorkerError Iteration}
    (ph : m.worker.phase = .resting outcome) : m.start.Tallies codec where
  polled := by
    rw [Member.polled, said_start]
    exact tl.polled
  malformed := by
    rw [Member.polled, said_start]
    exact tl.malformed
  acked := by
    rw [said_start]
    exact tl.acked
  published := by
    rw [Member.published, said_start]
    exact tl.published
  records := by
    rw [said_start]
    exact tl.records
  failures := by
    have rests : m.worker.underWay = 0 := by simp [Worker.underWay, ph]
    have le := tl.failures
    show m.worker.stats.batchFailures + 1 ≤ m.worker.stats.iterations + 1
    omega

/-- Every call is counted. -/
lemma Tallies.say (tl : m.Tallies codec) {σ : Type} {calls : Calls (StateM σ) α} {s s' : σ}
    {x : Exchange α} {w : Worker α} (ds : Worker.Does codec calls m.worker s x w s') :
    (m.say x w).Tallies codec := by
  obtain ⟨polled, malformed, acked, published, records, failures, iterations⟩ :=
    m.worker.stats.count_spec codec x
  have same : w.stats = { m.worker.stats.count codec x with
      batchFailures := w.stats.batchFailures } := by
    obtain e | ⟨-, e⟩ := ds.stats_eq
    · rw [e]
    · rw [e]
  have told := m.said_say x w
  constructor
  case polled =>
    rw [Member.polled, told, List.flatMap_append, List.flatMap_singleton, List.length_append]
    exact (congrArg WorkerStats.polled same).trans (polled.trans (congrArg (· + _) tl.polled))
  case malformed =>
    rw [Member.polled, told, List.flatMap_append, List.flatMap_singleton, Codec.malformed,
      List.filter_append, List.length_append]
    exact (congrArg WorkerStats.malformed same).trans
      (malformed.trans (congrArg (· + _) tl.malformed))
  case acked =>
    rw [told, List.map_append, List.sum_append, List.map_singleton, List.sum_singleton]
    exact (congrArg WorkerStats.acked same).trans (acked.trans (congrArg (· + _) tl.acked))
  case published =>
    rw [Member.published, told, List.flatMap_append, List.flatMap_singleton, List.length_append]
    exact (congrArg WorkerStats.published same).trans
      (published.trans (congrArg (· + _) tl.published))
  case records =>
    rw [told, List.countP_append, ← tl.records, ← records]
    exact congrArg (fun stats => stats.published + stats.publishFailures) same
  case failures =>
    -- a batch that fails ends its iteration, so it takes the place of the one under way
    show w.stats.batchFailures + w.underWay ≤ w.stats.iterations
    have begun := tl.failures
    rw [ds.underWay] at begun
    have le := w.underWay_le
    rw [(congrArg WorkerStats.iterations same : w.stats.iterations = _), iterations]
    obtain e | ⟨rests, e⟩ := ds.stats_eq
    · rw [e, failures]
      omega
    · rw [e, rests]
      exact begun

end Member

section Session

variable {codec : Codec α} {config : WorkerConfig} {messages : List Message}
  {said more : List (Exchange α)} {items : List (Item α)}
  {answers : List (Except BrokerError MessageId)}

/-- Where no batch was enriched, no events were. -/
lemma Codec.enriched_of_not (h : said.any Exchange.isEnriched = false) :
    codec.enriched said = [] := by
  rw [enriched, h]
  rfl

/-- Until there are events to enrich nothing is published, and nothing has been enriched. -/
lemma Reads.records (rd : Reads codec config messages said) :
    said.countP Exchange.isRecord = 0 ∧ said.any Exchange.isEnriched = false := by
  cases rd with
  | all => exact ⟨rfl, rfl⟩
  | some => exact ⟨rfl, rfl⟩

/-- One record is published for each item. -/
lemma records_publishes (codec : Codec α) (config : WorkerConfig) (time : String)
    (len : answers.length = items.length) :
    (config.publishes codec time items answers).countP Exchange.isRecord = items.length := by
  have all : (config.publishes codec time items answers).countP Exchange.isRecord =
      (config.publishes codec time items answers).length := by
    rw [List.countP_eq_length]
    intro x hx
    obtain ⟨item, answer, rfl⟩ := config.mem_publishes hx
    rfl
  rw [all, WorkerConfig.publishes, List.length_map, List.length_zip, len, Nat.min_self]

variable [Scalar α]

/-- Until there are records to publish nothing is published, and the batch has been enriched. -/
lemma Enriches.records (en : Enriches codec config messages items said) :
    said.countP Exchange.isRecord = 0 ∧ said.any Exchange.isEnriched = true := by
  cases en with
  | mk _ rd _ =>
    rw [List.countP_append, rd.records.1, List.any_append, Bool.or_eq_true]
    exact ⟨rfl, .inr rfl⟩

/-- A batch that is enriched has one record for each of its events. -/
lemma Enriches.records_eq (en : Enriches codec config messages items said) (time : String)
    (len : answers.length = items.length) (quiet : more.countP Exchange.isRecord = 0)
    (unread : more.flatMap Exchange.polled = []) :
    (said ++ config.publishes codec time items answers ++ more).countP Exchange.isRecord =
      (codec.enriched (said ++ config.publishes codec time items answers ++ more)).length := by
  obtain ⟨silent, enriched⟩ := en.records
  have contents : (codec.contents messages).length = items.length := by
    rw [← codec.map_events, List.length_map, en.length_eq]
  rw [List.countP_append, List.countP_append, silent, records_publishes codec config time len,
    quiet, Codec.enriched, List.any_append, List.any_append, enriched, List.flatMap_append,
    List.flatMap_append, en.polled_published.1, polled_publishes, unread, List.append_nil,
    List.append_nil, Bool.true_or, Bool.true_or, if_pos rfl, contents, Nat.zero_add, Nat.add_zero]

/-- An iteration publishes one record for each event of its batch where the batch is enriched, and
none where it is not. -/
lemma Transcript.records {outcome : Except WorkerError Iteration}
    (tr : Transcript codec config said outcome) :
    said.countP Exchange.isRecord = (codec.enriched said).length := by
  cases tr with
  | refused => rfl
  | idle => rfl
  | keepsRejects => rfl
  | noEvents _ none rd =>
    obtain ⟨silent, plain⟩ := rd.records
    rw [silent, Codec.enriched_of_not plain]
    rfl
  | notEnriched e _ rd =>
    obtain ⟨silent, plain⟩ := rd.records
    rw [List.countP_append, silent, Codec.enriched_of_not]
    · rfl
    · rw [List.any_append, plain]
      rfl
  | @unacknowledged _ _ log answers time en len =>
    have all : (log ++ config.publishes codec time _ answers ++ []).countP Exchange.isRecord = _ :=
      en.records_eq time len rfl rfl
    rw [List.append_nil] at all
    exact all
  | acknowledged time count en len => exact en.records_eq time len rfl rfl
  | notAcknowledged time e en len => exact en.records_eq time len rfl rfl

end Session

namespace Member

variable [Scalar α] {codec : Codec α} {m : Member α}

/-- What a worker that rests has published of its iterations. -/
lemma Tells.records (tl : m.Tells codec) {outcome : Except WorkerError Iteration}
    (ph : m.worker.phase = .resting outcome) :
    m.said.countP Exchange.isRecord = (m.sessions.flatMap codec.enriched).length := by
  have each : ∀ said ∈ m.sessions,
      said.countP Exchange.isRecord = (codec.enriched said).length := by
    intro said hs
    obtain hs | hs := List.mem_append.1 hs
    · obtain rfl | ⟨outcome, tr⟩ := tl.past said hs
      · rfl
      · exact tr.records
    · rw [List.mem_singleton.1 hs]
      obtain ⟨none, -⟩ | tr := tl.current
      · rw [none]
        rfl
      · rw [ph] at tr
        exact tr.transcript.records
  unfold Member.said
  rw [List.countP_flatten, List.length_flatMap]
  congr 1
  exact List.map_congr_left each

end Member

end Whereabouts
