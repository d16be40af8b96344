import Mathlib.Data.List.Basic
import Whereabouts.Stream.Worker

/-!
# What a worker says

The calls of a worker are written down with the answers to them, so that statements can be made
about everything that a worker has said.

* `Worker.Does`: a worker in a phase makes its call and goes on with the answer.
* `Worker.step_recorded`: this is what `Worker.step` does, and nothing else.
* `Worker.runOnce_recorded`: one iteration is a run that comes to rest.
-/

namespace Whereabouts

/-- A call of a worker with the answer to it. -/
inductive Exchange (α : Type) where
  | createGroup (stream group : String) (answer : Except BrokerError Unit)
  | poll (stream group consumer : String) (max : Nat) (answer : Except BrokerError (List Message))
  | ack (stream group : String) (ids : List MessageId) (answer : Except BrokerError Nat)
  | publish (stream payload : String) (answer : Except BrokerError MessageId)
  | enrich (inputs : List (Input α)) (answer : Except EnrichError (BatchResult α))

/-- Makes a call and writes it down with its answer. -/
def Exchange.record {m : Type → Type} [Monad m] {α β : Type} (call : m β) (said : β → Exchange α) :
    StateT (List (Exchange α)) m β := fun log => do
  let answer ← call
  return (answer, log ++ [said answer])

/-- The same calls, which are written down. -/
def Calls.recorded {m : Type → Type} [Monad m] {α : Type} (calls : Calls m α) :
    Calls (StateT (List (Exchange α)) m) α where
  createGroup stream group :=
    Exchange.record (calls.createGroup stream group) (.createGroup stream group)
  poll stream group consumer max :=
    Exchange.record (calls.poll stream group consumer max) (.poll stream group consumer max)
  ack stream group ids := Exchange.record (calls.ack stream group ids) (.ack stream group ids)
  publish stream payload :=
    Exchange.record (calls.publish stream payload) (.publish stream payload)
  enrich inputs := Exchange.record (calls.enrich inputs) (.enrich inputs)
  now := calls.now

namespace Worker

variable {σ α : Type} (codec : Codec α) (calls : Calls (StateM σ) α)

/-- A worker makes a call and goes on with the answer; what answers the calls has a state. -/
inductive Does (w : Worker α) (s : σ) : Exchange α → Worker α → σ → Prop where
  | poll {answer s'} :
    w.phase = .polling →
    (calls.poll w.config.inbound w.config.group w.config.consumer w.config.maxBatch).run s =
      (answer, s') →
    Does w s
      (.poll w.config.inbound w.config.group w.config.consumer w.config.maxBatch answer)
      (w.afterPoll codec answer) s'
  | drop {batch answer s'} :
    w.phase = .dropping batch →
    (calls.ack w.config.inbound w.config.group batch.malformed).run s = (answer, s') →
    Does w s (.ack w.config.inbound w.config.group batch.malformed answer)
      (w.afterDrop batch answer) s'
  | enrich {batch answer time s1 s'} :
    w.phase = .enriching batch →
    (calls.enrich batch.inputs).run s = (answer, s1) →
    calls.now.run s1 = (time, s') →
    Does w s (.enrich batch.inputs answer) (w.afterEnrich batch time answer) s'
  | publish {batch time item items flags answer s'} :
    w.phase = .publishing batch time item items flags →
    (calls.publish w.config.outbound (codec.record item time)).run s = (answer, s') →
    Does w s (.publish w.config.outbound (codec.record item time) answer)
      (w.afterPublish batch time item items flags answer) s'
  | ack {batch flags answer s'} :
    w.phase = .acking batch flags →
    (calls.ack w.config.inbound w.config.group
      (w.config.ackPolicy.select batch.ids flags)).run s = (answer, s') →
    Does w s
      (.ack w.config.inbound w.config.group (w.config.ackPolicy.select batch.ids flags) answer)
      (w.afterAck batch flags answer) s'

/-- A worker makes calls one after the other. -/
inductive Run : Worker α → σ → List (Exchange α) → Worker α → σ → Prop where
  | refl w s : Run w s [] w s
  | step {w s x w1 s1 log w' s'} :
    Does codec calls w s x w1 s1 →
    Run w1 s1 log w' s' →
    Run w s (x :: log) w' s'

variable {codec calls}

/-- A worker at rest makes no call, and writes none down. -/
lemma step_of_resting {w : Worker α} {outcome : Except WorkerError Iteration}
    (ph : w.phase = .resting outcome) (log : List (Exchange α)) (s : σ) :
    (w.step codec calls).run s = (w, s) ∧
      ((w.step codec calls.recorded).run log).run s = ((w, log), s) := by
  unfold step
  rw [ph]
  exact ⟨rfl, rfl⟩

/-- A step of a worker that does not rest is a call; writing it down changes nothing else. -/
lemma step_recorded (codec : Codec α) (calls : Calls (StateM σ) α) (w : Worker α)
    (log : List (Exchange α)) (s : σ) :
    (∃ outcome, w.phase = .resting outcome) ∨ ∃ x w' s', Does codec calls w s x w' s' ∧
      (w.step codec calls).run s = (w', s') ∧
      ((w.step codec calls.recorded).run log).run s = ((w', log ++ [x]), s') := by
  unfold step
  cases ph : w.phase with
  | resting outcome => exact .inl ⟨outcome, rfl⟩
  | polling => exact .inr ⟨_, _, _, .poll ph rfl, rfl, rfl⟩
  | dropping batch => exact .inr ⟨_, _, _, .drop ph rfl, rfl, rfl⟩
  | enriching batch => exact .inr ⟨_, _, _, .enrich ph rfl rfl, rfl, rfl⟩
  | publishing batch time item items flags => exact .inr ⟨_, _, _, .publish ph rfl, rfl, rfl⟩
  | acking batch flags => exact .inr ⟨_, _, _, .ack ph rfl, rfl, rfl⟩

/-- A worker at rest makes no call. -/
lemma Does.not_resting {w w' : Worker α} {s s' : σ} {x : Exchange α}
    {outcome : Except WorkerError Iteration} (ds : Does codec calls w s x w' s') :
    w.phase ≠ .resting outcome := by
  cases ds with
  | poll ph => simp [ph]
  | drop ph => simp [ph]
  | enrich ph => simp [ph]
  | publish ph => simp [ph]
  | ack ph => simp [ph]

/-- From rest a run makes no call and stays as it is. -/
lemma Run.of_resting {w w' : Worker α} {s s' : σ} {said : List (Exchange α)}
    {outcome : Except WorkerError Iteration} (ph : w.phase = .resting outcome)
    (rn : Run codec calls w s said w' s') : said = [] ∧ w' = w ∧ s' = s := by
  cases rn with
  | refl => exact ⟨rfl, rfl, rfl⟩
  | step ds _ => exact absurd ph ds.not_resting

/-- Several steps are a run; it ends early only where the worker rests. -/
lemma steps_recorded (codec : Codec α) (calls : Calls (StateM σ) α) (n : Nat) (w : Worker α)
    (log : List (Exchange α)) (s : σ) :
    ∃ said w' s', Run codec calls w s said w' s' ∧ (steps codec calls n w).run s = (w', s') ∧
      ((steps codec calls.recorded n w).run log).run s = ((w', log ++ said), s') ∧
      (said.length = n ∨ ∃ outcome, w'.phase = .resting outcome) := by
  induction n generalizing w log s with
  | zero =>
    refine ⟨[], w, s, .refl w s, rfl, ?_, .inl rfl⟩
    rw [List.append_nil]
    rfl
  | succ n ih =>
    -- both runs begin with the same step
    have head : ∀ {w1 log1 s1}, (w.step codec calls).run s = (w1, s1) ∧
        ((w.step codec calls.recorded).run log).run s = ((w1, log1), s1) →
        (steps codec calls (n + 1) w).run s = (steps codec calls n w1).run s1 ∧
        ((steps codec calls.recorded (n + 1) w).run log).run s =
          ((steps codec calls.recorded n w1).run log1).run s1 := by
      rintro w1 log1 s1 ⟨plain, recorded⟩
      rw [steps, StateT.run_bind, plain, steps, StateT.run_bind, StateT.run_bind, recorded]
      exact ⟨rfl, rfl⟩
    obtain ⟨outcome, ph⟩ | ⟨x, w1, s1, ds, e1⟩ := step_recorded codec calls w log s
    · obtain ⟨said, w', s', rn, e, e', -⟩ := ih w log s
      obtain ⟨rfl, rfl, rfl⟩ := rn.of_resting ph
      have same := head (step_of_resting ph log s')
      exact ⟨[], w', s', rn, same.1.trans e, same.2.trans e', .inr ⟨outcome, ph⟩⟩
    · obtain ⟨said, w', s', rn, e, e', fin⟩ := ih w1 (log ++ [x]) s1
      have same := head e1
      refine ⟨x :: said, w', s', .step ds rn, same.1.trans e, ?_, fin.imp (congrArg Nat.succ) id⟩
      rw [same.2, e', List.append_assoc]
      rfl

section Config

variable (w : Worker α) (batch : MessageBatch α) (flags : List Bool)

/-- Going on to the acknowledgements leaves the settings as they are. -/
@[simp] lemma config_toAcks : (w.toAcks batch flags).config = w.config := by
  unfold toAcks
  split <;> rfl

/-- Going on to the records leaves the settings as they are. -/
@[simp] lemma config_toRecords (time : String) (items : List (Item α)) :
    (w.toRecords batch time items flags).config = w.config := by
  cases items with
  | nil => exact config_toAcks w batch flags
  | cons => rfl

/-- Going on to the events leaves the settings as they are. -/
@[simp] lemma config_toEvents : (w.toEvents batch).config = w.config := by
  unfold toEvents
  split <;> rfl

end Config

/-- The settings stay in every step. -/
lemma Does.config_eq {w w' : Worker α} {s s' : σ} {x : Exchange α}
    (ds : Does codec calls w s x w' s') : w'.config = w.config := by
  cases ds with
  | @poll answer _ _ _ =>
    unfold afterPoll
    split
    · rfl
    · rfl
    · dsimp only
      split
      · exact config_toEvents _ _
      · rfl
  | @drop batch answer _ _ _ =>
    cases answer with
    | error => rfl
    | ok count => exact config_toEvents (w.addAcked count) batch
  | @enrich batch answer _ _ _ _ _ _ =>
    cases answer with
    | error => rfl
    | ok result => exact config_toRecords w batch _ _ _
  | @publish batch _ _ _ _ answer _ _ _ =>
    cases answer with
    | error => exact config_toRecords _ batch _ _ _
    | ok id => exact config_toRecords _ batch _ _ _
  | @ack batch flags answer _ _ _ =>
    cases answer with
    | error => rfl
    | ok count => rfl

section Rest

/-- How many calls a worker has still to make until the events have been enriched, at most. -/
def early (w : Worker α) : Nat :=
  match w.phase with
  | .polling => 3
  | .dropping _ => 2
  | .enriching _ => 1
  | _ => 0

variable (w : Worker α) (batch : MessageBatch α) (flags : List Bool)

/-- Going on to the events leaves at most the enrichment before the records. -/
lemma early_toEvents : (w.toEvents batch).early ≤ 1 := by
  unfold toEvents
  split
  · exact Nat.zero_le 1
  · exact Nat.le_refl 1

/-- Going on to the acknowledgements leaves at most one call. -/
lemma stepsLeft_toAcks :
    (w.toAcks batch flags).early = 0 ∧ (w.toAcks batch flags).stepsLeft ≤ 1 := by
  unfold toAcks
  split
  · exact ⟨rfl, Nat.zero_le 1⟩
  · exact ⟨rfl, Nat.le_refl 1⟩

/-- One call for each record, and one more, is ahead of a worker that goes on to publish. -/
lemma stepsLeft_toRecords (time : String) (items : List (Item α)) :
    (w.toRecords batch time items flags).early = 0 ∧
      (w.toRecords batch time items flags).stepsLeft ≤ items.length + 1 := by
  cases items with
  | nil => exact stepsLeft_toAcks w batch flags
  | cons => exact ⟨rfl, Nat.le_refl _⟩

variable {w}

/-- Every call brings a worker nearer to the records, or past the records nearer to its rest. -/
lemma Does.nearer {w' : Worker α} {s s' : σ} {x : Exchange α}
    (ds : Does codec calls w s x w' s') :
    w'.early < w.early ∨ w.early = 0 ∧ w'.early = 0 ∧ w'.stepsLeft < w.stepsLeft := by
  cases ds with
  | @poll answer _ ph _ =>
    -- up to the records it is the stage that goes down
    have e : w.early = 3 := by simp [early, ph]
    rw [e]
    left
    unfold afterPoll
    split
    · exact Nat.zero_lt_succ 2
    · exact Nat.zero_lt_succ 2
    · dsimp only
      split
      · exact Nat.lt_of_le_of_lt (early_toEvents _ _) (by decide)
      · exact Nat.lt_succ_self 2
  | @drop batch answer _ ph _ =>
    have e : w.early = 2 := by simp [early, ph]
    rw [e]
    left
    cases answer with
    | error => exact Nat.zero_lt_succ 1
    | ok count => exact Nat.lt_of_le_of_lt (early_toEvents (w.addAcked count) batch) (by decide)
  | @enrich batch answer _ _ _ ph _ _ =>
    have e : w.early = 1 := by simp [early, ph]
    rw [e]
    left
    cases answer with
    | error => exact Nat.zero_lt_one
    | ok result => exact (stepsLeft_toRecords w batch _ _ _).1 ▸ Nat.zero_lt_one
  | @publish batch _ _ items _ answer _ ph _ =>
    -- from the records on, the calls that are left are counted
    have e1 : w.early = 0 := by simp [early, ph]
    have e2 : w.stepsLeft = items.length + 2 := by simp [stepsLeft, ph]
    rw [e1, e2]
    right
    cases answer with
    | error => exact ⟨rfl, (stepsLeft_toRecords _ batch _ _ items).imp id Nat.lt_succ_of_le⟩
    | ok name => exact ⟨rfl, (stepsLeft_toRecords _ batch _ _ items).imp id Nat.lt_succ_of_le⟩
  | @ack batch flags answer _ ph _ =>
    have e1 : w.early = 0 := by simp [early, ph]
    have e2 : w.stepsLeft = 1 := by simp [stepsLeft, ph]
    rw [e1, e2]
    right
    cases answer with
    | error => exact ⟨rfl, rfl, Nat.zero_lt_one⟩
    | ok count => exact ⟨rfl, rfl, Nat.zero_lt_one⟩

/-- How far a run brings a worker. -/
lemma Run.nearer {w w' : Worker α} {s s' : σ} {said : List (Exchange α)}
    (rn : Run codec calls w s said w' s') :
    (said.length + w'.early ≤ w.early ∨ w'.early = 0) ∧
      (w.early = 0 → w'.early = 0 ∧ said.length + w'.stepsLeft ≤ w.stepsLeft) := by
  induction rn with
  | refl w s => exact ⟨.inl (by simp), fun e => ⟨e, by simp⟩⟩
  | step ds _ ih =>
    have nr := ds.nearer
    simp only [List.length_cons]
    omega

/-- A worker without a call left is at rest. -/
lemma resting_of_stepsLeft {w : Worker α} (e1 : w.early = 0) (e2 : w.stepsLeft = 0) :
    ∃ outcome, w.phase = .resting outcome := by
  cases ph : w.phase with
  | resting outcome => exact ⟨outcome, rfl⟩
  | polling => simp [early, ph] at e1
  | dropping => simp [early, ph] at e1
  | enriching => simp [early, ph] at e1
  | publishing => simp [stepsLeft, ph] at e2
  | acking => simp [stepsLeft, ph] at e2

end Rest

/-- Runs that follow one another are one run. -/
lemma Run.trans {w w1 w' : Worker α} {s s1 s' : σ} {said more : List (Exchange α)}
    (rn : Run codec calls w s said w1 s1) (rn' : Run codec calls w1 s1 more w' s') :
    Run codec calls w s (said ++ more) w' s' := by
  induction rn with
  | refl => exact rn'
  | step ds _ ih => exact .step ds (ih rn')

/-- One iteration is a run from its beginning until the worker rests. -/
theorem runOnce_recorded (codec : Codec α) (calls : Calls (StateM σ) α) (w : Worker α) (s : σ) :
    ∃ said w' s' outcome, Run codec calls w.start s said w' s' ∧ w'.phase = .resting outcome ∧
      (w.runOnce codec calls).run s = (w', s') ∧
      ((w.runOnce codec calls.recorded).run []).run s = ((w', said), s') := by
  obtain ⟨said, w1, s1, rn, plain, e, fin⟩ := steps_recorded codec calls 3 w.start [] s
  obtain ⟨more, w', s', rn', plain', e', fin'⟩ :=
    steps_recorded codec calls w1.stepsLeft w1 ([] ++ said) s1
  -- three steps lead past the enrichment or to rest, and then the steps that are left are enough
  have early : w1.early = 0 := by
    obtain len | ⟨outcome, ph⟩ := fin
    · have nr := rn.nearer.1
      have first : w.start.early = 3 := rfl
      omega
    · simp [Worker.early, ph]
  have rests : ∃ outcome, w'.phase = .resting outcome := by
    obtain len | rests := fin'
    · obtain ⟨early', left⟩ := rn'.nearer.2 early
      exact resting_of_stepsLeft early' (by omega)
    · exact rests
  obtain ⟨outcome, ph⟩ := rests
  refine ⟨said ++ more, w', s', outcome, rn.trans rn', ph, ?_, ?_⟩
  · unfold runOnce
    rw [StateT.run_bind, plain]
    exact plain'
  · unfold runOnce
    rw [StateT.run_bind, StateT.run_bind, e]
    exact e'

end Worker

end Whereabouts
