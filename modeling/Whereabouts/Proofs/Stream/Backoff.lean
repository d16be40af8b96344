import Mathlib.Algebra.Group.Nat.Defs
import Whereabouts.Config
import Whereabouts.Proofs.Stream.Exchange

/-!
# Resting after failures

A worker rests after every iteration that fails: after the first failure for the time that it is
configured with, and after each further one for twice the time, up to the ceiling. Work starts the
count anew; iterations that find nothing to do leave it. The ceiling is put on the time that was
doubled only, so a first rest that is configured above it is taken in full.

* `Worker.Turns`: what a worker does, turn by turn, until it stops.
* `Worker.turns_runRounds`: this is what the loop of a worker does.
* `Pacing.next_backoff`: a failure doubles the rest, up to the ceiling.
* `Worker.run_backs_off`: the main statement.
* `Worker.first_rest_above_ceiling`: a configuration whose first rest is above the ceiling.
-/

namespace Whereabouts

namespace Pacing

/-- How long a worker rests after a failure before which there were some failures in a row. -/
def backoff (p : Pacing) (earlier : Nat) : Nat :=
  if earlier = 0 then p.errorBackoff else min (p.errorBackoff * 2 ^ earlier) p.maxBackoff

/-- How many failures there are in a row after one more iteration. -/
def inARow (earlier : Nat) : Progress → Nat
  | .idle => earlier
  | .worked => 0
  | .failed => earlier + 1

/-- How many failures there were since the last work, or since the beginning. -/
def failures (done : List Progress) : Nat := done.foldl inARow 0

variable (p : Pacing)

/-- A failure doubles the rest, up to the ceiling, and work puts it back to the first one. -/
lemma next_backoff (earlier : Nat) (progress : Progress) :
    p.next (p.backoff earlier) progress = p.backoff (inARow earlier progress) := by
  cases progress with
  | idle => rfl
  | worked => rfl
  | failed =>
    show min (2 * p.backoff earlier) p.maxBackoff =
      min (p.errorBackoff * 2 ^ (earlier + 1)) p.maxBackoff
    have twice : p.errorBackoff * 2 ^ (earlier + 1) = 2 * (p.errorBackoff * 2 ^ earlier) := by
      rw [Nat.pow_succ, ← Nat.mul_assoc, Nat.mul_comm]
    rw [twice]
    unfold backoff
    split
    next none =>
      subst none
      rw [Nat.pow_zero, Nat.mul_one]
    next => omega

/-- The rests of a worker, each said of the iterations before it. -/
lemma getElem?_rests (earlier : Nat) (done : List Progress) (i : Nat) :
    (p.rests (p.backoff earlier) done)[i]? = (done[i]?).map
      (p.rest (p.backoff ((done.take i).foldl inARow earlier))) := by
  induction done generalizing earlier i with
  | nil => rfl
  | cons progress later ih =>
    cases i with
    | zero => rfl
    | succ i =>
      show (p.rests (p.next _ _) later)[i]? = _
      rw [next_backoff, ih]
      rfl

variable {p}

/-- Only work is not rested after. -/
lemma rest_eq_none_iff {backoff : Nat} {progress : Progress} :
    p.rest backoff progress = none ↔ progress = .worked := by
  cases progress with
  | idle => exact iff_of_false (Option.some_ne_none _) Progress.noConfusion
  | worked => exact iff_of_true rfl rfl
  | failed => exact iff_of_false (Option.some_ne_none _) Progress.noConfusion

/-- Above the ceiling only a first rest is left as it is. -/
lemma backoff_eq_min_iff {earlier : Nat} :
    p.backoff earlier = min (p.errorBackoff * 2 ^ earlier) p.maxBackoff ↔
      p.errorBackoff ≤ p.maxBackoff ∨ earlier ≠ 0 := by
  unfold backoff
  split
  next none =>
    subst none
    rw [Nat.pow_zero, Nat.mul_one]
    omega
  next some => exact iff_of_true rfl (.inr some)

/-- Where the first rest is above the ceiling, all others are the ceiling. -/
lemma backoff_of_above (above : p.maxBackoff < p.errorBackoff) (earlier : Nat) :
    p.backoff earlier = if earlier = 0 then p.errorBackoff else p.maxBackoff := by
  unfold backoff
  congr 1
  have pos : 0 < 2 ^ earlier := Nat.two_pow_pos earlier
  exact Nat.min_eq_right (Nat.le_trans (Nat.le_of_lt above) (Nat.le_mul_of_pos_right _ pos))

/-- Without work in between, later failures have more failures before them. -/
lemma le_foldl_inARow {earlier : Nat} {done : List Progress} (idle : .worked ∉ done) :
    earlier ≤ done.foldl inARow earlier := by
  induction done generalizing earlier with
  | nil => exact Nat.le_refl earlier
  | cons progress later ih =>
    have rest : inARow earlier progress ≤ later.foldl inARow (inARow earlier progress) :=
      ih fun mem => idle (List.mem_cons_of_mem progress mem)
    cases progress with
    | idle => exact rest
    | worked => exact absurd List.mem_cons_self idle
    | failed => exact Nat.le_of_succ_le rest

end Pacing

namespace Worker

/-- One turn of the loop of a worker: what came of its iteration, and for how many milliseconds it
was sent to rest then. -/
structure Turn where
  outcome : Except WorkerError Iteration
  slept : Option Nat

/-- What came of the iteration, as far as it matters for the rest. -/
def Turn.progress (t : Turn) : Progress :=
  match t.outcome with
  | .ok .idle => .idle
  | .ok (.processed ..) => .worked
  | .error _ => .failed

section Loop

variable {σ α : Type}

/-- A computation goes on with what its first part gives. -/
lemma run_bind_of {β γ : Type} {x : StateM σ β} {f : β → StateM σ γ} {s s1 : σ} {b : β}
    (first : x.run s = (b, s1)) : (x >>= f).run s = (f b).run s1 := by
  rw [StateT.run_bind, first]
  rfl

/-- What a worker does turn by turn: until its rounds are spent, or the signal to stop has come
before a turn or during a rest. -/
inductive Turns (codec : Codec α) (calls : Calls (StateM σ) α) (signal : Signal (StateM σ)) :
    Nat → Worker α → σ → List Turn → Worker α → σ → Prop where
  | spent w s : Turns codec calls signal 0 w s [] w s
  | halted {rounds w s s'} :
    signal.isTriggered.run s = (true, s') →
    Turns codec calls signal (rounds + 1) w s [] w s'
  | worked {rounds w s s1 w1 s2 turns w' s'} :
    signal.isTriggered.run s = (false, s1) →
    (w.runOnce codec calls).run s1 = (w1, s2) →
    w1.progress = .worked →
    Turns codec calls signal rounds w1 s2 turns w' s' →
    Turns codec calls signal (rounds + 1) w s (⟨w1.outcome, none⟩ :: turns) w' s'
  | rested {rounds w s s1 w1 s2 millis s3 turns w' s'} :
    signal.isTriggered.run s = (false, s1) →
    (w.runOnce codec calls).run s1 = (w1, s2) →
    w1.progress ≠ .worked →
    (signal.sleep millis).run s2 = (false, s3) →
    Turns codec calls signal rounds w1 s3 turns w' s' →
    Turns codec calls signal (rounds + 1) w s (⟨w1.outcome, some millis⟩ :: turns) w' s'
  | woken {rounds w s s1 w1 s2 millis s'} :
    signal.isTriggered.run s = (false, s1) →
    (w.runOnce codec calls).run s1 = (w1, s2) →
    w1.progress ≠ .worked →
    (signal.sleep millis).run s2 = (true, s') →
    Turns codec calls signal (rounds + 1) w s [⟨w1.outcome, some millis⟩] w1 s'

variable {codec : Codec α} {calls : Calls (StateM σ) α} {signal : Signal (StateM σ)}

/-- The settings stay in every run. -/
lemma Run.config_eq {w w' : Worker α} {s s' : σ} {said : List (Exchange α)}
    (rn : Run codec calls w s said w' s') : w'.config = w.config := by
  induction rn with
  | refl => rfl
  | step ds _ ih => exact ih.trans ds.config_eq

/-- The settings stay in every iteration. -/
lemma config_runOnce {w w1 : Worker α} {s s1 : σ}
    (run : (w.runOnce codec calls).run s = (w1, s1)) : w1.config = w.config := by
  obtain ⟨said, w', s', outcome, rn, -, plain, -⟩ := runOnce_recorded codec calls w s
  cases run.symm.trans plain
  exact rn.config_eq

section Round

variable {rounds backoff : Nat} {w w1 : Worker α} {s s1 s2 : σ}

/-- A round that is halted makes no iteration. -/
lemma run_round_halted (triggered : signal.isTriggered.run s = (true, s1)) :
    (w.runRounds codec calls signal (rounds + 1) backoff).run s = (w, s1) := by
  unfold runRounds
  rw [run_bind_of triggered]
  rfl

/-- A round that is begun makes an iteration, and goes on as the pacing says. -/
lemma run_round (triggered : signal.isTriggered.run s = (false, s1))
    (once : (w.runOnce codec calls).run s1 = (w1, s2)) :
    (w.runRounds codec calls signal (rounds + 1) backoff).run s =
      match w1.config.pacing.rest backoff w1.progress with
      | none =>
        (w1.runRounds codec calls signal rounds
          (w1.config.pacing.next backoff w1.progress)).run s2
      | some millis =>
        match (signal.sleep millis).run s2 with
        | (true, s3) => (w1, s3)
        | (false, s3) =>
          (w1.runRounds codec calls signal rounds
            (w1.config.pacing.next backoff w1.progress)).run s3 := by
  conv_lhs => unfold runRounds
  rw [run_bind_of triggered]
  show ((w.runOnce codec calls) >>= _).run s1 = _
  rw [run_bind_of once]
  cases w1.config.pacing.rest backoff w1.progress with
  | none => rfl
  | some millis =>
    dsimp only
    cases slept : (signal.sleep millis).run s2 with
    | mk woken s3 =>
      rw [run_bind_of slept]
      cases woken with
      | true => rfl
      | false => rfl

end Round

/-- The loop of a worker makes turns, and rests as its pacing says. -/
lemma turns_runRounds (codec : Codec α) (calls : Calls (StateM σ) α) (signal : Signal (StateM σ))
    (rounds backoff : Nat) (w : Worker α) (s : σ) :
    ∃ turns w' s', Turns codec calls signal rounds w s turns w' s' ∧
      (w.runRounds codec calls signal rounds backoff).run s = (w', s') ∧
      turns.map (·.slept) = w.config.pacing.rests backoff (turns.map Turn.progress) := by
  induction rounds generalizing backoff w s with
  | zero => exact ⟨[], w, s, .spent w s, rfl, rfl⟩
  | succ rounds ih =>
    cases triggered : signal.isTriggered.run s with
    | mk stop s1 =>
      cases stop with
      | true => exact ⟨[], w, s1, .halted triggered, run_round_halted triggered, rfl⟩
      | false =>
        cases once : (w.runOnce codec calls).run s1 with
        | mk w1 s2 =>
          rw [run_round triggered once, ← config_runOnce once]
          -- the first turn rests as the pacing says, and the later ones do by induction
          have first : ∀ {slept turns}, w1.config.pacing.rest backoff w1.progress = slept →
              turns.map (·.slept) = w1.config.pacing.rests
                (w1.config.pacing.next backoff w1.progress) (turns.map Turn.progress) →
              (⟨w1.outcome, slept⟩ :: turns).map (·.slept) =
                w1.config.pacing.rests backoff ((⟨w1.outcome, slept⟩ :: turns).map Turn.progress) :=
            fun rest later => congrArg₂ List.cons rest.symm later
          cases rest : w1.config.pacing.rest backoff w1.progress with
          | none =>
            obtain ⟨turns, w', s', tn, run, later⟩ := ih _ w1 s2
            exact ⟨_, w', s', .worked triggered once (Pacing.rest_eq_none_iff.mp rest) tn, run,
              first rest later⟩
          | some millis =>
            have made : w1.progress ≠ .worked := fun worked =>
              Option.some_ne_none millis (rest.symm.trans (Pacing.rest_eq_none_iff.mpr worked))
            dsimp only
            cases slept : (signal.sleep millis).run s2 with
            | mk woken s3 =>
              cases woken with
              | true => exact ⟨_, w1, s3, .woken triggered once made slept, rfl, first rest rfl⟩
              | false =>
                obtain ⟨turns, w', s', tn, run, later⟩ := ih _ w1 s3
                exact ⟨_, w', s', .rested triggered once made slept tn, run, first rest later⟩

end Loop

/-- How many turns failed since the last work before a turn. -/
def failuresBefore (turns : List Turn) (i : Nat) : Nat :=
  Pacing.failures ((turns.take i).map Turn.progress)

/-- The rests after failures are doubled from the first one on, up to a ceiling that none of them
exceeds, and do not get shorter before there is work again. -/
structure Doubles (p : Pacing) (turns : List Turn) : Prop where
  slept_eq {i : Nat} {t : Turn} : turns[i]? = some t → t.progress = .failed →
    t.slept = some (min (p.errorBackoff * 2 ^ failuresBefore turns i) p.maxBackoff)
  slept_le {i millis : Nat} {t : Turn} : turns[i]? = some t → t.progress = .failed → t.slept = some millis →
    millis ≤ p.maxBackoff
  slept_mono {i j millis millis' : Nat} {t t' : Turn} : i ≤ j →
    turns[i]? = some t → t.progress = .failed → t.slept = some millis →
    turns[j]? = some t' → t'.progress = .failed → t'.slept = some millis' →
    .worked ∉ ((turns.take j).drop i).map Turn.progress → millis ≤ millis'

section Doubles

variable {p : Pacing} {turns : List Turn}

/-- Without work in between, a later turn has at least as many failures before it. -/
lemma failuresBefore_le {i j : Nat} (le : i ≤ j)
    (idle : .worked ∉ ((turns.take j).drop i).map Turn.progress) :
    failuresBefore turns i ≤ failuresBefore turns j := by
  have parts : turns.take j = turns.take i ++ (turns.take j).drop i := by
    conv_lhs => rw [← List.take_append_drop i (turns.take j), List.take_take, Nat.min_eq_left le]
  unfold failuresBefore Pacing.failures
  rw [parts, List.map_append, List.foldl_append]
  exact Pacing.le_foldl_inARow idle

/-- The bound and the order of the rests follow from how long they are. -/
lemma Doubles.of_slept_eq (eq : ∀ {i : Nat} {t : Turn}, turns[i]? = some t → t.progress = .failed →
      t.slept = some (min (p.errorBackoff * 2 ^ failuresBefore turns i) p.maxBackoff)) :
    Doubles p turns where
  slept_eq := eq
  slept_le at_i failed slept := by
    cases (eq at_i failed).symm.trans slept
    exact Nat.min_le_right _ _
  slept_mono le at_i failed slept at_j failed' slept' idle := by
    cases (eq at_i failed).symm.trans slept
    cases (eq at_j failed').symm.trans slept'
    have more := Nat.pow_le_pow_right Nat.two_pos (failuresBefore_le le idle)
    have longer := Nat.mul_le_mul_left p.errorBackoff more
    omega

/-- Where some turn failed, there is one with no failure before it. -/
lemma exists_first_failed {t : Turn} (mem : t ∈ turns) (failed : t.progress = .failed) :
    ∃ (i : Nat) (t' : Turn), turns[i]? = some t' ∧ t'.progress = .failed ∧
      failuresBefore turns i = 0 := by
  induction turns with
  | nil => exact absurd mem List.not_mem_nil
  | cons head later ih =>
    by_cases here : head.progress = .failed
    · exact ⟨0, head, rfl, here, rfl⟩
    obtain rfl | mem := List.mem_cons.mp mem
    · exact absurd failed here
    obtain ⟨i, t', at_i, failed', none⟩ := ih mem
    refine ⟨i + 1, t', at_i, failed', ?_⟩
    have zero : Pacing.inARow 0 head.progress = 0 := by
      cases made : head.progress with
      | idle => rfl
      | worked => rfl
      | failed => exact absurd made here
    show ((later.take i).map Turn.progress).foldl Pacing.inARow
      (Pacing.inARow 0 head.progress) = 0
    rw [zero]
    exact none

/-- The rests of a worker double as documented if its first rest is within the ceiling, and
otherwise as long as nothing fails. -/
lemma doubles_iff (rests : ∀ {i : Nat} {t : Turn}, turns[i]? = some t → t.progress = .failed →
      t.slept = some (p.backoff (failuresBefore turns i))) :
    Doubles p turns ↔ p.errorBackoff ≤ p.maxBackoff ∨ ∀ t ∈ turns, t.progress ≠ .failed := by
  constructor
  · intro doubles
    by_cases within : p.errorBackoff ≤ p.maxBackoff
    · exact .inl within
    refine .inr fun t mem failed => ?_
    obtain ⟨i, t', at_i, failed', none⟩ := exists_first_failed mem failed
    have same := Option.some.inj ((rests at_i failed').symm.trans (doubles.slept_eq at_i failed'))
    obtain within' | some := Pacing.backoff_eq_min_iff.mp same
    · exact within within'
    · exact some none
  · rintro (within | fine)
    · refine .of_slept_eq fun at_i failed => ?_
      rw [rests at_i failed, Pacing.backoff_eq_min_iff.mpr (.inl within)]
    · exact .of_slept_eq fun at_i failed => absurd failed (fine _ (List.mem_of_getElem? at_i))

end Doubles

variable {σ α : Type}

/-- A worker whose group can be created rests after a failed turn for as long as its settings and
the failures in a row before it say, whatever the answers to its calls are. From the first failure
on this doubles the rest up to the ceiling exactly where the first rest is within the ceiling; where
it is not, the first rest in a row is as it is configured, and each later one is the ceiling. -/
theorem run_backs_off (codec : Codec α) (calls : Calls (StateM σ) α) (signal : Signal (StateM σ))
    (rounds : Nat) (w : Worker α) (s : σ) :
    let p := w.config.pacing
    let run := (w.run codec calls signal rounds).run s
    match (calls.createGroup w.config.inbound w.config.group).run s with
    | (.error e, s1) => run = (.error e, s1)
    | (.ok (), s1) => ∃ turns w' s', Turns codec calls signal rounds w s1 turns w' s' ∧
      run = (.ok w', s') ∧
      (∀ (i : Nat) (t : Turn), turns[i]? = some t → t.progress = .failed →
        t.slept = some (p.backoff (failuresBefore turns i))) ∧
      (Doubles p turns ↔ p.errorBackoff ≤ p.maxBackoff ∨ ∀ t ∈ turns, t.progress ≠ .failed) ∧
      (p.maxBackoff < p.errorBackoff →
        ∀ (i : Nat) (t : Turn), turns[i]? = some t → t.progress = .failed →
          t.slept = some (if failuresBefore turns i = 0 then p.errorBackoff else p.maxBackoff)) := by
  dsimp only
  unfold run
  cases created : (calls.createGroup w.config.inbound w.config.group).run s with
  | mk answer s1 =>
    rw [run_bind_of created]
    cases answer with
    | error e => rfl
    | ok =>
      obtain ⟨turns, w', s', tn, run, slept⟩ :=
        turns_runRounds codec calls signal rounds w.config.pacing.errorBackoff w s1
      have rests : ∀ {i : Nat} {t : Turn}, turns[i]? = some t → t.progress = .failed →
          t.slept = some (w.config.pacing.backoff (failuresBefore turns i)) := by
        intro i t at_i failed
        have at_slept : (turns.map (·.slept))[i]? = _ :=
          (congrArg (·[i]?) slept).trans (Pacing.getElem?_rests _ 0 _ i)
        rw [List.getElem?_map, List.getElem?_map, at_i, ← List.map_take] at at_slept
        have same : t.slept = _ := Option.some.inj at_slept
        rw [same, failed]
        rfl
      refine ⟨turns, w', s', tn, ?_, fun i t => rests, doubles_iff rests,
        fun above i t at_i failed => ?_⟩
      · dsimp only
        rw [run_bind_of run]
        rfl
      · rw [rests at_i failed, Pacing.backoff_of_above above]

/-- Settings with a first rest that is above the ceiling. -/
def lowCeiling : String :=
  "[data]\nboundaries = \"b\"\nstops = \"s\"\nlines = \"l\"\n\n" ++
  "[worker]\nerror_backoff_ms = 1000\nmax_backoff_ms = 100\n"

/-- A broker that knows its groups and can deliver nothing. -/
def undelivering : Calls (StateM (List Nat)) Int where
  createGroup _ _ := return .ok ()
  poll _ _ _ _ := return .error .closed
  ack _ _ _ := return .error .closed
  publish _ _ := return .error .closed
  enrich _ := return .ok ⟨[], 0, 0, 0⟩
  now := return ""

/-- A signal that never comes, and writes down the rests. -/
def restsOnly : Signal (StateM (List Nat)) where
  isTriggered := return false
  sleep millis := fun slept => (false, slept ++ [millis])

/-- Where nothing is delivered, a turn fails. -/
lemma Turns.refused {codec : Codec Int} {rounds millis : Nat} {w w' : Worker Int}
    {slept slept' : List Nat} {turns : List Turn}
    (later : Turns codec undelivering restsOnly rounds (w.start.rest (.error (.broker .closed)))
      (slept ++ [millis]) turns w' slept') :
    Turns codec undelivering restsOnly (rounds + 1) w slept
      (⟨.error (.broker .closed), some millis⟩ :: turns) w' slept' := by
  have once : (w.runOnce codec undelivering).run slept =
      (w.start.rest (.error (.broker .closed)), slept) := rfl
  exact .rested rfl once nofun rfl later

/-- The settings are admitted, and the first of three rests in a row is above the ceiling. -/
theorem first_rest_above_ceiling :
    ∃ config turns w', Config.ofText lowCeiling = .ok config ∧
      let w : Worker Int := { config := config.workerConfig 0 "worker" }
      let codec : Codec Int := ⟨fun _ => none, fun _ _ => ""⟩
      (w.run codec undelivering restsOnly 3).run [] = (.ok w', [1000, 100, 100]) ∧
      Turns codec undelivering restsOnly 3 w [] turns w' [1000, 100, 100] ∧
      ¬ Doubles config.worker.pacing turns := by
  have settings : (Config.ofText lowCeiling).toOption.map (·.worker.pacing) =
      some ⟨100, 1000, 100⟩ := by decide +kernel
  generalize Config.ofText lowCeiling = read at *
  cases read with
  | error e => exact absurd settings (Option.some_ne_none _).symm
  | ok config =>
    obtain ⟨data, stream, ⟨instances, maxBatch, pacing, ackPolicy⟩, matcher, routing⟩ := config
    obtain rfl : pacing = ⟨100, 1000, 100⟩ := Option.some.inj settings
    refine ⟨_, _, _, rfl, rfl, .refused (.refused (.refused (.spent _ _))),
      fun doubles => ?_⟩
    have within : 1000 ≤ 100 :=
      @doubles.slept_le 0 _ ⟨.error (.broker .closed), some 1000⟩ rfl rfl rfl
    exact absurd within (by decide)

end Worker

end Whereabouts
