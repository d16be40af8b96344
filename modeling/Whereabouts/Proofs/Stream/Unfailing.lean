import Whereabouts.Proofs.Enrich.Inquiries
import Whereabouts.Proofs.Stream.Iteration

/-!
# Nothing fails over the data in memory

Resolving, searching and enriching succeed over the gateway that answers from memory, whatever they
are asked about, and put only questions to it that it can answer. What is left to fail in an
iteration of a worker is its broker.

* `Worker.Run.enriched`: what a worker has heard about a batch is what was answered.
* `Transcript.refused_of_error`: an iteration fails because its batch was not enriched, or
  because the broker refused a call.
* `MapData.Serves`: a computation succeeds, and all its questions are answered.
* `MapData.serves_all`: the main statement.
-/

namespace Whereabouts

section Iteration

variable {σ α : Type} {codec : Codec α} {calls : Calls (StateM σ) α} {config : WorkerConfig}
  {inputs : List (Input α)} {answer : Except EnrichError (BatchResult α)}

/-- What a worker has heard about a batch is what was answered. -/
lemma Worker.Run.enriched {w w' : Worker α} {s s' : σ} {said : List (Exchange α)}
    (rn : Run codec calls w s said w' s') (mem : .enrich inputs answer ∈ said) :
    ∃ s1 s2, (calls.enrich inputs).run s1 = (answer, s2) := by
  induction rn with
  | refl => cases mem
  | step ds _ ih =>
    cases mem with
    | head =>
      cases ds with
      | enrich _ run _ => exact ⟨_, _, run⟩
    | tail _ mem => exact ih mem

/-- An iteration fails because its batch was not enriched, or because the broker refused a call. -/
lemma Transcript.refused_of_error [Scalar α] {log : List (Exchange α)} {cause : WorkerError}
    (tr : Transcript codec config log (.error cause)) :
    (∃ inputs e, .enrich inputs (.error e) ∈ log) ∨
      ∃ e, cause = .broker e ∧
        (config.poll (.error e) ∈ log ∨ ∃ ids, config.ack ids (.error e) ∈ log) := by
  cases tr with
  | refused e => exact .inr ⟨e, rfl, .inl List.mem_cons_self⟩
  | keepsRejects e =>
    exact .inr ⟨e, rfl, .inr ⟨_, List.mem_cons_of_mem _ List.mem_cons_self⟩⟩
  | notEnriched e => exact .inl ⟨_, e, List.mem_append_right _ List.mem_cons_self⟩
  | notAcknowledged time e =>
    exact .inr ⟨e, rfl, .inr ⟨_, List.mem_append_right _ List.mem_cons_self⟩⟩

end Iteration

section Serving

variable {α β ε : Type} [Scalar α] [Measured α]

/-- The data serve a computation: it succeeds over the gateway that answers from memory, with a
result as described, and every question that it puts is answered. -/
def MapData.Serves (data : MapData α)
    (ask : ∀ {m : Type → Type} [Monad m], Gateway m α → ExceptT ε m β) (kind : β → Prop) : Prop :=
  ∀ σ : Type, Recounts (ask (data.gateway (StateM σ))).run
    (ask (data.gateway (StateM σ)).recorded).run (Succeeds kind)

/-- **Nothing fails over the data in memory.** Whatever points are asked about, valid or not, with
whatever radius, modes and settings: resolving, searching for stops and for lines put no question
that is refused, and give one slot for each point; and a batch is enriched, whatever its router
does, with one item for each event. Searches are taken to have room for as many stops as their
limit says: without it a search breaks off (`Gateway.nearestAll?`), and nothing is said of it here.
Every plan that is sent on the way is for the layer it is sent to and has a bound, and every answer
has a slot for each plan. So an iteration of a worker comes to rest without a failure, unless the
broker has refused its poll or an acknowledgement. -/
theorem MapData.serves_all (data : MapData α) :
    (∀ points, data.Serves (fun g => g.resolveAll points) (·.length = points.length)) ∧
    (∀ point, data.Serves (fun g => g.resolve point) fun _ => True) ∧
    (∀ config points radius limit,
      data.Serves (fun g => g.nearestAll config points radius limit) (·.length = points.length)) ∧
    (∀ config point radius limit,
      data.Serves (fun g => g.nearest config point radius limit) fun _ => True) ∧
    (∀ points threshold modes,
      data.Serves (fun g => g.linesNearAll points threshold modes) (·.length = points.length)) ∧
    (∀ point threshold modes,
      data.Serves (fun g => g.linesNear point threshold modes) fun _ => True) ∧
    ∀ (σ : Type) (matcher : MatcherConfig α) (router : Option (Router (StateM σ) α)),
      let e : Enricher (StateM σ) α := ⟨data.gateway (StateM σ), matcher, router⟩
      (∀ inputs, Recounts (e.enrich inputs).run (e.recorded.enrich inputs).run
        (Succeeds fun result => List.Forall₂ Item.Reports inputs result.items)) ∧
      ∀ (codec : Codec α) (base : Calls (StateM σ) α) (w : Worker α) (s : σ),
        let calls := { base with enrich := fun inputs => (e.enrich inputs).run }
        ∃ log w' s' outcome, (w.runOnce codec calls).run s = (w', s') ∧
          ((w.runOnce codec calls.recorded).run []).run s = ((w', log), s') ∧
          w'.phase = .resting outcome ∧
          (∀ inputs cause, .enrich inputs (.error cause) ∉ log) ∧
          ∀ cause, outcome = .error cause → ∃ refusal, cause = .broker refusal ∧
            (w.config.poll (.error refusal) ∈ log ∨
              ∃ ids, w.config.ack ids (.error refusal) ∈ log) := by
  refine ⟨fun points _ => Gateway.recounts_resolveAll data points,
    fun point _ => Gateway.recounts_resolve data point,
    fun config points radius limit _ => Gateway.recounts_nearestAll data config points radius limit,
    fun config point radius limit _ => Gateway.recounts_nearest data config point radius limit,
    fun points threshold modes _ => Gateway.recounts_linesNearAll data points threshold modes,
    fun point threshold modes _ => Gateway.recounts_linesNear data point threshold modes, ?_⟩
  intro σ matcher router e
  refine ⟨Enricher.recounts_enrich rfl, ?_⟩
  intro codec base w s calls
  obtain ⟨log, w', s', outcome, rn, ph, plain, run⟩ := Worker.runOnce_recorded codec calls w s
  have tr : Trace codec w.config ([] ++ log) w'.phase :=
    rn.trace (fun inputs s result s1 h => e.enrich_reports h) .polling
  rw [List.nil_append, ph] at tr
  -- a failed enrichment would be an answer of the data
  have enriched : ∀ inputs cause, .enrich inputs (.error cause) ∉ log := by
    intro inputs cause mem
    obtain ⟨s1, s2, refused⟩ := rn.enriched mem
    obtain ⟨_, _, -, answered, -, ok, -⟩ := Enricher.recounts_enrich (e := e) rfl inputs [] s1
    cases refused.symm.trans answered
    exact ok
  refine ⟨log, w', s', outcome, plain, run, ph, enriched, ?_⟩
  rintro cause rfl
  rcases tr.transcript.refused_of_error with ⟨inputs, cause, mem⟩ | refused
  · exact absurd mem (enriched inputs cause)
  · exact refused

end Serving

end Whereabouts
