import Whereabouts.Proofs.Enrich.Each
import Whereabouts.Proofs.Enrich.Isolation

/-!
# What a gateway is asked

The questions to a gateway are written down with what is answered to them. To the gateway that
answers from memory only such questions are put as it can answer, so nothing that asks it fails.

* `Gateway.recorded`: the same gateway, whose questions are written down.
* `Inquiry.Answered`: a question that can be answered, with a slot for each plan.
* `Recounts`: a computation ends as it does when its questions are written down, and all of them are
  answered.
* `Enricher.recounts_enrich`: enriching a batch is such a computation.
-/

namespace Whereabouts

/-- A question to a gateway: the plans that were sent, and what came of it, the number of slots or a
failure. -/
structure Inquiry (α : Type) where
  layer : Layer
  plans : List (Plan α)
  answer : Except StoreError Nat

/-- Every plan is for the layer that is asked and has a bound, and there is a slot for each plan. -/
structure Inquiry.Answered {α : Type} [Scalar α] (q : Inquiry α) : Prop where
  executable : ∀ plan ∈ q.plans, plan.Executable q.layer
  answer_eq : q.answer = .ok q.plans.length

section Recording

variable {m : Type → Type} [Monad m] {α β : Type}

/-- Puts a question and writes it down. -/
def Inquiry.record (layer : Layer) (ask : List (Plan α) → ExceptT StoreError m (List β))
    (plans : List (Plan α)) : ExceptT StoreError (StateT (List (Inquiry α)) m) (List β) :=
  ExceptT.mk fun log => do
    let answer ← (ask plans).run
    return (answer, log ++ [⟨layer, plans, answer.map List.length⟩])

/-- The same gateway, whose questions are written down. -/
def Gateway.recorded (g : Gateway m α) : Gateway (StateT (List (Inquiry α)) m) α where
  boundaries := Inquiry.record .boundaries g.boundaries
  stops := Inquiry.record .stops g.stops
  lines := Inquiry.record .lines g.lines

/-- The same router beside a gateway whose questions are written down. -/
def Router.beside (router : Router m α) : Router (StateT (List (Inquiry α)) m) α where
  matrix origins destinations := ExceptT.mk (StateT.lift (router.matrix origins destinations).run)

/-- The same enrichment, whose questions to the gateway are written down. -/
def Enricher.recorded (e : Enricher m α) : Enricher (StateT (List (Inquiry α)) m) α where
  gateway := e.gateway.recorded
  matcher := e.matcher
  router := e.router.map Router.beside

end Recording

section Recounts

variable {σ α β γ ε : Type} [Scalar α]

/-- A computation ends in the same way when its questions are written down; what it ends in is as
described, and every question is answered. -/
def Recounts (plain : StateM σ β) (noted : StateT (List (Inquiry α)) (StateM σ) β)
    (kind : β → Prop) : Prop :=
  ∀ log s, ∃ b s' said, plain.run s = (b, s') ∧ (noted.run log).run s = ((b, log ++ said), s') ∧
    kind b ∧ ∀ q ∈ said, q.Answered

/-- A computation succeeds with a result as described. -/
def Succeeds (kind : β → Prop) : Except ε β → Prop
  | .ok b => kind b
  | .error _ => False

namespace Recounts

variable {x : StateM σ β} {x' : StateT (List (Inquiry α)) (StateM σ) β} {kind : β → Prop}

/-- A result that is only given asks nothing. -/
lemma pure {b : β} (h : kind b) :
    Recounts (α := α) (Pure.pure b : StateM σ β) (Pure.pure b) kind := by
  intro log s
  refine ⟨b, s, [], rfl, ?_, h, nofun⟩
  rw [List.append_nil]
  rfl

/-- What asks nothing writes nothing down. -/
lemma lift (x : StateM σ β) : Recounts (α := α) x (StateT.lift x) fun _ => True := by
  intro log s
  refine ⟨_, _, [], rfl, ?_, trivial, nofun⟩
  rw [List.append_nil]
  rfl

/-- What holds of a computation holds of it when its questions are written down. -/
lemma of_plain {kind' : β → Prop} (rc : Recounts x x' kind)
    (holds : ∀ s b s', x.run s = (b, s') → kind b → kind' b) : Recounts x x' kind' := by
  intro log s
  obtain ⟨b, s', said, plain, noted, h, answered⟩ := rc log s
  exact ⟨b, s', said, plain, noted, holds s b s' plain h, answered⟩

/-- What is asked after a computation is written down after its questions. -/
lemma bind {f : β → StateM σ γ} {f' : β → StateT (List (Inquiry α)) (StateM σ) γ}
    {kind' : γ → Prop} (rc : Recounts x x' kind)
    (next : ∀ b, kind b → Recounts (f b) (f' b) kind') :
    Recounts (x >>= f) (x' >>= f') kind' := by
  intro log s
  obtain ⟨b, s1, said, plain, noted, h, answered⟩ := rc log s
  obtain ⟨c, s', more, plain', noted', h', answered'⟩ := next b h (log ++ said) s1
  refine ⟨c, s', said ++ more, ?_, ?_, h', ?_⟩
  · rw [StateT.run_bind, plain]
    exact plain'
  · rw [StateT.run_bind, StateT.run_bind, noted, ← List.append_assoc]
    exact noted'
  · intro q hq
    exact (List.mem_append.1 hq).elim (answered q) (answered' q)

/-- Mapping a result asks nothing. -/
lemma map {f : β → γ} {kind' : γ → Prop} (rc : Recounts x x' kind)
    (imp : ∀ b, kind b → kind' (f b)) : Recounts (f <$> x) (f <$> x') kind' :=
  rc.bind fun b h => pure (imp b h)

/-- Questions that are asked one by one are written down one after the other. -/
lemma mapM {f : β → StateM σ γ} {f' : β → StateT (List (Inquiry α)) (StateM σ) γ}
    (each : ∀ b, Recounts (f b) (f' b) fun _ => True) (bs : List β) :
    Recounts (bs.mapM f) (bs.mapM f') fun _ => True := by
  induction bs with
  | nil => exact pure trivial
  | cons b bs ih =>
    rw [List.mapM_cons, List.mapM_cons]
    exact (each b).bind fun c _ => ih.bind fun cs _ => pure trivial

section Failing

variable {x : ExceptT ε (StateM σ) β} {x' : ExceptT ε (StateT (List (Inquiry α)) (StateM σ)) β}
  {f : β → ExceptT ε (StateM σ) γ} {f' : β → ExceptT ε (StateT (List (Inquiry α)) (StateM σ)) γ}

/-- A computation that succeeds goes on. -/
lemma bind_ok {kind : β → Prop} {kind' : γ → Prop} (rc : Recounts x.run x'.run (Succeeds kind))
    (next : ∀ b, kind b → Recounts (f b).run (f' b).run (Succeeds kind')) :
    Recounts (x >>= f).run (x' >>= f').run (Succeeds kind') := by
  rw [ExceptT.run_bind, ExceptT.run_bind]
  refine rc.bind fun answer h => ?_
  cases answer with
  | ok b => exact next b h
  | error => exact h.elim

/-- A computation that may fail goes on where it does not. -/
lemma bind_any (rc : Recounts x.run x'.run fun _ => True)
    (next : ∀ b, Recounts (f b).run (f' b).run fun _ => True) :
    Recounts (x >>= f).run (x' >>= f').run fun _ => True := by
  rw [ExceptT.run_bind, ExceptT.run_bind]
  refine rc.bind fun answer _ => ?_
  cases answer with
  | ok b => exact next b
  | error => exact pure trivial

/-- Questions of a loop that may fail are written down turn by turn. -/
lemma foldlM {f : γ → β → ExceptT ε (StateM σ) γ}
    {f' : γ → β → ExceptT ε (StateT (List (Inquiry α)) (StateM σ)) γ}
    (each : ∀ c b, Recounts (f c b).run (f' c b).run fun _ => True) (bs : List β) (c : γ) :
    Recounts (bs.foldlM f c).run (bs.foldlM f' c).run fun _ => True := by
  induction bs generalizing c with
  | nil => exact pure trivial
  | cons b bs ih =>
    rw [List.foldlM_cons, List.foldlM_cons]
    exact (each c b).bind_any ih

/-- Naming the failures in another way asks nothing. -/
lemma adapt {ε' : Type} {kind : β → Prop} (rc : Recounts x.run x'.run (Succeeds kind))
    (f : ε → ε') : Recounts (x.adapt f).run (x'.adapt f).run (Succeeds kind) := by
  refine rc.map fun answer h => ?_
  cases answer with
  | ok => exact h
  | error => exact h.elim

/-- A computation that cannot fail succeeds. -/
lemma succeed {x : StateM σ β} {x' : StateT (List (Inquiry α)) (StateM σ) β} {kind : β → Prop}
    (rc : Recounts x x' kind) :
    Recounts (ExceptT.lift (ε := ε) x).run (ExceptT.lift x').run (Succeeds kind) :=
  rc.map fun _ h => h

end Failing

/-- Of the slots that are answered to one question the last is taken. -/
lemma last {x : ExceptT StoreError (StateM σ) (List (List γ))}
    {x' : ExceptT StoreError (StateT (List (Inquiry α)) (StateM σ)) (List (List γ))}
    {kind : List (List γ) → Prop} (rc : Recounts x.run x'.run (Succeeds kind)) :
    Recounts (x >>= fun slots => Pure.pure (slots.getLast?.getD [])).run
      (x' >>= fun slots => Pure.pure (slots.getLast?.getD [])).run (Succeeds fun _ => True) :=
  rc.bind_ok fun _ _ => pure trivial

end Recounts

end Recounts

section Asking

variable {σ α β : Type} [Scalar α] {plans : List (Plan α)}

/-- A question that can be answered is written down as answered. -/
lemma recounts_query {layer : Layer} {query : List (Plan α) → Except StoreError (List β)}
    {slots : List β} (ex : ∀ plan ∈ plans, plan.Executable layer) (ok : query plans = .ok slots)
    (len : slots.length = plans.length) :
    let ask := fun plans => ExceptT.mk (m := StateM σ) (pure (query plans))
    Recounts (ask plans).run (Inquiry.record layer ask plans).run
      (Succeeds (·.length = plans.length)) := by
  intro ask log s
  -- a single question is written down
  refine ⟨.ok slots, s, [⟨layer, plans, .ok slots.length⟩], ?_, ?_, len, ?_⟩
  · show (query plans, s) = _
    rw [ok]
  · show ((query plans, log ++ [⟨layer, plans, (query plans).map List.length⟩]), s) = _
    rw [ok]
    rfl
  · rintro q (_ | ⟨_, ⟨⟩⟩)
    exact ⟨ex, congrArg Except.ok len⟩

variable [Measured α] (data : MapData α)

namespace MapData

/-- Plans for boundaries that can be executed are answered, one slot each. -/
lemma recounts_boundaries (ex : ∀ plan ∈ plans, plan.Executable .boundaries) :
    Recounts ((data.gateway (StateM σ)).boundaries plans).run
      ((data.gateway (StateM σ)).recorded.boundaries plans).run
      (Succeeds (·.length = plans.length)) :=
  recounts_query ex (queryBoundaries_eq ex) (List.length_map _)

/-- Plans for stops that can be executed are answered, one slot each. -/
lemma recounts_stops (ex : ∀ plan ∈ plans, plan.Executable .stops) :
    Recounts ((data.gateway (StateM σ)).stops plans).run
      ((data.gateway (StateM σ)).recorded.stops plans).run (Succeeds (·.length = plans.length)) :=
  recounts_query ex (queryStops_eq ex) (List.length_map _)

/-- Plans for lines that can be executed are answered, one slot each. -/
lemma recounts_lines (ex : ∀ plan ∈ plans, plan.Executable .lines) :
    Recounts ((data.gateway (StateM σ)).lines plans).run
      ((data.gateway (StateM σ)).recorded.lines plans).run (Succeeds (·.length = plans.length)) :=
  recounts_query ex (queryLines_eq ex) (List.length_map _)

end MapData

namespace Gateway

section Questions

variable (points : List (Point α)) (requests : List (StopRequest α)) (threshold : α)
  (modes : List Mode)

/-- The boundaries around every point are found. -/
lemma recounts_containingAll :
    Recounts ((data.gateway (StateM σ)).containingAll points).run
      ((data.gateway (StateM σ)).recorded.containingAll points).run
      (Succeeds (·.length = points.length)) := by
  have ex : ∀ plan ∈ points.map fun p => Plan.containing p boundaryReach,
      plan.Executable .boundaries :=
    List.forall_mem_map.2 fun p _ => Plan.executable_containing p _
  have asked := data.recounts_boundaries (σ := σ) ex
  rwa [List.length_map] at asked

/-- The stops for every request are found. -/
lemma recounts_nearestStopsAll :
    Recounts ((data.gateway (StateM σ)).nearestStopsAll requests).run
      ((data.gateway (StateM σ)).recorded.nearestStopsAll requests).run
      (Succeeds (·.length = requests.length)) := by
  have ex : ∀ plan ∈ requests.map fun r => Plan.nearestStops r.point r.radius r.limit r.modes,
      plan.Executable .stops :=
    List.forall_mem_map.2 fun r _ => Plan.executable_nearestStops _ _ _ _
  have asked := data.recounts_stops (σ := σ) ex
  rwa [List.length_map] at asked

/-- The lines near every point are found. -/
lemma recounts_linesNearAll :
    Recounts ((data.gateway (StateM σ)).linesNearAll points threshold modes).run
      ((data.gateway (StateM σ)).recorded.linesNearAll points threshold modes).run
      (Succeeds (·.length = points.length)) := by
  have ex : ∀ plan ∈ points.map fun p => Plan.linesNear p threshold modes,
      plan.Executable .lines :=
    List.forall_mem_map.2 fun p _ => Plan.executable_linesNear _ _ _
  have asked := data.recounts_lines (σ := σ) ex
  rwa [List.length_map] at asked

/-- Lines are found, also where there are no plans to ask about. -/
lemma recounts_askLines {plans : List (Plan α)} (ex : ∀ plan ∈ plans, plan.Executable .lines) :
    Recounts ((data.gateway (StateM σ)).askLines plans).run
      ((data.gateway (StateM σ)).recorded.askLines plans).run
      (Succeeds (·.length = plans.length)) := by
  cases plans with
  | nil => exact .pure rfl
  | cons plan plans => exact data.recounts_lines ex

end Questions

/-- The hierarchy around every point is found. -/
lemma recounts_resolveAll (points : List (Point α)) :
    Recounts ((data.gateway (StateM σ)).resolveAll points).run
      ((data.gateway (StateM σ)).recorded.resolveAll points).run
      (Succeeds (·.length = points.length)) := by
  by_cases some : points = []
  · subst some
    exact .pure rfl
  rw [resolveAll_eq_ask _ some, resolveAll_eq_ask _ some]
  refine (recounts_containingAll data points).bind_ok fun found len => ?_
  rw [ensureAligned_of_eq _ len, ensureAligned_of_eq _ len, pure_bind, pure_bind]
  exact .pure ((List.length_map _).trans len)

/-- The hierarchy around a single point is found. -/
lemma recounts_resolve (point : Point α) :
    Recounts ((data.gateway (StateM σ)).resolve point).run
      ((data.gateway (StateM σ)).recorded.resolve point).run (Succeeds fun _ => True) :=
  (recounts_containingAll data [point]).last.bind_ok fun _ _ => .pure trivial

/-- The stops near every point are found. -/
lemma recounts_nearestAll (config : MatcherConfig α) (points : List (Point α)) (radius : α)
    (limit : Nat) :
    Recounts ((data.gateway (StateM σ)).nearestAll config points radius limit).run
      ((data.gateway (StateM σ)).recorded.nearestAll config points radius limit).run
      (Succeeds (·.length = points.length)) := by
  by_cases some : points = []
  · subst some
    exact .pure rfl
  rw [nearestAll_eq_ask _ _ some, nearestAll_eq_ask _ _ some]
  refine (recounts_nearestStopsAll data _).bind_ok fun hits len => ?_
  rw [ensureAligned_of_eq _ len, ensureAligned_of_eq _ len, pure_bind, pure_bind]
  have ex : ∀ plan ∈ linePlans config limit points hits, plan.Executable .lines :=
    List.forall_mem_map.2 fun s _ => Plan.executable_linesNear _ _ _
  refine (recounts_askLines data ex).bind_ok fun lines len' => ?_
  rw [ensureAligned_of_eq _ len', ensureAligned_of_eq _ len', pure_bind, pure_bind]
  refine .pure ?_
  show List.length _ = _
  rw [List.length_zipWith, length_deal, Nat.min_self, selectedNear, List.length_map, length_deal]

/-- The stops near a single point are found. -/
lemma recounts_nearest (config : MatcherConfig α) (point : Point α) (radius : α) (limit : Nat) :
    Recounts ((data.gateway (StateM σ)).nearest config point radius limit).run
      ((data.gateway (StateM σ)).recorded.nearest config point radius limit).run
      (Succeeds fun _ => True) :=
  (recounts_nearestAll data config [point] radius limit).last

/-- The lines near a single point are found. -/
lemma recounts_linesNear (point : Point α) (threshold : α) (modes : List Mode) :
    Recounts ((data.gateway (StateM σ)).linesNear point threshold modes).run
      ((data.gateway (StateM σ)).recorded.linesNear point threshold modes).run
      (Succeeds fun _ => True) :=
  (recounts_linesNearAll data [point] threshold modes).last

end Gateway

end Asking

section Ways

variable {σ α : Type} [Scalar α] (router : Router (StateM σ) α)

/-- The request for a chunk asks nothing of the gateway, whatever the router answers. -/
lemma Router.recounts_fill (origins destinations : List (Point α)) (matrix : Matrix α)
    (chunk : Chunk) :
    Recounts (α := α) (router.fill origins destinations matrix chunk).run
      (router.beside.fill origins destinations matrix chunk).run fun _ => True :=
  (Recounts.lift (router.matrix _ _).run).bind_any fun _ =>
    (Recounts.pure trivial).bind_any fun _ => .pure trivial

/-- A router asks the gateway nothing. -/
lemma Router.recounts_routeMatrix (origins destinations : List (Point α)) :
    Recounts (α := α) (router.routeMatrix origins destinations).run
      (router.beside.routeMatrix origins destinations).run fun _ => True :=
  (Recounts.pure trivial).bind_any fun chunks =>
    .foldlM (router.recounts_fill origins destinations) chunks _

/-- Looking for ways asks nothing of the gateway. -/
lemma Enricher.recounts_addLegs (point : Point α) (stops : List (NearestStop α)) :
    Recounts (α := α) (addLegs router point stops) (addLegs router.beside point stops)
      fun _ => True := by
  unfold addLegs
  split
  next => exact .pure trivial
  next =>
    refine (router.recounts_routeMatrix _ _).bind fun answer _ => ?_
    cases answer with
    | ok => exact .pure trivial
    | error => exact .pure trivial

/-- Adding the ways to the stops asks the gateway nothing. -/
lemma Enricher.recounts_addAllLegs (router : Option (Router (StateM σ) α)) (points : List (Point α))
    (stops : List (List (NearestStop α))) :
    Recounts (α := α) (addAllLegs router points stops)
      (addAllLegs (router.map Router.beside) points stops) fun _ => True := by
  cases router with
  | none => exact .pure trivial
  | some router =>
    have each (pair : Point α × List (NearestStop α)) := recounts_addLegs router pair.1 pair.2
    exact .mapM each _

end Ways

namespace Enricher

variable {σ α : Type} [Scalar α] [Measured α] {e : Enricher (StateM σ) α} {data : MapData α}

/-- The gateway tells a hierarchy and a list of stops for every point. -/
lemma recounts_askGateway (he : e.gateway = data.gateway _) (points : List (Point α)) :
    Recounts (e.askGateway points).run (e.recorded.askGateway points).run
      (Succeeds fun found => found.1.length = points.length ∧ found.2.length = points.length) := by
  unfold askGateway recorded
  rw [he]
  exact (Gateway.recounts_resolveAll data points).bind_ok fun locations len =>
    (Gateway.recounts_nearestAll data _ points _ _).bind_ok fun stops len' => .pure ⟨len, len'⟩

/-- The points of a batch are looked up without a failure. -/
lemma recounts_lookUp (he : e.gateway = data.gateway _) (points : List (Point α)) :
    Recounts (e.lookUp points).run (e.recorded.lookUp points).run (Succeeds fun _ => True) := by
  unfold lookUp
  split
  next => exact .pure trivial
  next =>
    refine ((recounts_askGateway he points).adapt EnrichError.store).bind_ok fun found len => ?_
    obtain ⟨locations, stops⟩ := found
    dsimp only
    -- there is a location and a list of stops for each point, so neither check fails
    rw [ensureResults_of_eq _ len.1, ensureResults_of_eq _ len.1, pure_bind, pure_bind,
      ensureResults_of_eq _ len.2, ensureResults_of_eq _ len.2, pure_bind, pure_bind]
    exact (recounts_addAllLegs e.router points stops).succeed.bind_ok fun _ _ => .pure trivial

/-- A batch is enriched, with one item for each event. -/
lemma recounts_enrich (he : e.gateway = data.gateway _) (inputs : List (Input α)) :
    Recounts (e.enrich inputs).run (e.recorded.enrich inputs).run
      (Succeeds fun result => List.Forall₂ Item.Reports inputs result.items) := by
  have looking := recounts_lookUp he (inputs.filterMap fun input => input.event.locate.toOption)
  have enriching : Recounts (e.enrich inputs).run (e.recorded.enrich inputs).run
      (Succeeds fun _ => True) := looking.bind_ok fun _ _ => .pure trivial
  refine enriching.of_plain fun s answer s' run ok => ?_
  cases answer with
  | ok result => exact e.enrich_reports run
  | error => exact ok.elim

end Enricher

end Whereabouts
