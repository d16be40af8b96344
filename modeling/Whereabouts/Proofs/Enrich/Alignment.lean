import Mathlib.Data.List.Forall2
import Whereabouts.Enrich.Batch

/-!
# Results stand in the order of the events

Whatever the gateway and the router answer, a batch that is enriched gives one item for each of its
events, in order: the one that reports what is wrong with the event, or one that reports what was
found for it.

* `Enricher.length_lookUp`: one thing is found for each point.
* `Enricher.enrich_reports`: the items report the inputs, one by one.
-/

namespace Whereabouts

/-- An item is a result for an input. -/
inductive Item.Reports {α : Type} [Scalar α] (input : Input α) : Item α → Prop where
  | failed {error} :
    input.event.locate = .error error →
    Reports input (.failed input error)
  | found {point} (location stops) :
    input.event.locate = .ok point →
    Reports input (.found input location stops)

section Reports

variable {α : Type} [Scalar α] {input : Input α} {item : Item α}

/-- An item that reports on an input has its index. -/
lemma Item.Reports.index_eq (rp : Item.Reports input item) : item.index = input.index := by
  cases rp with
  | failed => rfl
  | found => rfl

/-- An item that reports on an input has the id of its property. -/
lemma Item.Reports.propertyId_eq (rp : Item.Reports input item) :
    item.propertyId = input.event.propertyId := by
  cases rp with
  | failed => rfl
  | found => rfl

end Reports

section Run

variable {σ ε α β : Type}

/-- Where a computation in two parts succeeds, both parts do. -/
lemma run_bind_inv {x : ExceptT ε (StateM σ) α} {f : α → ExceptT ε (StateM σ) β} {s s' : σ} {b : β}
    (h : (x >>= f).run.run s = (.ok b, s')) :
    ∃ a s1, x.run.run s = (.ok a, s1) ∧ (f a).run.run s1 = (.ok b, s') := by
  rw [ExceptT.run_bind, StateT.run_bind] at h
  cases hx : x.run.run s with
  | mk r s1 =>
    rw [hx] at h
    cases r with
    | error e => cases h
    | ok a => exact ⟨a, s1, rfl, h⟩

/-- There is one answer for each item that is asked about. -/
lemma length_run_mapM (f : α → StateM σ β) (xs : List α) (s : σ) :
    ((xs.mapM f).run s).1.length = xs.length := by
  induction xs generalizing s with
  | nil => rfl
  | cons x xs ih =>
    rw [List.mapM_cons]
    exact congrArg Nat.succ (ih ((f x).run s).2)

end Run

namespace Enricher

variable {σ α : Type}

/-- Adding ways keeps one list of stops for each point. -/
lemma length_addAllLegs (router : Option (Router (StateM σ) α)) {points : List (Point α)}
    {stops : List (List (NearestStop α))} (len : stops.length = points.length) (s : σ) :
    ((addAllLegs router points stops).run s).1.length = points.length := by
  cases router with
  | none => exact len
  | some router =>
    apply (length_run_mapM _ (points.zip stops) s).trans
    rw [List.length_zip, len, Nat.min_self]

variable [Scalar α]

/-- A computation goes on only with the right number of results. -/
lemma ensureResults_inv {part : String} {got expected : Nat} {s s' : σ} {u : Unit}
    (h : (ensureResults (m := StateM σ) part got expected).run.run s = (.ok u, s')) :
    got = expected := by
  unfold ensureResults at h
  split at h
  next e => exact e
  next => cases h

/-- The items report the inputs, where as much was found as there are events to locate. -/
lemma assemble_reports {inputs : List (Input α)}
    {found : List (Option Hierarchy × List (NearestStop α))}
    (len : found.length = (inputs.filterMap fun input => input.event.locate.toOption).length) :
    List.Forall₂ Item.Reports inputs (assemble inputs found) := by
  induction inputs generalizing found with
  | nil => exact .nil
  | cons input inputs ih =>
    unfold assemble
    cases loc : input.event.locate with
    | error error =>
      rw [List.filterMap_cons, loc] at len
      exact .cons (.failed loc) (ih len)
    | ok point =>
      rw [List.filterMap_cons, loc] at len
      cases found with
      | nil => cases len
      | cons first found =>
        obtain ⟨location, stops⟩ := first
        exact .cons (.found location stops loc) (ih (Nat.succ.inj len))

variable [Measured α]

/-- One thing is found for each point. -/
lemma length_lookUp (e : Enricher (StateM σ) α) {points : List (Point α)}
    {found : List (Option Hierarchy × List (NearestStop α))} {s s' : σ}
    (h : (e.lookUp points).run.run s = (.ok found, s')) : found.length = points.length := by
  unfold lookUp at h
  split at h
  next none =>
    cases h
    rw [List.isEmpty_iff.1 none]
    rfl
  next =>
    obtain ⟨⟨locations, stops⟩, s1, -, h⟩ := run_bind_inv h
    obtain ⟨_, s2, h1, h⟩ := run_bind_inv h
    obtain ⟨_, s3, h2, h⟩ := run_bind_inv h
    obtain ⟨legs, s4, h3, h⟩ := run_bind_inv h
    cases h
    have e1 := ensureResults_inv h1
    have e2 := ensureResults_inv h2
    have e3 := length_addAllLegs e.router e2 s3
    have el : legs = ((addAllLegs e.router points stops).run s3).1 := by
      cases h3
      rfl
    rw [List.length_zip, e1, el, e3, Nat.min_self]

/-- A batch that is enriched gives one result for each of its events, in order. -/
theorem enrich_reports (e : Enricher (StateM σ) α) {inputs : List (Input α)}
    {result : BatchResult α} {s s' : σ}
    (h : (e.enrich inputs).run.run s = (.ok result, s')) :
    List.Forall₂ Item.Reports inputs result.items := by
  obtain ⟨found, s1, h1, h⟩ := run_bind_inv h
  cases h
  exact assemble_reports (e.length_lookUp h1)

end Enricher

end Whereabouts
