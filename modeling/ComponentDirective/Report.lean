import ComponentDirective.Discovery
import ComponentDirective.Pool

/-!
# Whole runs

`extractAll` answers a list of requests, each on its own: an unreadable directive fails its own request and no other.
`perform` discovers the requests of a host, answers them, and reports descriptors, failures and diagnostics. When the
options allow extractions to overlap, a schedule says how they do; otherwise one follows the other.

* `splitOutcomes_length`: every outcome is a descriptor or a failure of the report.
-/

namespace ComponentDirective

namespace Extractor

/-- A request as a task of its own; its failures are attributed to the component. -/
def task (x : Extractor) (r : Request) : Recorded Outcome := x.extract r (x.host.site r.component)

/-- The tasks of a list of requests, none of which has written anything yet into the journal that they share. -/
def pool (x : Extractor) (requests : List Request) (journal : List Event) : Pool Outcome :=
  ⟨requests.map x.task, journal⟩

end Extractor

/-- Answers requests and writes on a journal that others may have begun; the events of the answer are the whole journal.
Without overlap the schedule is the one that takes the requests in turn. -/
def extractAll (h : Host) (o : Options) (requests : List Request) (journal : List Event) (schedule : List Nat) :
    Except ModelError (Recorded (List Extractor.Outcome)) :=
  match Extractor.ofOptions h o with
  | .error e => .error e
  | .ok x =>
    let p := (x.pool requests journal).runAll (if o.parallel then schedule else [])
    .ok ⟨p.results, p.journal⟩

/-- The outcome of a whole run. -/
structure Report where
  /-- The descriptors of the directives that could be read, in the order of their requests. -/
  descriptors : List Descriptor
  /-- The requests whose directive could not be read, with the reason. -/
  failures : List (Request × ExtractError)
  diagnostics : List Diagnostic

namespace Report

/-- Whether validation found anything. -/
def hasErrors (r : Report) : Bool := !r.diagnostics.isEmpty

end Report

/-- Separates the descriptors from the failures. -/
def splitOutcomes : List (Request × Extractor.Outcome) → List Descriptor × List (Request × ExtractError)
  | [] => ([], [])
  | (r, outcome) :: rest =>
    let others := splitOutcomes rest
    match outcome with
    | .ok d => (d :: others.1, others.2)
    | .error e => (others.1, (r, e) :: others.2)

theorem splitOutcomes_length : ∀ outcomes : List (Request × Extractor.Outcome),
    (splitOutcomes outcomes).1.length + (splitOutcomes outcomes).2.length = outcomes.length
  | [] => rfl
  | (r, outcome) :: rest => by
    have ih := splitOutcomes_length rest
    cases outcome <;> simp only [splitOutcomes, List.length_cons] <;> omega

/-- Both lists keep the order of the requests. -/
theorem splitOutcomes_eq : ∀ outcomes : List (Request × Extractor.Outcome), splitOutcomes outcomes =
    (outcomes.filterMap fun a => a.2.toOption,
      outcomes.filterMap fun a => match a.2 with
        | .ok _ => none
        | .error e => some (a.1, e))
  | [] => rfl
  | (r, .ok d) :: rest => by
    rw [splitOutcomes, splitOutcomes_eq rest]
    rfl
  | (r, .error e) :: rest => by
    rw [splitOutcomes, splitOutcomes_eq rest]
    rfl

/-- Discovers and answers every request of a host, on a journal of its own. -/
def perform (h : Host) (o : Options) (schedule : List Nat) : Except ModelError (Recorded Report) :=
  match h.discover o with
  | .error e => .error e
  | .ok requests =>
    match extractAll h o requests [] schedule with
    | .error e => .error e
    | .ok run =>
      let (descriptors, failures) := splitOutcomes (requests.zip run.value)
      let diagnostics := run.diagnostics
      .ok ⟨⟨descriptors, failures, diagnostics⟩,
        run.events ++ [.finished descriptors.length failures.length diagnostics.length]⟩

end ComponentDirective
