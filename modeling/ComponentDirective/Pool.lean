import ComponentDirective.Journal

/-!
# Workers that share a journal

A pool of workers writes one journal. Each worker holds the events that it has yet to write, and its result. In a turn a
worker writes one event; a list of turns is a schedule, and every way in which the workers can overlap is a schedule.

* `Pool.results_run`: no schedule changes a result.
* `Pool.run_append`: schedules run one after another.
-/

namespace ComponentDirective

/-- Workers with what is left to them, and what has been written. -/
structure Pool (α : Type) where
  workers : List (Recorded α)
  journal : List Event

namespace Pool

variable {α : Type}

/-- One turn of the worker at a place: it writes its next event. A worker that is done lets its turn pass. -/
def turn (p : Pool α) (i : Nat) : Pool α :=
  match p.workers[i]? with
  | some ⟨a, e :: rest⟩ => ⟨p.workers.set i ⟨a, rest⟩, p.journal ++ [e]⟩
  | _ => p

def run (p : Pool α) (schedule : List Nat) : Pool α := schedule.foldl turn p

/-- The schedule that lets each worker write all that is left to it before the next one starts. -/
def inTurn (p : Pool α) : List Nat :=
  p.workers.zipIdx.flatMap fun w => List.replicate w.1.events.length w.2

/-- Runs a schedule, and then what it left to do. -/
def runAll (p : Pool α) (schedule : List Nat) : Pool α :=
  let q := p.run schedule
  q.run q.inTurn

def results (p : Pool α) : List α := p.workers.map (·.value)

def diagnostics (p : Pool α) : List Diagnostic := p.journal.filterMap Event.diagnostic?

theorem run_append (p : Pool α) (s t : List Nat) : p.run (s ++ t) = (p.run s).run t := List.foldl_append

theorem results_turn (p : Pool α) (i : Nat) : (p.turn i).results = p.results := by
  unfold turn
  split
  · next a e rest h =>
    simp only [results, List.map_set]
    apply List.ext_getElem? fun j => ?_
    rw [List.getElem?_set]
    split
    · next hij =>
      subst hij
      simp only [List.length_map, List.getElem?_map, h, Option.map_some]
      rw [if_pos (List.getElem?_eq_some_iff.1 h).1]
    · rfl
  · rfl

theorem results_run (p : Pool α) (schedule : List Nat) : (p.run schedule).results = p.results := by
  induction schedule generalizing p with
  | nil => rfl
  | cons i rest ih => exact (ih (p.turn i)).trans (results_turn p i)

end Pool

end ComponentDirective
