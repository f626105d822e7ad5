import ComponentDirective.Options.File
import ComponentDirective.Report
import ComponentDirective.Snapshot
import ComponentDirective.Store

/-!
# Sessions

A session builds a store, sets options, and extracts from what was stored. It keeps the diagnostics of single
extractions until they are taken away; a list of requests and a whole run report theirs apart. The store is seen through
the faults of the session.

* `Session.diagnostics_keep`: what is kept stands behind what was there.
-/

namespace ComponentDirective

/-- The release of this library. -/
def version : String := "0.1.0"

/-- Lines in the order of their code points. -/
def sortLines (lines : List String) : List String := lines.mergeSort fun a b => !(b < a)

structure Session where
  store : Store
  faults : Faults
  options : Options
  diagnostics : List Diagnostic

namespace Session

def start : Session := ⟨.empty, .none, .default, []⟩

/-- The host that extraction sees. -/
def host (s : Session) : Host := s.store.host.withFaults s.faults

/-- Keeps the diagnostics of a step. -/
def keep {α : Type} (s : Session) (r : Recorded α) : Session :=
  { s with diagnostics := s.diagnostics ++ r.diagnostics }

theorem diagnostics_keep {α : Type} (s : Session) (r : Recorded α) :
    (s.keep r).diagnostics = s.diagnostics ++ r.diagnostics := rfl

def takeDiagnostics (s : Session) : List Diagnostic × Session := (s.diagnostics, { s with diagnostics := [] })

def extractor (s : Session) : Except ModelError Extractor := Extractor.ofOptions s.host s.options

def discover (s : Session) : Except ModelError (List Request) := s.host.discover s.options

def extractAll (s : Session) (requests : List Request) : Except ModelError (Recorded (List Extractor.Outcome)) :=
  ComponentDirective.extractAll s.host s.options requests [] []

def perform (s : Session) : Except ModelError (Recorded Report) := ComponentDirective.perform s.host s.options []

/-- The lines of a journal or a report in the order in which they are shown: as they came, or sorted when extractions
may overlap and the order means nothing. -/
def arrange (s : Session) (lines : List String) : List String :=
  if s.options.parallel then sortLines lines else lines

end Session

end ComponentDirective
