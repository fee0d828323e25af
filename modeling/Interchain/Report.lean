/-
  Reports: a result, with the log and the events that led to
  it.

  A report is written as a transcript, line by line and event
  by event, and closed with the result.

  Main declarations:
    * `Report`
    * `Transcript`
-/

------------------------------------------------------------
-- Reports
------------------------------------------------------------

namespace Interchain

/- What comes of a step: its result, the lines that it logs,
   and the events that it tells. -/
structure Report (ε α : Type) where
  result : α
  log : List String
  events : List ε
  deriving DecidableEq

namespace Report

/- A report with another result logs and tells the same. -/
def map
    {ε α β : Type}
    (f : α → β)
    (r : Report ε α) :
    Report ε β :=
  ⟨f r.result, r.log, r.events⟩

end Report

end Interchain

------------------------------------------------------------
-- Transcripts
------------------------------------------------------------

namespace Interchain

/- What a chain has logged and told so far. -/
structure Transcript (ε : Type) where
  log : List String
  events : List ε
  deriving DecidableEq

namespace Transcript

variable {ε : Type}

/- Nothing was logged or told. -/
def empty : Transcript ε := ⟨[], []⟩

/- Add lines to the log. -/
def withLog
    (t : Transcript ε)
    (lines : List String) :
    Transcript ε :=
  { t with log := t.log ++ lines }

/- Add events. -/
def withEvents
    (t : Transcript ε)
    (events : List ε) :
    Transcript ε :=
  { t with events := t.events ++ events }

/- Add a line to the log. -/
def note (t : Transcript ε) (line : String) : Transcript ε :=
  t.withLog [line]

/- Add an event. -/
def emit (t : Transcript ε) (event : ε) : Transcript ε :=
  t.withEvents [event]

/- Close a transcript with a result. -/
def close
    {α : Type}
    (t : Transcript ε)
    (result : α) :
    Report ε α :=
  ⟨result, t.log, t.events⟩

end Transcript

/- The report of a step that notes one line. -/
def Report.noting
    {ε α : Type}
    (result : α)
    (line : String) :
    Report ε α :=
  (Transcript.empty.note line).close result

end Interchain
