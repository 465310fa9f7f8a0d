/-!
# Notices

What the operator of the service is told beside the answers: warnings about odd requests and errors
that did not stop the work.
-/

namespace OrderRetrieval

/-- How serious a notice is. -/
inductive Severity where
  | warning
  | error
deriving DecidableEq, Repr

/-- Something that the operator is told. -/
inductive Notice where
  /-- No store for shared popularity counts was given. -/
  | sharingDisabled
  /-- The shared store could not count a term. -/
  | countingFailed (term reason : String)
  /-- The shared store could not be read. -/
  | readingFailed (reason : String)
  /-- The shared store could not be trimmed. -/
  | trimmingFailed (reason : String)
  /-- A sort key names no field. -/
  | unknownSortKey (name : String)
  /-- A query had so many faults. -/
  | queryRejected (faults : Nat)
  /-- A source order was left out. -/
  | orderSkipped (message : String)
  /-- An indexing job was still running. -/
  | jobStillRunning (job : String)
  /-- The periodic jobs had been started before. -/
  | alreadyStarted
  /-- A scheduled job failed. -/
  | scheduledJobFailed (message : String)
  /-- A scheduled job failed in a way that jobs do not usually fail. -/
  | scheduledJobBroke (job message : String)
  /-- The source has no such order. -/
  | orderMissing (id : String)
deriving DecidableEq, Repr

namespace Notice

/-- How serious a notice is. -/
def severity : Notice → Severity
  | countingFailed .. | readingFailed .. | trimmingFailed .. | orderSkipped .. |
    scheduledJobFailed .. | scheduledJobBroke .. => .error
  | _ => .warning

/-- The wording of a notice. -/
def message : Notice → String
  | sharingDisabled => "Cache manager initialized without Redis client - caching disabled"
  | countingFailed term reason => "Error adding popular term '" ++ term ++ "': " ++ reason
  | readingFailed reason => "Error getting popular terms: " ++ reason
  | trimmingFailed reason => "Error trimming popular terms: " ++ reason
  | unknownSortKey name =>
    "Unsupported sort field '" ++ name ++ "', falling back to createdAt DESC"
  | queryRejected faults =>
    "Rejected search query with " ++ toString faults ++ " validation errors"
  | orderSkipped message => message
  | jobStillRunning job =>
    "Indexing job '" ++ job ++ "' is still running, skipping this run"
  | alreadyStarted => "Indexing scheduler already started"
  | scheduledJobFailed message => message ++ "; retrying at next scheduled run"
  | scheduledJobBroke job message => "Indexing job '" ++ job ++ "' failed unexpectedly: " ++
      message ++ "; retrying at next scheduled run"
  | orderMissing id => "Order " ++ id ++ " not found in source, index left unchanged"

/-- A notice with its severity, on one line. -/
def line (n : Notice) : String :=
  (match n.severity with
    | .warning => "WARNING "
    | .error => "ERROR ") ++ n.message

end Notice

end OrderRetrieval
