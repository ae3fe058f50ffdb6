import Authorization.Value.Cursor

/-!
# The journal

What decisions and changes leave behind apart from their results: records for the log, and the items
that have been taken from one-shot sequences.
-/

namespace Authorization

/-- How grave a log record is. -/
inductive LogLevel where
  | debug | info | warning | error
deriving DecidableEq, Repr

/-- The name of a level. -/
def LogLevel.label : LogLevel → String
  | .debug => "DEBUG"
  | .info => "INFO"
  | .warning => "WARNING"
  | .error => "ERROR"

/-- The part of the system that writes a log record. -/
inductive LogSource where
  | access | admin | bootstrap | permissions | policy | sandbox
deriving DecidableEq, Repr

/-- The name of a source. -/
def LogSource.label : LogSource → String
  | .access => "gatekeeper.access"
  | .admin => "gatekeeper.admin"
  | .bootstrap => "gatekeeper.bootstrap"
  | .permissions => "gatekeeper.permissions"
  | .policy => "gatekeeper.policy"
  | .sandbox => "gatekeeper.sandbox"

structure LogRecord where
  level : LogLevel
  source : LogSource
  message : String
deriving DecidableEq, Repr

/-- What has been left behind so far; the latest log record comes first. -/
structure Journal where
  cursors : Cursors := {}
  latestFirst : List LogRecord := []

/-- Something that leaves traces in the journal and never fails. -/
abbrev Journaled := StateM Journal

namespace Journal

/-- The log records in the order in which they were written. -/
def records (journal : Journal) : List LogRecord :=
  journal.latestFirst.reverse

/-- The journal with one more log record. -/
def add (journal : Journal) (level : LogLevel) (source : LogSource) (message : String) : Journal :=
  { journal with latestFirst := ⟨level, source, message⟩ :: journal.latestFirst }

@[simp]
theorem records_add (journal : Journal) (level : LogLevel) (source : LogSource) (message : String) :
    (journal.add level source message).records = journal.records ++ [⟨level, source, message⟩] := by
  simp [records, add]

@[simp]
theorem cursors_add (journal : Journal) (level : LogLevel) (source : LogSource) (message : String) :
    (journal.add level source message).cursors = journal.cursors :=
  rfl

end Journal

namespace Journaled

/-- Writes a log record. -/
def note (level : LogLevel) (source : LogSource) (message : String) : Journaled Unit :=
  modify fun journal => journal.add level source message

/-- Takes items from one-shot sequences. -/
def ofDraw {α : Type} (draw : Draw α) : Journaled (Except Error α) :=
  modifyGet fun journal =>
    let (result, cursors) := Id.run ((ExceptT.run draw).run journal.cursors)
    (result, { journal with cursors })

end Journaled

end Authorization
