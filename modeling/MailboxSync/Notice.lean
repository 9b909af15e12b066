import MailboxSync.Orchestrator

namespace MailboxSync

/-- How much a line of a log matters. -/
inductive Level where
  | info
  | warning
  | error
deriving DecidableEq, Repr

def Level.name : Level → String
  | .info => "INFO"
  | .warning => "WARN"
  | .error => "ERROR"

structure LogLine where
  level : Level
  text : String
deriving DecidableEq, Repr

def LogLine.render (l : LogLine) : String := l.level.name ++ " " ++ l.text

/-- A cycle's end told in a log: each command that failed, and that all is in sync otherwise. -/
def Outcome.lines : Outcome → List LogLine
  | .completed r =>
    r.warnings.map (fun (a, e) =>
      ⟨.warning, "Remote action " ++ a.render ++ " will be retried next cycle: " ++ e.message⟩) ++
    [⟨.info, "Mailbox in sync"⟩]
  | .failed e => [⟨.error, "Mailbox sync failed: " ++ e.message⟩]

/-- Who is told how a cycle ended: the one who holds the far end of a channel, or a log. -/
inductive Observer where
  | channel
  | log
deriving DecidableEq, Repr

/-- One thing an observer is told. -/
inductive Notice where
  | event (o : Outcome)
  | line (l : LogLine)
deriving DecidableEq, Repr

def Observer.notices (x : Observer) (o : Outcome) : List Notice :=
  match x with
  | .channel => [.event o]
  | .log => o.lines.map .line

end MailboxSync
