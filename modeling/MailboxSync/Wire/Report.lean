import MailboxSync.Cycle.Report
import MailboxSync.Wire.Codec

namespace MailboxSync

open Wire (Value)

def DeviceOutcome.toValue : DeviceOutcome → Value
  | skipped => .object [("status", .string "skipped")]
  | committed n => .object [("status", .string "committed"), ("applied", .integer n)]
  | rolledBack e => .object [("status", .string "rolled_back"), ("error", e.toValue)]

/-- Completed commands and failed ones are told apart; each list keeps the order of the attempts. -/
def CarrierOutcome.toValue (o : CarrierOutcome) : Value :=
  .object [
    ("attempted", .integer o.attempted), ("succeeded", .integer o.succeeded),
    ("completed", .array (o.completed.map Action.toValue)),
    ("failures", .array (o.failures.map fun (a, e) =>
      .object [("action", a.toValue), ("error", e.toValue)]))]

/-- The account of a cycle, with what can be told from it. -/
def Report.toValue (r : Report) : Value :=
  .object [
    ("policy", .string r.policy.name), ("inserted", .integer r.inserted),
    ("deleted", .integer r.deleted), ("marked_read", .integer r.markedRead),
    ("fetched", .integer r.fetched), ("local", r.device.toValue), ("remote", r.carrier.toValue),
    ("noop", .bool r.isNoop), ("has_warnings", .bool (!r.warnings.isEmpty)),
    ("warnings", .integer r.warnings.length)]

end MailboxSync
