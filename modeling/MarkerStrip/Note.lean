/-
  Notes for the log: what went wrong without stopping anything.
-/
import MarkerStrip.Board
import MarkerStrip.Data.Fault
import MarkerStrip.Editor
import MarkerStrip.Mailbox

namespace MarkerStrip

/-- How much a note matters. -/
inductive Level where
  | debug
  | warning
  | error
deriving Repr, DecidableEq

/-- An entry of the log. -/
inductive Note where
  /-- A theme's entry is no colour. -/
  | colorIgnored (key raw : String)
  /-- There is nothing for the worker to run on. -/
  | workerUnavailable
  | requestRefused (t : Ticket) (r : Refusal)
  /-- A result came after a later one. -/
  | outdated (t published : Ticket)
  | documentUnreadable (t : Ticket) (tab : UInt64) (reason : String)
  | computationCrashed (t : Ticket)
deriving Repr, DecidableEq

namespace Note

def level : Note → Level
  | colorIgnored .. | workerUnavailable | requestRefused .. => .warning
  | outdated .. | documentUnreadable .. => .debug
  | computationCrashed _ => .error

/-- The entry in words; that of a crash ends where the runtime would describe it. -/
def text : Note → String
  | colorIgnored key raw => "Ignoring theme key `" ++ key ++ "`: " ++ Data.invalidColorText raw
  | workerUnavailable => "No tokio runtime available, error bar updates are disabled"
  | requestRefused t r => "Skipping error bar update " ++ toString t ++ ": " ++ r.message
  | outdated t published =>
    "Dropping error bar update " ++ toString t ++ ", update " ++ toString published ++ " is newer"
  | documentUnreadable t tab reason =>
    "Skipping error bar update " ++ toString t ++ ": " ++ unreadableText tab reason
  | computationCrashed t => "Error bar recompute " ++ toString t ++ " failed"

end Note

end MarkerStrip
