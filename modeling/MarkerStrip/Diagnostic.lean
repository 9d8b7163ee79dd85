/-
  Diagnostics: the problems that an external checker reports.

  A diagnostic names a tab, a line of it counted from zero, a message and a
  severity.  Its tooltip is the severity's label followed by the message.
-/

namespace MarkerStrip

/-- How grave a diagnostic is. -/
inductive Severity where
  | warning
  | error
deriving Repr, DecidableEq

/-- The word that starts a tooltip. -/
def Severity.label : Severity → String
  | error => "Error"
  | warning => "Warning"

/-- The word that data files use. -/
def Severity.keyword : Severity → String
  | error => "error"
  | warning => "warning"

/-- The severity that a keyword names, in lower case only. -/
def Severity.ofKeyword? (s : String) : Option Severity :=
  if s == "warning" then some warning else if s == "error" then some error else none

/-- A reported problem, tied to a tab and to a line of it. -/
structure Diagnostic where
  tab : UInt64
  line : UInt64
  severity : Severity
  message : String
deriving Repr, DecidableEq

namespace Diagnostic

def isError (d : Diagnostic) : Bool := d.severity == .error

/-- The text shown while the pointer rests on the diagnostic's marker. -/
def tooltip (d : Diagnostic) : String := d.severity.label ++ ": " ++ d.message

end Diagnostic

end MarkerStrip
