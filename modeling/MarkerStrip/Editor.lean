/-
  The editor that a strip belongs to, and what the strip asks of it.

  * `Editor` is the part of the editor that computations read: which tab is
    active, and the documents by tab;
  * `Editor.read` is one reading of a document, which may fail or crash;
  * `Call` is a request of the strip to the editor's user interface.
-/
import MarkerStrip.Diagnostic

namespace MarkerStrip

/-! ## Documents -/

/-- What a tab holds. -/
inductive Document where
  | text (s : String)
  /-- Reading fails for a cause, told in ever wider contexts. -/
  | unreadable (cause : String) (contexts : List String)
  /-- Reading crashes. -/
  | crashing
deriving Repr, DecidableEq

/-- Why a document could not be read. -/
inductive ReadFailure where
  | unreadable (tab : UInt64) (reason : String)
  | crashed
deriving Repr, DecidableEq

/-- What a failed reading says. -/
def unreadableText (tab : UInt64) (reason : String) : String :=
  "failed to read document for tab " ++ toString tab.toNat ++ ": " ++ reason

/-- The active tab, and the documents by tab, the last one set first. -/
structure Editor where
  activeTab : UInt64 := 0
  documents : List (UInt64 × Option Document) := []
deriving Repr, DecidableEq

namespace Editor

def switchTab (e : Editor) (tab : UInt64) : Editor := { e with activeTab := tab }

/-- Puts a document into a tab, or none. -/
def setDocument (e : Editor) (tab : UInt64) (d : Option Document) : Editor :=
  { e with documents := (tab, d) :: e.documents }

/-- The document in a tab. -/
def document? (e : Editor) (tab : UInt64) : Option Document :=
  (e.documents.lookup tab).join

/-- Reads the document in a tab; the reason of a failure starts with the widest context. -/
def read (e : Editor) (tab : UInt64) : Except ReadFailure String :=
  match e.document? tab with
  | some (.text s) => .ok s
  | some (.unreadable cause contexts) =>
    .error (.unreadable tab (": ".intercalate (contexts.reverse ++ [cause])))
  | some .crashing => .error .crashed
  | none => .error (.unreadable tab ("no document in tab " ++ toString tab.toNat))

end Editor

/-! ## Calls -/

/-- The look of the pointer. -/
inductive Cursor where
  | arrow
  | hand
deriving Repr, DecidableEq

/-- What a strip asks of the editor's user interface. -/
inductive Call where
  | scrollTo (d : Diagnostic)
  | setTooltip (text : Option String)
  | setCursor (c : Cursor)
  | repaintStrip
  | repaintText
deriving Repr, DecidableEq

end MarkerStrip
