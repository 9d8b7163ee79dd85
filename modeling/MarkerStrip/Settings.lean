/-
  The settings of a strip: colours, sizes and timing.
-/
import MarkerStrip.Color
import MarkerStrip.Band

namespace MarkerStrip

/-- The settings of a strip. -/
structure Settings where
  errorColor : Color := .ofRgb 0xED2630
  warningColor : Color := .ofRgb 0xFFC30E
  backgroundColor : Color := .ofRgb 0x2C343D
  /-- The preferred, and least, width of the strip in pixels. -/
  preferredWidth : UInt32 := 12
  markerHeight : UInt32 := 4
  /-- Pixels above and below a marker that still count as hits. -/
  hitTolerance : UInt32 := 2
  /-- The margin kept free below the last marker. -/
  bottomMargin : UInt32 := 15
  insetLeft : UInt32 := 2
  insetRight : UInt32 := 1
  /-- Lines added to the counted length of a document, for checkers that count generated lines. -/
  lineOffset : UInt64 := 0
  /-- The milliseconds within which requests are gathered into one; zero gathers none. -/
  debounce : UInt64 := 0
deriving Repr, DecidableEq

namespace Settings

/-- Equality of settings, colours compared as numbers. -/
def same (a b : Settings) : Bool :=
  a.errorColor.same b.errorColor && a.warningColor.same b.warningColor &&
    a.backgroundColor.same b.backgroundColor && a.preferredWidth == b.preferredWidth &&
    a.markerHeight == b.markerHeight && a.hitTolerance == b.hitTolerance &&
    a.bottomMargin == b.bottomMargin && a.insetLeft == b.insetLeft &&
    a.insetRight == b.insetRight && a.lineOffset == b.lineOffset && a.debounce == b.debounce

def metrics (s : Settings) : Metrics := ⟨s.bottomMargin⟩

def band (s : Settings) : Band := ⟨s.hitTolerance, s.markerHeight⟩

/-- The preferred width, and the height the strip has. -/
def preferredSize (s : Settings) (height : UInt32) : UInt32 × UInt32 := (s.preferredWidth, height)

/-- The colour of markers of a severity. -/
def colorOf (s : Settings) : Severity → Color
  | .error => s.errorColor
  | .warning => s.warningColor

end Settings

end MarkerStrip
