import MarkerStrip.Diagnostic.Decode
import MarkerStrip.Proofs.Turn
import MarkerStrip.Rehearsal
import MarkerStrip.Settings.Decode
import MarkerStrip.Theme
import MarkerStrip.Proofs.Fates
import MarkerStrip.Bench
import MarkerStrip.Proofs.Newest
import MarkerStrip.Proofs.Bench
import MarkerStrip.Proofs.Repaint
import MarkerStrip.Proofs.Convergence
import MarkerStrip.Proofs.Order
import MarkerStrip.Proofs.Outline
import MarkerStrip.Proofs.Diary
import MarkerStrip.Proofs.Window
import MarkerStrip.Proofs.Reports
import MarkerStrip.Proofs.Spares
import MarkerStrip.Proofs.Failures
import MarkerStrip.Proofs.Layout
import MarkerStrip.Proofs.History
import MarkerStrip.Proofs.Provenance
import MarkerStrip.Proofs.Resize
import MarkerStrip.Proofs.Accuracy
import MarkerStrip.Proofs.Growth
import MarkerStrip.Proofs.Pointer
import MarkerStrip.Proofs.Painting
import MarkerStrip.Proofs.Hover
import MarkerStrip.Proofs.Slot
import MarkerStrip.Proofs.Queue
import MarkerStrip.Proofs.Dictionary
import MarkerStrip.Proofs.Intensity
import MarkerStrip.Proofs.Arrangement
import MarkerStrip.Proofs.Spelling
import MarkerStrip.Proofs.Schema
import MarkerStrip.Proofs.Overlay
import MarkerStrip.Proofs.Forms
