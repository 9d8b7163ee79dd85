/-
  Benches: computations for one board without a strip.

  Requests are made and computed by hand, each as often as wanted and any
  number of them at a time; the steps of the computations may come in any
  order.

  * `Bench.step` is one move, and `Bench.run` a list of them.
-/
import MarkerStrip.Job

namespace MarkerStrip

/-- A board, and the computations that are made for it. -/
structure Bench where
  editor : Editor
  layout : Layout
  board : Board := {}
  /-- All requests made so far. -/
  requests : List Request := []
  /-- The computations that have not returned. -/
  jobs : List Job := []

/-- What may be done next. -/
inductive Move where
  | request (ds : List Diagnostic) (height : UInt32)
  /-- The request at a place is computed, perhaps once more. -/
  | call (i : Nat)
  /-- The computation at a place makes a step. -/
  | proceed (k : Nat)
  | switchTab (tab : UInt64)
  | setDocument (tab : UInt64) (d : Option Document)
  | setLayout (l : Layout)
deriving Repr, DecidableEq

namespace Bench

/-- One more request. -/
def request (b : Bench) (ds : List Diagnostic) (height : UInt32) : Bench :=
  let (ticket, board) := b.board.draw
  { b with board, requests := b.requests ++ [⟨ticket, ds, height⟩] }

/-- One more computation of the request at place `i`, if there is one. -/
def call (b : Bench) (i : Nat) : Bench :=
  { b with jobs := b.jobs ++ (b.requests[i]?).toList.map fun r => { request := r } }

/-- Takes the computation at place `k` one step further; one that has its answer returns. -/
def proceed (b : Bench) (k : Nat) : Bench :=
  match b.jobs[k]? with
  | none => b
  | some j =>
    match j.answer? with
    | some _ => { b with jobs := b.jobs.eraseIdx k }
    | none =>
      let (j, board) := j.proceed b.layout b.editor b.board
      { b with board, jobs := b.jobs.set k j }

/-- One move. -/
def step (b : Bench) : Move → Bench
  | .request ds height => b.request ds height
  | .call i => b.call i
  | .proceed k => b.proceed k
  | .switchTab tab => { b with editor := b.editor.switchTab tab }
  | .setDocument tab d => { b with editor := b.editor.setDocument tab d }
  | .setLayout layout => { b with layout }

/-- A list of moves. -/
def run (b : Bench) (ms : List Move) : Bench := ms.foldl step b

end Bench

end MarkerStrip
