/-
  What the pointer meets, and what is shown for it.

  A click and a move of the pointer look for the marker under it in the same
  way.  A move asks the editor for a tooltip and a hand over a marker, and
  takes both away when it leaves all markers; it remembers whether there is
  anything to take away, while markers are replaced under the pointer.
  Painting gives rectangles and asks the editor for nothing, so it is no
  action of a history.

  * `Band.Exact` and `Strip.PointsAlike` say what pointing comes to, for any
    list of markers and for a strip in any state;
  * `Hover` is what the editor shows for the pointer, and `Session.runNaively`
    a history whose moves set it every time, without remembering anything;
  * `Strip.Unaware`: nothing but a move looks at what is remembered, or changes
    what is shown (`Session.unaware_step`);
  * `Session.hovering_run` says what is remembered, and `Session.resembles_run`
    that the two histories look alike; `Session.Hovers` collects what follows.
-/
import MarkerStrip.Proofs.Order
import MarkerStrip.Proofs.Pointer

namespace MarkerStrip

/-! ## Pointing -/

/-- What a band answers to a pointer at `p` over some markers. -/
structure Band.Exact (b : Band) (ms : List Marker) (p : Int32) : Prop where
  /-- No operation leaves the 64 bits: each comes to what it does in whole numbers. -/
  widened : p.toInt64.toInt = p.toInt ∧ ∀ n, (widen n).toInt = n.toNat
  low : ∀ y, (widen y - widen b.tolerance).toInt = y.toNat - b.tolerance.toNat
  middle : ∀ y, (widen y + widen b.tolerance).toInt = y.toNat + b.tolerance.toNat
  high : ∀ y, (widen y + widen b.tolerance + widen b.height).toInt =
    y.toNat + b.tolerance.toNat + b.height.toNat
  covers : ∀ y, b.covers y p = true ↔ y.toNat - b.tolerance.toNat ≤ p.toInt ∧
    p.toInt ≤ y.toNat + b.tolerance.toNat + b.height.toNat
  /-- The marker that is hit is the first one whose rows hold the pointer. -/
  hit : ∀ m, b.hit? ms p = some m ↔ ∃ j, b.Meets ms p j m
  index : ∀ j, b.hitIndex? ms p = some j ↔ ∃ m, b.Meets ms p j m
  miss : b.hit? ms p = none ↔ ∀ m ∈ ms, p.toInt ∉ b.rows m.y
  /-- Markers behind the list leave a hit as it is. -/
  append : ∀ more j m, b.Meets ms p j m →
    b.hitIndex? (ms ++ more) p = some j ∧ b.hit? (ms ++ more) p = some m
  /-- A larger band hits the same marker or an earlier one. -/
  larger : ∀ b' : Band, b.tolerance ≤ b'.tolerance → b.height ≤ b'.height →
    ∀ j m, b.Meets ms p j m →
      ∃ i ≤ j, ∃ m', ms[i]? = some m' ∧ b'.hitIndex? ms p = some i ∧ b'.hit? ms p = some m'

/-- Whether the editor is told of a hit or of a miss. -/
def Effect.answer? : Effect → Option Bool
  | .answered hit => some hit
  | _ => none

/-- A click and a move to `p` answer alike, and are about the same marker. -/
structure Strip.PointsAlike (s : Strip) (p : Int32) : Prop where
  answers : (s.click p).filterMap Effect.answer? = [(s.markerAt? p).isSome] ∧
    (s.move p).2.filterMap Effect.answer? = [(s.markerAt? p).isSome]
  hit : ∀ j m, s.settings.band.Meets s.board.current p j m →
    s.click p = [.call (.scrollTo m.diagnostic), .answered true] ∧
      (s.move p).2 =
        [.call (.setTooltip (some m.tooltip)), .call (.setCursor .hand), .answered true]
  miss : (∀ m ∈ s.board.current, p.toInt ∉ s.settings.band.rows m.y) →
    s.click p = [.answered false] ∧ .answered false ∈ (s.move p).2 ∧
      ∀ text, .call (.setTooltip (some text)) ∉ (s.move p).2

namespace Strip

variable {s : Strip} {p : Int32} {m : Marker}

theorem click_of_hit (hit : s.markerAt? p = some m) :
    s.click p = [.call (.scrollTo m.diagnostic), .answered true] := by
  simp only [click, hit]

theorem click_of_miss (miss : s.markerAt? p = none) : s.click p = [.answered false] := by
  simp only [click, miss]

theorem move_of_hit (hit : s.markerAt? p = some m) : s.move p = ({ s with hovering := true },
    [.call (.setTooltip (some m.tooltip)), .call (.setCursor .hand), .answered true]) := by
  simp only [move, hit]

theorem move_of_miss (miss : s.markerAt? p = none) : s.move p = ({ s with hovering := false },
    (if s.hovering then [.call (.setTooltip none), .call (.setCursor .arrow)] else []) ++
      [.answered false]) := by
  simp only [move, miss]

theorem markerAt?_of_meets {j : ℕ} (meets : s.settings.band.Meets s.board.current p j m) :
    s.markerAt? p = some m :=
  Band.hit?_eq_some_iff_meets.2 ⟨j, meets⟩

theorem markerAt?_eq_none_iff :
    s.markerAt? p = none ↔ ∀ m ∈ s.board.current, p.toInt ∉ s.settings.band.rows m.y :=
  Band.hit?_eq_none_iff

/-- A move tells the editor whether it is on a marker, and remembers it. -/
theorem hovering_move (s : Strip) (p : Int32) :
    (s.move p).1.hovering = true ↔ .answered true ∈ (s.move p).2 := by
  rcases at_p : s.markerAt? p with _ | m
  · rw [move_of_miss at_p]
    cases s.hovering <;> simp
  · rw [move_of_hit at_p]
    simp

theorem pointsAlike (s : Strip) (p : Int32) : s.PointsAlike p where
  answers := by
    rcases at_p : s.markerAt? p with _ | m
    · rw [click_of_miss at_p, move_of_miss at_p]
      cases s.hovering <;> exact ⟨rfl, rfl⟩
    · rw [click_of_hit at_p, move_of_hit at_p]
      exact ⟨rfl, rfl⟩
  hit := by
    intro j m meets
    have at_p := markerAt?_of_meets meets
    rw [click_of_hit at_p, move_of_hit at_p]
    exact ⟨rfl, rfl⟩
  miss := by
    intro outside
    have at_p := markerAt?_eq_none_iff.2 outside
    rw [click_of_miss at_p, move_of_miss at_p]
    cases s.hovering <;> simp

/-- **Pointing is exact.**  Which rows belong to a marker is decided without overflow; the marker
    that is hit is the first one whose rows hold the pointer; markers behind the list and larger bands
    take no hit away and move none back; and a click and a move, on a strip in any state, answer alike
    and are about that marker. -/
theorem pointing_exact (b : Band) (ms : List Marker) (s : Strip) (p : Int32) :
    b.Exact ms p ∧ s.PointsAlike p := by
  refine ⟨?_, s.pointsAlike p⟩
  constructor
  · exact ⟨p.toInt_toInt64, Band.toInt_widen⟩
  · exact b.toInt_low
  · exact b.toInt_middle
  · exact b.toInt_high
  · intro y
    exact b.covers_iff y p
  · intro m
    exact Band.hit?_eq_some_iff_meets
  · intro j
    exact Band.hitIndex?_eq_some_iff_meets
  · exact Band.hit?_eq_none_iff
  · intro more j m meets
    have index := Band.hitIndex?_eq_some_iff_meets.2 ⟨m, meets⟩
    have hit := Band.hit?_eq_some_iff_meets.2 ⟨j, meets⟩
    exact ⟨Band.hitIndex?_append index more, Band.hit?_append hit more⟩
  · intro b' tolerance height j m meets
    exact Band.exists_hit_of_le tolerance height (Band.hitIndex?_eq_some_iff_meets.2 ⟨m, meets⟩)

/-- A band that is larger than any strip does not reach above the first row. -/
example : let b : Band := ⟨4294967295, 4294967295⟩
    b.covers 4294967295 2147483647 = true ∧ b.covers 4294967295 (-1) = false := by decide

end Strip

/-! ## What is shown -/

/-- What the editor shows for the pointer. -/
structure Hover where
  tooltip : Option String := none
  cursor : Cursor := .arrow
deriving Repr, DecidableEq

namespace Hover

/-- What is to be shown over a marker, or over none. -/
def ofMarker : Option Marker → Hover
  | some m => ⟨some m.tooltip, .hand⟩
  | none => ⟨none, .arrow⟩

/-- What is shown after an effect. -/
def after (c : Hover) : Effect → Hover
  | .call (.setTooltip tooltip) => { c with tooltip }
  | .call (.setCursor cursor) => { c with cursor }
  | _ => c

def afterAll (c : Hover) (fx : List Effect) : Hover := fx.foldl after c

end Hover

/-- An effect that changes what is shown for the pointer. -/
def Effect.isHover : Effect → Bool
  | .call (.setTooltip _) | .call (.setCursor _) => true
  | _ => false

theorem Hover.afterAll_append (c : Hover) (fx gx : List Effect) :
    c.afterAll (fx ++ gx) = (c.afterAll fx).afterAll gx :=
  List.foldl_append

theorem Hover.afterAll_of_quiet {fx : List Effect} (quiet : ∀ z ∈ fx, z.isHover = false)
    (c : Hover) : c.afterAll fx = c := by
  induction fx with
  | nil => rfl
  | cons z fx ih =>
    have hz : c.after z = c := by
      have := quiet z (by simp)
      unfold Effect.isHover at this
      unfold after
      split at this <;> simp_all
    rw [afterAll, List.foldl_cons, hz]
    exact ih fun z hz => quiet z (List.mem_cons_of_mem _ hz)

/-- A move that remembers nothing: it sets the tooltip and the cursor every time. -/
def Strip.moveNaively (s : Strip) (p : Int32) : Strip × List Effect :=
  let c := Hover.ofMarker (s.markerAt? p)
  (s, [.call (.setTooltip c.tooltip), .call (.setCursor c.cursor),
    .answered (s.markerAt? p).isSome])

namespace Strip

/-- A move shows what is under the pointer, if there is something to take away wherever it remembers
    that there is. -/
theorem afterAll_move (s : Strip) (p : Int32) {c : Hover} (clear : s.hovering = false → c = {}) :
    c.afterAll (s.move p).2 = Hover.ofMarker (s.markerAt? p) := by
  rcases at_p : s.markerAt? p with _ | m
  · rw [move_of_miss at_p]
    rcases on : s.hovering with _ | _
    · rw [clear on]
      rfl
    · rfl
  · rw [move_of_hit at_p]
    rfl

theorem afterAll_moveNaively (s : Strip) (p : Int32) (c : Hover) :
    c.afterAll (s.moveNaively p).2 = Hover.ofMarker (s.markerAt? p) := rfl

/-- Both moves tell the editor the same. -/
theorem filter_move (s : Strip) (p : Int32) :
    ((s.move p).2.filter fun z => !z.isHover) =
      (s.moveNaively p).2.filter fun z => !z.isHover := by
  rcases at_p : s.markerAt? p with _ | m
  · rw [move_of_miss at_p, moveNaively, at_p]
    cases s.hovering <;> rfl
  · rw [move_of_hit at_p, moveNaively, at_p]
    rfl

end Strip

namespace Session

/-- One action, where moves remember nothing. -/
def stepNaively (s : Session) : Action → Session × List Effect
  | .move p => s.onStrip fun strip => strip.moveNaively p
  | a => s.step a

/-- A list of actions, where moves remember nothing. -/
def runNaively (s : Session) : List Action → Session × List Effect
  | [] => (s, [])
  | a :: as => andThen (s.stepNaively a) fun s => s.runNaively as

/-- A session that remembers something else of the last move. -/
def withHovering (s : Session) (hovering : Bool) : Session :=
  ⟨s.editor, { s.strip with hovering }⟩

end Session

/-! ## All but moves -/

theorem Action.move_or_other (a : Action) : (∃ p, a = .move p) ∨ ∀ p, a ≠ .move p := by
  cases a with
  | move p => exact .inl ⟨p, rfl⟩
  | _ => exact .inr nofun

/-- A function on strips that does not look at what the last move has left, and changes neither that
    nor what is shown. -/
structure Strip.Unaware (f : Strip → Strip × List Effect) : Prop where
  frame : ∀ u hovering, f { u with hovering } = ({ (f u).1 with hovering }, (f u).2)
  quiet : ∀ u, ∀ z ∈ (f u).2, z.isHover = false

namespace Strip.Unaware

theorem request : Unaware Strip.request where
  frame := by
    intro u hovering
    simp only [Strip.request]
    split <;> rfl
  quiet := by
    intro u z hz
    simp only [Strip.request] at hz
    split at hz
    · cases hz
    · obtain rfl := List.mem_singleton.1 hz
      rfl

/-- What has no effects changes nothing that is shown. -/
theorem silent {f : Strip → Strip}
    (frame : ∀ u hovering, f { u with hovering } = { f u with hovering }) :
    Unaware fun u => (f u, []) where
  frame u hovering := congrArg (·, []) (frame u hovering)
  quiet := by
    intro u z hz
    cases hz

theorem update (ds : List Diagnostic) : Unaware fun u => u.update ds where
  frame u := request.frame { u with latest := ds }
  quiet u := request.quiet { u with latest := ds }

theorem resize (height : UInt32) : Unaware fun u => u.resize height where
  frame := by
    intro u hovering
    by_cases same : u.height = height
    · simp only [Strip.resize, same, if_true]
    · simp only [Strip.resize, same, if_false]
      exact request.frame { u with height } hovering
  quiet := by
    intro u
    by_cases same : u.height = height
    · simp [Strip.resize, same]
    · simp only [Strip.resize, same, if_false]
      exact request.quiet { u with height }

theorem work : Unaware Strip.work where
  frame := by
    intro u hovering
    have gathering : Strip.gathering { u with hovering } = u.gathering := rfl
    simp only [Strip.work, gathering]
    split
    · rfl
    · simp only [carryOutAll_eq]
  quiet := by
    intro u z hz
    simp only [Strip.work] at hz
    split at hz
    · cases hz
    · rw [carryOutAll_eq] at hz
      obtain ⟨v, -, hv⟩ := List.mem_filterMap.1 hz
      cases v with
      | dispatch => cases hv
      | setAside => exact Option.some.inj hv ▸ rfl

theorem proceed (t : Ticket) (e : Editor) : Unaware fun u => u.proceed t e where
  frame := by
    intro u hovering
    have place : Strip.place? { u with hovering } t = u.place? t := rfl
    simp only [Strip.proceed, place]
    split
    · rfl
    · simp only [proceedAt]
      split
      · rfl
      · split <;> rfl
  quiet := by
    intro u z hz
    rcases place : u.place? t with _ | k
    · simp [proceed_of_absent place] at hz
    · obtain ⟨j, at_k, -⟩ := exists_of_place? place
      rcases answer : j.answer? with _ | a
      · simp [proceed_of_under_way place at_k answer] at hz
      · rw [proceed_of_answered place at_k answer] at hz
        obtain ⟨n, -, rfl⟩ := List.mem_map.1 hz
        rfl

theorem drain : Unaware Strip.drain where
  frame _ _ := rfl
  quiet := by
    intro u z hz
    rcases List.mem_append.1 hz with hz | hz
    · obtain ⟨y, -, rfl⟩ := List.mem_map.1 hz
      rfl
    · obtain ⟨c, hc, rfl⟩ := List.mem_map.1 hz
      obtain ⟨y, -, hy⟩ := List.mem_flatMap.1 hc
      rcases y with ⟨t, _ | _⟩ | _ | _ <;> simp [Event.repaints] at hy
      · rw [hy]
        rfl
      · rcases hy with rfl | rfl <;> rfl

theorem click (p : Int32) : Unaware fun u => (u, u.click p) where
  frame _ _ := rfl
  quiet := by
    intro u z hz
    rcases at_p : u.markerAt? p with _ | m
    · simp only [click_of_miss at_p, List.mem_singleton] at hz
      rw [hz]
      rfl
    · simp only [click_of_hit at_p, List.mem_cons, List.not_mem_nil, or_false] at hz
      rcases hz with rfl | rfl <;> rfl

end Strip.Unaware

namespace Session

variable {s u v : Session} {a : Action} {fx gx : List Effect}

/-- **Nothing but a move is aware of the pointer.** -/
theorem exists_unaware (other : ∀ p, a ≠ .move p) (e : Editor) :
    ∃ f, Strip.Unaware f ∧ ∀ strip,
      (⟨e, strip⟩ : Session).step a = (⟨e.after a, (f strip).1⟩, (f strip).2) := by
  cases a with
  | update ds => exact ⟨_, .update ds, fun _ => rfl⟩
  | refresh => exact ⟨_, .request, fun _ => rfl⟩
  | resize height => exact ⟨_, .resize height, fun _ => rfl⟩
  | work => exact ⟨_, .work, fun _ => rfl⟩
  | elapse ms => exact ⟨_, .silent (f := fun u => u.elapse ms) fun _ _ => rfl, fun _ => rfl⟩
  | proceed t => exact ⟨_, .proceed t e, fun _ => rfl⟩
  | drain => exact ⟨_, .drain, fun _ => rfl⟩
  | click p => exact ⟨_, .click p, fun _ => rfl⟩
  | move p => exact absurd rfl (other p)
  | switchTab | setDocument => exact ⟨_, .silent (f := id) fun _ _ => rfl, fun _ => rfl⟩

theorem unaware_step (other : ∀ p, a ≠ .move p) (s : Session) (hovering : Bool) :
    (s.withHovering hovering).step a = ((s.step a).1.withHovering hovering, (s.step a).2) ∧
      ∀ z ∈ (s.step a).2, z.isHover = false := by
  obtain ⟨f, unaware, step⟩ := exists_unaware other s.editor
  have here : s.step a = _ := step s.strip
  rw [withHovering, step, here, unaware.frame]
  exact ⟨rfl, unaware.quiet s.strip⟩

theorem hovering_step (other : ∀ p, a ≠ .move p) (s : Session) :
    (s.step a).1.strip.hovering = s.strip.hovering := by
  have same : (s.withHovering s.strip.hovering).step a = _ :=
    (unaware_step other s s.strip.hovering).1
  exact congrArg (fun x => x.1.strip.hovering) same

/-! ## What is remembered -/

/-- The pointer was on a marker when it last moved. -/
def WasOnMarker (s : Session) (as : List Action) : Prop :=
  ∃ before p after, as = before ++ .move p :: after ∧ (∀ a ∈ after, ∀ q, a ≠ .move q) ∧
    .answered true ∈ ((s.run before).1.step (.move p)).2

theorem wasOnMarker_concat_move {as : List Action} {p : Int32} :
    s.WasOnMarker (as ++ [.move p]) ↔ .answered true ∈ ((s.run as).1.step (.move p)).2 := by
  constructor
  · rintro ⟨before, q, after, split, quiet, hit⟩
    rcases List.eq_nil_or_concat' after with rfl | ⟨after, a, rfl⟩
    · obtain ⟨rfl, last⟩ := List.append_inj' split rfl
      cases last
      exact hit
    · rw [← List.cons_append, ← List.append_assoc] at split
      obtain ⟨-, last⟩ := List.append_inj' split rfl
      exact absurd (List.singleton_inj.1 last).symm (quiet a (by simp) p)
  · intro hit
    exact ⟨as, p, [], rfl, by simp, hit⟩

theorem wasOnMarker_concat_of_other (other : ∀ p, a ≠ .move p) {as : List Action} :
    s.WasOnMarker (as ++ [a]) ↔ s.WasOnMarker as := by
  constructor
  · rintro ⟨before, q, after, split, quiet, hit⟩
    rcases List.eq_nil_or_concat' after with rfl | ⟨after, b, rfl⟩
    · obtain ⟨-, last⟩ := List.append_inj' split rfl
      exact absurd (List.singleton_inj.1 last) (other q)
    · rw [← List.cons_append, ← List.append_assoc] at split
      obtain ⟨rfl, -⟩ := List.append_inj' split rfl
      exact ⟨before, q, after, rfl, fun a ha => quiet a (by simp [ha]), hit⟩
  · rintro ⟨before, q, after, rfl, quiet, hit⟩
    refine ⟨before, q, after ++ [a], by simp, fun b hb => ?_, hit⟩
    rcases List.mem_append.1 hb with hb | hb
    · exact quiet b hb
    · exact List.mem_singleton.1 hb ▸ other

/-- **A strip remembers whether its last move was on a marker.** -/
theorem hovering_run (new : s.strip.hovering = false) (as : List Action) :
    (s.run as).1.strip.hovering = true ↔ s.WasOnMarker as := by
  induction as using List.reverseRecOn with
  | nil =>
    refine iff_of_false (by simp [run, new]) ?_
    rintro ⟨before, p, after, split, -⟩
    simp at split
  | append_singleton as a ih =>
    rw [run_concat]
    rcases a.move_or_other with ⟨p, rfl⟩ | other
    · rw [wasOnMarker_concat_move]
      exact (s.run as).1.strip.hovering_move p
    · rw [wasOnMarker_concat_of_other other, hovering_step other, ih]

/-! ## Moves that remember nothing -/

/-- The session `v`, with all effects `gx` so far, is what `u` is with `fx`, but remembers nothing of
    the last move. -/
structure Resembles (u : Session) (fx : List Effect) (v : Session) (gx : List Effect) : Prop where
  same : v = u.withHovering v.strip.hovering
  shown : Hover.afterAll {} fx = Hover.afterAll {} gx
  /-- There is nothing to take away where the last move was on no marker. -/
  clear : u.strip.hovering = false → Hover.afterAll {} fx = {}
  others : fx.filter (fun z => !z.isHover) = gx.filter fun z => !z.isHover

theorem Resembles.move (h : Resembles u fx v gx) (p : Int32) :
    Resembles (u.step (.move p)).1 (fx ++ (u.step (.move p)).2) (v.stepNaively (.move p)).1
      (gx ++ (v.stepNaively (.move p)).2) := by
  obtain ⟨same, shown, clear, others⟩ := h
  have marker : v.strip.markerAt? p = u.strip.markerAt? p := by
    rw [same]
    rfl
  have naive : (v.stepNaively (.move p)).2 = (u.strip.moveNaively p).2 := by
    simp only [stepNaively, onStrip, Strip.moveNaively, marker]
  have real : (u.step (.move p)).2 = (u.strip.move p).2 := rfl
  rw [naive, real]
  refine ⟨?_, ?_, fun off => ?_, ?_⟩
  · show v = withHovering ⟨u.editor, (u.strip.move p).1⟩ v.strip.hovering
    rcases at_p : u.strip.markerAt? p with _ | m
    · rw [Strip.move_of_miss at_p]
      exact same
    · rw [Strip.move_of_hit at_p]
      exact same
  · rw [Hover.afterAll_append, Hover.afterAll_append, Strip.afterAll_move _ _ clear,
      Strip.afterAll_moveNaively]
  · have miss : u.strip.markerAt? p = none := by
      rcases at_p : u.strip.markerAt? p with _ | m
      · rfl
      · have on : (u.strip.move p).1.hovering = true := by rw [Strip.move_of_hit at_p]
        cases on.symm.trans off
    rw [Hover.afterAll_append, Strip.afterAll_move _ _ clear, miss]
    rfl
  · rw [List.filter_append, List.filter_append, others, Strip.filter_move]

theorem Resembles.other (h : Resembles u fx v gx) (other : ∀ p, a ≠ .move p) :
    Resembles (u.step a).1 (fx ++ (u.step a).2) (v.stepNaively a).1
      (gx ++ (v.stepNaively a).2) := by
  obtain ⟨same, shown, clear, others⟩ := h
  have naive : v.stepNaively a = v.step a := by
    cases a with
    | move p => exact absurd rfl (other p)
    | _ => rfl
  obtain ⟨frame, quiet⟩ := unaware_step other u v.strip.hovering
  rw [← same] at frame
  rw [naive, frame]
  refine ⟨?_, ?_, ?_, ?_⟩
  · rfl
  · rw [Hover.afterAll_append, Hover.afterAll_append, Hover.afterAll_of_quiet quiet,
      Hover.afterAll_of_quiet quiet, shown]
  · rw [hovering_step other, Hover.afterAll_append, Hover.afterAll_of_quiet quiet]
    exact clear
  · rw [List.filter_append, List.filter_append, others]

theorem Resembles.run (h : Resembles u fx v gx) (as : List Action) :
    Resembles (u.run as).1 (fx ++ (u.run as).2) (v.runNaively as).1
      (gx ++ (v.runNaively as).2) := by
  -- What is shown depends on all effects so far, so these have to be general as well.
  induction as generalizing u v fx gx with
  | nil => simpa [Session.run, runNaively] using h
  | cons a as ih =>
    have next : Resembles (u.step a).1 (fx ++ (u.step a).2) (v.stepNaively a).1
        (gx ++ (v.stepNaively a).2) := by
      rcases a.move_or_other with ⟨p, rfl⟩ | other
      · exact h.move p
      · exact h.other other
    have rest := ih next
    simp only [List.append_assoc] at rest
    exact rest

/-- **It does not show that a strip remembers.** -/
theorem resembles_run (s : Session) (as : List Action) :
    Resembles (s.run as).1 (s.run as).2 (s.runNaively as).1 (s.runNaively as).2 := by
  have start : Resembles s [] s [] := ⟨rfl, rfl, fun _ => rfl, rfl⟩
  exact start.run as

/-- What holds of the pointer after the run `as` of `s`, where `s` is new, and of the action after
    that. -/
structure Hovers (s : Session) (as : List Action) : Prop where
  /-- The editor shows what it would show if every move set it; it is asked for nothing else than it
      would be, and what is painted is the same. -/
  naive : Hover.afterAll {} (s.run as).2 = Hover.afterAll {} (s.runNaively as).2
  others : (s.run as).2.filter (fun z => !z.isHover) =
    (s.runNaively as).2.filter fun z => !z.isHover
  painting : ∀ width, (s.run as).1.strip.paint width = (s.runNaively as).1.strip.paint width
  /-- That is what belongs to the first marker whose rows hold the pointer, or else nothing. -/
  hit : ∀ p j m, (s.run as).1.strip.settings.band.Meets (s.run as).1.strip.board.current p j m →
    Hover.afterAll {} (s.run (as ++ [.move p])).2 = ⟨some m.tooltip, .hand⟩
  miss : ∀ p,
    (∀ m ∈ (s.run as).1.strip.board.current, p.toInt ∉ (s.run as).1.strip.settings.band.rows m.y) →
    Hover.afterAll {} (s.run (as ++ [.move p])).2 = ⟨none, .arrow⟩
  /-- A move off all markers takes away what the last one has left, if that was on a marker. -/
  leaves : ∀ p,
    (∀ m ∈ (s.run as).1.strip.board.current, p.toInt ∉ (s.run as).1.strip.settings.band.rows m.y) →
    s.WasOnMarker as → ((s.run as).1.step (.move p)).2 =
      [.call (.setTooltip none), .call (.setCursor .arrow), .answered false]
  stays : ∀ p,
    (∀ m ∈ (s.run as).1.strip.board.current, p.toInt ∉ (s.run as).1.strip.settings.band.rows m.y) →
    ¬s.WasOnMarker as → ((s.run as).1.step (.move p)).2 = [.answered false]
  /-- Nothing else has to do with the pointer. -/
  only : ∀ a, (∀ p, a ≠ .move p) → ∀ z ∈ ((s.run as).1.step a).2, z.isHover = false

/-- **What is shown follows the pointer** from one marker to the next, and off all of them, while
    updates replace the markers: it is what a strip would show that sets it at every move. -/
theorem hover_follows_pointer (e : Editor) (σ : Settings) (h : UInt32) (available : Bool)
    (as : List Action) :
    (∀ z ∈ (start e σ h available).2, z.isHover = false) ∧
      (start e σ h available).1.Hovers as := by
  have fresh : ∀ z ∈ (start e σ h available).2, z.isHover = false := by
    cases available <;> simp [start, Strip.start, Effect.isHover]
  refine ⟨fresh, ?_⟩
  have unset : (start e σ h available).1.strip.hovering = false := rfl
  generalize (start e σ h available).1 = s at unset ⊢
  have alike := s.resembles_run as
  have remembered := hovering_run unset as
  have shown (p : Int32) : Hover.afterAll {} (s.run (as ++ [.move p])).2 =
      Hover.ofMarker ((s.run as).1.strip.markerAt? p) := by
    rw [run_concat, Hover.afterAll_append]
    exact Strip.afterAll_move _ p alike.clear
  have step (p : Int32) : ((s.run as).1.step (.move p)).2 = ((s.run as).1.strip.move p).2 := rfl
  constructor
  · exact alike.shown
  · exact alike.others
  · intro width
    rw [alike.same]
    rfl
  · intro p j m meets
    rw [shown, Strip.markerAt?_of_meets meets]
    rfl
  · intro p outside
    rw [shown, Strip.markerAt?_eq_none_iff.2 outside]
    rfl
  · intro p outside was
    rw [step, Strip.move_of_miss (Strip.markerAt?_eq_none_iff.2 outside), remembered.2 was]
    rfl
  · intro p outside was_not
    rw [step, Strip.move_of_miss (Strip.markerAt?_eq_none_iff.2 outside),
      eq_false_of_ne_true (mt remembered.1 was_not)]
    rfl
  · intro a other
    exact (unaware_step other _ true).2

/-- The pointer comes to a marker, the marker goes away under it, and the next move takes away what
    it has left; one more has nothing to take away. -/
example :
    let s := (start { documents := [(0, some (.text "a\nb"))] } {} 100 true).1
    let publish : List Action := [.work, .proceed 1, .proceed 1, .proceed 1, .proceed 1]
    let vanish : List Action := [.work, .proceed 2, .proceed 2, .proceed 2, .proceed 2]
    let before := (s.run (.update [⟨0, 0, .error, "x"⟩] :: publish ++ [.move 43])).1
    let after := (before.run (.update [] :: vanish)).1
    before.strip.hovering = true ∧ after.strip.hovering = true ∧
      (after.run [.move 43, .move 43]).2 = [.call (.setTooltip none), .call (.setCursor .arrow),
        .answered false, .answered false] := by
  decide +kernel

end Session

end MarkerStrip
