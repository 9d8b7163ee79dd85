/-
  The last request wins.

  Whatever has happened to a strip, one more request that finds room settles
  what is on show in the end, if nothing is asked for and nothing changes in
  the editor from then on.  Until the strip has come to rest, either the
  request is on its way or its markers are on show, and older requests that
  are still computed cannot replace them.

  * `Strip.Awaits`: the request is on its way; `Turn.awaits`: it stays so until
    it is read;
  * `Strip.Pursues` is the invariant, and `Turn.pursues` its step.
-/
import MarkerStrip.Proofs.Bench
import MarkerStrip.Proofs.Rest

namespace MarkerStrip

/-! ## The last update -/

/-- The diagnostics remembered after an action, where they were `ds` before. -/
def Action.latest (ds : List Diagnostic) : Action → List Diagnostic
  | .update new => new
  | _ => ds

/-- The diagnostics of the last update, or none. -/
def lastUpdate (as : List Action) : List Diagnostic := as.foldl Action.latest []

theorem lastUpdate_concat (as : List Action) (a : Action) :
    lastUpdate (as ++ [a]) = a.latest (lastUpdate as) := by
  rw [lastUpdate, List.foldl_append]
  rfl

section
variable {e : Editor} {s v : Strip} {a : Action} {x : Option Reading} {y : Option Ending}
  {fx : List Effect}

theorem Turn.latest (turn : Turn e s a x y v fx) : v.latest = a.latest s.latest := by
  cases turn with
  | accepted asked | refused _ asked =>
    cases a <;> simp_all [Strip.asks, Action.latest]
  | still _ idle => cases a <;> first | rfl | cases idle
  | _ => rfl

/-- Nothing but a request changes the height, and the board only by a reading. -/
theorem Turn.of_quiet (turn : Turn e s a x y v fx) (quiet : s.asks a = none) :
    v.height = s.height ∧ v.latest = s.latest ∧ v.board = s.board.take x := by
  cases turn with
  | accepted asked | refused _ asked => cases quiet.symm.trans asked
  | proceeded => exact ⟨rfl, rfl, Job.board_proceed ..⟩
  | _ => exact ⟨rfl, rfl, rfl⟩

/-! ## Requests in hand -/

/-- A request that waits, is kept back or runs. -/
def Strip.InHand (s : Strip) (r : Request) : Prop :=
  r ∈ s.worker.mailbox.waiting ∨ s.worker.memory = some r ∨ ∃ j ∈ s.jobs, j.request = r

/-- A request that waits, is kept back or runs and has no answer yet. -/
def Strip.Awaits (s : Strip) (r : Request) : Prop :=
  r ∈ s.worker.mailbox.waiting ∨ s.worker.memory = some r ∨
    ∃ j ∈ s.jobs, j.request = r ∧ j.answer? = none

/-- No request in hand is later than `r`, or another one with its ticket. -/
def Strip.Last (s : Strip) (r : Request) : Prop :=
  ∀ r', s.InHand r' → r'.ticket ≤ r.ticket ∧ (r'.ticket = r.ticket → r' = r)

theorem Turn.inHand (turn : Turn e s a x y v fx) (quiet : s.asks a = none) {r : Request}
    (h : v.InHand r) : s.InHand r := by
  cases turn with
  | accepted asked | refused _ asked => cases quiet.symm.trans asked
  | dispatched window alive first =>
    rcases h with h | h | ⟨j, hj, hr⟩
    · exact .inl (first ▸ List.mem_cons_of_mem _ h)
    · exact .inr (.inl h)
    · rcases List.mem_append.1 hj with hj | hj
      · exact .inr (.inr ⟨j, hj, hr⟩)
      · obtain rfl := List.mem_singleton.1 hj
        exact .inl (first ▸ hr ▸ List.mem_cons_self ..)
  | kept window alive first | replaced window alive first =>
    rcases h with h | h | h
    · exact .inl (first ▸ List.mem_cons_of_mem _ h)
    · exact .inl (first ▸ Option.some.inj h ▸ List.mem_cons_self ..)
    · exact .inr (.inr h)
  | outrun window alive first held =>
    rcases h with h | h | h
    · exact .inl (first ▸ List.mem_cons_of_mem _ h)
    · exact .inr (.inl (held.trans h))
    · exact .inr (.inr h)
  | flushed alive empty due =>
    rcases h with h | h | ⟨j, hj, hr⟩
    · cases h
    · cases h
    · rcases List.mem_append.1 hj with hj | hj
      · exact .inr (.inr ⟨j, hj, hr⟩)
      · obtain ⟨r', hr', rfl⟩ := List.mem_map.1 hj
        exact .inr (.inl (hr ▸ Option.mem_toList.1 hr'))
  | proceeded place at_k under_way =>
    refine h.imp_right (.imp_right ?_)
    rintro ⟨j', hj', hr⟩
    rcases List.mem_or_eq_of_mem_set hj' with hj' | rfl
    · exact ⟨j', hj', hr⟩
    · exact ⟨_, List.mem_of_getElem? at_k, (Job.request_proceed ..).symm.trans hr⟩
  | ended =>
    refine h.imp_right (.imp_right ?_)
    rintro ⟨j', hj', hr⟩
    exact ⟨j', List.mem_of_mem_eraseIdx hj', hr⟩
  | _ => exact h

theorem Turn.last (turn : Turn e s a x y v fx) (quiet : s.asks a = none) {r : Request}
    (h : s.Last r) : v.Last r :=
  fun r' hr' => h r' (turn.inHand quiet hr')

theorem Turn.inHand_reading (turn : Turn e s a x y v fx) {z : Reading} (hz : x = some z) :
    s.InHand z.request := by
  cases turn with
  | proceeded place at_k under_way =>
    exact .inr (.inr ⟨_, List.mem_of_getElem? at_k, (Job.request_eq hz).symm⟩)
  | _ => cases hz

/-- A job under way stays so until its reading is offered. -/
theorem Job.under_way_or_read {j : Job} {l : Layout} {e : Editor} {b : Board}
    (under_way : j.answer? = none) :
    (j.proceed l e b).1.answer? = none ∨ ∃ z, j.reading? b = some z ∧ z.request = j.request := by
  rcases j with ⟨r, _ | tab | result | answer⟩
  · exact .inl rfl
  · exact .inl rfl
  · exact .inr ⟨_, rfl, rfl⟩
  · cases under_way

/-- **The last request stays on its way until it is read.** -/
theorem Turn.awaits (turn : Turn e s a x y v fx) {r : Request} (last : s.Last r)
    (h : s.Awaits r) : v.Awaits r ∨ ∃ z, x = some z ∧ z.request = r := by
  cases turn with
  | dispatched window alive first =>
    left
    rcases h with h | h | ⟨j, hj, hr⟩
    · rcases List.mem_cons.1 (first ▸ h) with rfl | h
      · exact .inr (.inr ⟨_, List.mem_append_right _ (List.mem_singleton.2 rfl), rfl, rfl⟩)
      · exact .inl h
    · exact .inr (.inl h)
    · exact .inr (.inr ⟨j, List.mem_append_left _ hj, hr⟩)
  | kept window alive first free =>
    left
    rcases h with h | h | h
    · rcases List.mem_cons.1 (first ▸ h) with rfl | h
      · exact .inr (.inl rfl)
      · exact .inl h
    · cases free.symm.trans h
    · exact .inr (.inr h)
  | replaced window alive first held later =>
    left
    rcases h with h | h | h
    · rcases List.mem_cons.1 (first ▸ h) with rfl | h
      · exact .inr (.inl rfl)
      · exact .inl h
    · -- the last request is not set aside: the one that comes in is no later
      obtain rfl := Option.some.inj (held.symm.trans h)
      have := (last _ (.inl (first ▸ List.mem_cons_self ..))).1
      exact absurd later (Nat.not_lt.2 this)
    · exact .inr (.inr h)
  | outrun window alive first held early =>
    left
    rcases h with h | h | h
    · rcases List.mem_cons.1 (first ▸ h) with rfl | h
      · -- nothing in hand is later, so the one kept back is the last request itself
        have hk := last _ (.inr (.inl held))
        exact .inr (.inl (congrArg some (hk.2 (Nat.le_antisymm hk.1 early))))
      · exact .inl h
    · exact .inr (.inl (held.symm.trans h))
    · exact .inr (.inr h)
  | flushed alive empty due =>
    left
    rcases h with h | h | ⟨j, hj, hr⟩
    · rw [empty] at h
      cases h
    · refine .inr (.inr ⟨_, List.mem_append_right _ (List.mem_map_of_mem ?_), rfl, rfl⟩)
      exact Option.mem_toList.2 h
    · exact .inr (.inr ⟨j, List.mem_append_left _ hj, hr⟩)
  | @proceeded t k j place at_k under_way =>
    rcases h with h | h | ⟨i, hi, hr, hn⟩
    · exact .inl (.inl h)
    · exact .inl (.inr (.inl h))
    · by_cases hij : i = j
      · rw [hij] at hr
        have hk := (List.getElem?_eq_some_iff.1 at_k).1
        rcases Job.under_way_or_read (l := s.layout) (e := e) (b := s.board) under_way with
          hn | ⟨z, hz, hzj⟩
        · exact .inl (.inr (.inr ⟨_, List.mem_set hk _, (Job.request_proceed ..).trans hr, hn⟩))
        · exact .inr ⟨z, hz, hzj.trans hr⟩
      · exact .inl (.inr (.inr ⟨i, mem_set_of_ne at_k hi hij, hr, hn⟩))
  | @ended t k j answer place at_k answered =>
    left
    refine h.imp_right (.imp_right ?_)
    rintro ⟨i, hi, hr, hn⟩
    refine ⟨i, mem_eraseIdx_of_ne at_k hi ?_, hr, hn⟩
    rintro rfl
    cases hn.symm.trans answered
  | accepted => exact .inl (h.imp_left (List.mem_append_left _))
  | _ => exact .inl h

end

/-! ## Towards the markers of the last request -/

theorem Board.take_stale {b : Board} {z : Reading} (stale : z.ticket ≤ b.published) :
    b.take (some z) = b := by
  rw [take, absorb_stale stale]

theorem Board.take_ok {b : Board} {z : Reading} {ms : List Marker} (later : b.published < z.ticket)
    (hz : z.result = .ok ms) :
    (b.take (some z)).published = z.ticket ∧ (b.take (some z)).current = ms := by
  rw [take, hz, absorb_later later]
  exact ⟨rfl, rfl⟩

theorem Board.published_take_lt {b : Board} {z : Reading} {t : Ticket} (hb : b.published < t)
    (hz : z.ticket < t) : (b.take (some z)).published < t := by
  rcases Nat.lt_or_ge b.published z.ticket with later | stale
  · rcases result : z.result with f | ms
    · rw [take, result]
      exact hb
    · rw [(take_ok later result).1]
      exact hz
  · rwa [take_stale stale]

/-- A strip that is going to show the markers `ms` for its last request `r`. -/
structure Strip.Pursues (s : Strip) (e : Editor) (r : Request) (ms : List Marker) : Prop where
  last : s.Last r
  /-- Whatever computes the request has noted the active tab of `e` and come to `ms`. -/
  sound : ∀ j ∈ s.jobs, j.Sound (fun r' tab => r' = r → tab = e.activeTab)
    fun r' result => r' = r → result = .ok ms
  goal : s.board.published < r.ticket ∧ s.Awaits r ∨
    s.board.published = r.ticket ∧ s.board.current = ms

/-- **The markers of the last request come to be shown and stay so**, while nothing is asked for. -/
theorem Turn.pursues {e e' : Editor} {s v : Strip} {a : Action} {x : Option Reading}
    {y : Option Ending} {fx : List Effect} {r : Request} {ms : List Marker}
    (turn : Turn e' s a x y v fx) (quiet : s.asks a = none) (same : e.Agrees e')
    (result : r.compute s.layout e e.activeTab = .ok ms) (h : s.Pursues e r ms) :
    v.Pursues e r ms := by
  have sound := turn.sound h.sound (fun _ _ => same.1.symm) (by
    rintro r' tab ht rfl
    rw [ht rfl, ← Editor.compute_congr same, result])
  refine ⟨turn.last quiet h.last, sound.1, ?_⟩
  rw [(turn.of_quiet quiet).2.2]
  rcases h.goal with ⟨before, awaits⟩ | ⟨published, current⟩
  · rcases turn.awaits h.last awaits with awaits | ⟨z, rfl, rfl⟩
    · rcases x with _ | z
      · exact .inl ⟨before, awaits⟩
      · have hz := h.last _ (turn.inHand_reading rfl)
        by_cases hr : z.request = r
        · right
          rw [← hr] at before ⊢
          exact Board.take_ok before (sound.2 z rfl hr)
        · exact .inl ⟨Board.published_take_lt before (Nat.lt_of_le_of_ne hz.1 fun ht =>
            hr (hz.2 ht)), awaits⟩
    · exact .inr (Board.take_ok before (sound.2 z rfl rfl))
  · right
    rcases x with _ | z
    · exact ⟨published, current⟩
    · rw [Board.take_stale (published ▸ (h.last _ (turn.inHand_reading rfl)).1)]
      exact ⟨published, current⟩

/-- At rest no request is on its way. -/
theorem Strip.not_awaits_of_atRest {s : Strip} (rest : s.AtRest) (working : s.Working)
    (timed : s.Timed) (sender : s.worker.senderGone = false) (r : Request) : ¬ s.Awaits r := by
  rintro (h | h | ⟨j, hj, -⟩)
  · rw [rest.waiting working sender] at h
    cases h
  · cases (timed.deadline (rest.deadline working sender)).symm.trans h
  · rw [rest.jobs] at hj
    cases hj

/-! ## From the request on -/

theorem Strip.asks_eq_none {s s' : Strip} {a : Action} (height : s.height = s'.height)
    (h : s.asks a = none) : s'.asks a = none := by
  cases a with
  | resize h' =>
    simp only [Strip.asks, ite_eq_left_iff, reduceCtorEq, imp_false, Decidable.not_not] at h ⊢
    exact height.symm.trans h
  | update | refresh => cases h
  | _ => rfl

/-- All tickets in hand and on show have been drawn. -/
structure Strip.Drawn (s : Strip) : Prop where
  inHand : ∀ r, s.InHand r → r.ticket ≤ s.board.drawn
  published : s.board.published ≤ s.board.drawn

theorem Turn.of_asked {e : Editor} {s v : Strip} {a : Action} {x : Option Reading}
    {y : Option Ending} {fx : List Effect} {ds : List Diagnostic} {h : UInt32}
    (turn : Turn e s a x y v fx) (asked : s.asks a = some (ds, h))
    (room : s.worker.hasRoom = true) :
    v = { s with
      latest := ds, height := h, board := s.board.draw.2
      worker := s.worker.enqueue ⟨s.board.drawn + 1, ds, h⟩ } := by
  cases turn with
  | accepted asked' =>
    obtain ⟨rfl, rfl⟩ := Prod.mk.inj (Option.some.inj (asked'.symm.trans asked))
    rfl
  | refused _ _ full => cases full.symm.trans room
  | still _ idle => cases a <;> simp_all [Strip.asks, Strip.Idles]
  | _ => cases asked

/-- Once accepted, the last request is pursued, whatever it will come to. -/
theorem Strip.Drawn.pursues {s : Strip} (drawn : s.Drawn) (ds : List Diagnostic) (h : UInt32)
    (e : Editor) (ms : List Marker) :
    { s with
      latest := ds, height := h, board := s.board.draw.2
      worker := s.worker.enqueue ⟨s.board.drawn + 1, ds, h⟩ : Strip }.Pursues e
        ⟨s.board.drawn + 1, ds, h⟩ ms := by
  have older : ∀ r', s.InHand r' → r'.ticket < s.board.drawn + 1 := fun r' hr' =>
    Nat.lt_succ_of_le (drawn.inHand r' hr')
  have other : ∀ j ∈ s.jobs, j.request ≠ ⟨s.board.drawn + 1, ds, h⟩ := by
    intro j hj he
    have := older j.request (.inr (.inr ⟨j, hj, rfl⟩))
    rw [he] at this
    exact Nat.lt_irrefl _ this
  refine ⟨fun r' hr' => ?_, fun j hj => .of_forall (fun _ he => absurd he (other j hj))
    fun _ he => absurd he (other j hj), .inl ⟨Nat.lt_succ_of_le drawn.published, .inl ?_⟩⟩
  · have split : s.InHand r' ∨ r' = ⟨s.board.drawn + 1, ds, h⟩ := by
      rcases hr' with hr' | hr' | hr'
      · rcases List.mem_append.1 hr' with hr' | hr'
        · exact .inl (.inl hr')
        · exact .inr (List.mem_singleton.1 hr')
      · exact .inl (.inr (.inl hr'))
      · exact .inl (.inr (.inr hr'))
    rcases split with hr' | rfl
    · exact ⟨Nat.le_of_lt (older r' hr'), fun ht => absurd ht (Nat.ne_of_lt (older r' hr'))⟩
    · exact ⟨Nat.le_refl _, fun _ => rfl⟩
  · exact List.mem_append_right _ (List.mem_singleton.2 rfl)

namespace Session

section
variable (e : Editor) (σ : Settings) (h : UInt32) (available : Bool) (as : List Action)

theorem latest_run : ((start e σ h available).1.run as).1.strip.latest = lastUpdate as :=
  run_induction (P := fun p _ u => u.latest = lastUpdate p.actions) rfl rfl (fun ih turn => by
    rw [turn.latest, ih]
    exact (lastUpdate_concat ..).symm) as

theorem timed_run : ((start e σ h available).1.run as).1.strip.Timed :=
  run_induction (P := fun _ _ u => u.Timed) rfl ⟨fun _ => rfl, fun _ => rfl⟩
    (fun ih turn => turn.timed ih) as

theorem drawn_run : ((start e σ h available).1.run as).1.strip.Drawn := by
  constructor
  · intro r hr
    refine ((mem_accounts_iff e σ h available as r.ticket).1 ?_).2
    rcases hr with hr | hr | ⟨j, hj, rfl⟩
    · exact mem_accounts_of_mem (f := .waiting) (List.mem_map_of_mem hr)
    · exact mem_accounts_of_mem (f := .kept) (List.mem_map_of_mem (Option.mem_toList.2 hr))
    · exact mem_accounts_of_mem (f := .running)
        (List.mem_map_of_mem (List.mem_map_of_mem hj))
  · obtain ⟨ms, same, -, -⟩ := exists_bench_run e σ h available as
    have lawful := Bench.lawful_run e σ.layout ms
    rw [← same.board, lawful.reflects.published, Reading.newest_le_iff]
    intro z hz _
    exact (lawful.drawn (lawful.known z hz)).2

end

/-- An action that asks for nothing and changes nothing that the editor shows. -/
def Undisturbed (s : Session) (a : Action) : Prop := s.strip.asks a = none ∧ s.editor.Keeps a

instance (s : Session) (a : Action) : Decidable (s.Undisturbed a) :=
  inferInstanceAs (Decidable (_ ∧ _))

/-- Actions that bring an undisturbed strip to rest. -/
structure Settles (s : Session) (as : List Action) : Prop where
  undisturbed : ∀ a ∈ as, s.Undisturbed a
  rest : (s.run as).1.strip.AtRest

instance (s : Session) (as : List Action) : Decidable (s.Settles as) :=
  decidable_of_iff ((∀ a ∈ as, s.Undisturbed a) ∧ (s.run as).1.strip.AtRest)
    ⟨fun h => ⟨h.1, h.2⟩, fun h => ⟨h.undisturbed, h.rest⟩⟩

/-- What a request leads to needs of the session in which it is made. -/
structure Ready (s : Session) : Prop where
  sender : s.strip.worker.senderGone = false
  timed : s.strip.Timed
  drawn : s.strip.Drawn

theorem ready_run (e : Editor) (σ : Settings) (h : UInt32) (available : Bool)
    (as : List Action) : ((start e σ h available).1.run as).1.Ready :=
  ⟨senderGone_run e σ h available as, timed_run e σ h available as, drawn_run e σ h available as⟩

/-- What stays as it was in `s`, or is kept up, while nothing disturbs. -/
structure Steady (s : Session) (r : Request) (ms : List Marker) (e : Editor) (u : Strip) :
    Prop where
  editor : s.editor.Agrees e
  settings : u.settings = s.strip.settings
  height : u.height = s.strip.height
  latest : u.latest = s.strip.latest
  sender : u.worker.senderGone = false
  timed : u.Timed
  working : u.Working
  pursues : u.Pursues s.editor r ms

theorem steady_run {s : Session} {r : Request} {ms : List Marker}
    (start : s.Steady r ms s.editor s.strip)
    (result : r.compute s.strip.layout s.editor s.editor.activeTab = .ok ms) {as : List Action}
    (undisturbed : ∀ a ∈ as, s.Undisturbed a) :
    s.Steady r ms (s.run as).1.editor (s.run as).1.strip := by
  refine run_induction (P := fun p e u => (∀ a ∈ p.actions, s.Undisturbed a) → s.Steady r ms e u)
    start.sender (fun _ => start) ?_ as undisturbed
  intro p e u a x y v fx ih turn hp
  have steady := ih fun a' ha' => hp a' (List.mem_append_left _ ha')
  obtain ⟨quiet, keeps⟩ := hp a (by simp [Past.add])
  have quiet := Strip.asks_eq_none steady.height.symm quiet
  obtain ⟨height, latest, -⟩ := turn.of_quiet quiet
  refine ⟨Editor.agrees_after steady.editor keeps, turn.settings.trans steady.settings,
    height.trans steady.height, latest.trans steady.latest, turn.senderGone.trans steady.sender,
    turn.timed steady.timed, turn.working steady.working,
    turn.pursues quiet steady.editor ?_ steady.pursues⟩
  rwa [Strip.layout, steady.settings]

/-- The markers of the diagnostics that a session remembers, over a text in its active tab. -/
def markersOver (s : Session) (text : String) : List Marker :=
  s.strip.settings.metrics.place s.strip.latest s.editor.activeTab
    (totalLines text s.strip.settings.lineOffset) s.strip.height

theorem Ready.shown {s : Session} (ready : s.Ready) {a : Action} {as : List Action}
    {text : String} (asked : (s.strip.asks a).isSome) (room : s.strip.worker.hasRoom = true)
    (readable : (s.step a).1.editor.read (s.step a).1.editor.activeTab = .ok text)
    (settles : (s.step a).1.Settles as) :
    let asked := (s.step a).1
    let done := (asked.run as).1
    (done.strip.board.published = s.strip.board.drawn + 1 ∧
      done.strip.board.current = asked.markersOver text) ∧
    ∃ r, asked.Steady r (asked.markersOver text) done.editor done.strip := by
  intro s₁ done
  obtain ⟨⟨ds, h⟩, asked⟩ := Option.isSome_iff_exists.1 asked
  have turn := s.turn_step ready.sender a
  have step : s₁.strip = _ := turn.of_asked asked room
  have result : (⟨s.strip.board.drawn + 1, ds, h⟩ : Request).compute s₁.strip.layout s₁.editor
      s₁.editor.activeTab = .ok (s₁.markersOver text) := by
    rw [Request.compute, readable, markersOver, step]
    rfl
  have steady := steady_run (s := s₁) ⟨⟨rfl, fun _ => rfl⟩, rfl, rfl, rfl,
    turn.senderGone.trans ready.sender, turn.timed ready.timed,
    turn.working (Strip.working_of_hasRoom room), by
      rw [step]
      exact ready.drawn.pursues ds h _ _⟩ result settles.undisturbed
  have rest := Strip.not_awaits_of_atRest settles.rest steady.working steady.timed steady.sender
  exact ⟨steady.pursues.goal.resolve_left fun goal => rest _ goal.2, _, steady⟩

theorem read_congr {e e' : Editor} (h : e.Agrees e') :
    e.read e.activeTab = e'.read e'.activeTab := by
  rw [Editor.read, Editor.read, h.2, h.1]

/-- An undisturbed strip can come to rest. -/
theorem exists_settles (s : Session) (sender : s.strip.worker.senderGone = false)
    (working : s.strip.Working) : ∃ as, s.Settles as := by
  obtain ⟨as, behind, rest⟩ := s.exists_atRest sender working
  refine ⟨as, fun a ha => ?_, rest⟩
  have := behind a ha
  cases a <;> first | exact ⟨rfl, trivial⟩ | cases this

/-- **The last request wins**: after any history, once a request is accepted and nothing is asked
    for or changes in the editor, the strip can come to rest, and whenever it does so it shows the
    last update over the text of the active tab; and the same again after one more refresh. -/
theorem last_request_wins (e : Editor) (σ : Settings) (h : UInt32) (available : Bool)
    (as : List Action) (a : Action) (text : String) :
    let before := ((start e σ h available).1.run as).1
    let asked := (before.step a).1
    (before.strip.asks a).isSome → before.strip.worker.hasRoom = true →
    asked.editor.read asked.editor.activeTab = .ok text →
    (∃ bs, asked.Settles bs) ∧ ∀ bs, asked.Settles bs →
      let done := (asked.run bs).1
      let again := (done.step .refresh).1
      done.strip.board.published = before.strip.board.drawn + 1 ∧
      done.strip.board.current = σ.metrics.place (lastUpdate (as ++ [a])) done.editor.activeTab
        (totalLines text σ.lineOffset) done.strip.height ∧
      (∃ cs, again.Settles cs) ∧ ∀ cs, again.Settles cs →
        (again.run cs).1.strip.board.published = done.strip.board.drawn + 1 ∧
        (again.run cs).1.strip.board.current = done.strip.board.current := by
  intro before s₁ asked room readable
  have turn := turn_run e σ h available as a
  refine ⟨s₁.exists_settles (turn.senderGone.trans (senderGone_run e σ h available as))
    (turn.working (Strip.working_of_hasRoom room)), fun bs settles => ?_⟩
  intro done again
  obtain ⟨⟨published, current⟩, r, steady⟩ :=
    (ready_run e σ h available as).shown asked room readable settles
  have here : s₁ = ((start e σ h available).1.run (as ++ [a])).1 := by rw [run_concat]
  have settings : s₁.strip.settings = σ := here ▸ settings_run e σ h available _
  have latest : s₁.strip.latest = lastUpdate (as ++ [a]) := here ▸ latest_run e σ h available _
  have there : done = ((start e σ h available).1.run (as ++ a :: bs)).1 := by
    rw [run_append]
    rfl
  have ready : done.Ready := there ▸ ready_run e σ h available _
  have room' := settles.rest.hasRoom steady.working steady.sender
  have turn' := done.turn_step ready.sender .refresh
  have step : again.strip = _ := turn'.of_asked rfl room'
  refine ⟨published, ?_, again.exists_settles (turn'.senderGone.trans ready.sender)
    (turn'.working steady.working), fun cs settles' => ?_⟩
  · rw [current, markersOver, settings, latest, ← steady.editor.1, steady.height]
  · obtain ⟨⟨published', current'⟩, -⟩ := ready.shown (a := .refresh) rfl room'
      ((read_congr steady.editor).symm.trans readable) settles'
    refine ⟨published', current'.trans (Eq.trans ?_ current.symm)⟩
    rw [markersOver, markersOver, step, ← steady.settings, ← steady.latest, ← steady.height,
      steady.editor.1]
    rfl

/-- An update that overtakes one whose document is still being read. -/
theorem last_request_wins_overtaking :
    let e : Editor := { documents := [(0, some (.text "a\nb"))] }
    let before := ((start e {} 100 true).1.run
      [.update [⟨0, 0, .error, "old"⟩], .work, .proceed 1]).1
    let asked := (before.step (.update [⟨0, 1, .warning, "new"⟩])).1
    let bs : List Action :=
      [.work, .proceed 2, .proceed 2, .proceed 2, .proceed 2, .proceed 1, .proceed 1, .proceed 1]
    asked.Settles bs ∧ (asked.run bs).1.strip.board.published = before.strip.board.drawn + 1 := by
  have wins := last_request_wins { documents := [(0, some (.text "a\nb"))] } {} 100 true
    [.update [⟨0, 0, .error, "old"⟩], .work, .proceed 1] (.update [⟨0, 1, .warning, "new"⟩]) "a\nb"
    (by decide +kernel) (by decide +kernel) rfl
  exact ⟨by decide +kernel, (wins.2 _ (by decide +kernel)).1⟩

end Session

end MarkerStrip
