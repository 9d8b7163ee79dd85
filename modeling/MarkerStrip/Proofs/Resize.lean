/-
  What is on show after a resize.

  A new height asks for the last diagnostics once more, and at rest they are
  laid out for it.  The same height again asks for nothing, whatever became of
  the request that was made for it.  So if that one was refused, or its document
  could not be read, markers for another height stay on show until something
  else is asked for.

  * `Session.newest_of_atRest`: at rest the newest request is on show, unless
    it was refused or its reading failed;
  * `Session.Fits`: what is on show is laid out for a height, and
    `Session.fits_of_asked`: so it is after every accepted request.
-/
import MarkerStrip.Proofs.Provenance

namespace MarkerStrip

/-! ## Heights -/

section
variable {e : Editor} {s v : Strip} {x : Option Reading} {y : Option Ending} {fx : List Effect}

theorem Turn.height_of_resize {k : UInt32} (turn : Turn e s (.resize k) x y v fx) :
    v.height = k := by
  by_cases same : s.height = k
  · exact (turn.of_quiet (if_pos same)).1.trans same
  · have made : s.made? (.resize k) = some ⟨s.board.drawn + 1, s.latest, k⟩ := by
      rw [Strip.made?, Strip.asks, if_neg same]
      rfl
    exact (congrArg Request.height (turn.made made).1).symm

theorem Turn.height_of_refresh (turn : Turn e s .refresh x y v fx) : v.height = s.height :=
  (congrArg Request.height (turn.made rfl).1).symm

end

namespace Session
variable {s : Session} {as bs : List Action}

/-! ## The newest request -/

section
variable {e : Editor} {σ : Settings} {h : UInt32} {available : Bool}
  (new : s = (start e σ h available).1)
include new

theorem drawn_of_new (as : List Action) : (s.run as).1.strip.Drawn := by
  subst new
  exact drawn_run e σ h available as

theorem lt_drawn_of_setAside (as : List Action) :
    ∀ t ∈ s.withFate as .setAside, t < (s.run as).1.strip.board.drawn := by
  induction as using List.reverseRecOn with
  | nil => nofun
  | append_singleton as a ih =>
    intro t ht
    have turn := turn_of_new new as a
    have nodup : ((s.run as).1.strip.accounts (s.run as).2).Nodup := by
      subst new
      exact accounts_nodup e σ h available as
    have drawn := drawn_of_new new (as ++ [a])
    have ht : t ∈ (s.run (as ++ [a])).2.filterMap Effect.setAside? := ht
    rw [run_concat, List.filterMap_append] at ht
    rw [run_concat] at drawn ⊢
    rcases List.mem_append.1 ht with ht | ht
    · rw [turn.drawn_eq]
      exact Nat.lt_add_right _ (ih t ht)
    · obtain ⟨z, hz, eq⟩ := List.mem_filterMap.1 ht
      obtain rfl : z = .setAside t := by
        cases z <;> simp_all
      obtain ⟨k, held, later⟩ := turn.setAside nodup hz
      exact Nat.lt_of_lt_of_le later (drawn.inHand k (.inr (.inl held)))

/-- **At rest the newest request is on show**, unless it was refused or its reading failed. -/
theorem newest_of_atRest (as : List Action) (working : (s.run as).1.strip.Working)
    (rest : (s.run as).1.strip.AtRest) :
    (s.run as).1.strip.board.published = (s.run as).1.strip.board.drawn ∨
      (s.run as).1.strip.board.drawn ∈ s.withFate as .refused ∨
      .aborted (s.run as).1.strip.board.drawn ∈ (s.run as).1.strip.allEvents (s.run as).2 := by
  have sender := sender_of_new new as
  have drawn := drawn_of_new new as
  have aside := lt_drawn_of_setAside new as
  subst new
  rcases Nat.eq_zero_or_pos ((start e σ h available).1.run as).1.strip.board.drawn with zero | pos
  · exact .inl (Nat.le_antisymm drawn.published (zero ▸ Nat.zero_le _))
  obtain ⟨f, -, hf⟩ := List.mem_flatMap.1
    ((mem_accounts_iff e σ h available as _).2 ⟨pos, Nat.le_refl _⟩)
  cases f with
  | refused => exact .inr (.inl hf)
  | waiting =>
    rw [Strip.withFate, rest.waiting working sender] at hf
    cases hf
  | kept =>
    have deadline := rest.deadline working sender
    rw [Strip.withFate, (timed_run e σ h available as).deadline deadline] at hf
    cases hf
  | setAside => exact absurd (aside _ hf) (Nat.lt_irrefl _)
  | running =>
    rw [Strip.withFate, rest.jobs] at hf
    cases hf
  | ended =>
    obtain ⟨event, mem, ticket⟩ := List.mem_map.1 hf
    have ended := mem
    rw [allEvents_eq] at ended
    obtain ⟨y, hy, rfl⟩ := List.mem_map.1 ended
    rw [Ending.event, Event.ticket_ofAnswer] at ticket
    obtain ⟨x, hx, request, aborted⟩ := aborted_run e σ h available as y hy
    rcases result : x.result with f | ms
    · rw [aborted.2 ⟨f, result⟩, ticket] at mem
      exact .inr (.inr mem)
    · -- it was read, so nothing later than it can be on show
      have read : x.markers?.isSome := by simp [Reading.markers?, result, Except.toOption]
      have newest := Reading.le_newest hx read
      rw [← (reflects_run e σ h available as).published, Reading.ticket, request, ticket] at newest
      exact .inl (Nat.le_antisymm drawn.published newest)

end

/-! ## Fitting -/

/-- What is on show after the run `as` is laid out for the height `k`. -/
structure Fits (s : Session) (as : List Action) (k : UInt32) : Prop where
  /-- It comes from a request for the last update at that height, unless nothing is on show. -/
  origin : (s.run as).1.strip.board.current = [] ∨
    ∃ r tab, r.diagnostics = lastUpdate as ∧ r.height = k ∧
      s.Derived as r tab (s.run as).1.strip.board.current
  usable : ∀ m ∈ (s.run as).1.strip.board.current,
    m.y.toNat ≤ s.strip.settings.metrics.usable k

/-- What stays as it was while nothing disturbs. -/
structure Still (s : Session) (e : Editor) (u : Strip) : Prop where
  editor : s.editor.Agrees e
  height : u.height = s.strip.height
  drawn : u.board.drawn = s.strip.board.drawn
  working : u.Working

theorem still_run (sender : s.strip.worker.senderGone = false) (working : s.strip.Working)
    (undisturbed : ∀ a ∈ bs, s.Undisturbed a) :
    s.Still (s.run bs).1.editor (s.run bs).1.strip := by
  refine run_induction (P := fun p e u => (∀ a ∈ p.actions, s.Undisturbed a) → s.Still e u)
    sender (fun _ => ⟨⟨rfl, fun _ => rfl⟩, rfl, rfl, working⟩) ?_ bs undisturbed
  intro p e u a x y v fx ih turn hp
  have before := ih fun a' ha' => hp a' (List.mem_append_left _ ha')
  obtain ⟨quiet, keeps⟩ := hp a (by simp [Past.add])
  have quiet := Strip.asks_eq_none before.height.symm quiet
  refine ⟨Editor.agrees_after before.editor keeps,
    (turn.of_quiet quiet).1.trans before.height, ?_, turn.working before.working⟩
  rw [turn.drawn_eq, quiet]
  exact before.drawn

section
variable {e : Editor} {σ : Settings} {h : UInt32} {available : Bool}
  (new : s = (start e σ h available).1)
include new

theorem latest_of_new (as : List Action) : (s.run as).1.strip.latest = lastUpdate as := by
  subst new
  exact latest_run e σ h available as

theorem eq_of_made_of_drawn (as : List Action) {r : Request} (hr : r ∈ s.made as)
    (newest : r.ticket = (s.run as).1.strip.board.drawn) :
    r = ⟨(s.run as).1.strip.board.drawn, (s.run as).1.strip.latest,
      (s.run as).1.strip.height⟩ := by
  have nodup : ((s.made as).map Request.ticket).Nodup := by
    rw [tickets_made new]
    exact List.nodup_range'
  have last := getLast?_made new as
  split at last
  · rw [List.getLast?_eq_none_iff.1 last] at hr
    cases hr
  · exact List.inj_on_of_nodup_map nodup hr (List.mem_of_getLast? last) newest

theorem fits_of_newest (as : List Action)
    (newest : (s.run as).1.strip.board.published = (s.run as).1.strip.board.drawn) :
    s.Fits as (s.run as).1.strip.height := by
  have origin : (s.run as).1.strip.board.current = [] ∨
      ∃ r tab, r.diagnostics = lastUpdate as ∧ r.height = (s.run as).1.strip.height ∧
        s.Derived as r tab (s.run as).1.strip.board.current := by
    refine (derived_of_current new as).imp And.right fun ⟨r, tab, ticket, derived⟩ => ?_
    obtain rfl := eq_of_made_of_drawn new as derived.made (ticket.trans newest)
    exact ⟨_, tab, latest_of_new new as, rfl, derived⟩
  refine ⟨origin, fun m hm => ?_⟩
  rcases origin with empty | ⟨r, tab, -, height, derived⟩
  · rw [empty] at hm
    cases hm
  · exact height ▸ derived.places.usable m hm

/-- **An accepted request that nothing disturbs makes the markers fit.** -/
theorem fits_of_asked {a : Action} {text : String}
    (asked : ((s.run as).1.strip.asks a).isSome) (room : (s.run as).1.strip.worker.hasRoom = true)
    (readable : ((s.run as).1.step a).1.editor.read ((s.run as).1.step a).1.editor.activeTab =
      .ok text) (settles : ((s.run as).1.step a).1.Settles bs) :
    s.Fits (as ++ a :: bs) ((s.run as).1.step a).1.strip.height := by
  have turn := turn_of_new new as a
  have ready : (s.run as).1.Ready := by
    subst new
    exact ready_run e σ h available as
  have done : (s.run (as ++ a :: bs)).1 = (((s.run as).1.step a).1.run bs).1 := by
    rw [run_append]
    rfl
  have still := still_run (turn.senderGone.trans ready.sender)
    (turn.working (Strip.working_of_hasRoom room)) settles.undisturbed
  have published := (ready.shown asked room readable settles).1.1
  have drawn := still.drawn
  rw [turn.drawn_eq, asked, Bool.toNat_true, ← published] at drawn
  rw [← done] at drawn still
  exact still.height ▸ fits_of_newest new (as ++ a :: bs) drawn.symm

end

/-- **After a resize the markers fit**, once the strip is at rest, if the height is a new one, or
    else if the newest request was accepted and could be read; and after one more refresh they fit
    in any case. -/
theorem fits_after_resize (e : Editor) (σ : Settings) (h : UInt32) (available : Bool)
    (as : List Action) (k : UInt32) (text : String) :
    let s := (start e σ h available).1
    let asked := ((s.run as).1.step (.resize k)).1
    (s.run as).1.strip.worker.hasRoom = true →
    asked.editor.read asked.editor.activeTab = .ok text →
    (∃ bs, asked.Settles bs) ∧ ∀ bs, asked.Settles bs →
      let whole := as ++ .resize k :: bs
      let done := (s.run whole).1
      let again := (done.step .refresh).1
      (((s.run as).1.strip.height = k →
          done.strip.board.drawn ∉ s.withFate whole .refused ∧
          .aborted done.strip.board.drawn ∉ done.strip.allEvents (s.run whole).2) →
        s.Fits whole k) ∧
      (∃ cs, again.Settles cs) ∧ ∀ cs, again.Settles cs → s.Fits (whole ++ .refresh :: cs) k := by
  intro s asked room readable
  have new : s = (start e σ h available).1 := rfl
  have turn := turn_of_new new as (.resize k)
  have sender := turn.senderGone.trans (sender_of_new new as)
  have working := turn.working (Strip.working_of_hasRoom room)
  refine ⟨asked.exists_settles sender working, fun bs settles => ?_⟩
  intro whole done again
  have height : asked.strip.height = k := turn.height_of_resize
  have there : done = (asked.run bs).1 := by
    show (s.run (as ++ .resize k :: bs)).1 = _
    rw [run_append]
    rfl
  have still := still_run sender working settles.undisturbed
  rw [← there] at still
  have rest : done.strip.AtRest := there ▸ settles.rest
  refine ⟨fun newest => ?_, ?_⟩
  · by_cases same : (s.run as).1.strip.height = k
    · obtain ⟨accepted, read⟩ := newest same
      have shown := (newest_of_atRest new whole still.working rest).resolve_right
        (not_or.2 ⟨accepted, read⟩)
      exact (still.height.trans height) ▸ fits_of_newest new whole shown
    · have asks : (s.run as).1.strip.asks (.resize k) = some (_, k) := if_neg same
      exact height ▸ fits_of_asked new (by rw [asks]; rfl) room readable settles
  · have turn' := turn_of_new new whole .refresh
    have sender' := sender_of_new new whole
    have room' := rest.hasRoom still.working sender'
    refine ⟨again.exists_settles (turn'.senderGone.trans sender') (turn'.working still.working),
      fun cs settles' => ?_⟩
    have fits : s.Fits (whole ++ .refresh :: cs) again.strip.height := fits_of_asked new rfl room'
      ((read_congr still.editor).symm.trans readable) settles'
    exact (turn'.height_of_refresh.trans (still.height.trans height)) ▸ fits

/-- A resize that is shown, repeated while its document is still being read. -/
theorem fits_after_resize_repeated :
    let s := (start { documents := [(0, some (.text "a"))] } {} 100 true).1
    let as : List Action := [.update [⟨0, 0, .error, "x"⟩], .work, .proceed 1, .proceed 1,
      .proceed 1, .resize 20, .work, .proceed 2]
    let bs : List Action := [.proceed 1, .proceed 2, .proceed 2, .proceed 2]
    (s.run as).1.strip.height = 20 ∧ ((s.run as).1.step (.resize 20)).1.Settles bs ∧
      s.Fits (as ++ .resize 20 :: bs) 20 := by
  intro s as bs
  have fits := fits_after_resize { documents := [(0, some (.text "a"))] } {} 100 true as 20 "a"
    (by decide +kernel) rfl
  have settles : ((s.run as).1.step (.resize 20)).1.Settles bs := by decide +kernel
  exact ⟨by decide +kernel, settles, (fits.2 bs settles).1 fun _ => by decide +kernel⟩

/-- Where the document for a resize could not be read, the same resize does nothing, and markers
    that were laid out for a higher strip stay on show. -/
theorem resize_again_may_not_fit :
    ¬ ∀ (e : Editor) (σ : Settings) (h : UInt32) (available : Bool) (as : List Action) (k : UInt32)
      (text : String) (bs : List Action),
      let s := (start e σ h available).1
      let asked := ((s.run as).1.step (.resize k)).1
      (s.run as).1.strip.worker.hasRoom = true →
      asked.editor.read asked.editor.activeTab = .ok text → asked.Settles bs →
      ∀ m ∈ (asked.run bs).1.strip.board.current, m.y.toNat ≤ σ.metrics.usable k := by
  intro claim
  have := claim { documents := [(0, some (.text "a"))] } {} 100 true
    [.update [⟨0, 0, .error, "x"⟩], .work, .proceed 1, .proceed 1, .proceed 1, .proceed 1,
      .setDocument 0 none, .resize 20, .work, .proceed 2, .proceed 2, .proceed 2, .proceed 2,
      .setDocument 0 (some (.text "a"))] 20 "a" [] (by decide +kernel) rfl (by decide +kernel)
    ⟨⟨0, 0, .error, "x"⟩, 85, .error⟩ (by decide +kernel)
  exact absurd this (by decide +kernel)

end Session

end MarkerStrip
