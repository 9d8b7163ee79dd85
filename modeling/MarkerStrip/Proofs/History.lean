/-
  The history of a board that one hand works on.

  Tickets are drawn, and markers are published under tickets drawn before, in
  any order and as often as wanted, or laid out and published at once.

  * `Deed` is one such operation, `Board.obey` a list of them, and
    `Board.offers` all that was offered to the board, with its answers;
  * `Board.Shows` says what a board has of the offers that it took up, and
    `Board.Shows.perform` that every deed keeps it;
  * `Board.Chronicle` collects what follows for a new board.
-/
import Mathlib.Data.List.Induction
import MarkerStrip.Board

namespace MarkerStrip

/-! ## Deeds -/

/-- What may be done to a board by hand. -/
inductive Deed where
  | draw
  /-- Markers are published under a ticket drawn before. -/
  | publish (t : Ticket) (ms : List Marker)
  /-- Diagnostics are laid out and published at once. -/
  | update (m : Metrics) (ds : List Diagnostic) (tab total : UInt64) (height : UInt32)
deriving Repr, DecidableEq

/-- Markers that were offered to a board, and its answer. -/
structure Offer where
  ticket : Ticket
  markers : List Marker
  outcome : Outcome

/-- Whether the markers were put on show. -/
def Outcome.isApplied : Outcome → Bool
  | applied _ => true
  | superseded _ => false

def Offer.isApplied (x : Offer) : Bool := x.outcome.isApplied

namespace Board

/-- The board on which a deed publishes: an update has drawn its ticket by then. -/
def readied (b : Board) : Deed → Board
  | .publish .. => b
  | .draw | .update .. => b.draw.2

/-- One deed. -/
def perform (b : Board) : Deed → Board
  | .draw => b.draw.2
  | .publish t ms => (b.publish t ms).2
  | .update m ds tab total height => (b.update m ds tab total height).2

/-- The ticket that a deed draws. -/
def drawn? (b : Board) : Deed → Option Ticket
  | .publish .. => none
  | .draw | .update .. => some b.draw.1

/-- What a deed offers to the board. -/
def offer? (b : Board) : Deed → Option Offer
  | .draw => none
  | .publish t ms => some ⟨t, ms, (b.publish t ms).1⟩
  | .update m ds tab total height =>
    some ⟨b.draw.1, m.place ds tab total height, (b.update m ds tab total height).1⟩

/-- Whether a deed publishes only under a ticket drawn before. -/
def Permits (b : Board) : Deed → Prop
  | .publish t _ => 0 < t ∧ t ≤ b.drawn
  | .draw | .update .. => True

instance (b : Board) : (d : Deed) → Decidable (b.Permits d)
  | .publish t _ => inferInstanceAs (Decidable (0 < t ∧ t ≤ b.drawn))
  | .draw | .update .. => inferInstanceAs (Decidable True)

/-- A list of deeds. -/
def obey (b : Board) (ds : List Deed) : Board := ds.foldl perform b

/-- The tickets that are drawn, in the order in which they are. -/
def tickets (b : Board) : List Deed → List Ticket
  | [] => []
  | d :: ds => (b.drawn? d).toList ++ (b.perform d).tickets ds

/-- All that is offered to the board, in the order of the offers. -/
def offers (b : Board) : List Deed → List Offer
  | [] => []
  | d :: ds => (b.offer? d).toList ++ (b.perform d).offers ds

/-- Whether a list of deeds publishes only under tickets drawn before. -/
def PermitsAll (b : Board) : List Deed → Prop
  | [] => True
  | d :: ds => b.Permits d ∧ (b.perform d).PermitsAll ds

instance (b : Board) (ds : List Deed) : Decidable (b.PermitsAll ds) :=
  match ds with
  | [] => inferInstanceAs (Decidable True)
  | d :: ds =>
    have := instDecidablePermitsAll (b.perform d) ds
    inferInstanceAs (Decidable (_ ∧ _))

variable {b : Board} {d : Deed} {ds es : List Deed} {t : Ticket}

theorem obey_append : b.obey (ds ++ es) = (b.obey ds).obey es := List.foldl_append

theorem obey_concat : b.obey (ds ++ [d]) = (b.obey ds).perform d := by simp [obey]

theorem tickets_concat :
    b.tickets (ds ++ [d]) = b.tickets ds ++ ((b.obey ds).drawn? d).toList := by
  induction ds generalizing b with
  | nil => simp [tickets, obey]
  | cons d' ds ih =>
    rw [List.cons_append, tickets, tickets, ih, List.append_assoc]
    rfl

theorem offers_concat :
    b.offers (ds ++ [d]) = b.offers ds ++ ((b.obey ds).offer? d).toList := by
  induction ds generalizing b with
  | nil => simp [offers, obey]
  | cons d' ds ih =>
    rw [List.cons_append, offers, offers, ih, List.append_assoc]
    rfl

theorem permitsAll_concat :
    b.PermitsAll (ds ++ [d]) ↔ b.PermitsAll ds ∧ (b.obey ds).Permits d := by
  induction ds generalizing b with
  | nil => simp [PermitsAll, obey]
  | cons d' ds ih =>
    rw [List.cons_append, PermitsAll, PermitsAll, ih, and_assoc]
    rfl

/-! ## One deed -/

theorem publish_stale (h : t ≤ b.published) (ms : List Marker) :
    b.publish t ms = (.superseded b.published, b) := if_pos h

theorem publish_later (h : b.published < t) (ms : List Marker) :
    b.publish t ms = (.applied (moved b.current ms),
      { b with published := t, current := ms, previous := b.current }) :=
  if_neg (Nat.not_le.2 h)

/-- What a deed offers is published on the board readied for it. -/
theorem perform_of_offer {x : Offer} (offered : b.offer? d = some x) :
    b.perform d = ((b.readied d).publish x.ticket x.markers).2 ∧
      x.outcome = ((b.readied d).publish x.ticket x.markers).1 := by
  cases d <;> cases offered <;> exact ⟨rfl, rfl⟩

theorem perform_of_no_offer (quiet : b.offer? d = none) : b.perform d = b.readied d := by
  cases d <;> first | rfl | cases quiet

theorem readied_eq (b : Board) (d : Deed) :
    b.readied d = { b with drawn := b.drawn + (b.drawn? d).isSome.toNat } := by
  cases d <;> rfl

/-- **What becomes of an offer**: one that is no later than what is on show changes nothing but the
    tickets drawn, and a later one is put on show. -/
theorem offer_cases {x : Offer} (offered : b.offer? d = some x) :
    x.ticket ≤ b.published ∧ x.outcome = .superseded b.published ∧ b.perform d = b.readied d ∨
    b.published < x.ticket ∧ x.outcome = .applied (moved b.current x.markers) ∧
      b.perform d = { b.readied d with
        published := x.ticket, current := x.markers, previous := b.current } := by
  obtain ⟨after, outcome⟩ := perform_of_offer offered
  have same : (b.readied d).published = b.published ∧ (b.readied d).current = b.current := by
    rw [readied_eq]
    exact ⟨rfl, rfl⟩
  rcases Nat.lt_or_ge b.published x.ticket with later | stale
  · rw [publish_later (same.1 ▸ later)] at after outcome
    rw [same.2] at after outcome
    exact .inr ⟨later, outcome, after⟩
  · rw [publish_stale (same.1 ▸ stale)] at after outcome
    rw [same.1] at outcome
    exact .inl ⟨stale, outcome, after⟩

theorem drawn_perform (b : Board) (d : Deed) :
    (b.perform d).drawn = b.drawn + (b.drawn? d).isSome.toNat := by
  have readied : (b.readied d).drawn = b.drawn + (b.drawn? d).isSome.toNat := by
    rw [readied_eq]
  rcases offered : b.offer? d with _ | x
  · rw [perform_of_no_offer offered, readied]
  · rcases offer_cases offered with ⟨-, -, after⟩ | ⟨-, -, after⟩ <;> rw [after, readied]

/-! ## Whole histories -/

/-- What a board has of the offers `xs` that it took up so far. -/
structure Shows (b : Board) (xs : List Offer) : Prop where
  published_le : b.published ≤ b.drawn
  /-- Their tickets grow, and the last is that on show. -/
  ascending : (0 :: xs.map Offer.ticket).Pairwise (· < ·)
  published : ∃ older, 0 :: xs.map Offer.ticket = older ++ [b.published]
  /-- The markers of the last two are the lists of the board, with nothing before the first. -/
  lists : ∃ older, [] :: [] :: xs.map Offer.markers = older ++ [b.previous, b.current]

namespace Shows
variable {xs : List Offer} {x : Offer}

theorem new : ({} : Board).Shows [] :=
  ⟨Nat.le_refl _, List.pairwise_singleton .., ⟨[], rfl⟩, ⟨[], rfl⟩⟩

theorem le_published (h : b.Shows xs) : ∀ y ∈ xs, y.ticket ≤ b.published := by
  intro y hy
  obtain ⟨older, eq⟩ := h.published
  have mem : y.ticket ∈ older ++ [b.published] :=
    eq ▸ List.mem_cons_of_mem _ (List.mem_map_of_mem hy)
  rcases List.mem_append.1 mem with mem | mem
  · have sorted := List.pairwise_append.1 (eq ▸ h.ascending)
    exact Nat.le_of_lt (sorted.2.2 _ mem _ (List.mem_singleton_self _))
  · exact Nat.le_of_eq (List.mem_singleton.1 mem)

theorem exists_published (h : b.Shows xs) :
    b.published = 0 ∨ ∃ y ∈ xs, y.ticket = b.published := by
  obtain ⟨older, eq⟩ := h.published
  have mem : b.published ∈ 0 :: xs.map Offer.ticket :=
    eq ▸ List.mem_append_right _ (List.mem_singleton_self _)
  rcases List.mem_cons.1 mem with zero | mem
  · exact .inl zero
  · exact .inr (List.mem_map.1 mem)

/-- A ticket is later than that on show iff it is later than all taken up so far. -/
theorem lt_iff (h : b.Shows xs) (ht : 0 < t) :
    b.published < t ↔ ∀ y ∈ xs, y.ticket < t := by
  constructor
  · intro later y hy
    exact Nat.lt_of_le_of_lt (h.le_published y hy) later
  · intro all
    rcases h.exists_published with zero | ⟨y, hy, eq⟩
    · rwa [zero]
    · exact eq ▸ all y hy

theorem readied (h : b.Shows xs) (d : Deed) : (b.readied d).Shows xs := by
  rw [readied_eq]
  exact ⟨Nat.le_add_right_of_le h.published_le, h.ascending, h.published, h.lists⟩

theorem take (h : b.Shows xs) (later : b.published < x.ticket) (drawn : x.ticket ≤ b.drawn) :
    { b with published := x.ticket, current := x.markers, previous := b.current : Board }.Shows
      (xs ++ [x]) where
  published_le := drawn
  ascending := by
    rw [List.map_append, ← List.cons_append]
    refine List.pairwise_append.2 ⟨h.ascending, List.pairwise_singleton .., ?_⟩
    intro t ht u hu
    obtain rfl := List.mem_singleton.1 hu
    rcases List.mem_cons.1 ht with rfl | ht
    · exact Nat.zero_lt_of_lt later
    · obtain ⟨y, hy, rfl⟩ := List.mem_map.1 ht
      exact Nat.lt_of_le_of_lt (h.le_published y hy) later
  published := ⟨0 :: xs.map Offer.ticket, by simp⟩
  lists := by
    obtain ⟨older, eq⟩ := h.lists
    refine ⟨older ++ [b.previous], ?_⟩
    rw [List.map_append, ← List.cons_append, ← List.cons_append, eq]
    simp

theorem ticket_le (permitted : b.Permits d) (offered : b.offer? d = some x) :
    0 < x.ticket ∧ x.ticket ≤ (b.readied d).drawn := by
  cases d with
  | draw => cases offered
  | publish t ms =>
    cases offered
    exact permitted
  | update m ds tab total height =>
    cases offered
    exact ⟨Nat.succ_pos _, Nat.le_refl _⟩

/-- **Every deed keeps a board in line with what it took up.** -/
theorem perform (h : b.Shows xs) (permitted : b.Permits d) :
    (b.perform d).Shows (xs ++ (b.offer? d).toList.filter Offer.isApplied) := by
  rcases offered : b.offer? d with _ | x
  · rw [perform_of_no_offer offered, Option.toList_none, List.filter_nil, List.append_nil]
    exact h.readied d
  · rw [Option.toList_some]
    rcases offer_cases offered with ⟨-, outcome, after⟩ | ⟨later, outcome, after⟩
    · have refused : x.isApplied = false := by rw [Offer.isApplied, outcome, Outcome.isApplied]
      rw [after, List.filter_cons_of_neg (by simp [refused]), List.filter_nil, List.append_nil]
      exact h.readied d
    · have taken : x.isApplied = true := by rw [Offer.isApplied, outcome, Outcome.isApplied]
      have take := (h.readied d).take (x := x) (by rwa [readied_eq])
        (ticket_le permitted offered).2
      rw [after, List.filter_cons_of_pos taken, List.filter_nil]
      rwa [readied_eq] at take ⊢

end Shows

/-- The offers that a board takes up. -/
def appliedOffers (b : Board) (ds : List Deed) : List Offer :=
  (b.offers ds).filter Offer.isApplied

theorem shows_obey (permitted : ({} : Board).PermitsAll ds) :
    (({} : Board).obey ds).Shows (({} : Board).appliedOffers ds) := by
  induction ds using List.reverseRecOn with
  | nil => exact .new
  | append_singleton ds d ih =>
    obtain ⟨before, now⟩ := permitsAll_concat.1 permitted
    rw [obey_concat, appliedOffers, offers_concat, List.filter_append]
    exact (ih before).perform now

theorem tickets_obey (ds : List Deed) :
    ({} : Board).tickets ds = List.range' 1 (({} : Board).obey ds).drawn := by
  induction ds using List.reverseRecOn with
  | nil => rfl
  | append_singleton ds d ih =>
    rw [tickets_concat, obey_concat, drawn_perform, ih]
    cases d with
    | publish t ms => exact List.append_nil _
    | draw | update =>
      rw [drawn?, Option.isSome_some, Bool.toNat_true, List.range'_1_concat, Nat.add_comm 1]
      rfl

/-- Offers that move nothing leave all offsets as they were. -/
theorem offsets_obey (still : ∀ x ∈ b.offers ds, x.outcome ≠ .applied true) :
    (b.obey ds).current.map Marker.y = b.current.map Marker.y := by
  induction ds using List.reverseRecOn with
  | nil => rfl
  | append_singleton ds d ih =>
    rw [offers_concat] at still
    rw [obey_concat, ← ih fun x hx => still x (List.mem_append_left _ hx)]
    rcases offered : (b.obey ds).offer? d with _ | x
    · rw [perform_of_no_offer offered, readied_eq]
    · rcases offer_cases offered with ⟨-, -, after⟩ | ⟨-, outcome, after⟩
      · rw [after, readied_eq]
      · have unmoved := still x (by simp [offered])
        rw [outcome, ne_eq, Outcome.applied.injEq, Bool.not_eq_true] at unmoved
        rw [after, (moved_eq_false_iff ..).1 unmoved]

/-- What holds of a new board after the deeds `ds`. -/
structure Chronicle (ds : List Deed) : Prop where
  /-- The tickets drawn are one, two and so on. -/
  tickets : ({} : Board).tickets ds = List.range' 1 (({} : Board).obey ds).drawn
  /-- The ticket on show has been drawn, the tickets taken up grow, and the lists of the board are
      the last two of the lists taken up. -/
  shows : (({} : Board).obey ds).Shows (({} : Board).appliedOffers ds)
  /-- The next offer is taken up iff its ticket is later than all that were taken up before. -/
  applied_iff : ∀ d x, (({} : Board).obey ds).Permits d →
    (({} : Board).obey ds).offer? d = some x →
    (x.isApplied = true ↔ ∀ y ∈ ({} : Board).appliedOffers ds, y.ticket < x.ticket)
  /-- Updates are always taken up. -/
  update : ∀ m diagnostics tab total height, ∃ moved,
    ((({} : Board).obey ds).update m diagnostics tab total height).1 = .applied moved
  /-- The answer to an offer that is taken up says whether the offsets change. -/
  moved_iff : ∀ d x moved, (({} : Board).obey ds).offer? d = some x → x.outcome = .applied moved →
    (({} : Board).obey (ds ++ [d])).current = x.markers ∧
    (moved = true ↔ (({} : Board).obey ds).current.map Marker.y ≠ x.markers.map Marker.y)
  /-- While no answer says so, they stay as they are. -/
  still : ∀ es, (∀ x ∈ (({} : Board).obey ds).offers es, x.outcome ≠ .applied true) →
    (({} : Board).obey (ds ++ es)).current.map Marker.y =
      (({} : Board).obey ds).current.map Marker.y

/-- **A board shows the last of what it took up, and keeps the one before**, whatever was offered to
    it and in which order. -/
theorem chronicle_of_permitsAll (ds : List Deed) (permitted : ({} : Board).PermitsAll ds) :
    Chronicle ds where
  tickets := tickets_obey ds
  shows := shows_obey permitted
  applied_iff := by
    intro d x now offered
    rw [← (shows_obey permitted).lt_iff (Shows.ticket_le now offered).1]
    rcases offer_cases offered with ⟨stale, outcome, -⟩ | ⟨later, outcome, -⟩
    · rw [Offer.isApplied, outcome, Outcome.isApplied]
      exact iff_of_false Bool.false_ne_true (Nat.not_lt.2 stale)
    · rw [Offer.isApplied, outcome, Outcome.isApplied]
      exact iff_of_true rfl later
  update := by
    intro m diagnostics tab total height
    have later := Nat.lt_succ_of_le (shows_obey permitted).published_le
    rcases offer_cases (d := .update m diagnostics tab total height) rfl with
      ⟨stale, -, -⟩ | ⟨-, outcome, -⟩
    · exact absurd stale (Nat.not_le.2 later)
    · exact ⟨_, outcome⟩
  moved_iff := by
    intro d x changed offered applied
    rcases offer_cases offered with ⟨-, outcome, -⟩ | ⟨-, outcome, after⟩
    · cases outcome.symm.trans applied
    · obtain rfl := Outcome.applied.inj (outcome.symm.trans applied)
      refine ⟨by rw [obey_concat, after], ?_⟩
      rw [ne_eq, ← moved_eq_false_iff, Bool.not_eq_false]
  still := by
    intro es still
    rw [obey_append]
    exact offsets_obey still

/-- Two results that come in the wrong order, one of them twice, and an update after them. -/
theorem chronicle_of_permitsAll_swapped :
    let ds : List Deed := [.draw, .draw, .publish 2 [⟨⟨0, 7, .error, "new"⟩, 4, .error⟩],
      .publish 1 [⟨⟨0, 3, .warning, "old"⟩, 2, .warning⟩], .publish 2 [],
      .update {} [⟨0, 1, .error, "last"⟩] 0 2 100]
    ({} : Board).PermitsAll ds ∧ Chronicle ds ∧ ({} : Board).tickets ds = [1, 2, 3] ∧
      (({} : Board).appliedOffers ds).map Offer.ticket = [2, 3] := by
  intro ds
  have permitted : ({} : Board).PermitsAll ds := by decide +kernel
  exact ⟨permitted, chronicle_of_permitsAll _ permitted, by decide +kernel, by decide +kernel⟩

end Board

end MarkerStrip
