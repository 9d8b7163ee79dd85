/-
  What a theme finds, and what settings take over.

  * `Theme.Leads` follows keys from table to table, and `Theme.Found` says which
    value a key finds, the parts of the key given by what they are
    (`Theme.find?_eq_some_iff`);
  * `Theme.color_of_read`, `Theme.color_of_unread` and `Theme.color_of_no_text`
    are the three answers of a theme;
  * `Settings.Overlay s t` says what becomes of the settings `s` under the theme
    `t`, and `Settings.overlay_of_theme` that it always holds.
-/
import MarkerStrip.Proofs.Schema
import MarkerStrip.Theme

namespace MarkerStrip

open Data (Dict)
open Toml (Table Value)

/-! ## Parts of keys -/

namespace Text

variable {sep : Char} {cs : List Char}

theorem segments_eq_splitOn : segments sep cs = cs.splitOn sep := by
  induction cs with
  | nil => rfl
  | cons c cs ih =>
    obtain ⟨w, ws, split⟩ := List.exists_cons_of_ne_nil (List.splitOn_ne_nil sep cs)
    rw [segments, List.splitOn_cons_eq_if_modifyHead, ih, split]
    rfl

theorem not_mem_of_mem_segments {w : List Char} (h : w ∈ segments sep cs) : sep ∉ w := by
  induction cs generalizing w with
  | nil =>
    rw [segments, List.mem_singleton] at h
    rw [h]
    exact List.not_mem_nil
  | cons c cs ih =>
    rw [segments] at h
    split_ifs at h with cut
    · rcases List.mem_cons.1 h with rfl | behind
      · exact List.not_mem_nil
      · exact ih behind
    · have other : sep ≠ c := fun same => cut (beq_iff_eq.2 same.symm)
      split at h
      · rw [List.mem_singleton] at h
        rw [h, List.mem_singleton]
        exact other
      · next w' ws split =>
        rw [split] at ih
        rcases List.mem_cons.1 h with rfl | behind
        · rw [List.mem_cons, not_or]
          exact ⟨other, ih List.mem_cons_self⟩
        · exact ih (List.mem_cons_of_mem _ behind)

end Text

namespace Theme

variable {t : Theme} {key k : String} {ks : List String} {v : Value}

/-- **The parts of a key are what stands between its dots.** -/
theorem parts_eq_iff (nonempty : ks ≠ []) :
    parts key = ks ↔ ".".intercalate ks = key ∧ ∀ k ∈ ks, '.' ∉ k.toList := by
  constructor
  · rintro rfl
    constructor
    · refine String.toList_injective ?_
      have back : (parts key).map String.toList = Text.segments '.' key.toList := by
        simp [parts, Function.comp_def]
      rw [String.toList_intercalate, back, Text.segments_eq_splitOn]
      exact List.intercalate_splitOn '.'
    · intro k h
      obtain ⟨w, part, rfl⟩ := List.mem_map.1 h
      rw [String.toList_ofList]
      exact Text.not_mem_of_mem_segments part
  · rintro ⟨rfl, undotted⟩
    have split : (['.'].intercalate (ks.map String.toList)).splitOn '.' = ks.map String.toList := by
      refine List.splitOn_intercalate '.' ?_ (by simpa using nonempty)
      simpa using undotted
    rw [parts, String.toList_intercalate, Text.segments_eq_splitOn]
    show List.map String.ofList ((['.'].intercalate (ks.map String.toList)).splitOn '.') = ks
    rw [split]
    simp

/-! ## Looking up -/

/-- From the table, the keys lead to the value: all but the last name tables, each in the one
    before. -/
inductive Leads : Table → List String → Value → Prop
  | last {t : Table} {k : String} {v : Value} (found : t.get? k = some v) : Leads t [k] v
  | step {t t' : Table} {k : String} {ks : List String} {v : Value}
      (found : t.get? k = some (.table t')) (leads : Leads t' ks v) : Leads t (k :: ks) v

theorem Leads.ne_nil (leads : Leads t ks v) : ks ≠ [] := by
  cases leads <;> nofun

theorem walk_eq_some_iff : walk t ks = some v ↔ Leads t ks v := by
  constructor
  · intro h
    fun_induction walk t ks with
    | case1 => cases h
    | case2 t k => exact .last h
    | case3 t k ks more ih =>
      obtain ⟨t', entered, h⟩ := Option.bind_eq_some_iff.1 h
      obtain ⟨w, found, table⟩ := Option.bind_eq_some_iff.1 entered
      cases w with
      | table t'' =>
        cases table
        exact .step found (ih _ h)
      | _ => cases table
  · intro leads
    induction leads with
    | last found => exact found
    | @step t t' k ks v found leads ih =>
      obtain ⟨k', ks, rfl⟩ := List.exists_cons_of_ne_nil leads.ne_nil
      rw [walk, found]
      · exact ih
      · nofun

/-- What a key finds: its own entry, and if there is none, the value to which its parts lead. -/
def Found (t : Theme) (key : String) (v : Value) : Prop :=
  t.get? key = some v ∨ t.get? key = none ∧
    ∃ ks, ".".intercalate ks = key ∧ (∀ k ∈ ks, '.' ∉ k.toList) ∧ Leads t ks v

/-- **A key finds one value at most**, and that is the value that `Found` says. -/
theorem find?_eq_some_iff : t.find? key = some v ↔ Found t key v := by
  have along : walk t (parts key) = some v ↔
      ∃ ks, ".".intercalate ks = key ∧ (∀ k ∈ ks, '.' ∉ k.toList) ∧ Leads t ks v := by
    rw [walk_eq_some_iff]
    constructor
    · intro leads
      obtain ⟨joined, undotted⟩ := (parts_eq_iff leads.ne_nil).1 rfl
      exact ⟨_, joined, undotted, leads⟩
    · rintro ⟨ks, joined, undotted, leads⟩
      rw [(parts_eq_iff leads.ne_nil).2 ⟨joined, undotted⟩]
      exact leads
  rw [find?, Found, ← along]
  cases t.get? key <;> simp

/-! ## Answers -/

section
variable {c default : Color} {raw : String} {n : Note}

theorem find?_bind_string?_eq_some_iff :
    (t.find? key).bind Value.string? = some raw ↔ Found t key (.string raw) := by
  rw [← find?_eq_some_iff, Option.bind_eq_some_iff]
  constructor
  · rintro ⟨v, found, text⟩
    cases v with
    | string s =>
      cases text
      exact found
    | _ => cases text
  · intro found
    exact ⟨_, found, rfl⟩

theorem color_of_read (found : Found t key (.string raw)) (read : Color.parse raw = .ok c) :
    t.color key default = (c, []) := by
  rw [color, find?_bind_string?_eq_some_iff.2 found]
  simp only [read]

theorem color_of_unread (found : Found t key (.string raw))
    (unread : ∀ c, Color.parse raw ≠ .ok c) :
    t.color key default = (default, [.colorIgnored key raw]) := by
  rw [color, find?_bind_string?_eq_some_iff.2 found]
  cases read : Color.parse raw with
  | ok c => exact absurd read (unread c)
  | error e => simp only [read]

theorem color_of_no_text (none : ∀ raw, ¬Found t key (.string raw)) :
    t.color key default = (default, []) := by
  have nothing : (t.find? key).bind Value.string? = Option.none :=
    Option.eq_none_iff_forall_ne_some.2 fun raw h =>
      none raw (find?_bind_string?_eq_some_iff.1 h)
  rw [color, nothing]

/-- An entry of another type hides the colour in the table. -/
example : color [("errorbar", .table [("errorcolor", .string "#010203")]),
    ("errorbar.errorcolor", .integer 1)] "errorbar.errorcolor" default = (default, []) := rfl

/-- What a theme says is a colour, a note or nothing. -/
theorem color_cases (t : Theme) (key : String) :
    (∃ c, ∀ default, t.color key default = (c, [])) ∨
      (∃ raw, Found t key (.string raw) ∧ (∀ c, Color.parse raw ≠ .ok c) ∧
        ∀ default, t.color key default = (default, [.colorIgnored key raw])) ∨
      ∀ default, t.color key default = (default, []) := by
  by_cases text : ∃ raw, Found t key (.string raw)
  · obtain ⟨raw, found⟩ := text
    by_cases reads : ∃ c, Color.parse raw = .ok c
    · obtain ⟨c, read⟩ := reads
      exact .inl ⟨c, fun _ => color_of_read found read⟩
    · have unread (c : Color) : Color.parse raw ≠ .ok c := fun h => reads ⟨c, h⟩
      exact .inr (.inl ⟨raw, found, unread, fun _ => color_of_unread found unread⟩)
  · exact .inr (.inr fun _ => color_of_no_text fun raw h => text ⟨raw, h⟩)

/-- A second look finds the same. -/
theorem color_color : t.color key (t.color key c).1 = t.color key c := by
  obtain ⟨d, h⟩ | ⟨raw, -, -, h⟩ | h := color_cases t key <;> simp [h]

/-- A note is about a text under the key that writes no colour. -/
theorem mem_color_iff : n ∈ (t.color key default).2 ↔
    ∃ raw, Found t key (.string raw) ∧ (∀ c, Color.parse raw ≠ .ok c) ∧
      n = .colorIgnored key raw := by
  constructor
  · intro mem
    obtain ⟨d, h⟩ | ⟨raw, found, unread, h⟩ | h := color_cases t key
    · simp [h] at mem
    · rw [h, List.mem_singleton] at mem
      exact ⟨raw, found, unread, mem⟩
    · simp [h] at mem
  · rintro ⟨raw, found, unread, rfl⟩
    rw [color_of_unread found unread]
    exact List.mem_cons_self

theorem nodup_color : (t.color key c).2.Nodup := by
  obtain ⟨d, h⟩ | ⟨raw, -, -, h⟩ | h := color_cases t key <;> simp [h]

theorem ne_of_mem_color {key' : String} {m : Note} (other : key ≠ key')
    (mem : n ∈ (t.color key c).2) (mem' : m ∈ (t.color key' default).2) : n ≠ m := by
  obtain ⟨raw, -, -, rfl⟩ := mem_color_iff.1 mem
  obtain ⟨raw', -, -, rfl⟩ := mem_color_iff.1 mem'
  intro same
  exact other (Note.colorIgnored.inj same).1

theorem color_congr {t' : Theme} (same : t.find? key = t'.find? key) :
    t.color key c = t'.color key c := by
  rw [color, color, same]

end

/-! ## Flat and nested themes -/

/-- The colours of a strip, by the names that themes have for them. -/
def names : List String := ["errorcolor", "warningcolor", "backgroundcolor"]

/-- The theme has the colours under flat keys, as `es` has them under their names. -/
def Flat (t : Theme) (es : Table) : Prop :=
  t.get? "errorbar" = none ∧ ∀ name ∈ names, t.get? ("errorbar." ++ name) = es.get? name

/-- The theme has the colours in the table `es`, and none under flat keys. -/
def Nested (t : Theme) (es : Table) : Prop :=
  t.get? "errorbar" = some (.table es) ∧ ∀ name ∈ names, t.get? ("errorbar." ++ name) = none

section
variable {es : Table} {name : String}

theorem parts_append (mem : name ∈ names) : parts ("errorbar." ++ name) = ["errorbar", name] := by
  revert name
  decide

theorem Flat.find?_eq (flat : Flat t es) (mem : name ∈ names) :
    t.find? ("errorbar." ++ name) = es.get? name := by
  rw [find?, parts_append mem, flat.2 name mem, walk, flat.1]
  · simp
  · nofun

theorem Nested.find?_eq (nested : Nested t es) (mem : name ∈ names) :
    t.find? ("errorbar." ++ name) = es.get? name := by
  rw [find?, parts_append mem, nested.2 name mem, walk, nested.1]
  · simp [walk, Value.table?]
  · nofun

theorem errorbar_append_ne (k : String) : "errorbar." ++ k ≠ "errorbar" := by
  intro same
  have long := congrArg String.length same
  rw [String.length_append] at long
  have longer : "errorbar".length < "errorbar.".length := by decide
  omega

theorem flat_map (es : Table) : Flat (es.map fun (k, v) => ("errorbar." ++ k, v)) es := by
  constructor
  · induction es with
    | nil => rfl
    | cons e es ih =>
      obtain ⟨k, v⟩ := e
      rw [List.map_cons, Dict.get?_cons, if_neg (Ne.symm (errorbar_append_ne k)), ih]
  · intro name _
    induction es with
    | nil => rfl
    | cons e es ih =>
      obtain ⟨k, v⟩ := e
      rw [List.map_cons, Dict.get?_cons, Dict.get?_cons, ih]
      simp

theorem nested_singleton (es : Table) : Nested [("errorbar", .table es)] es := by
  refine ⟨rfl, fun name _ => ?_⟩
  rw [Dict.get?_cons, if_neg (errorbar_append_ne name)]
  rfl

end

end Theme

namespace Settings

/-- The key under which themes have the colour of a field. -/
def Field.themeKey? : Field → Option String
  | errorColor => some "errorbar.errorcolor"
  | warningColor => some "errorbar.warningcolor"
  | backgroundColor => some "errorbar.backgroundcolor"
  | _ => none

variable {s : Settings} {t : Theme} {f : Field} {key : String} {c : Color} {n : Note}

theorem exists_color_of_themeKey? (s : Settings) (themed : f.themeKey? = some key) :
    ∃ c, s.get f = .color c := by
  cases f
  case errorColor | warningColor | backgroundColor => exact ⟨_, rfl⟩
  all_goals cases themed

theorem get_withTheme_of_none (own : f.themeKey? = none) : (s.withTheme t).1.get f = s.get f := by
  cases f
  case errorColor | warningColor | backgroundColor => cases own
  all_goals rfl

theorem get_withTheme (themed : f.themeKey? = some key) (here : s.get f = .color c) :
    (s.withTheme t).1.get f = .color (t.color key c).1 := by
  cases f
  case errorColor | warningColor | backgroundColor =>
    cases themed
    cases here
    rfl
  all_goals cases themed

theorem withTheme_congr {t' : Theme}
    (same : ∀ name ∈ Theme.names, t.find? ("errorbar." ++ name) = t'.find? ("errorbar." ++ name)) :
    s.withTheme t = s.withTheme t' := by
  have error : t.color "errorbar.errorcolor" s.errorColor = t'.color _ _ :=
    Theme.color_congr (same "errorcolor" (by decide))
  have warning : t.color "errorbar.warningcolor" s.warningColor = t'.color _ _ :=
    Theme.color_congr (same "warningcolor" (by decide))
  have background : t.color "errorbar.backgroundcolor" s.backgroundColor = t'.color _ _ :=
    Theme.color_congr (same "backgroundcolor" (by decide))
  rw [withTheme, withTheme, error, warning, background]

/-- **Taking a theme over twice is taking it over once**, with the same notes. -/
theorem withTheme_withTheme : (s.withTheme t).1.withTheme t = s.withTheme t := by
  simp only [withTheme, Theme.color_color]

theorem notes_withTheme (s : Settings) (t : Theme) :
    (s.withTheme t).2 = (t.color "errorbar.errorcolor" s.errorColor).2 ++
      (t.color "errorbar.warningcolor" s.warningColor).2 ++
        (t.color "errorbar.backgroundcolor" s.backgroundColor).2 :=
  rfl

theorem mem_withTheme_iff : n ∈ (s.withTheme t).2 ↔
    ∃ (f : Field) (key raw : String), f.themeKey? = some key ∧ t.Found key (.string raw) ∧
      (∀ c, Color.parse raw ≠ .ok c) ∧ n = .colorIgnored key raw := by
  rw [notes_withTheme, List.mem_append, List.mem_append, Theme.mem_color_iff, Theme.mem_color_iff,
    Theme.mem_color_iff]
  constructor
  · rintro ((⟨raw, h⟩ | ⟨raw, h⟩) | ⟨raw, h⟩)
    · exact ⟨.errorColor, _, raw, rfl, h⟩
    · exact ⟨.warningColor, _, raw, rfl, h⟩
    · exact ⟨.backgroundColor, _, raw, rfl, h⟩
  · rintro ⟨f, key, raw, themed, h⟩
    cases f
    case errorColor =>
      cases themed
      exact .inl (.inl ⟨raw, h⟩)
    case warningColor =>
      cases themed
      exact .inl (.inr ⟨raw, h⟩)
    case backgroundColor =>
      cases themed
      exact .inr ⟨raw, h⟩
    all_goals cases themed

theorem nodup_withTheme : (s.withTheme t).2.Nodup := by
  rw [notes_withTheme, List.nodup_append, List.nodup_append]
  refine ⟨⟨Theme.nodup_color, Theme.nodup_color, fun n mem m mem' => ?_⟩, Theme.nodup_color,
    fun n mem m mem' => ?_⟩
  · exact Theme.ne_of_mem_color (by decide) mem mem'
  · rcases List.mem_append.1 mem with mem | mem
    · exact Theme.ne_of_mem_color (by decide) mem mem'
    · exact Theme.ne_of_mem_color (by decide) mem mem'

/-- What becomes of settings under a theme, and what the theme answers for any key. -/
structure Overlay (s : Settings) (t : Theme) : Prop where
  /-- A key finds its own entry, of whatever type, or else what its parts lead to. -/
  finds : ∀ key v, t.find? key = some v ↔ t.Found key v
  /-- A text that writes a colour is the answer. -/
  accepted : ∀ key default raw c, t.Found key (.string raw) → Color.parse raw = .ok c →
    t.color key default = (c, [])
  /-- For any other text the answer is the default, with one warning. -/
  refused : ∀ key default raw, t.Found key (.string raw) → (∀ c, Color.parse raw ≠ .ok c) →
    t.color key default = (default, [.colorIgnored key raw]) ∧
      (Note.colorIgnored key raw).level = .warning
  /-- Where no text is found, it is the default in silence. -/
  otherwise : ∀ key default, (∀ raw, ¬t.Found key (.string raw)) →
    t.color key default = (default, [])
  /-- No field but the three colours changes. -/
  kept : ∀ f : Field, f.themeKey? = none → (s.withTheme t).1.get f = s.get f
  /-- A colour is the answer for its key, with what it was as the default. -/
  taken : ∀ (f : Field) (key : String), f.themeKey? = some key →
    ∃ c, s.get f = .color c ∧ (s.withTheme t).1.get f = .color (t.color key c).1
  /-- So it depends on what its key finds, and on nothing else of the theme or the settings. -/
  own : ∀ (f : Field) (key : String), f.themeKey? = some key →
    ∀ (s' : Settings) (t' : Theme), s.get f = s'.get f → t.find? key = t'.find? key →
      (s.withTheme t).1.get f = (s'.withTheme t').1.get f
  /-- The warnings are those of the three keys, each once. -/
  warned_iff : ∀ n, n ∈ (s.withTheme t).2 ↔
    ∃ (f : Field) (key raw : String), f.themeKey? = some key ∧ t.Found key (.string raw) ∧
      (∀ c, Color.parse raw ≠ .ok c) ∧ n = .colorIgnored key raw
  warned_once : (s.withTheme t).2.Nodup
  /-- The same theme again changes nothing, and warns of the same. -/
  idempotent : (s.withTheme t).1.withTheme t = s.withTheme t
  /-- Whether the colours are under flat keys or in a table makes no difference. -/
  arranged : ∀ t' es, t.Flat es → t'.Nested es → s.withTheme t = s.withTheme t'
  flat_eq_nested : ∀ es : Table,
    s.withTheme (es.map fun (k, v) => ("errorbar." ++ k, v)) = s.withTheme [("errorbar", .table es)]

/-- **Every theme is looked up and taken over so.** -/
theorem overlay_of_theme (s : Settings) (t : Theme) : Overlay s t := by
  have arranged (t t' : Theme) (es : Table) (flat : t.Flat es) (nested : t'.Nested es) :
      s.withTheme t = s.withTheme t' :=
    withTheme_congr fun name mem => (flat.find?_eq mem).trans (nested.find?_eq mem).symm
  exact {
    finds := fun key v => Theme.find?_eq_some_iff
    accepted := fun key default raw c found read => Theme.color_of_read found read
    refused := fun key default raw found unread => ⟨Theme.color_of_unread found unread, rfl⟩
    otherwise := fun key default none => Theme.color_of_no_text none
    kept := fun f own => get_withTheme_of_none own
    taken := fun f key themed => by
      obtain ⟨c, here⟩ := exists_color_of_themeKey? s themed
      exact ⟨c, here, get_withTheme themed here⟩
    own := fun f key themed s' t' same found => by
      obtain ⟨c, here⟩ := exists_color_of_themeKey? s themed
      rw [get_withTheme themed here, get_withTheme themed (same ▸ here), Theme.color_congr found]
    warned_iff := fun n => mem_withTheme_iff
    warned_once := nodup_withTheme
    idempotent := withTheme_withTheme
    arranged := arranged t
    flat_eq_nested := fun es => arranged _ _ es (Theme.flat_map es) (Theme.nested_singleton es) }

end Settings

end MarkerStrip
