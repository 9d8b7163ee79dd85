/-
  The schema of settings.

  * `Field.Kind` says what a field may hold, and `Kind.Takes` what it takes from
    a value;
  * `Refuses` lists the entries that are refused, and why; an entry that is
    not refused gives a field its setting (`not_refuses_iff`);
  * `Schema t` says what becomes of the table `t`, and `schema_of_ordered` that
    it holds of every table.
-/
import MarkerStrip.Proofs.Arrangement
import MarkerStrip.Proofs.Spelling
import MarkerStrip.Settings.Decode

namespace MarkerStrip.Settings

open Data (Dict Fault Found)
open Toml (Table Value)

/-! ## What fields hold -/

/-- What a field may hold. -/
inductive Setting where
  | color (c : Color)
  | number (n : Nat)

/-- What a field holds. -/
def get (s : Settings) : Field → Setting
  | .errorColor => .color s.errorColor
  | .warningColor => .color s.warningColor
  | .backgroundColor => .color s.backgroundColor
  | .preferredWidth => .number s.preferredWidth.toNat
  | .markerHeight => .number s.markerHeight.toNat
  | .hitTolerance => .number s.hitTolerance.toNat
  | .bottomMargin => .number s.bottomMargin.toNat
  | .insetLeft => .number s.insetLeft.toNat
  | .insetRight => .number s.insetRight.toNat
  | .lineOffset => .number s.lineOffset.toNat
  | .debounce => .number s.debounce.toNat

/-- Gives a field a setting, if it is one that the field may hold. -/
def put (s : Settings) : Field → Setting → Settings
  | .errorColor, .color c => { s with errorColor := c }
  | .warningColor, .color c => { s with warningColor := c }
  | .backgroundColor, .color c => { s with backgroundColor := c }
  | .preferredWidth, .number n => { s with preferredWidth := .ofNat n }
  | .markerHeight, .number n => { s with markerHeight := .ofNat n }
  | .hitTolerance, .number n => { s with hitTolerance := .ofNat n }
  | .bottomMargin, .number n => { s with bottomMargin := .ofNat n }
  | .insetLeft, .number n => { s with insetLeft := .ofNat n }
  | .insetRight, .number n => { s with insetRight := .ofNat n }
  | .lineOffset, .number n => { s with lineOffset := .ofNat n }
  | .debounce, .number n => { s with debounce := .ofNat n }
  | _, _ => s

theorem get_put_of_ne {s : Settings} {f g : Field} {x : Setting} (other : g ≠ f) :
    (s.put f x).get g = s.get g := by
  fun_cases put s f x
  all_goals
    cases g
    all_goals first
      | rfl
      | exact absurd rfl other

theorem eq_of_get {s s' : Settings} (same : ∀ f, s.get f = s'.get f) : s = s' := by
  have color {c c' : Color} (h : Setting.color c = .color c') : c = c' := by
    cases h
    rfl
  have word32 {w w' : UInt32} (h : Setting.number w.toNat = .number w'.toNat) : w = w' :=
    UInt32.toNat.inj (Setting.number.inj h)
  have word64 {w w' : UInt64} (h : Setting.number w.toNat = .number w'.toNat) : w = w' :=
    UInt64.toNat.inj (Setting.number.inj h)
  obtain ⟨⟩ := s
  obtain ⟨⟩ := s'
  rw [mk.injEq]
  exact ⟨color (same .errorColor), color (same .warningColor), color (same .backgroundColor),
    word32 (same .preferredWidth), word32 (same .markerHeight), word32 (same .hitTolerance),
    word32 (same .bottomMargin), word32 (same .insetLeft), word32 (same .insetRight),
    word64 (same .lineOffset), word64 (same .debounce)⟩

namespace Field

/-- What a field needs. -/
inductive Kind where
  | color
  /-- A number below a bound, under the name by which messages call it. -/
  | number (bound : Nat) (name : String)

def kind : Field → Kind
  | errorColor | warningColor | backgroundColor => .color
  | preferredWidth | markerHeight | hitTolerance | bottomMargin | insetLeft | insetRight =>
    .number (2 ^ 32) "u32"
  | lineOffset => .number (2 ^ 64) "usize"
  | debounce => .number (2 ^ 64) "u64"

namespace Kind

/-- The setting that a value gives. -/
inductive Takes : Kind → Value → Setting → Prop
  | color {raw : String} {c : Color} (read : Color.parse raw = .ok c) :
      Takes color (.string raw) (.color c)
  | number {bound n : Nat} {name : String} (fits : n < bound) :
      Takes (number bound name) (.integer n) (.number n)

/-- How messages call what is needed. -/
def name : Kind → String
  | color => "a string"
  | number _ name => name

/-- Whether a value as described is of the type that is needed. -/
def HasType : Kind → Found → Prop
  | color, f => ∃ raw, f = .text raw
  | number _ _, f => ∃ n, f = .integer n

/-- The values that are refused, and why. -/
inductive Refuses : Kind → Value → Fault → Prop
  /-- A text that writes no colour. -/
  | spelling {raw : String} (unread : ∀ c, Color.parse raw ≠ .ok c) :
      Refuses color (.string raw) (.invalidColor raw)
  /-- A number that is negative or reaches the bound. -/
  | range {bound : Nat} {name : String} {n : Int} (readable : -2 ^ 63 ≤ n ∧ n < 2 ^ 64)
      (out : n < 0 ∨ bound ≤ n) :
      Refuses (number bound name) (.integer n) (.wrongValue (.integer n) name)
  /-- A value of another type. -/
  | type {kind : Kind} {v : Value} {f : Found} (found : v.found = .ok f) (other : ¬kind.HasType f) :
      Refuses kind v (.wrongType f kind.name)
  /-- A number that no 64 bits hold, whatever is needed. -/
  | beyond {kind : Kind} {n : Int} (out : n < -2 ^ 63 ∨ 2 ^ 64 ≤ n) :
      Refuses kind (.integer n) .unexplained
  /-- A number of which no value can be made, whatever is needed. -/
  | unreadable {kind : Kind} : Refuses kind .unreadable .unexplained

/-- Decodes a value as it is described. -/
def ofFound : Kind → Found → Except Fault Setting
  | color, .text raw => (Color.parse raw).map .color
  | number bound name, .integer n =>
    if 0 ≤ n ∧ n < bound then .ok (.number n.toNat) else .error (.wrongValue (.integer n) name)
  | kind, f => .error (.wrongType f kind.name)

/-- Decodes a value. -/
def read (kind : Kind) (v : Value) : Except Fault Setting := v.found.bind kind.ofFound

/-- The numbers that are needed fit in 64 bits. -/
def Small : Kind → Prop
  | color => True
  | number bound _ => bound ≤ 2 ^ 64

end Kind

theorem small_kind (f : Field) : f.kind.Small := by
  cases f <;> simp [kind, Kind.Small]

end Field

/-! ## Values as they are described -/

section
variable {v : Value} {e : Fault}

theorem found_eq_text_iff {raw : String} : v.found = .ok (.text raw) ↔ v = .string raw := by
  cases v with
  | integer n =>
    rw [Value.found]
    split_ifs <;> simp
  | _ => simp [Value.found]

theorem found_eq_integer_iff {n : Int} :
    v.found = .ok (.integer n) ↔ v = .integer n ∧ -2 ^ 63 ≤ n ∧ n < 2 ^ 64 := by
  cases v with
  | integer m =>
    rw [Value.found]
    split_ifs with readable
    · simp only [Except.ok.injEq, Found.integer.injEq, Value.integer.injEq]
      omega
    · simp only [Value.integer.injEq, false_iff]
      omega
  | _ => simp [Value.found]

theorem found_eq_error_iff :
    v.found = .error e ↔
      e = .unexplained ∧ (v = .unreadable ∨ ∃ n, v = .integer n ∧ (n < -2 ^ 63 ∨ 2 ^ 64 ≤ n)) := by
  cases v with
  | integer n =>
    rw [Value.found]
    split_ifs with readable
    · simp only [Value.integer.injEq, false_or, exists_eq_left', false_iff]
      omega
    · have out : n < -2 ^ 63 ∨ 2 ^ 64 ≤ n := by omega
      simp only [Except.error.injEq, Value.integer.injEq, false_or, exists_eq_left',
        out, and_true, eq_comm]
  | _ => simp [Value.found, eq_comm]

end

namespace Field.Kind

variable {kind : Kind} {v : Value} {x : Setting} {e : Fault}

theorem read_of_found {f : Found} (found : v.found = .ok f) : kind.read v = kind.ofFound f := by
  rw [read, found]
  rfl

theorem read_text {raw : String} : color.read (.string raw) = (Color.parse raw).map .color :=
  read_of_found (found_eq_text_iff.2 rfl)

theorem read_integer {bound : Nat} {name : String} {n : Int} (readable : -2 ^ 63 ≤ n ∧ n < 2 ^ 64) :
    (number bound name).read (.integer n) =
      if 0 ≤ n ∧ n < bound then .ok (.number n.toNat) else .error (.wrongValue (.integer n) name) :=
  read_of_found (found_eq_integer_iff.2 ⟨rfl, readable⟩)

theorem read_of_not_hasType {f : Found} (found : v.found = .ok f) (other : ¬kind.HasType f) :
    kind.read v = .error (.wrongType f kind.name) := by
  rw [read_of_found found, ofFound.eq_def]
  split
  · exact absurd ⟨_, rfl⟩ other
  · exact absurd ⟨_, rfl⟩ other
  · rfl

theorem takes_or_refuses_of_found {f : Found} (found : v.found = .ok f) :
    (∃ x, kind.Takes v x) ∨ ∃ e, kind.Refuses v e := by
  by_cases hasType : kind.HasType f
  · cases kind with
    | color =>
      obtain ⟨raw, rfl⟩ := hasType
      cases found_eq_text_iff.1 found
      by_cases reads : ∃ c, Color.parse raw = .ok c
      · obtain ⟨c, parsed⟩ := reads
        exact .inl ⟨_, .color parsed⟩
      · exact .inr ⟨_, .spelling fun c parsed => reads ⟨c, parsed⟩⟩
    | number bound name =>
      obtain ⟨n, rfl⟩ := hasType
      obtain ⟨rfl, readable⟩ := found_eq_integer_iff.1 found
      by_cases out : n < 0 ∨ bound ≤ n
      · exact .inr ⟨_, .range readable out⟩
      · obtain ⟨n, rfl⟩ := Int.eq_ofNat_of_zero_le (show 0 ≤ n by omega)
        exact .inl ⟨_, .number (by omega)⟩
  · exact .inr ⟨_, .type found hasType⟩

/-- **A value is taken or refused**, and decoded so. -/
theorem decodes (small : kind.Small) : Data.Decodes kind.read kind.Takes kind.Refuses where
  taken takes := by
    cases takes with
    | color parsed =>
      rw [read_text, parsed]
      rfl
    | @number bound n name fits =>
      have : bound ≤ 2 ^ 64 := small
      rw [read_integer (by omega), if_pos (by omega)]
      rfl
  refused refuses := by
    cases refuses with
    | @spelling raw unread =>
      rw [read_text]
      cases parsed : Color.parse raw with
      | ok c => exact absurd parsed (unread c)
      | error e =>
        rw [(Color.parse_eq_error_iff.1 parsed).2]
        rfl
    | range readable out => rw [read_integer readable, if_neg (by omega)]
    | type found other => exact read_of_not_hasType found other
    | beyond out =>
      rw [read, found_eq_error_iff.2 ⟨rfl, .inr ⟨_, rfl, out⟩⟩]
      rfl
    | unreadable => rfl
  total v := by
    cases found : v.found with
    | ok f => exact takes_or_refuses_of_found found
    | error e =>
      obtain ⟨-, rfl | ⟨n, rfl, out⟩⟩ := found_eq_error_iff.1 found
      · exact .inr ⟨_, .unreadable⟩
      · exact .inr ⟨_, .beyond out⟩

end Field.Kind

/-! ## Fields -/

theorem Field.decodes (f : Field) : Data.Decodes f.kind.read f.kind.Takes f.kind.Refuses :=
  Kind.decodes f.small_kind

section
variable {s : Settings} {f : Field} {v : Value} {x : Setting}

theorem Field.Kind.read_color : Kind.color.read v = (Settings.color v).map .color := by
  rw [read, Settings.color]
  cases v.found with
  | error e => rfl
  | ok f => cases f <;> rfl

theorem Field.Kind.read_number {bound : Nat} {name : String} :
    (Kind.number bound name).read v = (v.found.bind (Found.natural bound name)).map .number := by
  rw [read]
  cases v.found with
  | error e => rfl
  | ok f =>
    cases f with
    | integer n =>
      simp only [Except.bind, ofFound, Found.natural]
      split_ifs <;> rfl
    | _ => rfl

theorem word32_eq : word32 v = (v.found.bind (Found.natural (2 ^ 32) "u32")).map .ofNat := by
  rw [word32]
  cases v.found <;> rfl

theorem word64_eq {name : String} :
    word64 name v = (v.found.bind (Found.natural (2 ^ 64) name)).map .ofNat := by
  rw [word64]
  cases v.found <;> rfl

theorem assign_eq : s.assign f v = (f.kind.read v).map (s.put f) := by
  cases f
  case errorColor | warningColor | backgroundColor =>
    rw [Field.kind, Field.Kind.read_color, assign]
    cases Settings.color v <;> rfl
  case lineOffset =>
    rw [Field.kind, Field.Kind.read_number, assign, word64_eq]
    cases v.found.bind (Found.natural (2 ^ 64) "usize") <;> rfl
  case debounce =>
    rw [Field.kind, Field.Kind.read_number, assign, word64_eq]
    cases v.found.bind (Found.natural (2 ^ 64) "u64") <;> rfl
  all_goals
    rw [Field.kind, Field.Kind.read_number, assign, word32_eq]
    cases v.found.bind (Found.natural (2 ^ 32) "u32") <;> rfl

theorem get_put_self (takes : f.kind.Takes v x) : (s.put f x).get f = x := by
  cases f
  case errorColor | warningColor | backgroundColor =>
    cases takes
    rfl
  case lineOffset | debounce =>
    cases takes with
    | number fits => exact congrArg Setting.number (UInt64.toNat_ofNat_of_lt' fits)
  all_goals
    cases takes with
    | number fits => exact congrArg Setting.number (UInt32.toNat_ofNat_of_lt' fits)

end

/-! ## Entries -/

namespace Field

theorem key_injective {f g : Field} (same : f.key = g.key) : f = g := by
  cases f
  all_goals
    cases g
    all_goals first
      | rfl
      | exact absurd same (by decide)

theorem mem_all (f : Field) : f ∈ all := by
  cases f <;> decide

theorem ofKey?_eq_some_iff {key : String} {f : Field} : ofKey? key = some f ↔ f.key = key :=
  Data.find?_key_eq_some_iff key_injective (mem_all f)

end Field

/-- The entries that are refused, and why. -/
inductive Refuses : String → Value → Fault → Prop
  /-- A key of no field. -/
  | unknown {key : String} {v : Value} (other : ∀ f : Field, f.key ≠ key) :
      Refuses key v (.unknownField key (Field.all.map Field.key))
  /-- A value that the field cannot have. -/
  | value {f : Field} {v : Value} {e : Fault} (refused : f.kind.Refuses v e) : Refuses f.key v e

section
variable {s s' : Settings} {key : String} {f : Field} {v : Value}

theorem addEntry_key : s.addEntry f.key v = (f.kind.read v).map (s.put f) := by
  rw [addEntry, Field.ofKey?_eq_some_iff.2 rfl]
  exact assign_eq

theorem addEntry_of_ne (other : ∀ f : Field, f.key ≠ key) :
    s.addEntry key v = .error (.unknownField key (Field.all.map Field.key)) := by
  have none : Field.ofKey? key = none :=
    Option.eq_none_iff_forall_ne_some.2 fun f h => other f (Field.ofKey?_eq_some_iff.1 h)
  rw [addEntry, none]

/-- **An entry is added or refused**: added iff its key names a field that takes its value, and then
    it is put there. -/
theorem decodes_addEntry (s : Settings) (key : String) : Data.Decodes (s.addEntry key)
    (fun v s' => ∃ (f : Field) (x : Setting), f.key = key ∧ f.kind.Takes v x ∧ s' = s.put f x)
    (Refuses key) where
  taken := by
    rintro v s' ⟨f, x, rfl, takes, rfl⟩
    rw [addEntry_key, f.decodes.taken takes]
    rfl
  refused := by
    intro v e refuses
    cases refuses with
    | unknown other => exact addEntry_of_ne other
    | @value f v e refused =>
      rw [addEntry_key, f.decodes.refused refused]
      rfl
  total v := by
    by_cases named : ∃ f : Field, f.key = key
    · obtain ⟨f, rfl⟩ := named
      obtain ⟨x, takes⟩ | ⟨e, refused⟩ := f.decodes.total v
      · exact .inl ⟨_, f, x, rfl, takes, rfl⟩
      · exact .inr ⟨e, .value refused⟩
    · exact .inr ⟨_, .unknown fun f h => named ⟨f, h⟩⟩

theorem judges_addEntry : Dict.Judges addEntry Refuses :=
  fun s key _ _ => (decodes_addEntry s key).eq_error_iff

/-- An entry that is not refused gives a field its setting. -/
theorem not_refuses_iff :
    (∀ e, ¬Refuses key v e) ↔ ∃ (f : Field) (x : Setting), f.key = key ∧ f.kind.Takes v x := by
  constructor
  · intro fine
    obtain ⟨s, f, x, same, takes, -⟩ | ⟨e, refuses⟩ := (decodes_addEntry {} key).total v
    · exact ⟨f, x, same, takes⟩
    · exact absurd refuses (fine e)
  · rintro ⟨f, x, same, takes⟩ e
    exact (decodes_addEntry {} key).not_refuses ⟨f, x, same, takes, rfl⟩

theorem takes_of_addEntry (added : s.addEntry f.key v = .ok s') : f.kind.Takes v (s'.get f) := by
  obtain ⟨g, x, same, takes, rfl⟩ := (decodes_addEntry s _).eq_ok_iff.1 added
  cases Field.key_injective same
  rw [get_put_self takes]
  exact takes

theorem get_of_addEntry_of_ne (other : key ≠ f.key) (added : s.addEntry key v = .ok s') :
    s'.get f = s.get f := by
  obtain ⟨g, x, rfl, -, rfl⟩ := (decodes_addEntry s _).eq_ok_iff.1 added
  exact get_put_of_ne fun same => other (same ▸ rfl)

end

/-! ## Tables -/

/-- Every key of the table names a field, and its value gives the field a setting. -/
def Valid (t : Table) : Prop :=
  ∀ key v, t.get? key = some v → ∃ (f : Field) (x : Setting), f.key = key ∧ f.kind.Takes v x

/-- The field has the setting that the value of its key gives, and its default if the key is
    absent. -/
def Follows (s : Settings) (t : Table) (f : Field) : Prop :=
  (∀ v, t.get? f.key = some v → f.kind.Takes v (s.get f)) ∧
    (t.get? f.key = none → s.get f = ({} : Settings).get f)

/-- What becomes of a table. -/
structure Schema (t : Table) : Prop where
  /-- It is accepted iff every entry is valid. -/
  accepted_iff : (∃ s, ofTable t = .ok s) ↔ Valid t
  /-- Its settings are those in which every field follows the table. -/
  decoded_iff : ∀ s, ofTable t = .ok s ↔ Valid t ∧ ∀ f, s.Follows t f
  /-- No key but its own matters to a field. -/
  independent : ∀ s t' s', ofTable t = .ok s → t'.Ordered → ofTable t' = .ok s' → ∀ f : Field,
    t.get? f.key = t'.get? f.key → s.get f = s'.get f
  /-- If it is refused, the fault is that of the least bad key, in the order of bytes. -/
  refused_iff : ∀ e, ofTable t = .error e ↔ Dict.FirstRefused Refuses t e
  /-- A valid entry, new or in the place of another, changes its own field at most. -/
  changed : ∀ s, ofTable t = .ok s → ∀ (f : Field) (v : Value) (x : Setting), f.kind.Takes v x →
    ∃ s', ofTable (Dict.insert t f.key v) = .ok s' ∧ s'.get f = x ∧
      ∀ g, g ≠ f → s'.get g = s.get g
  /-- A document of this table is decoded as the table is. -/
  document : ∀ text, Toml.parse? text = some t → ofDocument text = ofTable t
  /-- If it is accepted, it consists of entries, and any document of the same entries gives the same
      settings, in whatever order it has them. -/
  reordered : ∀ s text, ofTable t = .ok s → Toml.parse? text = some t →
    ∃ es, Toml.Lists text es ∧
      ∀ text' es', Toml.Lists text' es' → es.Perm es' → ofDocument text' = .ok s

section
variable {s : Settings} {t : Table} {f : Field} {v : Value} {x : Setting}

/-- **A table is accepted iff every entry is valid.** -/
theorem exists_ofTable_iff (ordered : t.Ordered) : (∃ s, ofTable t = .ok s) ↔ Valid t := by
  have decoded := judges_addEntry.exists_collect_iff (s := {}) ordered
  simp only [Dict.Admits, not_refuses_iff] at decoded
  exact decoded

theorem follows_of_ofTable (ordered : t.Ordered) (done : ofTable t = .ok s) (f : Field) :
    s.Follows t f := by
  have collected : Dict.collect addEntry {} t = .ok s := done
  exact Dict.read_collect (fun s => s.get f) f.kind.Takes takes_of_addEntry get_of_addEntry_of_ne
    ordered collected

theorem Follows.get_eq {t' : Table} {s' : Settings} (follows : s.Follows t f)
    (follows' : s'.Follows t' f) (same : t.get? f.key = t'.get? f.key) : s.get f = s'.get f := by
  obtain ⟨here, absent⟩ := follows
  obtain ⟨there, absent'⟩ := follows'
  rw [← same] at there absent'
  cases found : t.get? f.key with
  | none => exact (absent found).trans (absent' found).symm
  | some v => exact f.decodes.unique (here v found) (there v found)

/-- **Its settings are those that follow it.** -/
theorem ofTable_eq_ok_iff (ordered : t.Ordered) :
    ofTable t = .ok s ↔ Valid t ∧ ∀ f, s.Follows t f := by
  constructor
  · intro done
    exact ⟨(exists_ofTable_iff ordered).1 ⟨s, done⟩, follows_of_ofTable ordered done⟩
  · rintro ⟨valid, follows⟩
    obtain ⟨s', done⟩ := (exists_ofTable_iff ordered).2 valid
    rw [done, eq_of_get fun f => (follows_of_ofTable ordered done f).get_eq (follows f) rfl]

/-- **One valid entry changes its own field at most.** -/
theorem ofTable_insert (ordered : t.Ordered) (done : ofTable t = .ok s)
    (takes : f.kind.Takes v x) :
    ∃ s', ofTable (Dict.insert t f.key v) = .ok s' ∧ s'.get f = x ∧
      ∀ g, g ≠ f → s'.get g = s.get g := by
  have ordered' := ordered.insert f.key v
  obtain ⟨valid, follows⟩ := (ofTable_eq_ok_iff ordered).1 done
  have accepted : ∃ s', ofTable (Dict.insert t f.key v) = .ok s' := by
    rw [exists_ofTable_iff ordered']
    intro key w found
    by_cases own : key = f.key
    · subst own
      rw [Dict.get?_insert_self] at found
      cases found
      exact ⟨f, x, rfl, takes⟩
    · rw [Dict.get?_insert_of_ne _ _ own] at found
      exact valid key w found
  obtain ⟨s', done'⟩ := accepted
  have follows' := follows_of_ofTable ordered' done'
  refine ⟨s', done', ?_, fun g other => (follows' g).get_eq (follows g) ?_⟩
  · exact f.decodes.unique ((follows' f).1 v (Dict.get?_insert_self _ _ _)) takes
  · exact Dict.get?_insert_of_ne _ _ fun same => other (Field.key_injective same)

/-- **A document that is accepted consists of entries, and their order does not matter.** -/
theorem ofDocument_of_perm {text : String} (ordered : t.Ordered) (done : ofTable t = .ok s)
    (parsed : Toml.parse? text = some t) :
    ∃ es, Toml.Lists text es ∧
      ∀ text' es', Toml.Lists text' es' → es.Perm es' → ofDocument text' = .ok s := by
  -- Fields take texts and numbers only.
  have flat (key : String) (v : Value) (found : t.get? key = some v) :
      (∀ t', v ≠ .table t') ∧ ∀ vs, v ≠ .array vs := by
    obtain ⟨f, x, -, takes⟩ := (exists_ofTable_iff ordered).1 ⟨s, done⟩ key v found
    generalize f.kind = kind at takes
    cases takes <;> exact ⟨nofun, nofun⟩
  obtain ⟨es, lists⟩ := Toml.exists_lists_of_parse? parsed flat
  refine ⟨es, lists, fun text' es' lists' perm => ?_⟩
  rw [ofDocument, ← lists.parse?_eq_of_perm lists' perm, parsed]
  exact done

end

/-- **Every table is decoded by the schema.** -/
theorem schema_of_ordered {t : Table} (ordered : t.Ordered) : Schema t where
  accepted_iff := exists_ofTable_iff ordered
  decoded_iff _ := ofTable_eq_ok_iff ordered
  independent _ _ _ done ordered' done' f same :=
    (follows_of_ofTable ordered done f).get_eq (follows_of_ofTable ordered' done' f) same
  refused_iff _ := judges_addEntry.collect_eq_error_iff ordered
  changed _ done _ _ _ takes := ofTable_insert ordered done takes
  document text parsed := by rw [ofDocument, parsed]
  reordered _ _ done parsed := ofDocument_of_perm ordered done parsed

/-- Two bad entries and a good one between them. -/
theorem schema_of_two_bad_entries :
    Dict.Ordered [("debounce-ms", Value.integer (-1)), ("error-color", Value.string "#a0b1c2"),
        ("zoom", Value.boolean true)] ∧
      Schema [("debounce-ms", .integer (-1)), ("error-color", .string "#a0b1c2"),
        ("zoom", .boolean true)] := by
  have ordered : Dict.Ordered [("debounce-ms", Value.integer (-1)),
      ("error-color", Value.string "#a0b1c2"), ("zoom", Value.boolean true)] := by
    have keys : ["debounce-ms", "error-color", "zoom"].Pairwise (· < ·) := by decide
    exact List.pairwise_map.1 keys
  exact ⟨ordered, schema_of_ordered ordered⟩

end MarkerStrip.Settings
