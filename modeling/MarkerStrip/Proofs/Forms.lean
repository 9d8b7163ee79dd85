/-
  The two forms of a diagnostic in JSON.

  * `Field.Takes` says what a field takes from a value, `Field.Refuses` which
    values it refuses, and why;
  * `Describes j d`: the value is an object or a list that gives the diagnostic;
  * `Faulty items i e`: the list has the fault `e` at the place `i`;
  * `Decoding j` says what becomes of the value `j`, and `decoding_of_sorted`
    that it holds of every value.
-/
import Mathlib.Algebra.Ring.Int.Defs
import Mathlib.Algebra.Ring.Nat
import MarkerStrip.Diagnostic.Decode
import MarkerStrip.Proofs.Dictionary

namespace MarkerStrip

open Data (Dict Fault Found Json)

/-! ## Severities -/

namespace Severity

variable {s : String} {v : Json} {severity : Severity} {e : Fault}

theorem ofKeyword_eq_ok_iff : ofKeyword s = .ok severity ↔ s = severity.keyword := by
  rw [ofKeyword, ofKeyword?]
  cases severity <;> split_ifs <;> simp_all [keyword]

theorem ofKeyword_eq_error_iff : ofKeyword s = .error e ↔
    (∀ severity : Severity, s ≠ severity.keyword) ∧ e = .unknownVariant s ["warning", "error"] := by
  constructor
  · intro h
    refine ⟨fun severity named => ?_, ?_⟩
    · rw [ofKeyword_eq_ok_iff.2 named] at h
      cases h
    · rw [ofKeyword] at h
      split at h
      · cases h
      · cases h
        rfl
  · rintro ⟨other, rfl⟩
    rw [ofKeyword]
    split
    · next severity named =>
      refine absurd (ofKeyword_eq_ok_iff.1 ?_) (other severity)
      rw [ofKeyword, named]
    · rfl

end Severity

namespace Diagnostic

/-! ## What fields hold -/

/-- What a field holds. -/
inductive Part where
  | index (n : Nat)
  | text (s : String)
  | severity (s : Severity)

def get (d : Diagnostic) : Field → Part
  | .tab => .index d.tab.toNat
  | .line => .index d.line.toNat
  | .message => .text d.message
  | .severity => .severity d.severity

theorem eq_of_get {d d' : Diagnostic} (same : ∀ f, d.get f = d'.get f) : d = d' := by
  obtain ⟨tab, line, severity, message⟩ := d
  obtain ⟨tab', line', severity', message'⟩ := d'
  have tabs : tab = tab' := UInt64.toNat.inj (Part.index.inj (same .tab))
  have lines : line = line' := UInt64.toNat.inj (Part.index.inj (same .line))
  have texts : message = message' := Part.text.inj (same .message)
  have severities : severity = severity' := Part.severity.inj (same .severity)
  rw [tabs, lines, texts, severities]

namespace Field

/-- The value that a field takes, and what it then holds. -/
inductive Takes : Field → Json → Part → Prop
  | tab {n : Nat} (fits : n < 2 ^ 64) : Takes tab (.integer n) (.index n)
  | line {n : Nat} (fits : n < 2 ^ 64) : Takes line (.integer n) (.index n)
  | message {s : String} : Takes message (.string s) (.text s)
  | severity {s : Severity} : Takes severity (.string s.keyword) (.severity s)
  /-- The keyword may be the only key of an object, over a null. -/
  | severityObject {s : Severity} :
      Takes severity (.object [(s.keyword, .null)]) (.severity s)

/-- The values that a field refuses, and why. -/
inductive Refuses : Field → Json → Fault → Prop
  | range {f : Field} {n : Int} (index : f = tab ∨ f = line) (out : n < 0 ∨ 2 ^ 64 ≤ n) :
      Refuses f (.integer n) (.wrongValue (.integer n) "usize")
  | noInteger {f : Field} {v : Json} (index : f = tab ∨ f = line) (other : ∀ n, v ≠ .integer n) :
      Refuses f v (.wrongType v.found "usize")
  | noText {v : Json} (other : ∀ s, v ≠ .string s) :
      Refuses message v (.wrongType v.found "a string")
  | keyword {s : String} (other : ∀ severity : Severity, s ≠ severity.keyword) :
      Refuses severity (.string s) (.unknownVariant s ["warning", "error"])
  | key {k : String} {v : Json} (other : ∀ severity : Severity, k ≠ severity.keyword) :
      Refuses severity (.object [(k, v)]) (.unknownVariant k ["warning", "error"])
  | content {s : Severity} {v : Json} (other : v ≠ .null) :
      Refuses severity (.object [(s.keyword, v)]) (.wrongType v.found "unit")
  | keys {fields : Dict Json} (other : fields.length ≠ 1) :
      Refuses severity (.object fields) (.wrongValue .map "map with a single key")
  | noSeverity {v : Json} (noText : ∀ s, v ≠ .string s) (noObject : ∀ fields, v ≠ .object fields) :
      Refuses severity v (.wrongType v.found "string or map")

/-- Decodes the value of a field. -/
def read : Field → Json → Except Fault Part
  | tab, v | line, v => (indexOfJson v).map fun n => .index n.toNat
  | message, v => v.found.string.map .text
  | severity, v => (Severity.ofJson v).map .severity

section
variable {f : Field} {v : Json} {x : Part} {e : Fault} {k : String}

theorem natural_of_lt {n bound : Nat} {name : String} (fits : n < bound) :
    Found.natural bound name (.integer n) = .ok n := by
  have inside : 0 ≤ (n : Int) ∧ (n : Int) < bound :=
    ⟨Int.natCast_nonneg n, Int.ofNat_lt.2 fits⟩
  rw [Found.natural, if_pos inside, Int.toNat_natCast]

theorem read_integer {n : Nat} (index : f = tab ∨ f = line) (fits : n < 2 ^ 64) :
    f.read (.integer n) = .ok (.index n) := by
  have found : Found.natural UInt64.size "usize" (.integer n) = .ok n := natural_of_lt fits
  have decoded : indexOfJson (.integer n) = .ok (.ofNat n) := by
    rw [indexOfJson, Json.found, Found.word64, found]
    rfl
  have back : (UInt64.ofNat n).toNat = n := UInt64.toNat_ofNat_of_lt' fits
  rcases index with rfl | rfl <;> rw [read, decoded, Except.map, back]

theorem read_integer_out {n : Int} (index : f = tab ∨ f = line) (out : n < 0 ∨ 2 ^ 64 ≤ n) :
    f.read (.integer n) = .error (.wrongValue (.integer n) "usize") := by
  have outside : ¬(0 ≤ n ∧ n < UInt64.size) := by
    have size : (UInt64.size : Int) = 2 ^ 64 := rfl
    omega
  have decoded : indexOfJson (.integer n) = .error (.wrongValue (.integer n) "usize") := by
    simp only [indexOfJson, Json.found, Found.word64, Found.natural, if_neg outside, Except.map]
  rcases index with rfl | rfl <;> simp only [read, decoded, Except.map]

theorem read_of_ne_integer (index : f = tab ∨ f = line) (other : ∀ n, v ≠ .integer n) :
    f.read v = .error (.wrongType v.found "usize") := by
  rcases index with rfl | rfl <;> cases v
  case inl.integer n | inr.integer n => exact absurd rfl (other n)
  all_goals rfl

theorem read_message_of_ne_string (other : ∀ s, v ≠ .string s) :
    message.read v = .error (.wrongType v.found "a string") := by
  cases v
  case string s => exact absurd rfl (other s)
  all_goals rfl

theorem read_string {s : String} :
    severity.read (.string s) = (Severity.ofKeyword s).map .severity :=
  rfl

theorem read_object_null :
    severity.read (.object [(k, .null)]) = (Severity.ofKeyword k).map .severity := by
  rw [read, Severity.ofJson]
  cases Severity.ofKeyword k <;> rfl

theorem read_object_of_ne_null (other : v ≠ .null) :
    severity.read (.object [(k, v)]) =
      (Severity.ofKeyword k).bind fun _ => .error (.wrongType v.found "unit") := by
  rw [read, Severity.ofJson]
  cases Severity.ofKeyword k with
  | error e => rfl
  | ok s =>
    cases v
    case null => exact absurd rfl other
    all_goals rfl

theorem read_object_of_length {fields : Dict Json} (other : fields.length ≠ 1) :
    severity.read (.object fields) = .error (.wrongValue .map "map with a single key") := by
  match fields, other with
  | [], _ => rfl
  | [_], other => exact absurd rfl other
  | _ :: _ :: _, _ => rfl

theorem read_severity_of_ne (noText : ∀ s, v ≠ .string s)
    (noObject : ∀ fields, v ≠ .object fields) :
    severity.read v = .error (.wrongType v.found "string or map") := by
  cases v
  case string s => exact absurd rfl (noText s)
  case object fields => exact absurd rfl (noObject fields)
  all_goals rfl

theorem index_takes_or_refuses (index : f = tab ∨ f = line) (v : Json) :
    (∃ x, f.Takes v x) ∨ ∃ e, f.Refuses v e := by
  by_cases integer : ∃ n, v = .integer n
  · obtain ⟨n, rfl⟩ := integer
    by_cases out : n < 0 ∨ 2 ^ 64 ≤ n
    · exact .inr ⟨_, .range index out⟩
    · obtain ⟨n, rfl⟩ := Int.eq_ofNat_of_zero_le (show 0 ≤ n by omega)
      have fits : n < 2 ^ 64 := by omega
      left
      rcases index with rfl | rfl
      · exact ⟨_, .tab fits⟩
      · exact ⟨_, .line fits⟩
  · exact .inr ⟨_, .noInteger index fun n h => integer ⟨n, h⟩⟩

theorem takes_or_refuses (f : Field) (v : Json) : (∃ x, f.Takes v x) ∨ ∃ e, f.Refuses v e := by
  cases f with
  | tab => exact index_takes_or_refuses (.inl rfl) v
  | line => exact index_takes_or_refuses (.inr rfl) v
  | message =>
    by_cases text : ∃ s, v = .string s
    · obtain ⟨s, rfl⟩ := text
      exact .inl ⟨_, .message⟩
    · exact .inr ⟨_, .noText fun s h => text ⟨s, h⟩⟩
  | severity =>
    match v with
    | .string s =>
      by_cases named : ∃ severity : Severity, s = severity.keyword
      · obtain ⟨severity, rfl⟩ := named
        exact .inl ⟨_, .severity⟩
      · exact .inr ⟨_, .keyword fun severity h => named ⟨severity, h⟩⟩
    | .object [(k, v)] =>
      by_cases named : ∃ severity : Severity, k = severity.keyword
      · obtain ⟨severity, rfl⟩ := named
        by_cases null : v = .null
        · subst null
          exact .inl ⟨_, .severityObject⟩
        · exact .inr ⟨_, .content null⟩
      · exact .inr ⟨_, .key fun severity h => named ⟨severity, h⟩⟩
    | .object [] => exact .inr ⟨_, .keys nofun⟩
    | .object (_ :: _ :: _) => exact .inr ⟨_, .keys nofun⟩
    | .null | .boolean _ | .integer _ | .real _ | .array _ =>
      exact .inr ⟨_, .noSeverity nofun nofun⟩

/-- **A field takes a value or refuses it**, and decodes it so. -/
theorem decodes (f : Field) : Data.Decodes f.read f.Takes f.Refuses where
  taken takes := by
    cases takes with
    | tab fits => exact read_integer (.inl rfl) fits
    | line fits => exact read_integer (.inr rfl) fits
    | message => rfl
    | severity => rw [read_string, Severity.ofKeyword_eq_ok_iff.2 rfl]; rfl
    | severityObject => rw [read_object_null, Severity.ofKeyword_eq_ok_iff.2 rfl]; rfl
  refused refuses := by
    cases refuses with
    | range index out => exact read_integer_out index out
    | noInteger index other => exact read_of_ne_integer index other
    | noText other => exact read_message_of_ne_string other
    | keyword other => rw [read_string, Severity.ofKeyword_eq_error_iff.2 ⟨other, rfl⟩]; rfl
    | @key k v other =>
      have named := Severity.ofKeyword_eq_error_iff.2 ⟨other, rfl⟩
      by_cases null : v = .null
      · rw [null, read_object_null, named]
        rfl
      · rw [read_object_of_ne_null null, named]
        rfl
    | content other =>
      rw [read_object_of_ne_null other, Severity.ofKeyword_eq_ok_iff.2 rfl]
      rfl
    | keys other => exact read_object_of_length other
    | noSeverity noText noObject => exact read_severity_of_ne noText noObject
  total := takes_or_refuses f

end

theorem key_injective {f g : Field} (same : f.key = g.key) : f = g := by
  cases f
  all_goals
    cases g
    all_goals first
      | rfl
      | exact absurd same (by decide)

theorem mem_all (f : Field) : f ∈ all := by
  cases f <;> decide

theorem ofKey?_eq_some_iff {key : String} {f : Field} : ofKey? key = some f ↔ f.key = key :=
  Data.find?_key_eq_some_iff key_injective (mem_all f)

end Field

/-! ## Objects -/

namespace Draft

/-- What is known of a field. -/
def get (d : Draft) : Field → Option Part
  | .tab => d.tab.map fun n => .index n.toNat
  | .line => d.line.map fun n => .index n.toNat
  | .message => d.message.map .text
  | .severity => d.severity.map .severity

/-- Makes a part known, if it is one that the field may hold. -/
def put (d : Draft) : Field → Part → Draft
  | .tab, .index n => { d with tab := some (.ofNat n) }
  | .line, .index n => { d with line := some (.ofNat n) }
  | .message, .text s => { d with message := some s }
  | .severity, .severity s => { d with severity := some s }
  | _, _ => d

variable {draft : Draft} {d : Diagnostic} {f g : Field} {key : String} {v : Json} {x : Part}
variable {e : Fault}

theorem get_put_self (takes : f.Takes v x) : (draft.put f x).get f = some x := by
  cases takes with
  | tab fits | line fits =>
    exact congrArg (fun n => some (Part.index n)) (UInt64.toNat_ofNat_of_lt' fits)
  | message | severity | severityObject => rfl

theorem get_put_of_ne (other : g ≠ f) : (draft.put f x).get g = draft.get g := by
  fun_cases put draft f x
  all_goals
    cases g
    all_goals first
      | rfl
      | exact absurd rfl other

theorem addJson_key : draft.addJson f.key v = (f.read v).map (draft.put f) := by
  have known : Field.ofKey? f.key = some f := Field.ofKey?_eq_some_iff.2 rfl
  have word (n : UInt64) : UInt64.ofNat n.toNat = n := UInt64.ofNat_toNat
  rw [addJson, known]
  cases f
  case tab | line =>
    simp only [Field.read]
    cases indexOfJson v with
    | error e => rfl
    | ok n => simp [Except.map, put, word]
  case message =>
    simp only [Field.read]
    cases v.found.string <;> rfl
  case severity =>
    simp only [Field.read]
    cases Severity.ofJson v <;> rfl

theorem addJson_of_ne (other : ∀ f : Field, f.key ≠ key) : draft.addJson key v = .ok draft := by
  have none : Field.ofKey? key = none :=
    Option.eq_none_iff_forall_ne_some.2 fun f h => other f (Field.ofKey?_eq_some_iff.1 h)
  rw [addJson, none]

/-- **A diagnostic is complete iff all fields are known.** -/
theorem complete_eq_ok_iff : draft.complete = .ok d ↔ ∀ f, draft.get f = some (d.get f) := by
  obtain ⟨tab, line, message, severity⟩ := draft
  constructor
  · intro h f
    cases tab <;> cases line <;> cases message <;> cases severity <;> cases h
    cases f <;> rfl
  · intro known
    cases tab with
    | none => cases known .tab
    | some tab =>
      cases line with
      | none => cases known .line
      | some line =>
        cases message with
        | none => cases known .message
        | some message =>
          cases severity with
          | none => cases known .severity
          | some severity =>
            refine congrArg Except.ok (eq_of_get fun f => Option.some.inj ?_)
            rw [← known f]
            cases f <;> rfl

/-- **The first unknown field is the one that is missing.** -/
theorem complete_eq_error_iff : draft.complete = .error e ↔
    ∃ f, Field.all.find? (fun f => (draft.get f).isNone) = some f ∧ e = .missingField f.key := by
  have missing (f : Field) : (.error (.missingField f.key) : Except Fault Diagnostic) = .error e ↔
      ∃ g, some f = some g ∧ e = .missingField g.key := by
    simp [eq_comm]
  obtain ⟨tab, line, message, severity⟩ := draft
  cases tab with
  | none => exact missing .tab
  | some tab =>
    cases line with
    | none => exact missing .line
    | some line =>
      cases message with
      | none => exact missing .message
      | some message =>
        cases severity with
        | none => exact missing .severity
        | some severity => exact ⟨nofun, nofun⟩

end Draft

/-- The entries that are refused, and why. -/
def Refuses (key : String) (v : Json) (e : Fault) : Prop :=
  ∃ f : Field, f.key = key ∧ f.Refuses v e

/-- **An entry is added or refused**: put in its place if its field takes the value, and passed over
    if its key names no field. -/
theorem decodes_addJson (draft : Draft) (key : String) : Data.Decodes (draft.addJson key)
    (fun v draft' =>
      (∃ (f : Field) (x : Part), f.key = key ∧ f.Takes v x ∧ draft' = draft.put f x) ∨
        (∀ f : Field, f.key ≠ key) ∧ draft' = draft) (Refuses key) where
  taken := by
    rintro v draft' (⟨f, x, rfl, takes, rfl⟩ | ⟨other, rfl⟩)
    · rw [Draft.addJson_key, f.decodes.taken takes]
      rfl
    · exact Draft.addJson_of_ne other
  refused := by
    rintro v e ⟨f, rfl, refuses⟩
    rw [Draft.addJson_key, f.decodes.refused refuses]
    rfl
  total v := by
    by_cases named : ∃ f : Field, f.key = key
    · obtain ⟨f, rfl⟩ := named
      obtain ⟨x, takes⟩ | ⟨e, refuses⟩ := f.decodes.total v
      · exact .inl ⟨_, .inl ⟨f, x, rfl, takes, rfl⟩⟩
      · exact .inr ⟨e, f, rfl, refuses⟩
    · exact .inl ⟨draft, .inr ⟨fun f h => named ⟨f, h⟩, rfl⟩⟩

theorem judges_addJson : Dict.Judges Draft.addJson Refuses :=
  fun draft key _ _ => (decodes_addJson draft key).eq_error_iff

section
variable {draft draft' : Draft} {f : Field} {key : String} {v : Json}

theorem takes_of_addJson (added : draft.addJson f.key v = .ok draft') :
    ∃ x, f.Takes v x ∧ draft'.get f = some x := by
  obtain ⟨g, x, same, takes, rfl⟩ | ⟨other, -⟩ := (decodes_addJson draft _).eq_ok_iff.1 added
  · cases Field.key_injective same
    exact ⟨x, takes, Draft.get_put_self takes⟩
  · exact absurd rfl (other f)

theorem get_of_addJson_of_ne (other : key ≠ f.key) (added : draft.addJson key v = .ok draft') :
    draft'.get f = draft.get f := by
  obtain ⟨g, x, rfl, -, rfl⟩ | ⟨-, rfl⟩ := (decodes_addJson draft _).eq_ok_iff.1 added
  · exact Draft.get_put_of_ne fun same => other (same ▸ rfl)
  · rfl

end

section
variable {fields fields' : Dict Json} {draft : Draft} {d : Diagnostic} {e : Fault}

theorem ofFields_eq : ofFields fields =
    (Dict.collect Draft.addJson {} fields).bind Draft.complete :=
  rfl

theorem get_collect (ordered : fields.Ordered)
    (collected : Dict.collect Draft.addJson {} fields = .ok draft) (f : Field) :
    (∀ v, fields.get? f.key = some v → ∃ x, f.Takes v x ∧ draft.get f = some x) ∧
      (fields.get? f.key = none → draft.get f = none) := by
  have nothing : ({} : Draft).get f = none := by
    cases f <;> rfl
  rw [← nothing]
  exact Dict.read_collect (fun draft => draft.get f) (fun v p => ∃ x, f.Takes v x ∧ p = some x)
    takes_of_addJson get_of_addJson_of_ne ordered collected

/-- **An object is decoded iff all four fields are there**, with values that they take. -/
theorem ofFields_eq_ok_iff (ordered : fields.Ordered) : ofFields fields = .ok d ↔
    ∀ f : Field, ∃ v, fields.get? f.key = some v ∧ f.Takes v (d.get f) := by
  rw [ofFields_eq]
  constructor
  · intro h f
    cases collected : Dict.collect Draft.addJson {} fields with
    | error e =>
      rw [collected] at h
      cases h
    | ok draft =>
      rw [collected] at h
      have known := Draft.complete_eq_ok_iff.1 h f
      obtain ⟨given, absent⟩ := get_collect ordered collected f
      cases found : fields.get? f.key with
      | none =>
        rw [absent found] at known
        cases known
      | some v =>
        obtain ⟨x, takes, here⟩ := given v found
        rw [here] at known
        cases known
        exact ⟨v, rfl, takes⟩
  · intro given
    have admits : Dict.Admits Refuses fields := by
      rintro key v found e ⟨f, rfl, refuses⟩
      obtain ⟨w, here, takes⟩ := given f
      rw [found] at here
      cases here
      exact f.decodes.not_refuses takes refuses
    obtain ⟨draft, collected⟩ := (judges_addJson.exists_collect_iff ordered).2 admits
    rw [collected]
    refine Draft.complete_eq_ok_iff.2 fun f => ?_
    obtain ⟨v, found, takes⟩ := given f
    obtain ⟨x, takes', here⟩ := (get_collect ordered collected f).1 v found
    rw [here, f.decodes.unique takes takes']

/-- **The fault of an object** is that of its least bad entry, and if there is none the first field
    that is missing. -/
theorem ofFields_eq_error_iff (ordered : fields.Ordered) : ofFields fields = .error e ↔
    Dict.FirstRefused Refuses fields e ∨ Dict.Admits Refuses fields ∧
      ∃ f : Field, Field.all.find? (fun f => (fields.get? f.key).isNone) = some f ∧
        e = .missingField f.key := by
  rw [ofFields_eq, ← judges_addJson.collect_eq_error_iff (s := {}) ordered,
    ← judges_addJson.exists_collect_iff (s := {}) ordered]
  cases collected : Dict.collect Draft.addJson {} fields with
  | error e' => simp [Except.bind]
  | ok draft =>
    have known (f : Field) : (draft.get f).isNone = (fields.get? f.key).isNone := by
      obtain ⟨given, absent⟩ := get_collect ordered collected f
      cases found : fields.get? f.key with
      | none =>
        rw [absent found]
        rfl
      | some v =>
        obtain ⟨x, -, here⟩ := given v found
        rw [here]
        rfl
    have missing : draft.complete = .error e ↔ ∃ f : Field,
        Field.all.find? (fun f => (fields.get? f.key).isNone) = some f ∧
          e = .missingField f.key := by
      rw [Draft.complete_eq_error_iff]
      simp only [known]
    simpa [Except.bind] using missing

/-- **Keys that name no field do not matter.** -/
theorem ofFields_congr (ordered : fields.Ordered) (ordered' : fields'.Ordered)
    (same : ∀ f : Field, fields.get? f.key = fields'.get? f.key) :
    ofFields fields = ofFields fields' := by
  have sameBad (key : String) (v : Json) (e : Fault) (refuses : Refuses key v e) :
      fields.get? key = fields'.get? key := by
    obtain ⟨f, rfl, -⟩ := refuses
    exact same f
  have sameBad' (key : String) (v : Json) (e : Fault) (refuses : Refuses key v e) :
      fields'.get? key = fields.get? key :=
    (sameBad key v e refuses).symm
  cases h : ofFields fields with
  | ok d =>
    rw [ofFields_eq_ok_iff ordered] at h
    simp only [same] at h
    exact ((ofFields_eq_ok_iff ordered').2 h).symm
  | error e =>
    rw [ofFields_eq_error_iff ordered] at h
    simp only [same] at h
    refine ((ofFields_eq_error_iff ordered').2 ?_).symm
    exact h.imp (fun first => first.congr sameBad)
      fun ⟨admits, missing⟩ => ⟨admits.congr sameBad, missing⟩

end

/-! ## Lists -/

/-- A list of values has the fault `e` at the place `i`: the value there is one that the field in
    this place refuses, or there is none, or it is one too many. -/
inductive Faulty (items : List Json) : Nat → Fault → Prop
  | refused {i : Nat} {f : Field} {v : Json} {e : Fault} (place : Field.all[i]? = some f)
      (found : items[i]? = some v) (refuses : f.Refuses v e) : Faulty items i e
  | missing {i : Nat} (place : i < Field.all.length) (absent : items.length ≤ i) :
      Faulty items i (.wrongLength i "struct Diagnostic with 4 elements")
  | excess (more : Field.all.length < items.length) :
      Faulty items Field.all.length (.wrongLength items.length "fewer elements in array")

/-- Of all places from `i` on, the first at which there is a fault has the fault `e`. -/
def FirstFrom (P : Nat → Fault → Prop) (i : Nat) (e : Fault) : Prop :=
  ∃ j, i ≤ j ∧ P j e ∧ ∀ k, i ≤ k → k < j → ∀ e', ¬P k e'

section
variable {items : List Json} {d : Diagnostic} {e : Fault}

theorem bind_eq_error_iff {α β : Type} {x : Except Fault α} {next : α → Except Fault β}
    {P : Nat → Fault → Prop} {i : Nat} (here : ∀ e, x = .error e ↔ P i e)
    (rest : ∀ a, x = .ok a → ∀ e, next a = .error e ↔ FirstFrom P (i + 1) e) (e : Fault) :
    x >>= next = .error e ↔ FirstFrom P i e := by
  cases x with
  | error e₀ =>
    have bad : P i e₀ := (here e₀).1 rfl
    constructor
    · intro h
      cases h
      exact ⟨i, Nat.le_refl i, bad, fun k le lt => absurd le (Nat.not_le_of_lt lt)⟩
    · rintro ⟨j, le, at_j, first⟩
      rcases Nat.lt_or_eq_of_le le with lt | rfl
      · exact absurd bad (first i (Nat.le_refl i) lt e₀)
      · have same : (.error e₀ : Except Fault α) = .error e := (here e).2 at_j
        cases same
        rfl
  | ok a =>
    have fine (e : Fault) : ¬P i e := by
      intro bad
      cases (here e).2 bad
    -- The place is fine, so the first fault from it on is the first behind it.
    show next a = .error e ↔ _
    rw [rest a rfl e]
    constructor
    · rintro ⟨j, le, at_j, first⟩
      refine ⟨j, Nat.le_of_succ_le le, at_j, fun k le' lt e' => ?_⟩
      rcases Nat.lt_or_eq_of_le le' with lt' | rfl
      · exact first k lt' lt e'
      · exact fine e'
    · rintro ⟨j, le, at_j, first⟩
      rcases Nat.lt_or_eq_of_le le with lt | rfl
      · exact ⟨j, lt, at_j, fun k le' => first k (Nat.le_of_succ_le le')⟩
      · exact absurd at_j (fine e)

section
variable {α : Type} {i : Nat} {f : Field} {decode : Json → Except Fault α} {part : α → Part}

theorem itemOfJson_eq_error_iff (place : Field.all[i]? = some f)
    (decodes : ∀ v, f.read v = (decode v).map part) (e : Fault) :
    itemOfJson items i decode = .error e ↔ Faulty items i e := by
  have inside : i < Field.all.length := (List.getElem?_eq_some_iff.1 place).1
  rw [itemOfJson]
  cases found : items[i]? with
  | none =>
    have absent : items.length ≤ i := List.getElem?_eq_none_iff.1 found
    constructor
    · intro h
      cases h
      exact .missing inside absent
    · intro faulty
      cases faulty with
      | refused _ found' => rw [found] at found'; cases found'
      | missing => rfl
      | excess => exact absurd inside (Nat.lt_irrefl _)
  | some v =>
    have failed : decode v = .error e ↔ f.read v = .error e := by
      rw [decodes]
      cases decode v <;> simp [Except.map]
    show decode v = .error e ↔ _
    rw [failed, f.decodes.eq_error_iff]
    constructor
    · exact .refused place found
    · intro faulty
      cases faulty with
      | refused place' found' refuses =>
        rw [place] at place'
        rw [found] at found'
        cases place'
        cases found'
        exact refuses
      | missing _ absent =>
        rw [List.getElem?_eq_none absent] at found
        cases found
      | excess => exact absurd inside (Nat.lt_irrefl _)

theorem itemOfJson_eq_ok_iff {a : α} (distinct : ∀ {a b}, part a = part b → a = b)
    (decodes : ∀ v, f.read v = (decode v).map part) :
    itemOfJson items i decode = .ok a ↔ ∃ v, items[i]? = some v ∧ f.Takes v (part a) := by
  rw [itemOfJson]
  cases items[i]? with
  | none => simp
  | some v =>
    have read : decode v = .ok a ↔ f.read v = .ok (part a) := by
      rw [decodes]
      cases decode v with
      | error e => simp [Except.map]
      | ok b => exact ⟨fun h => by cases h; rfl, fun h => congrArg _ (distinct (Except.ok.inj h))⟩
    show decode v = .ok a ↔ _
    rw [read, f.decodes.eq_ok_iff]
    simp

end

theorem firstFrom_length_iff : FirstFrom (Faulty items) Field.all.length e ↔
    Field.all.length < items.length ∧
      e = .wrongLength items.length "fewer elements in array" := by
  constructor
  · rintro ⟨j, le, faulty, -⟩
    cases faulty with
    | refused place =>
      exact absurd (List.getElem?_eq_some_iff.1 place).1 (Nat.not_lt.2 le)
    | missing place => exact absurd place (Nat.not_lt.2 le)
    | excess more => exact ⟨more, rfl⟩
  · rintro ⟨more, rfl⟩
    exact ⟨_, Nat.le_refl _, .excess more, fun k le lt => absurd lt (Nat.not_lt.2 le)⟩

/-- **The fault of a list** is that at its first place that has one. -/
theorem ofItems_eq_error_iff : ofItems items = .error e ↔ FirstFrom (Faulty items) 0 e := by
  rw [ofItems]
  refine bind_eq_error_iff (itemOfJson_eq_error_iff (f := .tab) rfl fun _ => rfl) ?_ e
  intro tab _ e
  refine bind_eq_error_iff (itemOfJson_eq_error_iff (f := .line) rfl fun _ => rfl) ?_ e
  intro line _ e
  refine bind_eq_error_iff (itemOfJson_eq_error_iff (f := .message) rfl fun _ => rfl) ?_ e
  intro message _ e
  refine bind_eq_error_iff (itemOfJson_eq_error_iff (f := .severity) rfl fun _ => rfl) ?_ e
  intro severity _ e
  refine Iff.trans ?_ firstFrom_length_iff.symm
  split_ifs with more
  · exact ⟨fun h => by cases h; exact ⟨more, rfl⟩, fun h => by rw [h.2]; rfl⟩
  · exact ⟨nofun, fun h => absurd h.1 more⟩

theorem exists_of_bind_eq_ok {α β : Type} {x : Except Fault α} {next : α → Except Fault β} {b : β}
    (h : x >>= next = .ok b) : ∃ a, x = .ok a ∧ next a = .ok b := by
  cases x with
  | error e => cases h
  | ok a => exact ⟨a, rfl, h⟩

theorem eq_of_getElem? {v₀ v₁ v₂ v₃ : Json} (at₀ : items[0]? = some v₀) (at₁ : items[1]? = some v₁)
    (at₂ : items[2]? = some v₂) (at₃ : items[3]? = some v₃) (few : ¬4 < items.length) :
    items = [v₀, v₁, v₂, v₃] := by
  refine List.ext_getElem? fun i => ?_
  match i with
  | 0 => exact at₀
  | 1 => exact at₁
  | 2 => exact at₂
  | 3 => exact at₃
  | i + 4 => rw [List.getElem?_eq_none (by omega)]; rfl

/-- **A list is decoded iff it holds the four fields in their order**, with values that they
    take. -/
theorem ofItems_eq_ok_iff : ofItems items = .ok d ↔
    List.Forall₂ (fun f v => f.Takes v (d.get f)) Field.all items := by
  have index {n n' : UInt64} (h : Part.index n.toNat = .index n'.toNat) : n = n' :=
    UInt64.toNat.inj (Part.index.inj h)
  have tab {n : UInt64} : itemOfJson items 0 indexOfJson = .ok n ↔
      ∃ v, items[0]? = some v ∧ Field.tab.Takes v (.index n.toNat) :=
    itemOfJson_eq_ok_iff index fun _ => rfl
  have line {n : UInt64} : itemOfJson items 1 indexOfJson = .ok n ↔
      ∃ v, items[1]? = some v ∧ Field.line.Takes v (.index n.toNat) :=
    itemOfJson_eq_ok_iff index fun _ => rfl
  have message {s : String} : (itemOfJson items 2 fun v => v.found.string) = .ok s ↔
      ∃ v, items[2]? = some v ∧ Field.message.Takes v (.text s) :=
    itemOfJson_eq_ok_iff Part.text.inj fun _ => rfl
  have severity {s : Severity} : itemOfJson items 3 Severity.ofJson = .ok s ↔
      ∃ v, items[3]? = some v ∧ Field.severity.Takes v (.severity s) :=
    itemOfJson_eq_ok_iff Part.severity.inj fun _ => rfl
  constructor
  · intro h
    rw [ofItems] at h
    obtain ⟨t, read₀, h⟩ := exists_of_bind_eq_ok h
    obtain ⟨l, read₁, h⟩ := exists_of_bind_eq_ok h
    obtain ⟨m, read₂, h⟩ := exists_of_bind_eq_ok h
    obtain ⟨s, read₃, h⟩ := exists_of_bind_eq_ok h
    split_ifs at h with more
    · cases h
    · cases h
      obtain ⟨v₀, at₀, takes₀⟩ := tab.1 read₀
      obtain ⟨v₁, at₁, takes₁⟩ := line.1 read₁
      obtain ⟨v₂, at₂, takes₂⟩ := message.1 read₂
      obtain ⟨v₃, at₃, takes₃⟩ := severity.1 read₃
      rw [eq_of_getElem? at₀ at₁ at₂ at₃ more]
      exact .cons takes₀ (.cons takes₁ (.cons takes₂ (.cons takes₃ .nil)))
  · intro given
    simp only [Field.all, List.forall₂_cons_left_iff, List.forall₂_nil_left_iff] at given
    obtain ⟨v₀, _, takes₀, ⟨v₁, _, takes₁, ⟨v₂, _, takes₂, ⟨v₃, _, takes₃, rfl, rfl⟩, rfl⟩, rfl⟩,
      rfl⟩ := given
    rw [ofItems, tab.2 ⟨v₀, rfl, takes₀⟩, line.2 ⟨v₁, rfl, takes₁⟩, message.2 ⟨v₂, rfl, takes₂⟩,
      severity.2 ⟨v₃, rfl, takes₃⟩]
    rfl

end

/-! ## Values of any kind -/

/-- The value gives the diagnostic: as an object with a value for every field, or as a list of these
    values in the order of the fields. -/
inductive Describes : Json → Diagnostic → Prop
  | object {fields : Dict Json} {d : Diagnostic}
      (given : ∀ f : Field, ∃ v, fields.get? f.key = some v ∧ f.Takes v (d.get f)) :
      Describes (.object fields) d
  | list {items : List Json} {d : Diagnostic}
      (given : List.Forall₂ (fun f v => f.Takes v (d.get f)) Field.all items) :
      Describes (.array items) d

/-- The keys ascend, if the value is an object. -/
def Sorted (j : Json) : Prop := ∀ fields : Dict Json, j = .object fields → fields.Ordered

/-- The object of a diagnostic, with a value for its severity. -/
def toObject (d : Diagnostic) (severity : Json) : Json :=
  .object [("line_number", .integer d.line.toNat), ("message", .string d.message),
    ("severity", severity), ("tab_index", .integer d.tab.toNat)]

/-- The list of a diagnostic, with a value for its severity. -/
def toArray (d : Diagnostic) (severity : Json) : Json :=
  .array [.integer d.tab.toNat, .integer d.line.toNat, .string d.message, severity]

/-- What becomes of a value. -/
structure Decoding (j : Json) : Prop where
  /-- It is decoded iff it gives a diagnostic, and then as that one. -/
  accepted_iff : ∀ d, ofJson j = .ok d ↔ Describes j d
  /-- Entries of an object under other keys do not matter. -/
  others : ∀ fields fields', j = .object fields → Dict.Ordered fields' →
    (∀ f : Field, Dict.get? fields f.key = Dict.get? fields' f.key) →
      ofJson j = ofJson (.object fields')
  /-- The fault of an object is that of its bad field with the least key, in the order of bytes; if
      no field is bad, the first missing one is reported. -/
  object_fault_iff : ∀ fields e, j = .object fields →
    (ofJson j = .error e ↔ Dict.FirstRefused Refuses fields e ∨ Dict.Admits Refuses fields ∧
      ∃ f : Field, Field.all.find? (fun f => (Dict.get? fields f.key).isNone) = some f ∧
        e = .missingField f.key)
  /-- The fault of a list is that at the first place that is bad, missing or one too many. -/
  list_fault_iff : ∀ items e, j = .array items →
    (ofJson j = .error e ↔ FirstFrom (Faulty items) 0 e)
  /-- Any other value is refused as it is. -/
  refused : (∀ fields, j ≠ .object fields) → (∀ items, j ≠ .array items) →
    ofJson j = .error (.wrongType j.found "struct Diagnostic")
  /-- An object and a list of the same four values are decoded alike. -/
  alike : ∀ fields v₀ v₁ v₂ v₃, j = .object fields → Dict.get? fields "tab_index" = some v₀ →
    Dict.get? fields "line_number" = some v₁ → Dict.get? fields "message" = some v₂ →
      Dict.get? fields "severity" = some v₃ →
        ∀ d, ofJson j = .ok d ↔ ofJson (.array [v₀, v₁, v₂, v₃]) = .ok d
  /-- Every diagnostic is recovered from both its forms, however its severity is written. -/
  recovered : ∀ (d : Diagnostic) (severity : Json),
    Field.severity.Takes severity (.severity d.severity) →
      ofJson (d.toObject severity) = .ok d ∧ ofJson (d.toArray severity) = .ok d

section
variable {j : Json} {d : Diagnostic}

theorem ofJson_eq_ok_iff (sorted : Sorted j) : ofJson j = .ok d ↔ Describes j d := by
  constructor
  · intro h
    cases j with
    | object fields => exact .object ((ofFields_eq_ok_iff (sorted fields rfl)).1 h)
    | array items => exact .list (ofItems_eq_ok_iff.1 h)
    | _ => cases h
  · intro describes
    cases describes with
    | object given => exact (ofFields_eq_ok_iff (sorted _ rfl)).2 given
    | list given => exact ofItems_eq_ok_iff.2 given

/-- Four values under the keys of the fields are decoded as four values in their places. -/
theorem object_iff_array {fields : Dict Json} {v₀ v₁ v₂ v₃ : Json} (ordered : fields.Ordered)
    (tab : fields.get? "tab_index" = some v₀) (line : fields.get? "line_number" = some v₁)
    (message : fields.get? "message" = some v₂) (severity : fields.get? "severity" = some v₃) :
    ofJson (.object fields) = .ok d ↔ ofJson (.array [v₀, v₁, v₂, v₃]) = .ok d := by
  have object : ofJson (.object fields) = .ok d ↔
      ∀ f : Field, ∃ v, fields.get? f.key = some v ∧ f.Takes v (d.get f) :=
    ofFields_eq_ok_iff ordered
  have list : ofJson (.array [v₀, v₁, v₂, v₃]) = .ok d ↔
      List.Forall₂ (fun f v => f.Takes v (d.get f)) Field.all [v₀, v₁, v₂, v₃] :=
    ofItems_eq_ok_iff
  rw [object, list]
  constructor
  · intro given
    have takes {f : Field} {v : Json} (found : fields.get? f.key = some v) :
        f.Takes v (d.get f) := by
      obtain ⟨w, found', takes⟩ := given f
      rw [found] at found'
      cases found'
      exact takes
    exact .cons (takes tab) (.cons (takes line) (.cons (takes message)
      (.cons (takes severity) .nil)))
  · intro given f
    simp only [Field.all, List.forall₂_cons] at given
    obtain ⟨takes₀, takes₁, takes₂, takes₃, -⟩ := given
    cases f with
    | tab => exact ⟨v₀, tab, takes₀⟩
    | line => exact ⟨v₁, line, takes₁⟩
    | message => exact ⟨v₂, message, takes₂⟩
    | severity => exact ⟨v₃, severity, takes₃⟩

/-- **Every diagnostic is recovered from its list.** -/
theorem ofJson_toArray {severity : Json}
    (takes : Field.severity.Takes severity (.severity d.severity)) :
    ofJson (d.toArray severity) = .ok d :=
  ofItems_eq_ok_iff.2 (.cons (.tab d.tab.toNat_lt) (.cons (.line d.line.toNat_lt)
    (.cons .message (.cons takes .nil))))

/-- **Every diagnostic is recovered from its object.** -/
theorem ofJson_toObject {severity : Json}
    (takes : Field.severity.Takes severity (.severity d.severity)) :
    ofJson (d.toObject severity) = .ok d := by
  refine (object_iff_array ?_ rfl rfl rfl rfl).2 (ofJson_toArray takes)
  have keys : ["line_number", "message", "severity", "tab_index"].Pairwise (· < ·) := by decide
  exact List.pairwise_map.1 keys

end

/-- **Every value is decoded so.** -/
theorem decoding_of_sorted {j : Json} (sorted : Sorted j) : Decoding j where
  accepted_iff d := ofJson_eq_ok_iff sorted
  others := by
    rintro fields fields' rfl ordered' same
    exact ofFields_congr (sorted fields rfl) ordered' same
  object_fault_iff := by
    rintro fields e rfl
    exact ofFields_eq_error_iff (sorted fields rfl)
  list_fault_iff := by
    rintro items e rfl
    exact ofItems_eq_error_iff
  refused := by
    intro noObject noList
    cases j with
    | object fields => exact absurd rfl (noObject fields)
    | array items => exact absurd rfl (noList items)
    | _ => rfl
  alike := by
    rintro fields v₀ v₁ v₂ v₃ rfl tab line message severity d
    exact object_iff_array (sorted fields rfl) tab line message severity
  recovered d severity takes := ⟨ofJson_toObject takes, ofJson_toArray takes⟩

/-- A bad field and a missing one. -/
theorem decoding_of_bad_message :
    Sorted (.object [("message", .null), ("severity", .string "error"),
        ("tab_index", .integer 1)]) ∧
      Decoding (.object [("message", .null), ("severity", .string "error"),
        ("tab_index", .integer 1)]) := by
  have sorted : Sorted (.object [("message", .null), ("severity", .string "error"),
      ("tab_index", .integer 1)]) := by
    intro fields same
    cases same
    have keys : ["message", "severity", "tab_index"].Pairwise (· < ·) := by decide
    exact List.pairwise_map.1 keys
  exact ⟨sorted, decoding_of_sorted sorted⟩

end Diagnostic

end MarkerStrip
