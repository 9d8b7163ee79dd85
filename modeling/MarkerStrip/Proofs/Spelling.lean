/-
  How colours are written.

  A colour is written as a hash and six hexadecimal digits, whose case does not
  matter, and every such text writes a colour of its own.

  * `hexValue?` says which characters are hexadecimal digits, and of what value,
    and `digitValue?_sixteen` that these are the ones that are read;
  * `Color.Writes` says which texts write which digits;
  * `Color.parse_eq_ok_iff`, `Color.parse_eq_error_iff`: these texts and no
    others are read, and the colour is that of the number which the digits write;
  * `Color.Spelling` collects what follows.
-/
import Mathlib.Data.Nat.Digits.Lemmas
import MarkerStrip.Proofs.Intensity

namespace MarkerStrip

/-! ## Digits -/

namespace Numeric

/-- The hexadecimal digits, in the order of their values. -/
def hexDigits : List Char :=
  ['0', '1', '2', '3', '4', '5', '6', '7', '8', '9', 'a', 'b', 'c', 'd', 'e', 'f']

/-- The value of a hexadecimal digit of either case; other characters have none. -/
def hexValue? (c : Char) : Option Nat := hexDigits.idxOf? c.toLower

theorem digit?_of_not_ascii {c : Char} (high : 128 ≤ c.toNat) : digit? c = none := by
  have beyond {last : Char} (ascii : last.toNat < 128) : ¬c ≤ last := by
    intro le
    have : c.toNat ≤ last.toNat := le
    omega
  rw [digit?, if_neg fun h => beyond (by decide) h.2, if_neg fun h => beyond (by decide) h.2,
    if_neg fun h => beyond (by decide) h.2]

theorem hexValue?_of_not_ascii {c : Char} (high : 128 ≤ c.toNat) : hexValue? c = none := by
  have lower : c.toLower = c := by
    refine dif_neg fun capital => ?_
    have : c.toNat ≤ 90 := capital.2
    omega
  have ascii : ∀ d ∈ hexDigits, d.toNat < 128 := by simp [hexDigits]
  rw [hexValue?, lower, List.idxOf?_eq_none_iff]
  intro mem
  exact absurd (ascii c mem) (Nat.not_lt.2 high)

/-- **The digits that are read are the hexadecimal digits.** -/
theorem digitValue?_sixteen (c : Char) : digitValue? 16 c = hexValue? c := by
  rcases Nat.lt_or_ge c.toNat 128 with ascii | high
  · have all : ∀ n < 128, digitValue? 16 (Char.ofNat n) = hexValue? (Char.ofNat n) := by decide
    have same := all c.toNat ascii
    rwa [Char.ofNat_toNat] at same
  · rw [digitValue?, digit?_of_not_ascii high, hexValue?_of_not_ascii high]
    rfl

theorem hexValue?_lt {c : Char} {d : Nat} (h : hexValue? c = some d) : d < 16 := by
  obtain ⟨lt, -⟩ := List.idxOf?_eq_some_iff.1 h
  exact lt

/-- The value of a digit tells the digit in lower case. -/
theorem toLower_of_hexValue? {c : Char} {d : Nat} (h : hexValue? c = some d) :
    hexDigits[d]? = some c.toLower := by
  obtain ⟨lt, here, -⟩ := List.idxOf?_eq_some_iff.1 h
  rw [List.getElem?_eq_getElem lt, here]

theorem hexValue?_digitChar {d : Nat} (hd : d < 16) : hexValue? d.digitChar = some d := by
  have all : ∀ d < 16, hexValue? d.digitChar = some d := by decide
  exact all d hd

/-! ## Numbers -/

/-- The characters are hexadecimal digits and write the number, the leading digit first. -/
def WritesHex (cs : List Char) (n : Nat) : Prop :=
  ∃ ds : List Nat, cs.map hexValue? = ds.map some ∧ n = Nat.ofDigits 16 ds.reverse

theorem mapM_eq_some_iff {α β : Type} {f : α → Option β} {as : List α} {bs : List β} :
    as.mapM f = some bs ↔ as.map f = bs.map some := by
  induction as generalizing bs with
  | nil => cases bs <;> simp
  | cons a as ih =>
    cases bs with
    | nil => simp [Option.bind_eq_some_iff]
    | cons b bs => simp [Option.bind_eq_some_iff, ih]

theorem ofDigits_eq (base : Nat) (ds : List Nat) :
    ofDigits base ds = Nat.ofDigits base ds.reverse := by
  rw [ofDigits, Nat.ofDigits_eq_foldr, List.foldr_reverse]
  simp only [Nat.cast_id, Nat.add_comm]

/-- **Texts of hexadecimal digits are read, as the numbers that they write.** -/
theorem readDigits?_sixteen {cs : List Char} {n : Nat} :
    readDigits? 16 cs = some n ↔ cs ≠ [] ∧ WritesHex cs n := by
  have same : digitValue? 16 = hexValue? := funext digitValue?_sixteen
  rw [readDigits?, same]
  cases cs with
  | nil => simp
  | cons c cs =>
    rw [List.isEmpty_cons, if_neg Bool.false_ne_true, Option.map_eq_some_iff]
    constructor
    · rintro ⟨ds, read, rfl⟩
      exact ⟨List.cons_ne_nil c cs, ds, mapM_eq_some_iff.1 read, ofDigits_eq 16 ds⟩
    · rintro ⟨-, ds, digits, rfl⟩
      exact ⟨ds, mapM_eq_some_iff.2 digits, ofDigits_eq 16 ds⟩

theorem lt_of_map_hexValue? {cs : List Char} {ds : List Nat}
    (digits : cs.map hexValue? = ds.map some) : ∀ d ∈ ds, d < 16 := by
  intro d hd
  have mem : some d ∈ cs.map hexValue? := digits ▸ List.mem_map_of_mem hd
  obtain ⟨c, -, value⟩ := List.mem_map.1 mem
  exact hexValue?_lt value

theorem map_toLower {cs : List Char} {ds : List Nat} (digits : cs.map hexValue? = ds.map some) :
    (cs.map Char.toLower).map some = ds.map fun d => hexDigits[d]? := by
  induction cs generalizing ds with
  | nil =>
    cases ds with
    | nil => rfl
    | cons d ds => cases digits
  | cons c cs ih =>
    cases ds with
    | nil => cases digits
    | cons d ds =>
      obtain ⟨first, rest⟩ := List.cons.inj digits
      simp only [List.map_cons, toLower_of_hexValue? first, ih rest]

namespace WritesHex

variable {cs cs' : List Char} {n : Nat}

theorem lt (writes : WritesHex cs n) : n < 16 ^ cs.length := by
  obtain ⟨ds, digits, rfl⟩ := writes
  have length : cs.length = ds.reverse.length := by
    simpa using congrArg List.length digits
  rw [length]
  refine Nat.ofDigits_lt_base_pow_length (by decide) fun d hd => ?_
  exact lt_of_map_hexValue? digits d (List.mem_reverse.1 hd)

theorem of_toLower (writes : WritesHex cs n) (same : cs.map Char.toLower = cs'.map Char.toLower) :
    WritesHex cs' n := by
  obtain ⟨ds, digits, number⟩ := writes
  have values := congrArg (List.map fun c => hexDigits.idxOf? c) same
  rw [List.map_map, List.map_map] at values
  exact ⟨ds, values.symm.trans digits, number⟩

/-- **Nothing but case may differ**, where as many digits write one number. -/
theorem toLower_eq (writes : WritesHex cs n) (writes' : WritesHex cs' n)
    (length : cs.length = cs'.length) : cs.map Char.toLower = cs'.map Char.toLower := by
  obtain ⟨ds, digits, rfl⟩ := writes
  obtain ⟨ds', digits', same⟩ := writes'
  have long : cs.length = ds.length := by simpa using congrArg List.length digits
  have long' : cs'.length = ds'.length := by simpa using congrArg List.length digits'
  have reversed : ds.reverse = ds'.reverse := by
    refine Nat.ofDigits_inj_of_len_eq (by decide) ?_ ?_ ?_ same
    · rw [List.length_reverse, List.length_reverse, ← long, ← long', length]
    · exact fun d hd => lt_of_map_hexValue? digits d (List.mem_reverse.1 hd)
    · exact fun d hd => lt_of_map_hexValue? digits' d (List.mem_reverse.1 hd)
  rw [List.reverse_injective reversed] at digits
  exact List.map_injective_iff.2 (Option.some_injective _)
    ((map_toLower digits).trans (map_toLower digits').symm)

theorem toDigits (n : Nat) : WritesHex (Nat.toDigits 16 n) n := by
  induction n using Nat.strongRecOn with
  | ind n ih =>
    rcases Nat.lt_or_ge n 16 with small | large
    · refine ⟨[n], ?_, by simp⟩
      rw [Nat.toDigits_of_lt_base small]
      simp [hexValue?_digitChar small]
    · obtain ⟨ds, digits, number⟩ := ih (n / 16) (by omega)
      refine ⟨ds ++ [n % 16], ?_, ?_⟩
      · rw [Nat.toDigits_of_base_le (by decide) large, List.map_append, List.map_append, digits]
        simp [hexValue?_digitChar (Nat.mod_lt n (show 0 < 16 by decide))]
      · rw [List.reverse_append, List.reverse_singleton, List.singleton_append, Nat.ofDigits_cons,
          ← number]
        exact (Nat.mod_add_div n 16).symm

/-- **The same with zeros in front.** -/
theorem hexText (width n : Nat) : WritesHex (Numeric.hexText width n) n := by
  obtain ⟨ds, digits, number⟩ := toDigits n
  have zero : hexValue? '0' = some 0 := by decide
  refine ⟨List.replicate (width - (Nat.toDigits 16 n).length) 0 ++ ds, ?_, ?_⟩
  · rw [Numeric.hexText, List.map_append, List.map_append, digits, List.map_replicate, zero,
      List.map_replicate]
  · rw [List.reverse_append, List.reverse_replicate, Nat.ofDigits_append,
      Nat.ofDigits_replicate_zero, ← number, Nat.mul_zero, Nat.add_zero]

end WritesHex

theorem length_hexText {width n : Nat} (pos : 0 < width) (small : n < 16 ^ width) :
    (hexText width n).length = width := by
  have fits := Nat.toDigits_length 16 n width pos small
  rw [hexText, List.length_append, List.length_replicate]
  omega

end Numeric

/-! ## Colours -/

namespace Color

open Numeric (WritesHex)

variable {raw : String} {c : Color} {n : Nat}

/-- `raw` is a hash and exactly six hexadecimal digits, which write `n`. -/
def Writes (raw : String) (n : Nat) : Prop :=
  ∃ cs, raw = String.ofList ('#' :: cs) ∧ cs.length = 6 ∧ WritesHex cs n

theorem Writes.lt (writes : Writes raw n) : n < 16777216 := by
  obtain ⟨cs, -, six, hex⟩ := writes
  have lt := hex.lt
  rwa [six] at lt

theorem Writes.unique {m : Nat} (writes : Writes raw n) (writes' : Writes raw m) : n = m := by
  obtain ⟨cs, rfl, six, hex⟩ := writes
  obtain ⟨cs', same, -, hex'⟩ := writes'
  cases String.ofList_injective same
  have nonempty : cs ≠ [] := List.ne_nil_of_length_pos (by omega)
  have read := Numeric.readDigits?_sixteen.2 ⟨nonempty, hex⟩
  rw [Numeric.readDigits?_sixteen.2 ⟨nonempty, hex'⟩] at read
  exact (Option.some.inj read).symm

theorem toList_toLower (s : String) : s.toLower.toList = s.toList.map Char.toLower :=
  String.toList_map

theorem eq_hash_of_toLower {c : Char} (h : c.toLower = '#') : c = '#' := by
  by_cases capital : c.val ≥ 'A'.val ∧ c.val ≤ 'Z'.val
  · have least : 65 ≤ c.toNat := capital.1
    have most : c.toNat ≤ 90 := capital.2
    have letters : ∀ n < 128, 65 ≤ n → n ≤ 90 → (Char.ofNat n).toLower ≠ '#' := by decide
    have other := letters c.toNat (by omega) least most
    rw [Char.ofNat_toNat] at other
    exact absurd h other
  · have same : c.toLower = c := dif_neg capital
    rwa [same] at h

theorem Writes.of_toLower {raw' : String} (writes : Writes raw n)
    (same : raw.toLower = raw'.toLower) : Writes raw' n := by
  obtain ⟨cs, rfl, six, hex⟩ := writes
  have lower := congrArg String.toList same
  rw [toList_toLower, toList_toLower, String.toList_ofList] at lower
  cases text : raw'.toList with
  | nil =>
    rw [text] at lower
    cases lower
  | cons c cs' =>
    rw [text] at lower
    obtain ⟨first, rest⟩ := List.cons.inj lower
    have length : cs.length = cs'.length := by simpa using congrArg List.length rest
    cases eq_hash_of_toLower first.symm
    exact ⟨cs', (text ▸ String.ofList_toList).symm, length ▸ six, hex.of_toLower rest⟩

/-- **Only texts that differ in case write one number.** -/
theorem Writes.toLower_eq {raw' : String} (writes : Writes raw n) (writes' : Writes raw' n) :
    raw.toLower = raw'.toLower := by
  obtain ⟨cs, rfl, six, hex⟩ := writes
  obtain ⟨cs', rfl, six', hex'⟩ := writes'
  refine String.toList_injective ?_
  rw [toList_toLower, toList_toLower, String.toList_ofList, String.toList_ofList, List.map_cons,
    List.map_cons, hex.toLower_eq hex' (six.trans six'.symm)]

theorem parse?_eq_some_iff :
    parse? raw = some c ↔ ∃ n, Writes raw n ∧ c = ofRgb (UInt32.ofNat n) := by
  constructor
  · intro h
    rw [parse?] at h
    split at h
    · next cs text =>
      split at h
      · next six =>
        obtain ⟨n, read, rfl⟩ := Option.map_eq_some_iff.1 h
        exact ⟨n, ⟨cs, (text ▸ String.ofList_toList).symm, six,
          (Numeric.readDigits?_sixteen.1 read).2⟩, rfl⟩
      · cases h
    · cases h
  · rintro ⟨n, ⟨cs, rfl, six, hex⟩, rfl⟩
    have nonempty : cs ≠ [] := List.ne_nil_of_length_pos (by omega)
    simp [parse?, six, Numeric.readDigits?_sixteen.2 ⟨nonempty, hex⟩]

/-- **A text is read iff it writes a number**, and as the colour of that number. -/
theorem parse_eq_ok_iff :
    parse raw = .ok c ↔ ∃ n, Writes raw n ∧ c = ofRgb (UInt32.ofNat n) := by
  rw [← parse?_eq_some_iff, parse]
  cases parse? raw <;> simp

/-- **Any other text is refused**, as it stands. -/
theorem parse_eq_error_iff {f : Data.Fault} :
    parse raw = .error f ↔ (∀ n, ¬Writes raw n) ∧ f = .invalidColor raw := by
  have none_iff : parse? raw = none ↔ ∀ n, ¬Writes raw n := by
    rw [Option.eq_none_iff_forall_ne_some]
    constructor
    · intro h n writes
      exact h _ (parse?_eq_some_iff.2 ⟨n, writes, rfl⟩)
    · intro h c read
      obtain ⟨n, writes, -⟩ := parse?_eq_some_iff.1 read
      exact h n writes
  rw [← none_iff, parse]
  cases parse? raw <;> simp [eq_comm]

theorem toNat_ofNat_of_writes (writes : Writes raw n) :
    (UInt32.ofNat n).toNat % 16777216 = n := by
  have lt := writes.lt
  rw [UInt32.toNat_ofNat_of_lt' (Nat.lt_trans lt (by decide)), Nat.mod_eq_of_lt lt]

/-- What holds of `raw` as the text of a colour. -/
structure Spelling (raw : String) : Prop where
  /-- It is read iff it is a hash and exactly six hexadecimal digits of either case, and then as the
      colour of the number that these write. -/
  reads : ∀ c, parse raw = .ok c ↔ ∃ n, Writes raw n ∧ c = ofRgb (UInt32.ofNat n)
  /-- If it is not, it is refused as it stands. -/
  refuses : ∀ f, parse raw = .error f ↔ (∀ n, ¬Writes raw n) ∧ f = .invalidColor raw
  /-- Another text writes the same colour iff they differ in case at most. -/
  same_iff : ∀ raw' c c', parse raw = .ok c → parse raw' = .ok c' →
    (c.same c' = true ↔ raw.toLower = raw'.toLower)
  /-- The six hexadecimal digits of any word, in either case, are read as its colour. -/
  written : ∀ h : UInt32,
    raw.toLower = (String.ofList ('#' :: Numeric.hexText 6 (h.toNat % 2 ^ 24))).toLower →
      parse raw = .ok (ofRgb h)
  /-- That colour is opaque, and its channels are the bytes' shares of 255, rounded. -/
  channels : ∀ h : UInt32,
    (ofRgb h).red.IsNearest ((h.toNat / 2 ^ 16 % 256 : Nat) / 255) ∧
      (ofRgb h).green.IsNearest ((h.toNat / 2 ^ 8 % 256 : Nat) / 255) ∧
      (ofRgb h).blue.IsNearest ((h.toNat % 256 : Nat) / 255) ∧ (ofRgb h).alpha.value = 1

/-- **Every text is read as it is written**, if it writes a colour. -/
theorem spelling_of_text (raw : String) : Spelling raw where
  reads _ := parse_eq_ok_iff
  refuses _ := parse_eq_error_iff
  same_iff raw' c c' read read' := by
    obtain ⟨n, writes, rfl⟩ := parse_eq_ok_iff.1 read
    obtain ⟨n', writes', rfl⟩ := parse_eq_ok_iff.1 read'
    rw [same_ofRgb_iff, toNat_ofNat_of_writes writes, toNat_ofNat_of_writes writes']
    constructor
    · rintro rfl
      exact writes.toLower_eq writes'
    · intro same
      exact (writes.of_toLower same).unique writes'
  written h same := by
    have small : h.toNat % 2 ^ 24 < 16 ^ 6 := Nat.mod_lt _ (by decide)
    have hex : Writes (String.ofList ('#' :: Numeric.hexText 6 (h.toNat % 2 ^ 24)))
        (h.toNat % 2 ^ 24) :=
      ⟨_, rfl, Numeric.length_hexText (by decide) small, .hexText 6 _⟩
    have writes := hex.of_toLower same.symm
    refine parse_eq_ok_iff.2 ⟨_, writes, ofRgb_congr ?_⟩
    exact (toNat_ofNat_of_writes writes).symm
  channels h := by
    have byte (n : Nat) : n % 256 ≤ 255 := by omega
    rw [ofRgb_eq]
    exact ⟨Channel.isNearest_ofByte (byte _), Channel.isNearest_ofByte (byte _),
      Channel.isNearest_ofByte (byte _), Channel.value_full⟩

/-- A sign is no digit, nor is a letter of two bytes. -/
example : parse "#+D2630" = .error (.invalidColor "#+D2630") ∧
    parse "#éa2b6" = .error (.invalidColor "#éa2b6") := by
  decide +kernel

end Color

end MarkerStrip
