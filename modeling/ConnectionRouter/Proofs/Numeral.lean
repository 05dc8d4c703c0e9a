import ConnectionRouter.Text.Blank
import ConnectionRouter.Text.Numeral

/-!
# The grammar of numerals

Numerals as a grammar, beside the functions that read them: one or more digits, leading zeros
allowed, behind an optional sign. A reader accepts exactly the numerals of its kind and yields the
number that the numeral denotes.

* `Digits`, `NatNumeral`, `IntNumeral`: texts with the numbers that they denote.
* `readNat?_eq_some_iff`, `readInt?_eq_some_iff`: the readers accept these and no other texts.
* `readPort?_eq_some_iff`, `readUnsigned64?_eq_some_iff`, `readSigned64?_eq_some_iff`: the same
  within the range of a type.
* `digits_toString`: a printed number is a numeral, so every reader reads it back.
-/

namespace ConnectionRouter.Text

/-! ## The grammar -/

/-- One or more ASCII digits and the number that they denote. -/
structure Digits (s : List Char) (n : Nat) : Prop where
  ne_nil : s ≠ []
  isDigit : ∀ c ∈ s, c.isDigit = true
  value : Nat.ofDigitChars 10 s 0 = n

/-- The numerals of a natural number: its digits, behind a plus sign or none. -/
inductive NatNumeral : List Char → Nat → Prop
  | digits {s : List Char} {n : Nat} (h : Digits s n) : NatNumeral s n
  | plus {s : List Char} {n : Nat} (h : Digits s n) : NatNumeral ('+' :: s) n

/-- The numerals of an integer: those of a natural number, or digits behind a minus sign. -/
inductive IntNumeral : List Char → Int → Prop
  | nat {s : List Char} {n : Nat} (h : NatNumeral s n) : IntNumeral s n
  | minus {s : List Char} {n : Nat} (h : Digits s n) : IntNumeral ('-' :: s) (-n)

theorem IntNumeral.mem {s : List Char} {i : Int} (h : IntNumeral s i) {c : Char} (hc : c ∈ s) :
    c.isDigit = true ∨ c = '+' ∨ c = '-' := by
  cases h with
  | nat h =>
    cases h with
    | digits h => exact .inl (h.isDigit c hc)
    | plus h =>
      rcases List.mem_cons.mp hc with rfl | hc
      · exact .inr (.inl rfl)
      · exact .inl (h.isDigit c hc)
  | minus h =>
    rcases List.mem_cons.mp hc with rfl | hc
    · exact .inr (.inr rfl)
    · exact .inl (h.isDigit c hc)

theorem isBlank_of_isDigit {c : Char} (h : c.isDigit = true) : isBlank c = false := by
  simp only [Char.isDigit, Bool.and_eq_true, decide_eq_true_eq, UInt32.le_iff_toNat_le] at h
  have h0 : 48 ≤ c.toNat := h.1
  have h9 : c.toNat ≤ 57 := h.2
  simp only [isBlank, Bool.or_eq_false_iff, Bool.and_eq_false_iff, decide_eq_false_iff_not,
    beq_eq_false_iff_ne]
  omega

theorem IntNumeral.not_mem {s : List Char} {i : Int} (h : IntNumeral s i) {c : Char}
    (hc : (c.isDigit || c == '+' || c == '-') = false) : c ∉ s := by
  intro hmem
  rcases h.mem hmem with hdigit | rfl | rfl
  · simp [hdigit] at hc
  · cases hc
  · cases hc

/-- No blank stands in a numeral. -/
theorem IntNumeral.isBlank_eq_false {s : List Char} {i : Int} (h : IntNumeral s i) {c : Char}
    (hc : c ∈ s) : isBlank c = false := by
  rcases h.mem hc with hdigit | rfl | rfl
  · exact isBlank_of_isDigit hdigit
  · decide
  · decide

theorem IntNumeral.trimmed {s : List Char} {i : Int} (h : IntNumeral s i) : Trimmed s :=
  ⟨fun _ hc => h.isBlank_eq_false (List.mem_of_head? hc),
    fun _ hc => h.isBlank_eq_false (List.mem_of_getLast? hc)⟩

theorem IntNumeral.ne_nil {s : List Char} {i : Int} (h : IntNumeral s i) : s ≠ [] := by
  cases h with
  | nat h =>
    cases h with
    | digits h => exact h.ne_nil
    | plus _ => exact List.cons_ne_nil _ _
  | minus _ => exact List.cons_ne_nil _ _

/-! ## Reading -/

theorem digit?_eq (c : Char) :
    digit? c = if c.isDigit = true then some (c.toNat - '0'.toNat) else none := by
  have hiff : ('0' ≤ c ∧ c ≤ '9') ↔ c.isDigit = true := by simp [Char.isDigit, Char.le_def]
  simp only [digit?, hiff]

theorem readDigits?_eq_some_iff {s : List Char} {acc n : Nat} :
    readDigits? acc s = some n ↔
      (∀ c ∈ s, c.isDigit = true) ∧ Nat.ofDigitChars 10 s acc = n := by
  induction s generalizing acc with
  | nil => simp [readDigits?]
  | cons c s ih =>
    rw [readDigits?, digit?_eq, List.forall_mem_cons, Nat.ofDigitChars_cons]
    by_cases hc : c.isDigit = true
    · rw [if_pos hc, Option.bind_some, ih]
      simp only [hc, true_and]
    · simp [hc]

theorem readUnsigned?_eq_some_iff {s : List Char} {n : Nat} :
    readUnsigned? s = some n ↔ Digits s n := by
  rw [readUnsigned?]
  split
  · rename_i hnil
    exact iff_of_false (by simp) fun h => h.ne_nil hnil
  · rename_i hne
    rw [readDigits?_eq_some_iff]
    exact ⟨fun ⟨hdigits, hvalue⟩ => ⟨hne, hdigits, hvalue⟩, fun h => ⟨h.isDigit, h.value⟩⟩

/-- **The texts that are read as a natural number are its numerals.** -/
theorem readNat?_eq_some_iff {s : List Char} {n : Nat} :
    readNat? s = some n ↔ NatNumeral s n := by
  constructor
  · intro h
    unfold readNat? at h
    split at h
    · exact .plus (readUnsigned?_eq_some_iff.mp h)
    · exact .digits (readUnsigned?_eq_some_iff.mp h)
  · intro h
    cases h with
    | digits h =>
      unfold readNat?
      split
      · -- A sign is no digit.
        exact absurd (h.isDigit '+' List.mem_cons_self) (by decide)
      · exact readUnsigned?_eq_some_iff.mpr h
    | plus h => exact readUnsigned?_eq_some_iff.mpr h

/-- **The texts that are read as an integer are its numerals.** -/
theorem readInt?_eq_some_iff {s : List Char} {i : Int} :
    readInt? s = some i ↔ IntNumeral s i := by
  constructor
  · intro h
    unfold readInt? at h
    split at h
    · obtain ⟨_, hread, rfl⟩ := Option.map_eq_some_iff.mp h
      obtain ⟨n, hn, hcast⟩ := Option.bind_eq_some_iff.mp hread
      cases hcast
      exact .minus (readUnsigned?_eq_some_iff.mp hn)
    · obtain ⟨n, hn, rfl⟩ := Option.map_eq_some_iff.mp h
      exact .nat (readNat?_eq_some_iff.mp hn)
  · intro h
    cases h with
    | @nat s n h =>
      unfold readInt?
      split
      · -- Neither a digit nor a plus sign is a minus sign.
        cases h with
        | digits h => exact absurd (h.isDigit '-' List.mem_cons_self) (by decide)
      · exact Option.map_eq_some_iff.mpr ⟨n, readNat?_eq_some_iff.mpr h, rfl⟩
    | minus h =>
      rw [readInt?, readUnsigned?_eq_some_iff.mpr h]
      rfl

theorem readPort?_eq_some_iff {s : List Char} {p : UInt16} :
    readPort? s = some p ↔ NatNumeral s p.toNat := by
  rw [readPort?, readNatUpTo?, ← readNat?_eq_some_iff, Option.map_eq_some_iff]
  simp only [Option.filter_eq_some_iff, decide_eq_true_eq]
  constructor
  · rintro ⟨n, ⟨hread, hle⟩, rfl⟩
    rwa [UInt16.toNat_ofNat_of_lt' (Nat.lt_succ_of_le hle)]
  · intro hread
    have hle : p.toNat ≤ 65535 := Nat.le_of_lt_succ p.toNat_lt
    exact ⟨p.toNat, ⟨hread, hle⟩, UInt16.ofNat_toNat⟩

theorem readUnsigned64?_eq_some_iff {s : List Char} {n : Nat} :
    readUnsigned64? s = some n ↔ NatNumeral s n ∧ n ≤ maxUnsigned := by
  rw [readUnsigned64?, readNatUpTo?, Option.filter_eq_some_iff, readNat?_eq_some_iff,
    decide_eq_true_eq]

theorem readSigned64?_eq_some_iff {s : List Char} {i : Int} :
    readSigned64? s = some i ↔
      IntNumeral s i ∧ -(maxSigned : Int) - 1 ≤ i ∧ i ≤ maxSigned := by
  rw [readSigned64?, ← readInt?_eq_some_iff, Option.bind_eq_some_iff]
  constructor
  · rintro ⟨j, hread, hrange⟩
    rw [signed64?] at hrange
    split at hrange
    · cases hrange
      exact ⟨hread, ‹_›⟩
    · cases hrange
  · rintro ⟨hread, hrange⟩
    exact ⟨i, hread, if_pos hrange⟩

/-! ## Printed numbers -/

theorem isDigit_of_mem_toString {n : Nat} {c : Char} (h : c ∈ (toString n).toList) :
    c.isDigit = true := by
  rw [Nat.toString_eq_repr, Nat.toList_repr] at h
  exact Nat.isDigit_of_mem_toDigits (by omega) (by omega) h

theorem toList_toString_ne_nil (n : Nat) : (toString n).toList ≠ [] := by
  rw [Nat.toString_eq_repr, Nat.toList_repr]
  exact Nat.toDigits_ne_nil

/-- **A printed number consists of its digits.** -/
theorem digits_toString (n : Nat) : Digits (toString n).toList n where
  ne_nil := toList_toString_ne_nil n
  isDigit _ := isDigit_of_mem_toString
  value := by rw [Nat.toString_eq_repr, Nat.toList_repr, Nat.ofDigitChars_ten_toDigits]

theorem readPort?_toString (p : UInt16) : readPort? (toString p.toNat).toList = some p :=
  readPort?_eq_some_iff.mpr (.digits (digits_toString _))

theorem readSigned64?_toString {n : Nat} (h : n ≤ maxSigned) :
    readSigned64? (toString n).toList = some (n : Int) :=
  readSigned64?_eq_some_iff.mpr ⟨.nat (.digits (digits_toString n)), by omega⟩

/-- A printed number has no blanks to trim. -/
theorem trimmed_toString (n : Nat) : Trimmed (toString n).toList :=
  IntNumeral.trimmed (.nat (.digits (digits_toString n)))

end ConnectionRouter.Text
