import ConnectionRouter.Placement.Basic
import ConnectionRouter.Text.Numeral
import ConnectionRouter.Text.Pieces

/-!
# The case of letters

What reading does not see of a text. Lower-casing the ASCII letters of a text neither makes nor
removes a blank, a digit or a separator, so the text is trimmed and cut at the same places
(`trim_map_toLower`, `splitOn_map_toLower`), and a numeral denotes the same number
(`readSigned64?_map_toLower`).

Texts that are equal up to case are compared by what they become in small letters.
-/

namespace ConnectionRouter.Text

/-! ## Characters -/

theorem isAlpha_iff {c : Char} : c.isAlpha = true ↔
    (65 ≤ c.toNat ∧ c.toNat ≤ 90) ∨ (97 ≤ c.toNat ∧ c.toNat ≤ 122) := by
  change (decide (65 ≤ c.val ∧ c.val ≤ 90) ||
    (decide (97 ≤ c.val) && decide (c.val ≤ 122))) = true ↔ _
  simp only [Bool.or_eq_true, Bool.and_eq_true, decide_eq_true_eq, UInt32.le_iff_toNat_le]
  exact Iff.rfl

/-- Lower-casing keeps a character or turns a capital letter into the small one. -/
theorem toLower_cases (c : Char) :
    c.toLower = c ∨ (65 ≤ c.toNat ∧ c.toNat ≤ 90) ∧ c.toLower.toNat = c.toNat + 32 := by
  unfold Char.toLower
  split
  · rename_i h
    have hZ : c.val.toNat ≤ 90 := h.2
    refine Or.inr ⟨h, ?_⟩
    show (c.val + 32).toNat = c.val.toNat + 32
    rw [UInt32.toNat_add]
    exact Nat.mod_eq_of_lt (Nat.lt_of_le_of_lt (Nat.add_le_add_right hZ 32) (by decide))
  · exact Or.inl rfl

/-- What is no letter is lower-cased from itself only. -/
theorem toLower_eq_iff {c d : Char} (h : d.isAlpha = false) : c.toLower = d ↔ c = d := by
  rw [← Bool.not_eq_true, isAlpha_iff] at h
  rcases toLower_cases c with hc | ⟨hcapital, hsmall⟩
  · rw [hc]
  · refine iff_of_false ?_ ?_
    · rintro rfl
      omega
    · rintro rfl
      omega

theorem isBlank_toLower (c : Char) : isBlank c.toLower = isBlank c := by
  rcases toLower_cases c with hc | ⟨hcapital, hsmall⟩
  · rw [hc]
  · simp only [isBlank, hsmall]
    grind

theorem digit?_toLower (c : Char) : digit? c.toLower = digit? c := by
  rcases toLower_cases c with hc | ⟨hcapital, hsmall⟩
  · rw [hc]
  · have hno : ∀ d : Char, 57 < d.toNat → digit? d = none := fun d hd =>
      if_neg fun h => absurd h.2 (by simpa [Char.le_def, UInt32.le_iff_toNat_le] using hd)
    rw [hno _ (by omega), hno _ (by omega)]

/-! ## Texts -/

theorem eqUpToCase_iff {a b : String} :
    eqUpToCase a b = true ↔ a.toList.map Char.toLower = b.toList.map Char.toLower := by
  rw [eqUpToCase, beq_iff_eq]

theorem eqUpToCase_symm {a b : String} (h : eqUpToCase a b = true) : eqUpToCase b a = true :=
  eqUpToCase_iff.mpr (eqUpToCase_iff.mp h).symm

theorem mem_map_toLower_iff {c : Char} (h : c.isAlpha = false) {s : List Char} :
    c ∈ s.map Char.toLower ↔ c ∈ s := by
  simp [toLower_eq_iff h]

theorem map_toLower_eq_singleton_iff {c : Char} (h : c.isAlpha = false) {s : List Char} :
    s.map Char.toLower = [c] ↔ s = [c] := by
  simp [List.map_eq_singleton_iff, toLower_eq_iff h]

theorem trim_map_toLower (s : List Char) :
    trim (s.map Char.toLower) = (trim s).map Char.toLower := by
  have hblank : isBlank ∘ Char.toLower = isBlank := funext isBlank_toLower
  simp only [trim, trimEnd, trimStart, List.dropWhile_map, hblank, ← List.map_reverse]

theorem splitOn_map_toLower {sep : Char} (h : sep.isAlpha = false) (s : List Char) :
    (s.map Char.toLower).splitOn sep = (s.splitOn sep).map (·.map Char.toLower) := by
  induction s with
  | nil => simp
  | cons c s ih =>
    rw [List.map_cons, List.splitOn_cons_eq_if_modifyHead, List.splitOn_cons_eq_if_modifyHead, ih]
    by_cases hc : c = sep
    · simp [hc, (toLower_eq_iff h).mpr rfl]
    · have hc' : ¬ c.toLower = sep := mt (toLower_eq_iff h).mp hc
      obtain ⟨first, rest, hs⟩ := List.exists_cons_of_ne_nil (List.splitOn_ne_nil sep s)
      simp [hc, hc', hs]

/-! ## Numerals -/

theorem readUnsigned?_map_toLower (s : List Char) :
    readUnsigned? (s.map Char.toLower) = readUnsigned? s := by
  have hdigits : ∀ acc, readDigits? acc (s.map Char.toLower) = readDigits? acc s := by
    induction s with
    | nil => exact fun _ => rfl
    | cons c s ih => simp only [List.map_cons, readDigits?, digit?_toLower, ih, implies_true]
  simp only [readUnsigned?, List.map_eq_nil_iff, hdigits]

theorem readNat?_map_toLower (s : List Char) : readNat? (s.map Char.toLower) = readNat? s := by
  cases s with
  | nil => rfl
  | cons c s =>
    by_cases hc : c = '+'
    · subst hc
      exact readUnsigned?_map_toLower s
    · have hc' : ¬ c.toLower = '+' := mt (toLower_eq_iff (by decide)).mp hc
      rw [List.map_cons, readNat?, readNat?]
      · exact readUnsigned?_map_toLower (c :: s)
      · simpa using hc
      · simpa using hc'

theorem readInt?_map_toLower (s : List Char) : readInt? (s.map Char.toLower) = readInt? s := by
  cases s with
  | nil => rfl
  | cons c s =>
    by_cases hc : c = '-'
    · subst hc
      have hsign : Char.toLower '-' = '-' := by decide
      rw [List.map_cons, hsign, readInt?, readInt?, readUnsigned?_map_toLower]
    · have hc' : ¬ c.toLower = '-' := mt (toLower_eq_iff (by decide)).mp hc
      rw [List.map_cons, readInt?, readInt?]
      · rw [← List.map_cons, readNat?_map_toLower]
      · simpa using hc
      · simpa using hc'

theorem readSigned64?_map_toLower (s : List Char) :
    readSigned64? (s.map Char.toLower) = readSigned64? s := by
  rw [readSigned64?, readSigned64?, readInt?_map_toLower]

end ConnectionRouter.Text
