/-!
# Blank characters and trimming

The characters with the Unicode property `White_Space`, and the removal of such characters
from both ends of a text.

* `isBlank`: the property, as a table of code points.
* `trim`: the text between the first and the last character that is not blank.

The core class `Char.isWhitespace` knows the ASCII blanks only; every one of them is blank
here (`isBlank_of_isWhitespace`). A trimmed text neither starts nor ends with a blank
(`head?_trim`, `getLast?_trim`), and trimming it again changes nothing (`trim_trim`). It is the
only such text that the whole consists of, but for blanks around it (`trim_eq_iff`).
-/

namespace ConnectionRouter.Text

/-- The Unicode property `White_Space`. -/
def isBlank (c : Char) : Bool :=
  let n := c.toNat
  (9 ≤ n && n ≤ 13) || n == 0x20 || n == 0x85 || n == 0xA0 || n == 0x1680 ||
    (0x2000 ≤ n && n ≤ 0x200A) || n == 0x2028 || n == 0x2029 || n == 0x202F ||
    n == 0x205F || n == 0x3000

theorem isBlank_of_isWhitespace {c : Char} (h : c.isWhitespace = true) : isBlank c = true := by
  simp only [Char.isWhitespace, Bool.or_eq_true, decide_eq_true_eq] at h
  rcases h with ((rfl | rfl) | rfl) | rfl <;> rfl

/-- The text without the blanks at its start. -/
def trimStart (s : List Char) : List Char := s.dropWhile isBlank

/-- The text without the blanks at its end. -/
def trimEnd (s : List Char) : List Char := (s.reverse.dropWhile isBlank).reverse

/-- The text without the blanks at either end. -/
def trim (s : List Char) : List Char := trimEnd (trimStart s)

private theorem head?_dropWhile_isBlank (s : List Char) {c : Char}
    (h : (s.dropWhile isBlank).head? = some c) : isBlank c = false := by
  induction s with
  | nil => simp at h
  | cons a s ih =>
    by_cases ha : isBlank a = true
    · rw [List.dropWhile_cons_of_pos ha] at h
      exact ih h
    · rw [List.dropWhile_cons_of_neg ha] at h
      simp only [List.head?_cons, Option.some.injEq] at h
      simpa [h] using ha

private theorem dropWhile_isBlank_eq_self (s : List Char)
    (h : ∀ c, s.head? = some c → isBlank c = false) : s.dropWhile isBlank = s := by
  cases s with
  | nil => rfl
  | cons a s => exact List.dropWhile_cons_of_neg (by simp [h a rfl])

theorem getLast?_trimEnd (s : List Char) {c : Char} (h : (trimEnd s).getLast? = some c) :
    isBlank c = false := by
  rw [trimEnd, List.getLast?_reverse] at h
  exact head?_dropWhile_isBlank _ h

theorem getLast?_trim (s : List Char) {c : Char} (h : (trim s).getLast? = some c) :
    isBlank c = false :=
  getLast?_trimEnd _ h

/-- What `trimEnd` keeps starts as the text does. -/
theorem trimEnd_isInitial (s : List Char) : ∃ t, s = trimEnd s ++ t := by
  refine ⟨(s.reverse.takeWhile isBlank).reverse, ?_⟩
  rw [trimEnd, ← List.reverse_append, List.takeWhile_append_dropWhile, List.reverse_reverse]

theorem head?_trim (s : List Char) {c : Char} (h : (trim s).head? = some c) :
    isBlank c = false := by
  obtain ⟨t, ht⟩ := trimEnd_isInitial (trimStart s)
  apply head?_dropWhile_isBlank s
  change (trimStart s).head? = some c
  rw [ht, List.head?_append]
  simp only [trim] at h
  simp [h]

theorem trimEnd_eq_self (s : List Char) (h : ∀ c, s.getLast? = some c → isBlank c = false) :
    trimEnd s = s := by
  rw [trimEnd, dropWhile_isBlank_eq_self, List.reverse_reverse]
  intro c hc
  exact h c (by simpa using hc)

/-- A text that neither starts nor ends with a blank is already trimmed. -/
theorem trim_eq_self (s : List Char) (hs : ∀ c, s.head? = some c → isBlank c = false)
    (he : ∀ c, s.getLast? = some c → isBlank c = false) : trim s = s := by
  rw [trim, trimStart, dropWhile_isBlank_eq_self s hs, trimEnd_eq_self s he]

/-- Trimming drops characters and adds none. -/
theorem trim_sublist (s : List Char) : (trim s).Sublist s := by
  obtain ⟨t, ht⟩ := trimEnd_isInitial (trimStart s)
  have hend : (trim s).Sublist (trimStart s) := ht ▸ List.sublist_append_left _ t
  exact hend.trans (List.dropWhile_sublist _)

theorem trim_trim (s : List Char) : trim (trim s) = trim s :=
  trim_eq_self _ (fun _ => head?_trim s) (fun _ => getLast?_trim s)

/-! ## Blanks around a text -/

/-- Blanks only, or nothing at all. -/
def Blanks (s : List Char) : Prop := ∀ c ∈ s, isBlank c = true

/-- A text that neither starts nor ends with a blank. -/
structure Trimmed (s : List Char) : Prop where
  start : ∀ c, s.head? = some c → isBlank c = false
  finish : ∀ c, s.getLast? = some c → isBlank c = false

theorem Blanks.append {s t : List Char} (hs : Blanks s) (ht : Blanks t) : Blanks (s ++ t) := by
  intro c hc
  rcases List.mem_append.mp hc with hc | hc
  · exact hs c hc
  · exact ht c hc

theorem Blanks.not_mem {s : List Char} (h : Blanks s) {c : Char} (hc : isBlank c = false) :
    c ∉ s := by
  intro hmem
  rw [h c hmem] at hc
  cases hc

theorem Trimmed.trim_eq {s : List Char} (h : Trimmed s) : trim s = s :=
  trim_eq_self s h.start h.finish

theorem trimmed_trim (s : List Char) : Trimmed (trim s) :=
  ⟨fun _ => head?_trim s, fun _ => getLast?_trim s⟩

/-- What stands between trimmed texts does not matter to either end. -/
theorem Trimmed.append_append {s t : List Char} (hs : Trimmed s) (ht : Trimmed t) (hs' : s ≠ [])
    (ht' : t ≠ []) (between : List Char) : Trimmed (s ++ between ++ t) where
  start c hc := by
    obtain ⟨a, s, rfl⟩ := List.exists_cons_of_ne_nil hs'
    exact hs.start c hc
  finish c hc := by
    rw [List.getLast?_append, List.getLast?_eq_some_getLast ht', Option.some_or] at hc
    exact ht.finish c ((List.getLast?_eq_some_getLast ht').trans hc)

theorem trimEnd_append_blanks (s : List Char) {after : List Char} (h : Blanks after) :
    trimEnd (s ++ after) = trimEnd s := by
  rw [trimEnd, List.reverse_append, List.dropWhile_append_of_pos, trimEnd]
  exact fun c hc => h c (List.mem_reverse.mp hc)

theorem blanks_takeWhile (s : List Char) : Blanks (s.takeWhile isBlank) :=
  List.all_eq_true.mp List.all_takeWhile

/-- Blanks around a text do not change what trimming leaves of it. -/
theorem trim_blanks {before after : List Char} (s : List Char) (hbefore : Blanks before)
    (hafter : Blanks after) : trim (before ++ s ++ after) = trim s := by
  have hstart : trimStart (before ++ s ++ after) = trimStart (s ++ after) := by
    rw [trimStart, List.append_assoc, List.dropWhile_append_of_pos hbefore, trimStart]
  rw [trim, hstart, trim, trimStart, trimStart, List.dropWhile_append]
  split
  · rename_i hnil
    rw [List.isEmpty_iff] at hnil
    have hnone : (after ++ []).dropWhile isBlank = [] := List.dropWhile_append_of_pos hafter
    rw [List.append_nil] at hnone
    rw [hnil, hnone]
  · exact trimEnd_append_blanks _ hafter

/-- **Trimming leaves the trimmed text that stands between blanks.** -/
theorem trim_eq_iff {s t : List Char} : trim s = t ↔
    Trimmed t ∧ ∃ before after, Blanks before ∧ Blanks after ∧ s = before ++ t ++ after := by
  constructor
  · rintro rfl
    refine ⟨trimmed_trim s, s.takeWhile isBlank,
      ((trimStart s).reverse.takeWhile isBlank).reverse, blanks_takeWhile s,
      fun c hc => blanks_takeWhile _ c (List.mem_reverse.mp hc), ?_⟩
    rw [trim, trimEnd, List.append_assoc, ← List.reverse_append, List.takeWhile_append_dropWhile,
      List.reverse_reverse, trimStart, List.takeWhile_append_dropWhile]
  · rintro ⟨ht, before, after, hbefore, hafter, rfl⟩
    rw [trim_blanks t hbefore hafter, ht.trim_eq]

/-- Nothing is left of a text exactly if it is blank. -/
theorem trim_eq_nil_iff {s : List Char} : trim s = [] ↔ Blanks s := by
  rw [trim_eq_iff]
  constructor
  · rintro ⟨-, before, after, hbefore, hafter, rfl⟩
    rw [List.append_nil]
    exact hbefore.append hafter
  · exact fun h => ⟨trimmed_trim [], s, [], h, by simp [Blanks], by simp⟩

end ConnectionRouter.Text
