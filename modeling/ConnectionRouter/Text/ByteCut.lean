/-!
# Cutting a text at byte offsets

Offsets count the bytes of a text in UTF-8. A cut between two bytes of one character is not
possible.

* `dropBytes?`, `takeBytes?`: what follows and what precedes an offset.
* `cutBytes?`: what stands between two offsets.
* `takeBytes?_append_dropBytes?`: the two parts at an offset make up the text.
-/

namespace ConnectionRouter.Text

/-- What follows the first `n` bytes, if a character ends there. -/
def dropBytes? (n : Nat) : List Char → Option (List Char)
  | [] => if n = 0 then some [] else none
  | c :: s =>
    if n = 0 then some (c :: s)
    else if c.utf8Size ≤ n then dropBytes? (n - c.utf8Size) s
    else none

/-- The first `n` bytes, if a character ends there. -/
def takeBytes? (n : Nat) : List Char → Option (List Char)
  | [] => if n = 0 then some [] else none
  | c :: s =>
    if n = 0 then some []
    else if c.utf8Size ≤ n then (takeBytes? (n - c.utf8Size) s).map (c :: ·)
    else none

/-- What stands between the offsets `first` and `last`, if neither is inside a character. -/
def cutBytes? (first last : Nat) (s : List Char) : Option (List Char) :=
  (takeBytes? last s).bind (dropBytes? first)

@[simp] theorem dropBytes?_zero (s : List Char) : dropBytes? 0 s = some s := by
  cases s <;> rfl

@[simp] theorem takeBytes?_zero (s : List Char) : takeBytes? 0 s = some [] := by
  cases s <;> rfl

/-- The two parts at an offset make up the text. -/
theorem takeBytes?_append_dropBytes? {n : Nat} {s a b : List Char} (ha : takeBytes? n s = some a)
    (hb : dropBytes? n s = some b) : a ++ b = s := by
  induction s generalizing n a with
  | nil =>
    rw [takeBytes?] at ha
    rw [dropBytes?] at hb
    split at ha
    · simp_all
    · simp at ha
  | cons c s ih =>
    by_cases hn : n = 0
    · subst hn
      simp_all
    · rw [takeBytes?, if_neg hn] at ha
      rw [dropBytes?, if_neg hn] at hb
      split at ha
      · rename_i hc
        rw [if_pos hc] at hb
        obtain ⟨a', ha', rfl⟩ := Option.map_eq_some_iff.1 ha
        simp [ih ha' hb]
      · simp at ha

end ConnectionRouter.Text
