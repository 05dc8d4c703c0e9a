/-!
# Least loaded candidates

The candidates whose count is the smallest, found in one pass.

* `leastLoaded`: all candidates of the smallest count, in the order given (`leastLoaded_eq`).
* `Ties.scan`: the same pass from a bound instead of the first candidate. It finds the same
  candidates as long as one of them is within the bound (`scan_eq_leastLoaded`).
-/

namespace ConnectionRouter

variable {α : Type}

/-- The smallest count seen so far and the candidates that have it, latest first. -/
structure Ties (α : Type) where
  count : Nat
  candidates : List α

/-- The ties after one more candidate. -/
def Ties.add : Option (Ties α) → α × Nat → Option (Ties α)
  | none, (a, n) => some ⟨n, [a]⟩
  | some t, (a, n) =>
    if n < t.count then some ⟨n, [a]⟩
    else if n = t.count then some { t with candidates := a :: t.candidates }
    else some t

/-- All candidates of the smallest count, in the order given. -/
def leastLoaded (candidates : List (α × Nat)) : List α :=
  match candidates.foldl Ties.add none with
  | none => []
  | some t => t.candidates.reverse

namespace Ties

/-! ## The pass from a bound -/

/-- The ties after one more candidate, where nobody need have the count of the ties yet. -/
def next (t : Ties α) (c : α × Nat) : Ties α :=
  if c.2 < t.count then ⟨c.2, [c.1]⟩
  else if c.2 = t.count then { t with candidates := c.1 :: t.candidates }
  else t

/-- The ties of some candidates, in one pass that starts from a bound without any. -/
def scan (bound : Nat) (candidates : List (α × Nat)) : Ties α := candidates.foldl next ⟨bound, []⟩

/-- What the pass knows of the candidates that it has seen: the ties are those with the count of the
ties, latest first, and nobody has less. Either somebody has that count or it is still the bound. -/
structure Scanned (bound : Nat) (t : Ties α) (seen : List (α × Nat)) : Prop where
  candidates_eq : t.candidates.reverse = (seen.filter (·.2 = t.count)).map (·.1)
  attained : t.count = bound ∨ ∃ c ∈ seen, c.2 = t.count
  le : ∀ c ∈ seen, t.count ≤ c.2

namespace Scanned

variable {bound : Nat} {t : Ties α} {seen : List (α × Nat)}

theorem start (bound : Nat) : Scanned (α := α) bound ⟨bound, []⟩ [] :=
  ⟨rfl, .inl rfl, fun _ hc => nomatch hc⟩

theorem next (h : t.Scanned bound seen) (c : α × Nat) :
    (t.next c).Scanned bound (seen ++ [c]) := by
  have hlast : ∀ {n : Nat}, (∀ d ∈ seen, n ≤ d.2) → n ≤ c.2 → ∀ d ∈ seen ++ [c], n ≤ d.2 := by
    intro n hseen hc d hd
    rcases List.mem_append.mp hd with hd | hd
    · exact hseen d hd
    · rwa [List.mem_singleton.mp hd]
  unfold Ties.next
  split
  · -- the new candidate has fewer than all before
    rename_i hlt
    have hnone : ∀ d ∈ seen, d.2 ≠ c.2 := fun d hd => by
      have := h.le d hd
      omega
    refine ⟨by simpa using hnone, .inr ⟨c, by simp, rfl⟩, hlast (fun d hd => ?_) (Nat.le_refl _)⟩
    exact Nat.le_trans (Nat.le_of_lt hlt) (h.le d hd)
  · rename_i hle
    have hmin := hlast h.le (Nat.le_of_not_lt hle)
    have hattained : t.count = bound ∨ ∃ d ∈ seen ++ [c], d.2 = t.count := by
      rcases h.attained with hb | ⟨d, hd, hcount⟩
      · exact .inl hb
      · exact .inr ⟨d, List.mem_append_left _ hd, hcount⟩
    split
    · rename_i heq
      exact ⟨by simp [h.candidates_eq, heq], hattained, hmin⟩
    · rename_i hne
      exact ⟨by simp [h.candidates_eq, hne], hattained, hmin⟩

theorem foldl (rest : List (α × Nat)) : ∀ {t : Ties α} {seen : List (α × Nat)},
    t.Scanned bound seen → (rest.foldl Ties.next t).Scanned bound (seen ++ rest) := by
  -- the induction is on what is still to be seen, for everything that may have been seen
  induction rest with
  | nil =>
    intro t seen h
    rwa [List.append_nil]
  | cons c rest ih =>
    intro t seen h
    simpa using ih (h.next c)

/-- Once a candidate is within the bound, the ties are the candidates with no more than any
other. -/
theorem reverse_eq (h : t.Scanned bound seen) (hb : seen ≠ [] → ∃ d ∈ seen, d.2 ≤ bound) :
    t.candidates.reverse =
      (seen.filter fun c => decide (∀ d ∈ seen, c.2 ≤ d.2)).map (·.1) := by
  rw [h.candidates_eq]
  congr 1
  refine List.filter_congr fun c hc => decide_eq_decide.mpr ⟨fun heq => ?_, fun hleast => ?_⟩
  · rw [heq]
    exact h.le
  · refine Nat.le_antisymm ?_ (h.le c hc)
    rcases h.attained with hcount | ⟨d, hd, hcount⟩
    · obtain ⟨d, hd, hle⟩ := hb (List.ne_nil_of_mem hc)
      exact hcount ▸ Nat.le_trans (hleast d hd) hle
    · exact hcount ▸ hleast d hd

end Scanned

/-- The pass from a bound, after all candidates. -/
theorem scanned_scan (bound : Nat) (candidates : List (α × Nat)) :
    (scan bound candidates).Scanned bound candidates := by
  simpa [scan] using (Scanned.start bound).foldl candidates

end Ties

/-! ## The least loaded -/

/-- To take the first candidate is to start from its count. -/
theorem leastLoaded_cons (c : α × Nat) (rest : List (α × Nat)) :
    leastLoaded (c :: rest) = (Ties.scan c.2 (c :: rest)).candidates.reverse := by
  have hadd : ∀ (rest : List (α × Nat)) (t : Ties α),
      rest.foldl Ties.add (some t) = some (rest.foldl Ties.next t) := by
    intro rest
    induction rest with
    | nil => exact fun _ => rfl
    | cons d rest ih =>
      intro t
      have hnext : Ties.add (some t) d = some (t.next d) := by
        simp only [Ties.add, Ties.next]
        split
        · rfl
        · split <;> rfl
      rw [List.foldl_cons, hnext, ih, List.foldl_cons]
  have hfirst : Ties.next ⟨c.2, []⟩ c = ⟨c.2, [c.1]⟩ := by simp [Ties.next]
  simp only [leastLoaded, Ties.scan, List.foldl_cons, Ties.add, hadd, hfirst]

/-- **The least loaded candidates are those with no more than any other**, each as often as it
was given. -/
theorem leastLoaded_eq (candidates : List (α × Nat)) :
    leastLoaded candidates =
      (candidates.filter fun c => decide (∀ d ∈ candidates, c.2 ≤ d.2)).map (·.1) := by
  cases candidates with
  | nil => rfl
  | cons c rest =>
    rw [leastLoaded_cons]
    exact (Ties.scanned_scan c.2 (c :: rest)).reverse_eq fun _ => ⟨c, by simp, Nat.le_refl _⟩

/-- The pass from a bound loses nobody: if a candidate is within the bound, be it at the bound
itself, the ties are the least loaded candidates. -/
theorem scan_eq_leastLoaded {bound : Nat} {candidates : List (α × Nat)}
    (hb : candidates ≠ [] → ∃ c ∈ candidates, c.2 ≤ bound) :
    (Ties.scan bound candidates).candidates.reverse = leastLoaded candidates := by
  rw [leastLoaded_eq]
  exact (Ties.scanned_scan bound candidates).reverse_eq hb

theorem mem_leastLoaded {candidates : List (α × Nat)} {a : α} :
    a ∈ leastLoaded candidates ↔
      ∃ n, (a, n) ∈ candidates ∧ ∀ d ∈ candidates, n ≤ d.2 := by
  simp [leastLoaded_eq]

/-- Some candidate has no more than any other. -/
theorem exists_least {candidates : List (α × Nat)} (h : candidates ≠ []) :
    ∃ c ∈ candidates, ∀ d ∈ candidates, c.2 ≤ d.2 := by
  obtain ⟨first, rest, rfl⟩ := List.exists_cons_of_ne_nil h
  have hscan := Ties.scanned_scan first.2 (first :: rest)
  rcases hscan.attained with hcount | ⟨c, hc, hcount⟩
  · exact ⟨first, List.mem_cons_self, hcount ▸ hscan.le⟩
  · exact ⟨c, hc, hcount ▸ hscan.le⟩

theorem leastLoaded_ne_nil {candidates : List (α × Nat)} (h : candidates ≠ []) :
    leastLoaded candidates ≠ [] := by
  obtain ⟨c, hc, hleast⟩ := exists_least h
  exact List.ne_nil_of_mem (mem_leastLoaded.mpr ⟨c.2, hc, hleast⟩)

end ConnectionRouter
