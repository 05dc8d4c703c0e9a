import ConnectionRouter.Table
import Mathlib.Algebra.GroupWithZero.Nat
import Mathlib.Data.List.Perm.Basic

/-!
# Entries of tables and sums over them

The values of a table are those that its keys lead to (`Table.mem_values`).

The sum over the entries of a table (`Table.sumBy`) changes when an entry is put in, replaced or
removed. No subtraction occurs: what an entry contributed before stands on the other side.
-/

namespace ConnectionRouter

namespace Table

variable {α : Type}

theorem nodup_toList (t : Table α) : t.toList.Nodup :=
  Std.ExtTreeMap.distinct_keys_toList.imp fun h he => h (by simp [he])

theorem toList_insert_perm (t : Table α) (k : String) (a : α) :
    (t.insert k a).toList.Perm ((k, a) :: (t.erase k).toList) := by
  refine (List.perm_ext_iff_of_nodup (nodup_toList _) ?_).mpr ?_
  · refine List.nodup_cons.mpr ⟨?_, nodup_toList _⟩
    simp [Std.ExtTreeMap.mem_toList_iff_getElem?_eq_some]
  · rintro ⟨j, b⟩
    rw [Std.ExtTreeMap.mem_toList_iff_getElem?_eq_some, List.mem_cons,
      Std.ExtTreeMap.mem_toList_iff_getElem?_eq_some, Std.ExtTreeMap.getElem?_insert,
      Std.ExtTreeMap.getElem?_erase]
    by_cases h : k = j
    · subst h
      simp [eq_comm]
    · simp [h, Ne.symm h]

theorem insert_of_getElem? {t : Table α} {k : String} {a : α} (h : t[k]? = some a) :
    t.insert k a = t := by
  refine Std.ExtTreeMap.ext_getElem? fun j => ?_
  rw [Std.ExtTreeMap.getElem?_insert]
  by_cases hj : k = j
  · subst hj
    simp [h]
  · simp [hj]

theorem modify_of_getElem? {t : Table α} {k : String} {a : α} (h : t[k]? = some a) (f : α → α) :
    t.modify k f = t.insert k (f a) := by
  refine Std.ExtTreeMap.ext_getElem? fun j => ?_
  rw [Std.ExtTreeMap.getElem?_modify, Std.ExtTreeMap.getElem?_insert]
  by_cases hj : k = j
  · subst hj
    simp [h]
  · simp [hj]

theorem erase_of_getElem?_eq_none {t : Table α} {k : String} (h : t[k]? = none) :
    t.erase k = t := by
  refine Std.ExtTreeMap.ext_getElem? fun j => ?_
  rw [Std.ExtTreeMap.getElem?_erase]
  by_cases hj : k = j
  · subst hj
    simp [h]
  · simp [hj]

/-- Tables with the same keys list them alike. -/
theorem keys_eq_of_mem_iff {β : Type} {t : Table α} {u : Table β} (h : ∀ k, k ∈ t ↔ k ∈ u) :
    t.keys = u.keys := by
  have he : t.map (fun _ _ => ()) = u.map (fun _ _ => ()) := by
    refine Std.ExtTreeMap.ext_getElem? fun k => Option.ext fun _ => ?_
    have hk := h k
    rw [mem_iff_exists, mem_iff_exists] at hk
    simp [Std.ExtTreeMap.getElem?_map, hk]
  rw [← Std.ExtTreeMap.keys_map (t := t) (f := fun _ _ => ()), he, Std.ExtTreeMap.keys_map]

/-! ## Values -/

theorem values_eq (t : Table α) : t.values = t.toList.map (·.2) := by
  have h : t.values = t.foldr (fun _ a l => a :: l) [] := rfl
  rw [h, Std.ExtTreeMap.foldr_eq_foldr_toList, List.map_eq_foldr]

theorem mem_values {t : Table α} {a : α} : a ∈ t.values ↔ ∃ k : String, t[k]? = some a := by
  simp [values_eq, Std.ExtTreeMap.mem_toList_iff_getElem?_eq_some]

theorem length_values (t : Table α) : t.values.length = t.size := by
  rw [values_eq, List.length_map, Std.ExtTreeMap.length_toList]

/-! ## Sums -/

variable (f : String → α → Nat)

theorem sumBy_eq_sum (t : Table α) : t.sumBy f = (t.toList.map fun e => f e.1 e.2).sum := by
  rw [sumBy, Std.ExtTreeMap.foldl_eq_foldl_toList, List.sum_eq_foldl, List.foldl_map]

@[simp] theorem sumBy_empty : sumBy (∅ : Table α) f = 0 := by
  rw [sumBy_eq_sum, Std.ExtTreeMap.toList_eq_nil_iff.mpr rfl, List.map_nil, List.sum_nil]

theorem sumBy_insert (t : Table α) (k : String) (a : α) :
    sumBy (t.insert k a) f = f k a + sumBy (t.erase k) f := by
  rw [sumBy_eq_sum, ((toList_insert_perm t k a).map _).sum_nat, List.map_cons, List.sum_cons,
    sumBy_eq_sum]

theorem sumBy_erase_add {t : Table α} {k : String} {a : α} (h : t[k]? = some a) :
    f k a + sumBy (t.erase k) f = t.sumBy f := by
  rw [← sumBy_insert, insert_of_getElem? h]

theorem sumBy_insert_of_none {t : Table α} {k : String} (h : t[k]? = none) (a : α) :
    sumBy (t.insert k a) f = f k a + t.sumBy f := by
  rw [sumBy_insert, erase_of_getElem?_eq_none h]

/-- Replacing an entry trades what it contributed. -/
theorem sumBy_insert_add {t : Table α} {k : String} {a : α} (h : t[k]? = some a) (b : α) :
    sumBy (t.insert k b) f + f k a = t.sumBy f + f k b := by
  rw [sumBy_insert, ← sumBy_erase_add f h]
  omega

theorem sumBy_congr {t : Table α} {f g : String → α → Nat}
    (h : ∀ k a, t[k]? = some a → f k a = g k a) : t.sumBy f = t.sumBy g := by
  rw [sumBy_eq_sum, sumBy_eq_sum]
  congr 1
  refine List.map_congr_left fun e he => h e.1 e.2 ?_
  exact Std.ExtTreeMap.mem_toList_iff_getElem?_eq_some.mp he

theorem sumBy_le_sumBy {t : Table α} {f g : String → α → Nat} (h : ∀ k a, f k a ≤ g k a) :
    t.sumBy f ≤ t.sumBy g := by
  rw [sumBy_eq_sum, sumBy_eq_sum]
  induction t.toList with
  | nil => simp
  | cons e es ih =>
    have he := h e.1 e.2
    simp only [List.map_cons, List.sum_cons]
    omega

theorem sumBy_zero (t : Table α) : (t.sumBy fun _ _ => 0) = 0 := by simp [sumBy_eq_sum]

/-- A table that counts the keys of a list sums up to its length. -/
theorem sumBy_eq_length {t : Table Nat} {keys : List String}
    (h : ∀ k : String, (t[k]?).getD 0 = keys.count k) : (t.sumBy fun _ n => n) = keys.length := by
  induction keys generalizing t with
  | nil =>
    rw [List.length_nil, ← sumBy_zero t]
    refine sumBy_congr fun k n hn => ?_
    have hk := h k
    rwa [hn] at hk
  | cons key keys ih =>
    have hkey := h key
    rw [List.count_cons_self] at hkey
    cases hn : t[key]? with
    | none => simp [hn] at hkey
    | some n =>
      rw [hn, Option.getD_some] at hkey
      have hrest := ih (t := t.insert key (keys.count key)) fun k => by
        rw [Std.ExtTreeMap.getElem?_insert]
        by_cases hk : key = k
        · simp [hk]
        · simpa [hk] using h k
      have hsum := sumBy_insert_add (fun _ n => n) hn (keys.count key)
      rw [List.length_cons]
      omega

end Table

end ConnectionRouter
