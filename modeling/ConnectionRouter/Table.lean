import Std.Data.ExtTreeMap

/-!
# Tables

Every keyed collection of the library is a `Table`: a finite map from texts, read in the order
of their code points. Two tables with the same entries are equal, however they were built.
-/

namespace ConnectionRouter

/-- A finite map from texts, in the order of their code points. -/
abbrev Table (α : Type) : Type := Std.ExtTreeMap String α

namespace Table

variable {α β : Type}

/-- The table without the keys that do not satisfy `p`. -/
def restrict (t : Table α) (p : String → Bool) : Table α := t.filter fun k _ => p k

/-- The keys that satisfy `p`, in order. -/
def keysWhere (t : Table α) (p : String → Bool) : List String := t.keys.filter p

/-- The table with all entries of `u` put in. -/
def putAll (t : Table α) (u : Table α) : Table α := u.foldl (fun t k a => t.insert k a) t

/-- The table with the entry of `key` put to what `f` makes of it, absent reading as `zero`. -/
def tally (t : Table α) (key : String) (zero : α) (f : α → α) : Table α :=
  t.insert key (f (t[key]?.getD zero))

/-- The sum of a number for each entry. -/
def sumBy (t : Table α) (f : String → α → Nat) : Nat := t.foldl (fun n k a => n + f k a) 0

theorem mem_iff_exists {t : Table α} {k : String} : k ∈ t ↔ ∃ a, t[k]? = some a := by
  rw [Std.ExtTreeMap.mem_iff_isSome_getElem?, Option.isSome_iff_exists]

@[simp] theorem getElem?_restrict (t : Table α) (p : String → Bool) (k : String) :
    (t.restrict p)[k]? = if p k then t[k]? else none := by
  by_cases h : p k <;> cases hk : t[k]? <;> simp [restrict, h, hk, Option.filter]

@[simp] theorem mem_keysWhere {t : Table α} {p : String → Bool} {k : String} :
    k ∈ t.keysWhere p ↔ k ∈ t ∧ p k = true := by
  simp [keysWhere]

@[simp] theorem getElem?_putAll (t u : Table α) (k : String) :
    (t.putAll u)[k]? = (u[k]?).or t[k]? := by
  have h : t.putAll u = t.insertMany u.toList := by
    rw [putAll, Std.ExtTreeMap.foldl_eq_foldl_toList, Std.ExtTreeMap.insertMany_list_eq_foldl]
  rw [h]
  cases hk : u[k]? with
  | none =>
    rw [Std.ExtTreeMap.getElem?_insertMany_list_of_contains_eq_false, Option.none_or]
    rw [Std.ExtTreeMap.map_fst_toList_eq_keys, Std.ExtTreeMap.contains_keys,
      Std.ExtTreeMap.contains_eq_isSome_getElem?, hk, Option.isSome_none]
  | some a =>
    refine Std.ExtTreeMap.getElem?_insertMany_list_of_mem (k := k) (by simp)
      Std.ExtTreeMap.distinct_keys_toList ?_
    rwa [Std.ExtTreeMap.mem_toList_iff_getElem?_eq_some]

@[simp] theorem getElem?_tally (t : Table α) (key k : String) (zero : α) (f : α → α) :
    (t.tally key zero f)[k]? = if key = k then some (f (t[key]?.getD zero)) else t[k]? := by
  simp [tally, Std.ExtTreeMap.getElem?_insert]

end Table

end ConnectionRouter
