import ConnectionRouter.Proofs.Pool.Evenness
import ConnectionRouter.Proofs.Pool.FallbackChain
import Mathlib.Data.Multiset.Sort
import Mathlib.Order.Lattice.Nat

/-!
# Filling up a tier

Reservations one after the other, with the same hosts left out, fill up one tier: that of the best
priority with an eligible host (`Pool.front`). Every reservation counts one connection against a
least loaded host of it, so the counts draw level and stay level (`gap`).

Ties may be broken in any way. Which host gets a connection depends on it, but not the counts as a
whole: every reservation raises the least of them (`raiseLeast`), whatever host has it.

* `Filled`: what reservations make of the counts of some hosts; `Filled.add` is one more.
* `Pool.Fills.reserveAll`: the run.
* `RuledPool.run_fillsFairly`: every reachable pool is filled up fairly.
-/

namespace ConnectionRouter

/-! ## Counts drawing level -/

section Counts

variable {hosts : Finset HostKey} {count count' : HostKey → Nat} {host : HostKey} {n : Nat}

/-- The difference between the largest and the smallest count. -/
def gap (hosts : Finset HostKey) (count : HostKey → Nat) : Nat :=
  (hosts ×ˢ hosts).sup fun (j, k) => count j - count k

theorem gap_le_iff :
    gap hosts count ≤ n ↔ ∀ j ∈ hosts, ∀ k ∈ hosts, count j ≤ count k + n := by
  simp only [gap, Finset.sup_le_iff, Finset.mem_product, Prod.forall, and_imp]
  exact ⟨fun h j hj k hk => Nat.sub_le_iff_le_add'.mp (h j k hj hk),
    fun h j k hj hk => Nat.sub_le_iff_le_add'.mpr (h j hj k hk)⟩

/-- One more connection for the least loaded widens no gap but an even one. -/
theorem gap_recount_le (h : ∀ k ∈ hosts, count k ≤ Text.maxUnsigned)
    (hh : host ∈ hosts) (hleast : ∀ k ∈ hosts, count host ≤ count k) :
    gap hosts (recount count host 1) ≤ max 1 (gap hosts count) := by
  have hself : recount count host 1 host = min (count host + 1) Text.maxUnsigned :=
    recount_self ..
  have hmax := h host hh
  have hgap := gap_le_iff.mp (Nat.le_refl (gap hosts count))
  refine gap_le_iff.mpr fun j hj k hk => ?_
  have hclose := hgap j hj k hk
  have hlow := hleast k hk
  by_cases hj' : j = host <;> by_cases hk' : k = host
  · rw [hj', hk']
    omega
  · rw [hj', hself, recount_of_ne hk']
    omega
  · rw [hk'] at hclose
    rw [hk', hself, recount_of_ne hj']
    omega
  · rw [recount_of_ne hj', recount_of_ne hk']
    omega

/-- One more connection for the least of some counts. -/
def raiseLeast (counts : Multiset Nat) : Multiset Nat :=
  match counts.sort (· ≤ ·) with
  | [] => 0
  | least :: rest => addConnections least 1 ::ₘ (rest : Multiset Nat)

theorem raiseLeast_zero : raiseLeast 0 = 0 := by rw [raiseLeast, Multiset.sort_zero]

theorem raiseLeast_cons {least : Nat} {rest : Multiset Nat} (h : ∀ m ∈ rest, least ≤ m) :
    raiseLeast (least ::ₘ rest) = addConnections least 1 ::ₘ rest := by
  rw [raiseLeast, Multiset.sort_cons _ _ _ h]
  dsimp only
  rw [Multiset.sort_eq]

/-- **Whichever of the least loaded hosts gets a connection, the counts as a whole are the
same.** -/
theorem map_recount_least (hh : host ∈ hosts) (hleast : ∀ k ∈ hosts, count host ≤ count k) :
    hosts.val.map (recount count host 1) = raiseLeast (hosts.val.map count) := by
  have hsplit : hosts.val = host ::ₘ (hosts.erase host).val := by
    rw [← Finset.insert_val_of_notMem (Finset.notMem_erase host hosts), Finset.insert_erase hh]
  have hrest : (hosts.erase host).val.map (recount count host 1) =
      (hosts.erase host).val.map count :=
    Multiset.map_congr rfl fun k hk => recount_of_ne (Finset.ne_of_mem_erase hk) 1
  have hle : ∀ m ∈ (hosts.erase host).val.map count, count host ≤ m := by
    intro m hm
    obtain ⟨k, hk, rfl⟩ := Multiset.mem_map.mp hm
    exact hleast k (Finset.mem_of_mem_erase hk)
  rw [hsplit, Multiset.map_cons, Multiset.map_cons, hrest, recount_self, raiseLeast_cons hle]
  rfl

/-- What `n` connections, each counted against a least loaded host, make of some counts. -/
structure Filled (hosts : Finset HostKey) (n : Nat) (count count' : HostKey → Nat) : Prop where
  le_max : ∀ k ∈ hosts, count' k ≤ Text.maxUnsigned
  sum_eq : ∑ k ∈ hosts, count' k = min (∑ k ∈ hosts, count k + n) (capacity hosts)
  gap_le : gap hosts count' ≤ max 1 (gap hosts count)
  counts_eq : hosts.val.map count' = raiseLeast^[n] (hosts.val.map count)

theorem filled_zero (h : ∀ k ∈ hosts, count k ≤ Text.maxUnsigned) : Filled hosts 0 count count where
  le_max := h
  sum_eq := (Nat.min_eq_left (sum_le_capacity h)).symm
  gap_le := Nat.le_max_right ..
  counts_eq := rfl

/-- No hosts, no counts. -/
theorem filled_empty (n : Nat) (count count' : HostKey → Nat) : Filled ∅ n count count' where
  le_max := by simp
  sum_eq := by simp [capacity]
  gap_le := by simp [gap]
  counts_eq := by
    rw [Finset.empty_val, Multiset.map_zero, Multiset.map_zero,
      Function.iterate_fixed raiseLeast_zero]

/-- One more connection. -/
theorem Filled.add (h : Filled hosts n count count') (hh : host ∈ hosts)
    (hleast : ∀ k ∈ hosts, count' host ≤ count' k) :
    Filled hosts (n + 1) count (recount count' host 1) where
  le_max := recount_le_max h.le_max host 1
  sum_eq := by
    rw [sum_recount_least h.le_max hh hleast, h.sum_eq]
    omega
  gap_le := by
    have hstep := gap_recount_le h.le_max hh hleast
    have hbefore := h.gap_le
    omega
  counts_eq := by
    rw [map_recount_least hh hleast, h.counts_eq, Function.iterate_succ_apply']

/-- As long as no count is as large as it can be, none of the connections is lost. -/
theorem Filled.sum_eq_of_lt (h : Filled hosts n count count') (hne : hosts.Nonempty)
    (hlt : ∀ k ∈ hosts, count' k < Text.maxUnsigned) :
    ∑ k ∈ hosts, count' k = ∑ k ∈ hosts, count k + n := by
  have hcap : ∑ _k ∈ hosts, Text.maxUnsigned = capacity hosts := Finset.sum_const_nat fun _ _ => rfl
  have hbelow := Finset.sum_lt_sum_of_nonempty hne hlt
  have hsum := h.sum_eq
  omega

end Counts

namespace Pool

/-! ## One reservation -/

/-- Without a host in front nothing happens. -/
theorem reserve_of_front_eq_empty {p : Pool} {excluding : List HostKey}
    (h : p.front excluding = ∅) (pick : Nat) : p.reserve excluding pick = (p, none) := by
  rcases p.reserve_cases excluding pick with he | ⟨host, addr, hmem, -⟩
  · exact he
  · have hfront := (mem_front_of_mem_select hmem).1
    rw [h] at hfront
    exact absurd hfront (Finset.notMem_empty host)

/-- A reservation only counts. -/
theorem adjust_of_nonneg (p : Pool) (host : HostKey) {delta : Int} (h : 0 ≤ delta) :
    (p.adjust host delta).1 = { p with counts := (p.adjust host delta).1.counts } := by
  have hneg : ¬delta < 0 := by omega
  unfold adjust
  rw [if_neg hneg]
  dsimp only
  split <;> rfl

section Sound

variable {p : Pool} {rules : SnapshotRules} {excluding : List HostKey}
  (h : RuledPool.Sound ⟨p, rules⟩)
include h

/-- Counts make no difference to who is in front. -/
theorem front_adjust (host : HostKey) (delta : Int) :
    (p.adjust host delta).1.front excluding = p.front excluding := by
  have hremaining : (p.adjust host delta).1.remaining excluding = p.remaining excluding := by
    simp only [remaining, members_adjust, isQuarantined_adjust]
  ext k
  rw [mem_front_iff h, mem_front_iff (h.adjust host delta), hremaining]

/-- **A reservation takes a least loaded host of the front**, if there is one. -/
theorem reserve_of_front (hne : (p.front excluding).Nonempty) (pick : Nat) :
    ∃ host addr, host ∈ p.front excluding ∧
      (∀ k ∈ p.front excluding, p.countOf host ≤ p.countOf k) ∧
      p.reserve excluding pick = ((p.adjust host 1).1, some (host, addr)) := by
  obtain ⟨k, hk⟩ := hne
  have hselect := h.valid.select_ne_nil_of_available (available_of_mem_front h.valid hk)
  obtain ⟨host, addr, hmem, hreserve⟩ := reserve_of_select hselect pick
  obtain ⟨hfront, hleast⟩ := mem_front_of_mem_select hmem
  exact ⟨host, addr, hfront, hleast, hreserve⟩

theorem countOf_adjust_one {host : HostKey} (hh : host ∈ p.front excluding) :
    (p.adjust host 1).1.countOf = recount p.countOf host 1 := by
  funext k
  by_cases he : k = host
  · subst he
    have ha := available_of_mem_front h.valid hh
    have hmem : k ∈ p.counts := (h.valid.mem_counts_iff k).mpr ⟨ha.1, ha.2.1⟩
    rw [recount_self, countOf_adjust_of_nonneg p hmem (by decide)]
    rfl
  · rw [recount_of_ne he, countOf_adjust_of_ne p (Ne.symm he)]

end Sound

/-! ## Whole runs -/

/-- Reservations one after the other, each with the number that breaks its tie, and what they
answer. -/
def reserveAll (p : Pool) (excluding : List HostKey) :
    List Nat → Pool × List (Option (HostKey × HostAddr))
  | [] => (p, [])
  | pick :: picks =>
    let first := p.reserve excluding pick
    let rest := first.1.reserveAll excluding picks
    (rest.1, first.2 :: rest.2)

/-- How far a pool has come after `n` reservations. -/
structure Fills (rules : SnapshotRules) (start : Pool) (excluding : List HostKey) (n : Nat)
    (p : Pool) : Prop where
  sound : RuledPool.Sound ⟨p, rules⟩
  eq_counts : p = { start with counts := p.counts }
  front_eq : p.front excluding = start.front excluding
  others : ∀ k, k ∉ start.front excluding → p.count? k = start.count? k
  filled : Filled (start.front excluding) n start.countOf p.countOf

namespace Fills

variable {rules : SnapshotRules} {start p : Pool} {excluding : List HostKey} {n : Nat}

theorem zero (h : RuledPool.Sound ⟨start, rules⟩) : Fills rules start excluding 0 start where
  sound := h
  eq_counts := rfl
  front_eq := rfl
  others _ _ := rfl
  filled := filled_zero fun k _ => h.count_le k

/-- One more reservation takes a host of the front, if there is one. -/
theorem reserve (f : Fills rules start excluding n p) (pick : Nat) :
    Fills rules start excluding (n + 1) (p.reserve excluding pick).1 ∧
      ((start.front excluding).Nonempty → ∃ host addr, host ∈ start.front excluding ∧
        (p.reserve excluding pick).2 = some (host, addr)) := by
  have hfront := f.front_eq
  rcases (start.front excluding).eq_empty_or_nonempty with hnone | hne
  · rw [reserve_of_front_eq_empty (hfront.trans hnone) pick]
    exact ⟨{ f with filled := hnone ▸ filled_empty _ _ _ },
      fun hne => absurd hnone hne.ne_empty⟩
  · obtain ⟨host, addr, hh, hleast, he⟩ := reserve_of_front f.sound (hfront ▸ hne) pick
    rw [he]
    refine ⟨⟨f.sound.adjust host 1, ?_, ?_, fun k hk => ?_, ?_⟩,
      fun _ => ⟨host, addr, hfront ▸ hh, rfl⟩⟩
    · rw [adjust_of_nonneg p host (by decide), f.eq_counts]
    · rw [front_adjust f.sound, hfront]
    · have hother : host ≠ k := by
        rintro rfl
        exact hk (hfront ▸ hh)
      rw [← f.others k hk, count?, getElem?_counts_adjust, if_neg (fun hc => hother hc.1)]
      rfl
    · rw [countOf_adjust_one f.sound hh]
      exact f.filled.add (hfront ▸ hh) (hfront ▸ hleast)

theorem reserveAll (picks : List Nat) :
    ∀ {n : Nat} {p : Pool}, Fills rules start excluding n p →
      Fills rules start excluding (n + picks.length) (p.reserveAll excluding picks).1 ∧
        ((start.front excluding).Nonempty → ∀ answer ∈ (p.reserveAll excluding picks).2,
          ∃ host addr, host ∈ start.front excluding ∧ answer = some (host, addr)) := by
  induction picks with
  | nil => exact fun f => ⟨f, fun _ answer ha => absurd ha List.not_mem_nil⟩
  | cons pick picks ih =>
    intro n p f
    obtain ⟨fnext, hanswer⟩ := f.reserve pick
    obtain ⟨frest, hanswers⟩ := ih fnext
    refine ⟨?_, fun hne answer ha => ?_⟩
    · rw [List.length_cons, Nat.add_comm picks.length 1, ← Nat.add_assoc]
      exact frest
    · rcases List.mem_cons.mp ha with rfl | ha
      · exact hanswer hne
      · exact hanswers hne answer ha

end Fills

/-- Without a host in front every call answers none. -/
theorem reserveAll_of_front_eq_empty {p : Pool} {excluding : List HostKey}
    (h : p.front excluding = ∅) (picks : List Nat) :
    p.reserveAll excluding picks = (p, List.replicate picks.length none) := by
  induction picks with
  | nil => rfl
  | cons pick picks ih =>
    rw [reserveAll, reserve_of_front_eq_empty h pick, ih]
    rfl

/-- What a number of reservations with the same hosts left out makes of a pool: the pool after
them, and what they answered. -/
structure FillsFairly (p : Pool) (excluding : List HostKey) (picks : List Nat) (q : Pool)
    (answers : List (Option (HostKey × HostAddr))) : Prop where
  eq_counts : q = { p with counts := q.counts }
  /-- Only hosts in front have other counts than before. -/
  others : ∀ k, k ∉ p.front excluding → q.count? k = p.count? k
  tracked : ∀ k ∈ p.front excluding,
    p.count? k = some (p.countOf k) ∧ q.count? k = some (q.countOf k)
  answered : (p.front excluding).Nonempty →
    ∀ answer ∈ answers, ∃ host addr, host ∈ p.front excluding ∧ answer = some (host, addr)
  /-- Every reservation is counted, as long as the hosts can count it. -/
  sum_eq_min : ∑ k ∈ p.front excluding, q.countOf k =
    min (∑ k ∈ p.front excluding, p.countOf k + picks.length) (capacity (p.front excluding))
  sum_eq : (p.front excluding).Nonempty →
    (∀ k ∈ p.front excluding, q.countOf k < Text.maxUnsigned) →
      ∑ k ∈ p.front excluding, q.countOf k =
        ∑ k ∈ p.front excluding, p.countOf k + picks.length
  gap_le : gap (p.front excluding) q.countOf ≤ max 1 (gap (p.front excluding) p.countOf)
  counts_eq : (p.front excluding).val.map q.countOf =
    raiseLeast^[picks.length] ((p.front excluding).val.map p.countOf)
  /-- Ties broken in another way lead to the same counts, be it of other hosts. -/
  confluent : ∀ picks' : List Nat, picks'.length = picks.length →
    (p.front excluding).val.map (p.reserveAll excluding picks').1.countOf =
      (p.front excluding).val.map q.countOf
  idle : p.front excluding = ∅ → q = p ∧ answers = List.replicate picks.length none

theorem fillsFairly {p : Pool} {rules : SnapshotRules} (h : RuledPool.Sound ⟨p, rules⟩)
    (excluding : List HostKey) (picks : List Nat) :
    p.FillsFairly excluding picks (p.reserveAll excluding picks).1
      (p.reserveAll excluding picks).2 := by
  have hstart : Fills rules p excluding 0 p := .zero h
  have hrun (picks : List Nat) := hstart.reserveAll picks
  simp only [Nat.zero_add] at hrun
  obtain ⟨f, hanswered⟩ := hrun picks
  have hcount : ∀ {q : Pool}, RuledPool.Sound ⟨q, rules⟩ → ∀ k ∈ q.front excluding,
      q.count? k = some (q.countOf k) := fun hq k hk => by
    obtain ⟨hmem, hfree, -⟩ := available_of_mem_front hq.valid hk
    exact getElem?_counts_of_free hq hmem hfree
  exact {
    eq_counts := f.eq_counts
    others := f.others
    tracked := fun k hk => ⟨hcount h k hk, hcount f.sound k (f.front_eq ▸ hk)⟩
    answered := hanswered
    sum_eq_min := f.filled.sum_eq
    sum_eq := f.filled.sum_eq_of_lt
    gap_le := f.filled.gap_le
    counts_eq := f.filled.counts_eq
    confluent := fun picks' hlength => by
      rw [(hrun picks').1.filled.counts_eq, f.filled.counts_eq, hlength]
    idle := fun hnone => by
      rw [reserveAll_of_front_eq_empty hnone]
      exact ⟨rfl, rfl⟩ }

end Pool

/-- **Every reachable pool is filled up fairly**, whatever it counts, whoever is left out, and
however ties are broken. -/
theorem RuledPool.run_fillsFairly (events : List (SnapshotRules × PoolEvent))
    (excluding : List HostKey) (picks : List Nat) :
    (run events).pool.FillsFairly excluding picks
      ((run events).pool.reserveAll excluding picks).1
      ((run events).pool.reserveAll excluding picks).2 :=
  Pool.fillsFairly (sound_run events) excluding picks

/-- Of three hosts one has three connections, and one has one. -/
def unevenLoad : List (SnapshotRules × PoolEvent) :=
  [({}, .snapshot ⟨[.ofHost "a", .ofHost "b", .ofHost "c"], "a"⟩ 0), ({}, .adjust "a" 3),
    ({}, .adjust "c" 1)]

theorem RuledPool.run_fillsFairly_unevenLoad :
    ∑ k ∈ {"a", "b", "c"}, ((run unevenLoad).pool.reserveAll [] [0, 0, 0, 0]).1.countOf k = 8 ∧
      gap {"a", "b", "c"} ((run unevenLoad).pool.reserveAll [] [0, 0, 0, 0]).1.countOf ≤ 3 ∧
      Multiset.map ((run unevenLoad).pool.reserveAll [] [3, 2, 1, 0]).1.countOf {"a", "b", "c"} =
        Multiset.map ((run unevenLoad).pool.reserveAll [] [0, 0, 0, 0]).1.countOf
          {"a", "b", "c"} := by
  have hfront : (run unevenLoad).pool.front [] = {"a", "b", "c"} := by decide +kernel
  have hfair := run_fillsFairly unevenLoad [] [0, 0, 0, 0]
  have hsum := hfair.sum_eq
  have hgap := hfair.gap_le
  have hsame := hfair.confluent [3, 2, 1, 0] rfl
  rw [hfront] at hsum hgap hsame
  refine ⟨?_, Nat.le_trans hgap (by decide +kernel), hsame⟩
  rw [hsum (by decide) (by decide +kernel)]
  decide +kernel

end ConnectionRouter
