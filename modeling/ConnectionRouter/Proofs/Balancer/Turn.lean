import ConnectionRouter.Balancer.Turn
import Mathlib.Data.List.Nodup

/-!
# Who stands at a turn

The members of a turn are its holder and the callers that wait for it (`Turn.members`). While no
caller stands there twice, a caller that leaves is gone (`not_mem_members_leave`), and what one
caller does neither adds nor removes another (`Turn.KeepsOthers`). Nor does it leave a turn free for
which others wait (`Turn.Spares`), so that somebody has every turn at which anybody stands.
-/

namespace ConnectionRouter

namespace Turn

/-- The holder of the turn and the callers that wait for it. -/
def members (t : Turn) : List Caller := t.holder.toList ++ t.waiting

theorem isHeldBy_iff {t : Turn} {c : Caller} : t.isHeldBy c = true ↔ t.holder = some c := by
  simp [isHeldBy]

/-- A free turn is taken by its new holder; a turn that is held is not. -/
theorem take?_eq_some {t t' : Turn} {c : Caller} (h : t.take? c = some t') :
    t.holder = none ∧ t' = { t with holder := some c } := by
  rw [take?] at h
  split at h
  · rename_i hn
    cases h
    exact ⟨by simpa using hn, rfl⟩
  · cases h

variable {t t' : Turn} {c : Caller}

/-- A turn where nobody stands is free. -/
theorem eq_of_members_eq_nil (h : t.members = []) : t = {} := by
  obtain ⟨hholder, hwaiting⟩ := List.append_eq_nil_iff.mp h
  show (⟨t.holder, t.waiting⟩ : Turn) = {}
  rw [Option.toList_eq_nil_iff.mp hholder, hwaiting]

/-! ## Nobody stands there twice -/

theorem nodup_members_take (hn : t.members.Nodup) (hc : c ∉ t.members) (h : t.take? c = some t') :
    t'.members.Nodup := by
  obtain ⟨hfree, rfl⟩ := take?_eq_some h
  simp only [members, hfree, Option.toList_none, List.nil_append] at hn hc
  exact List.nodup_cons.mpr ⟨hc, hn⟩

theorem nodup_members_wait (hn : t.members.Nodup) (hc : c ∉ t.members) :
    (t.wait c).members.Nodup := by
  have he : (t.wait c).members = t.members ++ [c] := by simp [members, wait]
  rw [he]
  exact List.nodup_append.mpr ⟨hn, List.nodup_singleton c, by
    rintro a ha b hb rfl
    rw [List.mem_singleton] at hb
    exact hc (hb ▸ ha)⟩

/-- The members of a turn whose holder leaves are those that waited. -/
theorem members_leave_of_isHeldBy (h : t.isHeldBy c = true) : (t.leave c).members = t.waiting := by
  rw [leave, if_pos h, members]
  cases t.waiting <;> rfl

theorem members_leave_of_not (h : ¬t.isHeldBy c = true) :
    (t.leave c).members = t.members.filter (· != c) := by
  rw [leave, if_neg h, members, members, List.filter_append]
  congr 1
  rw [isHeldBy_iff] at h
  cases hh : t.holder with
  | none => rfl
  | some d =>
    have hd : d ≠ c := by
      rintro rfl
      exact h hh
    simp [hd]

theorem nodup_members_leave (hn : t.members.Nodup) (c : Caller) : (t.leave c).members.Nodup := by
  by_cases h : t.isHeldBy c = true
  · rw [members_leave_of_isHeldBy h]
    exact (List.nodup_append.mp hn).2.1
  · rw [members_leave_of_not h]
    exact hn.filter _

/-- A caller that leaves is gone. -/
theorem not_mem_members_leave (hn : t.members.Nodup) (c : Caller) : c ∉ (t.leave c).members := by
  by_cases h : t.isHeldBy c = true
  · rw [members_leave_of_isHeldBy h]
    rw [members, isHeldBy_iff.mp h] at hn
    exact (List.nodup_cons.mp hn).1
  · rw [members_leave_of_not h]
    simp

/-! ## The other callers -/

variable {d : Caller}

theorem mem_members_take (h : t.take? c = some t') (hd : d ≠ c) :
    d ∈ t'.members ↔ d ∈ t.members := by
  obtain ⟨hfree, rfl⟩ := take?_eq_some h
  simp [members, hfree, hd]

theorem mem_members_wait (hd : d ≠ c) : d ∈ (t.wait c).members ↔ d ∈ t.members := by
  simp [members, wait, hd]

theorem mem_members_leave (hd : d ≠ c) : d ∈ (t.leave c).members ↔ d ∈ t.members := by
  by_cases h : t.isHeldBy c = true
  · rw [members_leave_of_isHeldBy h, members, isHeldBy_iff.mp h]
    simp [hd]
  · rw [members_leave_of_not h]
    simp [hd]

/-- A turn does not pass from its holder because another caller leaves. -/
theorem holder_leave_of_ne (h : t.holder = some d) (hd : d ≠ c) : (t.leave c).holder = some d := by
  have hc : ¬t.isHeldBy c = true := by
    rw [isHeldBy_iff, h]
    exact fun he => hd (Option.some.inj he)
  rw [leave, if_neg hc]
  exact h

/-- What one caller does to the turn neither adds nor removes another caller, nor takes the turn
from its holder. -/
structure KeepsOthers (c : Caller) (t t' : Turn) : Prop where
  mem_iff : ∀ d, d ≠ c → (d ∈ t'.members ↔ d ∈ t.members)
  holder : ∀ d, d ≠ c → t.holder = some d → t'.holder = some d

theorem KeepsOthers.refl (c : Caller) (t : Turn) : t.KeepsOthers c t :=
  ⟨fun _ _ => Iff.rfl, fun _ _ h => h⟩

theorem keepsOthers_take (h : t.take? c = some t') : t.KeepsOthers c t' where
  mem_iff _ hd := mem_members_take h hd
  holder d _ hh := by
    rw [(take?_eq_some h).1] at hh
    cases hh

theorem keepsOthers_wait (t : Turn) (c : Caller) : t.KeepsOthers c (t.wait c) :=
  ⟨fun _ hd => mem_members_wait hd, fun _ _ h => h⟩

theorem keepsOthers_leave (t : Turn) (c : Caller) : t.KeepsOthers c (t.leave c) :=
  ⟨fun _ hd => mem_members_leave hd, fun _ hd h => holder_leave_of_ne h hd⟩

/-! ## Taking and joining -/

/-- The turn that a caller finds taken has a holder. -/
theorem holder_of_take?_eq_none (h : t.take? c = none) : t.holder ≠ none := by
  intro hn
  simp [take?, hn] at h

theorem fair_wait (h : t.take? c = none) : (t.wait c).Fair :=
  fun (hn : t.holder = none) => absurd hn (holder_of_take?_eq_none h)

theorem mem_members_of_take (h : t.take? c = some t') : t'.holder = some c ∧ c ∈ t'.members := by
  obtain ⟨-, rfl⟩ := take?_eq_some h
  exact ⟨rfl, by simp [members]⟩

/-! ## Fairness -/

/-- What one caller does to the turn leaves every other caller its place, and nobody waiting for a
free turn. -/
structure Spares (c : Caller) (t t' : Turn) : Prop extends KeepsOthers c t t' where
  fair : t.Fair → t'.Fair

theorem Spares.refl (c : Caller) (t : Turn) : t.Spares c t := ⟨.refl c t, fun hf => hf⟩

theorem Spares.trans {t'' : Turn} (h : t.Spares c t') (h' : t'.Spares c t'') : t.Spares c t'' where
  mem_iff d hd := (h'.mem_iff d hd).trans (h.mem_iff d hd)
  holder d hd hh := h'.holder d hd (h.holder d hd hh)
  fair hf := h'.fair (h.fair hf)

theorem spares_take (h : t.take? c = some t') : t.Spares c t' :=
  ⟨keepsOthers_take h, fun _ => fair_take h⟩

theorem spares_wait (h : t.take? c = none) : t.Spares c (t.wait c) :=
  ⟨keepsOthers_wait t c, fun _ => fair_wait h⟩

theorem spares_leave (t : Turn) (c : Caller) : t.Spares c (t.leave c) :=
  ⟨keepsOthers_leave t c, fun hf => fair_leave hf c⟩

/-- Somebody has a fair turn at which anybody stands. -/
theorem Fair.exists_holder (hf : t.Fair) (hc : c ∈ t.members) :
    ∃ d, t.holder = some d ∧ d ∈ t.members := by
  cases hh : t.holder with
  | some d => exact ⟨d, rfl, by simp [members, hh]⟩
  | none => simp [members, hh, hf hh] at hc

end Turn

end ConnectionRouter
