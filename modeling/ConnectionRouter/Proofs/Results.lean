import ConnectionRouter.Error
import Mathlib.Data.List.Forall2

/-!
# Results

A list that is worked through until the first error yields the results of all its elements, or the
error of one of them.

A computation whose steps fail on configuration errors only fails on such an error
(`FailsOnConfiguration`).
-/

namespace ConnectionRouter

/-! ## Lists of results -/

section Lists

variable {α β ε : Type} {f : α → Except ε β} {l : List α}

theorem Except.bind_eq_ok_iff {x : Except ε α} {r : β} :
    x >>= f = .ok r ↔ ∃ a, x = .ok a ∧ f a = .ok r := by
  cases x <;> simp [bind, Except.bind]

theorem List.mapM_eq_ok_iff {r : List β} :
    l.mapM f = .ok r ↔ List.Forall₂ (fun a b => f a = .ok b) l r := by
  induction l generalizing r with
  | nil => cases r <;> simp [pure, Except.pure]
  | cons a l ih =>
    rw [List.mapM_cons, List.forall₂_cons_left_iff]
    simp only [← ih]
    cases ha : f a with
    | error e => simp [bind, Except.bind]
    | ok b =>
      cases hl : l.mapM f with
      | error e => simp [bind, Except.bind]
      | ok bs => simp [bind, Except.bind, pure, Except.pure, eq_comm]

/-- The error of a list of results is that of one of them. -/
theorem List.exists_of_mapM_eq_error {e : ε} (h : l.mapM f = .error e) :
    ∃ a ∈ l, f a = .error e := by
  induction l with
  | nil => cases h
  | cons a l ih =>
    rw [List.mapM_cons] at h
    cases ha : f a with
    | error e' =>
      rw [ha] at h
      cases h
      exact ⟨a, List.mem_cons_self, ha⟩
    | ok b =>
      cases hl : l.mapM f with
      | error e' =>
        rw [ha, hl] at h
        cases h
        obtain ⟨a', hmem, ha'⟩ := ih hl
        exact ⟨a', List.mem_cons_of_mem a hmem, ha'⟩
      | ok bs =>
        rw [ha, hl] at h
        cases h

theorem List.exists_of_forall₂ {R : α → β → Prop} {r : List β}
    (h : List.Forall₂ R l r) {a : α} (ha : a ∈ l) : ∃ b ∈ r, R a b := by
  induction h with
  | nil => cases ha
  | cons hab _ ih =>
    rcases List.mem_cons.mp ha with rfl | ha
    · exact ⟨_, List.mem_cons_self, hab⟩
    · obtain ⟨b, hb, hr⟩ := ih ha
      exact ⟨b, List.mem_cons_of_mem _ hb, hr⟩

theorem List.exists_forall₂_iff {R : α → β → Prop} :
    (∃ r, List.Forall₂ R l r) ↔ ∀ a ∈ l, ∃ b, R a b := by
  constructor
  · rintro ⟨r, h⟩ a ha
    obtain ⟨b, -, hab⟩ := List.exists_of_forall₂ h ha
    exact ⟨b, hab⟩
  · intro h
    induction l with
    | nil => exact ⟨[], .nil⟩
    | cons a l ih =>
      obtain ⟨b, hab⟩ := h a List.mem_cons_self
      obtain ⟨r, hr⟩ := ih fun a ha => h a (List.mem_cons_of_mem _ ha)
      exact ⟨b :: r, .cons hab hr⟩

end Lists

/-! ## Errors of configuration -/

/-- A computation all of whose errors are configuration errors. -/
def FailsOnConfiguration {α : Type} (x : Except RoutingError α) : Prop :=
  ∀ e, x = .error e → e.isConfiguration = true

namespace FailsOnConfiguration

variable {α β : Type}

theorem ok (a : α) : FailsOnConfiguration (.ok a) := fun _ h => nomatch h

theorem error (fault : ConfigurationFault) :
    FailsOnConfiguration (.error (.configuration fault) : Except RoutingError α) := by
  rintro _ ⟨rfl⟩
  rfl

theorem bind {x : Except RoutingError α} {f : α → Except RoutingError β}
    (hx : FailsOnConfiguration x) (hf : ∀ a, FailsOnConfiguration (f a)) :
    FailsOnConfiguration (x >>= f) := by
  cases x with
  | error e =>
    rintro _ ⟨rfl⟩
    exact hx e rfl
  | ok a => exact hf a

theorem map {x : Except RoutingError α} (hx : FailsOnConfiguration x) (f : α → β) :
    FailsOnConfiguration (x.map f) := by
  cases x with
  | error e =>
    rintro _ ⟨rfl⟩
    exact hx e rfl
  | ok a => exact ok (f a)

theorem mapM {f : α → Except RoutingError β} (hf : ∀ a, FailsOnConfiguration (f a)) (l : List α) :
    FailsOnConfiguration (l.mapM f) := by
  induction l with
  | nil => exact ok []
  | cons a l ih =>
    rw [List.mapM_cons]
    exact (hf a).bind fun b => ih.bind fun bs => ok (b :: bs)

theorem exists_fault {x : Except RoutingError α} (h : FailsOnConfiguration x)
    (hx : ∀ a, x ≠ .ok a) : ∃ fault, x = .error (.configuration fault) := by
  cases x with
  | ok a => exact absurd rfl (hx a)
  | error e =>
    have he : e.isConfiguration = true := h e rfl
    cases e with
    | configuration fault => exact ⟨fault, rfl⟩
    | _ => cases he

end FailsOnConfiguration

end ConnectionRouter
