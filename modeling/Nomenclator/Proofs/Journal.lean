import Nomenclator.Journal
import Mathlib.Data.List.Forall2
import Mathlib.Data.List.OfFn
import Mathlib.Tactic.Lemma

/-!
# Results of steps in a row

A computation of several steps succeeds exactly when every step does.  The same holds of reports:
their entries do not touch their results.
-/

namespace Nomenclator

lemma bind_eq_ok_iff {ε α β : Type} {x : Except ε α} {f : α → Except ε β} {b : β} :
    (x >>= f) = .ok b ↔ ∃ a, x = .ok a ∧ f a = .ok b := by
  cases x <;> simp [Bind.bind, Except.bind]

lemma map_eq_ok_iff {ε α β : Type} {x : Except ε α} {f : α → β} {b : β} :
    x.map f = .ok b ↔ ∃ a, x = .ok a ∧ f a = b := by
  cases x <;> simp [Except.map]

lemma map_eq_error_iff {ε α β : Type} {x : Except ε α} {f : α → β} {e : ε} :
    x.map f = .error e ↔ x = .error e := by
  cases x <;> simp [Except.map]

/-! ## Failures -/

/-- A step succeeds for a list when it does for each member, and the results are in the order of the
members. -/
lemma mapM_eq_ok_iff {ε α β : Type} {f : α → Except ε β} {xs : List α} {ys : List β} :
    xs.mapM f = .ok ys ↔ List.Forall₂ (fun x y => f x = .ok y) xs ys := by
  induction xs generalizing ys with
  | nil =>
    show Except.ok [] = Except.ok ys ↔ _
    rw [Except.ok.injEq, List.forall₂_nil_left_iff, eq_comm]
  | cons x xs ih =>
    rw [List.mapM_cons, bind_eq_ok_iff, List.forall₂_cons_left_iff]
    constructor
    · rintro ⟨y, hy, h⟩
      obtain ⟨others, hothers, h⟩ := bind_eq_ok_iff.mp h
      exact ⟨y, others, hy, ih.mp hothers, (Except.ok.inj h).symm⟩
    · rintro ⟨y, others, hy, hothers, rfl⟩
      exact ⟨y, hy, bind_eq_ok_iff.mpr ⟨others, ih.mpr hothers, rfl⟩⟩

lemma length_of_mapM_eq_ok {ε α β : Type} {f : α → Except ε β} {xs : List α} {ys : List β}
    (h : xs.mapM f = .ok ys) : xs.length = ys.length :=
  (mapM_eq_ok_iff.mp h).length_eq

/-- Members that are picked from a list have the results that are picked from the same places. -/
lemma mapM_ofFn_get {ε α β : Type} {f : α → Except ε β} {xs : List α} {ys : List β}
    (h : xs.mapM f = .ok ys) {n : ℕ} (place : Fin n → Fin xs.length) :
    (List.ofFn fun i => xs.get (place i)).mapM f
      = .ok (List.ofFn fun i => ys.get (Fin.cast (length_of_mapM_eq_ok h) (place i))) := by
  rw [mapM_eq_ok_iff, List.forall₂_iff_get]
  refine ⟨by simp, fun i hi hi' => ?_⟩
  rw [List.get_ofFn, List.get_ofFn]
  exact (mapM_eq_ok_iff.mp h).get _ _

/-- Where a step has succeeded for each member of a list, the results are those of the members. -/
lemma mem_iff_of_mapM_eq_ok {ε α β : Type} {f : α → Except ε β} {xs : List α} {ys : List β}
    (h : xs.mapM f = .ok ys) {y : β} : y ∈ ys ↔ ∃ x ∈ xs, f x = .ok y := by
  have hall := mapM_eq_ok_iff.mp h
  clear h
  induction hall with
  | nil => simp
  | @cons x z xs zs hz hzs ih => simp [List.mem_cons, ih, hz, eq_comm (a := y)]

/-- Where a step has succeeded for each member of a list, each has its result among the results. -/
lemma exists_of_mapM_eq_ok {ε α β : Type} {f : α → Except ε β} {xs : List α} {ys : List β}
    (h : xs.mapM f = .ok ys) {x : α} (hx : x ∈ xs) : ∃ y ∈ ys, f x = .ok y := by
  have hall := mapM_eq_ok_iff.mp h
  clear h
  induction hall with
  | nil => simp at hx
  | @cons z y zs ys hy hys ih =>
    rcases List.mem_cons.mp hx with rfl | hx
    · exact ⟨y, List.mem_cons_self, hy⟩
    · obtain ⟨other, hother, hstep⟩ := ih hx
      exact ⟨other, List.mem_cons_of_mem y hother, hstep⟩

/-- Where a step succeeds for each member of a list, it succeeds for the list, and what holds of
each result holds of the results, member by member. -/
lemma exists_mapM_of_forall₂ {ε α β γ : Type} {f : α → Except ε β} {R : γ → β → Prop}
    {zs : List γ} {xs : List α}
    (h : List.Forall₂ (fun z x => ∃ y, f x = .ok y ∧ R z y) zs xs) :
    ∃ ys, xs.mapM f = .ok ys ∧ List.Forall₂ R zs ys := by
  induction h with
  | nil => exact ⟨[], rfl, .nil⟩
  | @cons z x zs xs hx hxs ih =>
    obtain ⟨y, hy, hR⟩ := hx
    obtain ⟨ys, hys, hall⟩ := ih
    exact ⟨y :: ys, mapM_eq_ok_iff.mpr (.cons hy (mapM_eq_ok_iff.mp hys)), .cons hR hall⟩

/-- A step that is the same for the members of two lists, one by one, is the same for the lists. -/
lemma mapM_eq_of_forall₂ {ε α β γ : Type} {f : α → Except ε γ} {f' : β → Except ε γ}
    {xs : List α} {ys : List β} (h : List.Forall₂ (fun x y => f x = f' y) xs ys) :
    xs.mapM f = ys.mapM f' := by
  induction h with
  | nil => rfl
  | cons hstep _ ih => rw [List.mapM_cons, List.mapM_cons, hstep, ih]

/-- What is done to each result of a list can be done as part of the step. -/
lemma map_mapM {ε α β γ : Type} (f : α → Except ε β) (g : β → γ) (xs : List α) :
    (xs.mapM f).map (List.map g) = xs.mapM fun x => (f x).map g := by
  induction xs with
  | nil => rfl
  | cons x xs ih =>
    rw [List.mapM_cons, List.mapM_cons, ← ih]
    cases f x with
    | error e => rfl
    | ok y => cases xs.mapM f <;> rfl

namespace Report

variable {ε α β : Type}

@[simp] lemma result_of (result : Except ε α) : (Report.of result).result = result := rfl

lemma result_bind_eq_ok_iff {r : Report ε α} {f : α → Report ε β} {b : β} :
    (r >>= f).result = .ok b ↔ ∃ a, r.result = .ok a ∧ (f a).result = .ok b := by
  show (Report.bind r f).result = .ok b ↔ _
  unfold Report.bind
  cases r.result <;> simp

lemma result_bind_of_ok {r : Report ε α} {f : α → Report ε β} {a : α} (h : r.result = .ok a) :
    (r >>= f).result = (f a).result := by
  show (Report.bind r f).result = _
  rw [Report.bind, h]

/-- The second computation adds its entries behind those of the first. -/
lemma log_bind_of_ok {r : Report ε α} {f : α → Report ε β} {a : α} (h : r.result = .ok a) :
    (r >>= f).log = r.log ++ (f a).log := by
  show (Report.bind r f).log = _
  rw [Report.bind, h]

lemma result_bind_of_error {r : Report ε α} {f : α → Report ε β} {e : ε}
    (h : r.result = .error e) : (r >>= f).result = .error e := by
  show (Report.bind r f).result = _
  rw [Report.bind, h]

end Report

end Nomenclator
