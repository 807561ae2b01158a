import Nomenclator.Value.Display
import Mathlib.Data.Nat.Digits.Defs
import Mathlib.Tactic.Lemma

/-!
# Values that can be shown

Messages show the value that they are about, and the values of an enumeration are taken as the texts
that show them.  Either fails on a value with a whole number in it that has too many digits.
`Showable` says which values have no such number, at any depth, and `shown_inspect` that these are
the ones that are shown; for all others showing fails in the same way.
-/

namespace Nomenclator.Value

/-- No whole number in a value has more digits than are written. -/
inductive Showable : Value → Prop
  | null : Showable .null
  | bool (b : Bool) : Showable (.bool b)
  | int {n : ℤ} (h : isTooLong n = false) : Showable (.int n)
  | real (x : Binary64) : Showable (.real x)
  | text (s : String) : Showable (.text s)
  | list {items : List Value} (h : ∀ v ∈ items, Showable v) : Showable (.list items)
  | record {fields : Table Value} (h : ∀ field ∈ fields, Showable field.2) :
    Showable (.record fields)

lemma showable_int_iff {n : ℤ} : Showable (.int n) ↔ isTooLong n = false :=
  ⟨fun | .int h => h, .int⟩

lemma showable_list_iff {items : List Value} :
    Showable (.list items) ↔ ∀ v ∈ items, Showable v :=
  ⟨fun | .list h => h, .list⟩

lemma showable_record_iff {fields : Table Value} :
    Showable (.record fields) ↔ ∀ field ∈ fields, Showable field.2 :=
  ⟨fun | .record h => h, .record⟩

/-- A value is shown if it can be, and otherwise it is said that it has too many digits. -/
inductive Shown {α : Type} (p : Prop) : Except Mismatch α → Prop
  | shown (h : p) (a : α) : Shown p (.ok a)
  | refused (h : ¬p) : Shown p (.error .tooManyDigits)

namespace Shown

variable {α β : Type} {p q : Prop} {result : Except Mismatch α}

lemma congr (h : Shown p result) (hpq : p ↔ q) : Shown q result := by
  cases h with
  | shown hp a => exact .shown (hpq.mp hp) a
  | refused hp => exact .refused (mt hpq.mpr hp)

lemma map (h : Shown p result) (f : α → β) : Shown p (result.map f) := by
  cases h with
  | shown hp a => exact .shown hp (f a)
  | refused hp => exact .refused hp

/-- Two things are shown together if both can be. -/
lemma both {second : Except Mismatch β} {γ : Type} (h : Shown p result) (hsecond : Shown q second)
    (f : α → β → γ) : Shown (p ∧ q) (result >>= fun a => second >>= fun b => pure (f a b)) := by
  cases h with
  | refused hp => exact .refused fun hpq => hp hpq.1
  | shown hp a =>
    cases hsecond with
    | refused hq => exact .refused fun hpq => hq hpq.2
    | shown hq b => exact .shown ⟨hp, hq⟩ (f a b)

lemma exists_ok (h : Shown p result) (hp : p) : ∃ a, result = .ok a := by
  cases h with
  | shown _ a => exact ⟨a, rfl⟩
  | refused hno => exact absurd hp hno

/-- The members of a list are shown together if all of them can be. -/
lemma mapM {f : α → Except Mismatch β} {p : α → Prop} {xs : List α}
    (h : ∀ x ∈ xs, Shown (p x) (f x)) : Shown (∀ x ∈ xs, p x) (xs.mapM f) := by
  induction xs with
  | nil => exact .shown (by simp) []
  | cons x xs ih =>
    rw [List.mapM_cons]
    obtain ⟨hfirst, hrest⟩ := List.forall_mem_cons.mp h
    exact (hfirst.both (ih hrest) List.cons).congr (by simp)

end Shown

mutual

lemma shown_inspect : ∀ v : Value, Shown v.Showable v.inspect
  | .null => .shown .null _
  | .bool b => .shown (.bool b) _
  | .real x => .shown (.real x) _
  | .text s => .shown (.text s) _
  | .int n => by
    rw [inspect]
    cases hlong : isTooLong n with
    | false => exact .shown (.int hlong) _
    | true => exact .refused fun h => by simp [showable_int_iff.mp h] at hlong
  | .list items => by
    rw [inspect]
    exact ((shown_inspectItems items).congr showable_list_iff.symm).map fun cs =>
      '[' :: cs ++ [']']
  | .record fields => by
    rw [inspect]
    exact ((shown_inspectFields fields).congr showable_record_iff.symm).map fun cs =>
      '\x7b' :: cs ++ ['\x7d']

lemma shown_inspectItems : ∀ items : List Value,
    Shown (∀ v ∈ items, v.Showable) (inspectItems items)
  | [] => .shown (by simp) _
  | [v] => by
    rw [inspectItems]
    exact (shown_inspect v).congr (by simp)
  | v :: w :: rest => by
    rw [inspectItems]
    exact ((shown_inspect v).both (shown_inspectItems (w :: rest)) _).congr (by simp)

lemma shown_inspectFields : ∀ fields : List (String × Value),
    Shown (∀ field ∈ fields, field.2.Showable) (inspectFields fields)
  | [] => .shown (by simp) _
  | [(k, v)] => by
    rw [inspectFields]
    exact ((shown_inspect v).map _).congr (by simp)
  | (k, v) :: next :: rest => by
    rw [inspectFields]
    exact ((shown_inspect v).both (shown_inspectFields (next :: rest)) _).congr (by simp)

end

lemma shown_inspectText (v : Value) : Shown v.Showable v.inspectText :=
  (shown_inspect v).map String.ofList

/-- A value stands for a text exactly when it can be shown. -/
lemma shown_display (v : Value) : Shown v.Showable v.display := by
  cases v with
  | text s => exact .shown (.text s) s
  | _ => exact shown_inspectText _

/-- Values stand for texts if all of them can be shown. -/
lemma shown_mapM_display (values : List Value) :
    Shown (∀ v ∈ values, v.Showable) (values.mapM display) :=
  .mapM fun v _ => shown_display v

end Nomenclator.Value
