import Nomenclator.Text.Order
import Mathlib.Data.List.Sort
import Mathlib.Data.String.Basic
import Mathlib.Tactic.Lemma

/-!
# Sorted texts: what they hold

`sortedSet` rearranges the members of a list and drops repetitions, and that is all it does:
`mem_sortedSet` says that it keeps every member and adds none.  The result increases strictly, by
code points (`pairwise_sortedSet`), so nothing is in it twice.
-/

namespace Nomenclator.Text

lemma mem_insertSorted {s t : String} {texts : List String} :
    t ∈ insertSorted s texts ↔ t = s ∨ t ∈ texts := by
  induction texts with
  | nil => simp [insertSorted]
  | cons first rest ih =>
    unfold insertSorted
    split
    · simp
    · split <;> rename_i heq
      · simp [heq]
      · rw [List.mem_cons, ih, List.mem_cons]
        exact or_left_comm

@[simp] lemma mem_sortedSet {t : String} {texts : List String} :
    t ∈ sortedSet texts ↔ t ∈ texts := by
  induction texts with
  | nil => simp [sortedSet]
  | cons first rest ih =>
    show t ∈ insertSorted first (sortedSet rest) ↔ _
    rw [mem_insertSorted, ih, List.mem_cons]

/-- A text at its place leaves the order as it was. -/
lemma pairwise_insertSorted {texts : List String} (h : texts.Pairwise (· < ·)) (s : String) :
    (insertSorted s texts).Pairwise (· < ·) := by
  induction texts with
  | nil => exact List.pairwise_singleton _ s
  | cons first rest ih =>
    have hfirst : ∀ t ∈ rest, first < t := (List.pairwise_cons.mp h).1
    unfold insertSorted
    split <;> rename_i hless
    · rw [List.pairwise_cons, List.forall_mem_cons]
      exact ⟨⟨hless, fun t ht => hless.trans (hfirst t ht)⟩, h⟩
    · split <;> rename_i heq
      · exact h
      · have hgreater : first < s := lt_of_le_of_ne (not_lt.mp hless) (Ne.symm heq)
        rw [List.pairwise_cons]
        refine ⟨fun t ht => ?_, ih h.of_cons⟩
        rcases mem_insertSorted.mp ht with rfl | ht
        · exact hgreater
        · exact hfirst t ht

lemma pairwise_sortedSet (texts : List String) : (sortedSet texts).Pairwise (· < ·) := by
  induction texts with
  | nil => exact List.Pairwise.nil
  | cons first rest ih => exact pairwise_insertSorted ih first

/-- Keeping the members of a test comes to the same before and after sorting. -/
lemma sortedSet_filter (test : String → Bool) (texts : List String) :
    sortedSet (texts.filter test) = (sortedSet texts).filter test := by
  refine (pairwise_sortedSet _).eq_of_mem_iff ((pairwise_sortedSet texts).filter test) fun t => ?_
  simp [List.mem_filter]

end Nomenclator.Text
