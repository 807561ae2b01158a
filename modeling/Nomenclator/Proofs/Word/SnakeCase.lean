import Nomenclator.Proofs.Word.CamelCase

/-!
# Snake case of identifier characters

Snake case inserts underscores inside a word and lowers its letters.  A word of ASCII letters,
digits and underscores becomes one again, and it begins as it did: a boundary is always behind a
character, so no underscore comes to stand in front of the first one.

Both passes look for capitals.  A word without any has no boundaries, and stays as it is.
-/

namespace Nomenclator.Word

variable {w : Word}

/-- The underscore of a run is not put in front of it. -/
lemma head?_endRun_append (run : List Char) (c : Char) (tail : Word) :
    (endRun run c ++ tail).head? = (run.reverse ++ tail).head? := by
  rcases run with _ | ⟨last, _ | ⟨first, more⟩⟩
  · rfl
  · rfl
  · rw [endRun]
    split
    · have hne : (first :: more).reverse ≠ [] := by simp
      rw [List.reverse_cons (a := last), List.append_assoc, List.append_assoc,
        List.head?_append_of_ne_nil _ hne, List.head?_append_of_ne_nil _ hne]
    · rfl

lemma head?_partRuns (run w : Word) : (partRuns run w).head? = (run.reverse ++ w).head? := by
  induction w generalizing run with
  | nil => rw [partRuns, List.append_nil]
  | cons c w ih =>
    rw [partRuns_cons]
    split
    · rw [ih, List.reverse_cons, List.append_assoc, List.singleton_append]
    · rw [head?_endRun_append, List.head?_append, List.head?_append]
      rfl

lemma head?_partCapitals (w : Word) : (partCapitals w).head? = w.head? := by
  fun_induction partCapitals w with
  | case1 a b w hboundary ih => rfl
  | case2 a b w hboundary ih => rfl
  | case3 w hshort => rfl

section

variable (hw : ∀ c ∈ w, Text.isWordChar c = true)

include hw

lemma isWordChar_of_mem_parted : ∀ c ∈ partCapitals (partRuns [] w), Text.isWordChar c = true := by
  intro c hc
  rcases mem_partCapitals hc with rfl | hc
  · decide
  · rcases mem_partRuns hc with rfl | hc | hc
    · decide
    · exact absurd hc List.not_mem_nil
    · exact hw c hc

lemma snake_eq : snake w = (partCapitals (partRuns [] w)).map Char.toLower := by
  have hparted := isWordChar_of_mem_parted hw
  rw [snake, openSigns_of_not_mem (not_mem_of_isWordChar hw (by decide))
    (not_mem_of_isWordChar hw (by decide)),
    joinWords_of_not_mem (not_mem_of_isWordChar hparted (by decide))
      (not_mem_of_isWordChar hparted (by decide)),
    Text.lower_of_ascii fun c hc => ascii_of_isWordChar (hparted c hc)]

lemma isWordChar_of_mem_snake : ∀ c ∈ snake w, Text.isWordChar c = true := by
  rw [snake_eq hw]
  intro c hc
  obtain ⟨x, hx, rfl⟩ := List.mem_map.mp hc
  exact isWordChar_toLower (isWordChar_of_mem_parted hw x hx)

lemma head?_snake : (snake w).head? = w.head?.map Char.toLower := by
  rw [snake_eq hw, List.head?_map, head?_partCapitals, head?_partRuns]
  rfl

lemma isUpper_of_mem_snake : ∀ c ∈ snake w, c.isUpper = false := by
  rw [snake_eq hw]
  intro c hc
  obtain ⟨x, -, rfl⟩ := List.mem_map.mp hc
  exact Char.isUpper_toLower_eq_false x

end

/-! ## Words without capitals -/

section

variable (hsmall : ∀ c ∈ w, c.isUpper = false)

include hsmall

lemma partRuns_of_small : partRuns [] w = w := by
  induction w with
  | nil => rfl
  | cons c w ih =>
    rw [List.forall_mem_cons] at hsmall
    rw [partRuns_cons, hsmall.1, if_neg (by decide), ih hsmall.2]
    rfl

lemma partCapitals_of_small : partCapitals w = w := by
  fun_induction partCapitals w with
  | case1 a b w hboundary ih =>
    rw [Bool.and_eq_true, hsmall b (by simp)] at hboundary
    exact absurd hboundary.2 (by decide)
  | case2 a b w hboundary ih => rw [ih fun c hc => hsmall c (List.mem_cons_of_mem a hc)]
  | case3 w hshort => rfl

lemma snake_of_small (hw : ∀ c ∈ w, Text.isWordChar c = true) : snake w = w := by
  rw [snake_eq hw, partRuns_of_small hsmall, partCapitals_of_small hsmall]
  refine (List.map_congr_left fun c hc => ?_).trans (List.map_id w)
  exact Char.toLower_eq_of_not_isUpper (by simp [hsmall c hc])

end

end Nomenclator.Word
