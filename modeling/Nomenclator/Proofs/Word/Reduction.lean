import Nomenclator.Proofs.Text.Replacement
import Nomenclator.Word.Reduce

/-!
# What is left of a reduced name

Reducing a name replaces the marks that separate words, kind by kind, and drops what no identifier
can hold.  It never touches a letter or a digit, whatever stands around it, and on a text without
marks it does nothing but drop.
-/

namespace Nomenclator.Word

variable {w : List Char}

lemma mem_foldl_replaceAll_iff {x : Char} {passes : List (List Char × List Char)}
    (hpasses : ∀ pass ∈ passes, pass.1 ≠ [] ∧ x ∉ pass.1 ∧ x ∉ pass.2) (w : List Char) :
    x ∈ passes.foldl (fun w pass => Text.replaceAll pass.1 pass.2 w) w ↔ x ∈ w := by
  induction passes generalizing w with
  | nil => rfl
  | cons pass passes ih =>
    rw [List.forall_mem_cons] at hpasses
    obtain ⟨⟨hne, hpattern, hreplacement⟩, hrest⟩ := hpasses
    rw [List.foldl_cons, ih hrest, Text.mem_replaceAll_iff hne hpattern hreplacement]

/-- The passes look for marks and write marks. -/
lemma markReplacements_marks :
    (markReplacements.all fun pass =>
      pass.1 != [] && (pass.1 ++ pass.2).all fun x => !x.isAlphanum) = true := by
  decide

/-- Letters and digits are kept, and none is added. -/
lemma mem_reduceMarks_iff {c : Char} (hc : c.isAlphanum = true) (w : List Char) :
    c ∈ reduceMarks w ↔ c ∈ w := by
  have hpasses : ∀ pass ∈ markReplacements, pass.1 ≠ [] ∧ c ∉ pass.1 ∧ c ∉ pass.2 := by
    intro pass hpass
    have hmarks := List.all_eq_true.mp markReplacements_marks pass hpass
    rw [Bool.and_eq_true, bne_iff_ne, List.all_eq_true] at hmarks
    have hnot : c ∉ pass.1 ++ pass.2 := fun hmem => by simpa [hc] using hmarks.2 c hmem
    rw [List.mem_append, not_or] at hnot
    exact ⟨hmarks.1, hnot⟩
  have hword : Text.isWordChar c = true := by rw [Text.isWordChar, hc, Bool.true_or]
  rw [reduceMarks, List.mem_filter, mem_foldl_replaceAll_iff hpasses]
  exact and_iff_left hword

lemma foldl_replaceAll_eq_self {passes : List (List Char × List Char)}
    (h : ∀ pass ∈ passes, ∃ x ∈ pass.1, x ∉ w) :
    passes.foldl (fun w pass => Text.replaceAll pass.1 pass.2 w) w = w := by
  induction passes with
  | nil => rfl
  | cons pass passes ih =>
    rw [List.forall_mem_cons] at h
    obtain ⟨⟨x, hx, hnot⟩, hrest⟩ := h
    rw [List.foldl_cons, Text.replaceAll_of_not_mem hx hnot, ih hrest]

/-- A text that no pass finds anything in loses what no identifier can hold. -/
lemma reduceMarks_eq_filter (h : ∀ pass ∈ markReplacements, ∃ x ∈ pass.1, x ∉ w) :
    reduceMarks w = w.filter Text.isWordChar := by
  rw [reduceMarks, foldl_replaceAll_eq_self h]

end Nomenclator.Word
