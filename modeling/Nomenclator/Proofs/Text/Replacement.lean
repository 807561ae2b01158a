import Nomenclator.Text.Pieces
import Mathlib.Data.List.Basic
import Mathlib.Tactic.Lemma

/-!
# What a replacement touches

Replacing a pattern takes away its occurrences and writes the replacement in their place.  So
characters that neither of the two has are kept, and a text that lacks a character of the pattern
stays as it is.  What stands behind an occurrence is scanned on its own, and a pattern of one
character is replaced character by character.
-/

namespace Nomenclator.Text

variable {pattern replacement : List Char}

/-- What belongs to a replaced occurrence is skipped. -/
lemma replaceFrom_append (skipped cs : List Char) :
    replaceFrom pattern replacement skipped.length (skipped ++ cs)
      = replaceFrom pattern replacement 0 cs := by
  induction skipped with
  | nil => rfl
  | cons c skipped ih => rw [List.length_cons, List.cons_append, replaceFrom, ih]

/-- An occurrence in front of a text is replaced, and the text behind it is scanned on its own. -/
lemma replaceAll_pattern_append (hne : pattern ≠ []) (cs : List Char) :
    replaceAll pattern replacement (pattern ++ cs)
      = replacement ++ replaceAll pattern replacement cs := by
  have hstart : pattern.isPrefixOf (pattern ++ cs) = true :=
    List.isPrefixOf_iff_prefix.mpr (List.prefix_append pattern cs)
  obtain ⟨p, rest, rfl⟩ := List.exists_cons_of_ne_nil hne
  rw [List.cons_append] at hstart ⊢
  rw [replaceAll, replaceFrom, if_pos hstart, List.length_cons, Nat.add_sub_cancel,
    replaceFrom_append, replaceAll]

/-- A character that begins no occurrence is kept. -/
lemma replaceAll_cons_of_not_isPrefixOf {c : Char} {cs : List Char}
    (h : ¬pattern.isPrefixOf (c :: cs) = true) :
    replaceAll pattern replacement (c :: cs) = c :: replaceAll pattern replacement cs := by
  rw [replaceAll, replaceFrom, if_neg h, replaceAll]

/-- A scan keeps what neither the pattern nor the replacement has, provided that the characters to
be skipped belong to the pattern. -/
lemma mem_replaceFrom_iff {x : Char} (hne : pattern ≠ []) (hpattern : x ∉ pattern)
    (hreplacement : x ∉ replacement) (skip : Nat) (cs : List Char)
    (hskip : ∀ c ∈ cs.take skip, c ∈ pattern) :
    x ∈ replaceFrom pattern replacement skip cs ↔ x ∈ cs := by
  induction cs generalizing skip with
  | nil => simp [replaceFrom]
  | cons c cs ih =>
    cases skip with
    | zero =>
      rw [replaceFrom]
      split <;> rename_i hfound
      · obtain ⟨p, rest, rfl⟩ := List.exists_cons_of_ne_nil hne
        have hbegins := List.isPrefixOf_iff_prefix.mp hfound
        obtain ⟨rfl, after, rfl⟩ := List.cons_prefix_cons.mp hbegins
        have hx : x ≠ p := fun heq => hpattern (heq ▸ List.mem_cons_self)
        have hrest : ∀ c ∈ (rest ++ after).take ((p :: rest).length - 1), c ∈ p :: rest := by
          simp only [List.length_cons, Nat.add_sub_cancel, List.take_left]
          exact fun c => List.mem_cons_of_mem p
        rw [List.mem_append, ih _ hrest, List.mem_cons]
        tauto
      · rw [List.mem_cons, List.mem_cons, ih 0 (by simp)]
    | succ skip =>
      rw [List.take_succ_cons, List.forall_mem_cons] at hskip
      have hx : x ≠ c := fun heq => hpattern (heq ▸ hskip.1)
      rw [replaceFrom, ih skip hskip.2, List.mem_cons]
      exact (or_iff_right hx).symm

lemma mem_replaceAll_iff {x : Char} (hne : pattern ≠ []) (hpattern : x ∉ pattern)
    (hreplacement : x ∉ replacement) (cs : List Char) :
    x ∈ replaceAll pattern replacement cs ↔ x ∈ cs :=
  mem_replaceFrom_iff hne hpattern hreplacement 0 cs (by simp)

/-- A text that lacks a character of the pattern has no occurrence of it. -/
lemma replaceAll_of_not_mem {x : Char} (hx : x ∈ pattern) {cs : List Char} (h : x ∉ cs) :
    replaceAll pattern replacement cs = cs := by
  induction cs with
  | nil => rfl
  | cons c cs ih =>
    have hstart : ¬pattern.isPrefixOf (c :: cs) = true := by
      intro hfound
      have hbegins := List.isPrefixOf_iff_prefix.mp hfound
      exact h (hbegins.subset hx)
    rw [replaceAll_cons_of_not_isPrefixOf hstart, ih fun hmem => h (List.mem_cons_of_mem c hmem)]

lemma replaceAll_singleton (x : Char) (replacement cs : List Char) :
    replaceAll [x] replacement cs = cs.flatMap fun c => if c = x then replacement else [c] := by
  rw [replaceAll]
  induction cs with
  | nil => rfl
  | cons c cs ih =>
    have hbegins : [x] <+: c :: cs ↔ c = x := List.singleton_prefix_cons_iff.trans eq_comm
    have hstart : [x].isPrefixOf (c :: cs) = true ↔ c = x :=
      List.isPrefixOf_iff_prefix.trans hbegins
    rw [replaceFrom, List.flatMap_cons, ← ih]
    simp only [hstart, List.length_singleton, Nat.sub_self]
    split <;> rfl

end Nomenclator.Text
