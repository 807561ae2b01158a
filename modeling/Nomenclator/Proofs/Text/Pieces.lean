import Nomenclator.Text.Pieces
import Mathlib.Tactic.Lemma

/-!
# Stretches between separators

A separator in a text parts its stretches into those before it and those behind it, and a text
without separators is one stretch.  So what stands behind the last separator can be read off a text
that is put together: it is the end of it, where that has no separator, whatever stands in front.

Stretches and joined texts determine each other, since `segments` splits a list the way
`List.splitOn` does.
-/

namespace Nomenclator.Text

lemma segments_of_not_mem {separator : Char} {cs : List Char} (h : separator ∉ cs) :
    segments separator cs = [cs] := by
  induction cs with
  | nil => rfl
  | cons c cs ih =>
    rw [List.mem_cons, not_or] at h
    rw [segments, if_neg (Ne.symm h.1), ih h.2]

lemma segments_cons_self (separator : Char) (cs : List Char) :
    segments separator (separator :: cs) = [] :: segments separator cs := by
  rw [segments, if_pos rfl]

lemma segments_ne_nil (separator : Char) (cs : List Char) : segments separator cs ≠ [] := by
  cases cs with
  | nil => simp [segments]
  | cons c cs =>
    unfold segments
    split
    · simp
    · split <;> simp

lemma segments_append (separator : Char) (before behind : List Char) :
    segments separator (before ++ separator :: behind)
      = segments separator before ++ segments separator behind := by
  induction before with
  | nil => simp [segments]
  | cons c cs ih =>
    rw [List.cons_append, segments, segments, ih]
    by_cases hc : c = separator
    · simp [hc]
    · -- the character joins the first stretch, which is one of those before the separator
      obtain ⟨first, rest, hfirst⟩ := List.exists_cons_of_ne_nil (segments_ne_nil separator cs)
      simp [hc, hfirst]

/-- A stretch has characters of the text, and the separator is not one of them. -/
lemma mem_of_mem_segments {separator x : Char} {cs stretch : List Char}
    (hstretch : stretch ∈ segments separator cs) (hx : x ∈ stretch) : x ∈ cs ∧ x ≠ separator := by
  induction cs generalizing stretch with
  | nil =>
    obtain rfl : stretch = [] := by simpa [segments] using hstretch
    exact absurd hx List.not_mem_nil
  | cons c cs ih =>
    have hbehind {stretch : List Char} (hstretch : stretch ∈ segments separator cs)
        (hx : x ∈ stretch) : x ∈ c :: cs ∧ x ≠ separator :=
      ⟨List.mem_cons_of_mem c (ih hstretch hx).1, (ih hstretch hx).2⟩
    obtain ⟨first, rest, hfirst⟩ := List.exists_cons_of_ne_nil (segments_ne_nil separator cs)
    rw [segments] at hstretch
    split at hstretch <;> rename_i hc
    · rcases List.mem_cons.mp hstretch with rfl | hstretch
      · exact absurd hx List.not_mem_nil
      · exact hbehind hstretch hx
    · -- the character belongs to the first stretch, the others are those of the rest
      simp only [hfirst, List.mem_cons] at hstretch
      rcases hstretch with rfl | hstretch
      · rcases List.mem_cons.mp hx with rfl | hx
        · exact ⟨List.mem_cons_self, hc⟩
        · exact hbehind (by simp [hfirst]) hx
      · exact hbehind (by simp [hfirst, hstretch]) hx

/-- What is put in front of a text without a separator joins its first stretch. -/
lemma segments_append_of_not_mem {separator : Char} {before : List Char} (h : separator ∉ before)
    (cs : List Char) :
    segments separator (before ++ cs) = (segments separator cs).modifyHead (before ++ ·) := by
  obtain ⟨first, rest, hfirst⟩ := List.exists_cons_of_ne_nil (segments_ne_nil separator cs)
  induction before with
  | nil => simp [hfirst]
  | cons c before ih =>
    rw [List.mem_cons, not_or] at h
    rw [List.cons_append, segments, if_neg (Ne.symm h.1), ih h.2, hfirst]
    rfl

lemma not_mem_of_mem_segments {separator : Char} {cs stretch : List Char}
    (h : stretch ∈ segments separator cs) : separator ∉ stretch :=
  fun hmem => (mem_of_mem_segments h hmem).2 rfl

/-! ## Splitting and joining -/

lemma segments_eq_splitOn (separator : Char) (cs : List Char) :
    segments separator cs = cs.splitOn separator := by
  induction cs with
  | nil => rfl
  | cons c cs ih =>
    rw [List.splitOn_eq_splitOnP, List.splitOnP_cons_eq_if_modifyHead, ← List.splitOn_eq_splitOnP,
      ← ih, segments]
    obtain ⟨first, rest, hfirst⟩ := List.exists_cons_of_ne_nil (segments_ne_nil separator cs)
    simp [hfirst]

lemma intercalate_segments (separator : Char) (cs : List Char) :
    [separator].intercalate (segments separator cs) = cs := by
  rw [segments_eq_splitOn, List.intercalate_splitOn]

lemma segments_intercalate {separator : Char} {stretches : List (List Char)}
    (hne : stretches ≠ []) (h : ∀ stretch ∈ stretches, separator ∉ stretch) :
    segments separator ([separator].intercalate stretches) = stretches := by
  rw [segments_eq_splitOn, List.splitOn_intercalate separator h hne]

/-! ## The last stretch -/

lemma lastSegment_of_not_mem {separator : Char} {cs : List Char} (h : separator ∉ cs) :
    lastSegment separator cs = cs := by
  rw [lastSegment, segments_of_not_mem h]
  rfl

lemma lastSegment_append {separator : Char} {behind : List Char} (h : separator ∉ behind)
    (before : List Char) : lastSegment separator (before ++ separator :: behind) = behind := by
  rw [lastSegment, segments_append, segments_of_not_mem h]
  simp

end Nomenclator.Text
