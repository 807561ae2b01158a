import Nomenclator.Proofs.Text.Pieces

/-!
# Lines

A line ends at a line feed or at a carriage return, and the two together are one end.  Splitting a
text at its line feeds and each stretch at its carriage returns finds the same lines, with an empty
one more for each end of two characters.  So a property that the empty line has holds of all lines
if it holds of all these pieces: `forall_mem_lines_iff`.
-/

namespace Nomenclator.Text

variable {c : Char}

/-- Whether a character ends a line. -/
def isLineEnd (c : Char) : Bool := c = '\n' || c = '\r'

/-- The lines of a text. -/
def lines (cs : List Char) : List (List Char) := segments '\n' (unifyLineEnds cs)

/-- The stretches between line feeds, split at the carriage returns in them. -/
def linePieces (cs : List Char) : List (List Char) := (segments '\n' cs).flatMap (segments '\r')

lemma linePieces_of_isLineEnd (hc : isLineEnd c = true) (cs : List Char) :
    linePieces (c :: cs) = [] :: linePieces cs := by
  rw [isLineEnd, Bool.or_eq_true, decide_eq_true_eq, decide_eq_true_eq] at hc
  rcases hc with rfl | rfl
  · simp [linePieces, segments]
  · obtain ⟨stretch, rest, hstretch⟩ := List.exists_cons_of_ne_nil (segments_ne_nil '\n' cs)
    simp [linePieces, segments, hstretch]

lemma linePieces_of_not_isLineEnd (hc : isLineEnd c = false) (cs : List Char) :
    linePieces (c :: cs) = (linePieces cs).modifyHead (c :: ·) := by
  obtain ⟨stretch, rest, hstretch⟩ := List.exists_cons_of_ne_nil (segments_ne_nil '\n' cs)
  obtain ⟨piece, more, hpiece⟩ := List.exists_cons_of_ne_nil (segments_ne_nil '\r' stretch)
  simp only [isLineEnd, Bool.or_eq_false_iff, decide_eq_false_iff_not] at hc
  simp [linePieces, segments, hc.1, hc.2, hstretch, hpiece]

/-- Lines and pieces begin with the same one, and those behind it are the same but for empty ones.
-/
lemma exists_lines (cs : List Char) :
    ∃ first rest more, lines cs = first :: rest ∧ linePieces cs = first :: more ∧
      ∀ line, line ≠ [] → (line ∈ rest ↔ line ∈ more) := by
  rw [lines]
  fun_induction unifyLineEnds cs with
  | case1 cs ih =>
    obtain ⟨first, rest, more, hlines, hpieces, hsame⟩ := ih
    refine ⟨[], first :: rest, [] :: first :: more, ?_, ?_, fun line hline => ?_⟩
    · rw [segments_cons_self, hlines]
    · rw [linePieces_of_isLineEnd rfl, linePieces_of_isLineEnd rfl, hpieces]
    · simp [hline, hsame line hline]
  | case2 cs hnext ih =>
    obtain ⟨first, rest, more, hlines, hpieces, hsame⟩ := ih
    refine ⟨[], first :: rest, first :: more, ?_, ?_, fun line hline => ?_⟩
    · rw [segments_cons_self, hlines]
    · rw [linePieces_of_isLineEnd rfl, hpieces]
    · simp [hsame line hline]
  | case3 c cs hpair hreturn ih =>
    obtain ⟨first, rest, more, hlines, hpieces, hsame⟩ := ih
    by_cases hfeed : c = '\n'
    · subst hfeed
      refine ⟨[], first :: rest, first :: more, ?_, ?_, fun line hline => ?_⟩
      · rw [segments_cons_self, hlines]
      · rw [linePieces_of_isLineEnd rfl, hpieces]
      · simp [hsame line hline]
    · have hc : isLineEnd c = false := by simpa [isLineEnd, hfeed] using hreturn
      refine ⟨c :: first, rest, more, ?_, ?_, hsame⟩
      · rw [segments, if_neg hfeed, hlines]
      · rw [linePieces_of_not_isLineEnd hc, hpieces]
        rfl
  | case4 => exact ⟨[], [], [], rfl, rfl, fun _ _ => Iff.rfl⟩

/-- What holds of the empty line holds of all lines if it does of all pieces. -/
lemma forall_mem_lines_iff {P : List Char → Prop} (hempty : P []) (cs : List Char) :
    (∀ line ∈ lines cs, P line) ↔
      ∀ stretch ∈ segments '\n' cs, ∀ piece ∈ segments '\r' stretch, P piece := by
  obtain ⟨first, rest, more, hlines, hpieces, hsame⟩ := exists_lines cs
  have hrest : (∀ line ∈ rest, P line) ↔ ∀ line ∈ more, P line := by
    refine forall_congr' fun line => ?_
    by_cases hline : line = []
    · simp [hline, hempty]
    · rw [hsame line hline]
  rw [hlines, List.forall_mem_cons, hrest, ← List.forall_mem_cons (p := P), ← hpieces, linePieces,
    List.forall_mem_flatMap]

end Nomenclator.Text
