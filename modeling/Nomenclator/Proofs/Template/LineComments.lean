import Nomenclator.Template.Filter
import Nomenclator.Proofs.Kotlin.Comments
import Nomenclator.Proofs.Text.Lines

/-!
# Descriptions in comments

A template puts a text into a comment by two filters: the first breaks the delimiters of comments,
the second writes a marker in front of each line that is not blank.  No delimiter is left then, and
the marker makes none, since a space stands behind it.

But the second filter parts a text at its line feeds only, and a line of the comment ends at a
carriage return as well.  So what stands behind a carriage return stands outside of the comment,
unless a line feed follows directly, or there is nothing but white space, or the text has a marker
of its own there: `covered_comment_iff`.
-/

namespace Nomenclator.Template.Filter

variable {line : List Char}

/-- The default marker. -/
def slashes : List Char := ['/', '/']

/-- A line that is blank or a comment. -/
def IsCovered (line : List Char) : Prop := Text.isBlank line = true ∨ slashes <+: line

lemma isCovered_nil : IsCovered [] := Or.inl rfl

/-! ## Lines behind markers -/

lemma isBlank_of_mem_segments {separator : Char} {stretch : List Char}
    (h : Text.isBlank line = true) (hstretch : stretch ∈ Text.segments separator line) :
    Text.isBlank stretch = true := by
  rw [Text.isBlank, List.all_eq_true] at h ⊢
  exact fun c hc => h c (Text.mem_of_mem_segments hstretch hc).1

/-- A marker in one line comes in front of the lines of a text, and parts none of them. -/
lemma segments_commentLines {marker : List Char} (hmarker : '\n' ∉ marker) (cs : List Char) :
    Text.segments '\n' (Text.commentLines marker cs)
      = (Text.segments '\n' cs).map (Text.commentLine marker) := by
  rw [Text.commentLines, Text.segments_intercalate (by simp [Text.segments_ne_nil])]
  rintro stretch hstretch
  obtain ⟨line, hline, rfl⟩ := List.mem_map.mp hstretch
  have hfeed : '\n' ∉ line := Text.not_mem_of_mem_segments hline
  rw [Text.commentLine]
  split
  · exact hfeed
  · simp [hmarker, hfeed]

lemma commentLines_of_isBlank (marker : List Char) {cs : List Char}
    (h : Text.isBlank cs = true) : Text.commentLines marker cs = cs := by
  have hsame : (Text.segments '\n' cs).map (Text.commentLine marker) = Text.segments '\n' cs := by
    refine (List.map_congr_left fun line hline => ?_).trans (List.map_id _)
    rw [Text.commentLine, if_pos (isBlank_of_mem_segments h hline)]
    rfl
  rw [Text.commentLines, hsame, Text.intercalate_segments]

lemma breakComments_apply (g : Kotlin.Generator) (s : String) :
    breakComments.apply g [{ datum := .ofText s }] = .ok (onText Kotlin.breakComments s) :=
  rfl

lemma commented_defaultMarker (s : String) :
    commented defaultMarker s = .ok (onText (Text.commentLines slashes) s) := by
  rw [commented]
  split <;> rename_i hblank
  · rw [onText, commentLines_of_isBlank slashes hblank, String.ofList_toList]
  · rfl

/-- With the default marker, a text is put into a comment line by line. -/
lemma comment_apply (g : Kotlin.Generator) (s : String) :
    comment.apply g [{ datum := .ofText s }] = .ok (onText (Text.commentLines slashes) s) :=
  commented_defaultMarker s

/-- Of a line behind the marker, the first piece is covered in any case. -/
lemma covered_commentLine_iff (line : List Char) :
    (∀ piece ∈ Text.segments '\r' (Text.commentLine slashes line), IsCovered piece) ↔
      ∀ piece ∈ (Text.segments '\r' line).tail, IsCovered piece := by
  rw [Text.commentLine]
  split <;> rename_i hblank
  · have hpieces : ∀ piece ∈ Text.segments '\r' line, IsCovered piece := fun piece hpiece =>
      Or.inl (isBlank_of_mem_segments hblank hpiece)
    exact iff_of_true hpieces fun piece hpiece => hpieces piece (List.mem_of_mem_tail hpiece)
  · obtain ⟨first, rest, hfirst⟩ :=
      List.exists_cons_of_ne_nil (Text.segments_ne_nil '\r' line)
    have hreturn : '\r' ∉ slashes ++ [' '] := by decide
    have hcovered : IsCovered (slashes ++ [' '] ++ first) :=
      Or.inr ⟨' ' :: first, by simp⟩
    rw [← List.singleton_append, ← List.append_assoc, Text.segments_append_of_not_mem hreturn,
      hfirst, List.modifyHead_cons, List.forall_mem_cons, List.tail_cons]
    exact and_iff_right hcovered

/-! ## Behind broken delimiters -/

lemma isBlank_parted_iff :
    Text.isBlank (Kotlin.parted line) = true ↔ Text.isBlank line = true := by
  constructor
  · intro hblank
    rw [Text.isBlank, List.all_eq_true] at hblank ⊢
    exact fun c hc => hblank c (Kotlin.mem_parted_of_mem hc)
  · intro hblank
    have hslash : '/' ∉ line := by
      rw [Text.isBlank, List.all_eq_true] at hblank
      exact fun hmem => absurd (hblank '/' hmem) (by decide)
    rwa [Kotlin.parted_of_not_hasDelimiter (Kotlin.not_hasDelimiter_of_not_mem hslash)]

/-- Two slashes are no delimiter, and an underscore is no slash. -/
lemma slashes_prefix_parted_iff : slashes <+: Kotlin.parted line ↔ slashes <+: line := by
  rcases line with _ | ⟨a, _ | ⟨b, w⟩⟩
  · exact Iff.rfl
  · exact Iff.rfl
  · obtain ⟨rest, hrest⟩ :=
      Word.exists_partBy_cons (fun a b _ => Kotlin.isDelimiter a b) b w
    rw [Kotlin.parted, Word.partBy, hrest]
    split <;> rename_i hpair
    · have hb : ¬('/' = a ∧ '/' = b) := by
        rintro ⟨rfl, rfl⟩
        exact absurd hpair (by decide)
      simpa [slashes] using hb
    · simp [slashes]

lemma isCovered_parted_iff : IsCovered (Kotlin.parted line) ↔ IsCovered line :=
  or_congr isBlank_parted_iff slashes_prefix_parted_iff

/-- A space stands between the marker and the line. -/
lemma not_hasDelimiter_commentLines (cs : List Char) :
    ¬Kotlin.HasDelimiter (Text.commentLines slashes (Kotlin.parted cs)) := by
  rw [Text.commentLines, Kotlin.segments_parted (by decide) (by decide)]
  refine Kotlin.not_hasDelimiter_intercalate (by decide) ?_
  simp only [List.forall_mem_map]
  intro stretch _
  have hstretch := Kotlin.not_hasDelimiter_parted stretch
  rw [Text.commentLine]
  split
  · exact hstretch
  · rw [slashes, List.cons_append, List.singleton_append, Kotlin.not_hasDelimiter_cons_cons,
      Kotlin.not_hasDelimiter_cons_cons, Kotlin.not_hasDelimiter_cons (by decide)]
    exact ⟨by decide, by decide, hstretch⟩

/-- A text that has gone through both filters has no delimiter of comments in it.  All its lines are
blank or comments if and only if what the text has behind the carriage returns of a line is blank
or a comment by itself; nothing stands there where a line feed follows at once. -/
theorem covered_comment_iff (g : Kotlin.Generator) (s : String) :
    ∃ broken result,
      breakComments.apply g [{ datum := .ofText s }] = .ok broken ∧
      comment.apply g [{ datum := .ofText broken }] = .ok result ∧
      ¬Kotlin.HasDelimiter result.toList ∧
      ((∀ line ∈ Text.lines result.toList, IsCovered line) ↔
        ∀ line ∈ Text.segments '\n' s.toList, ∀ piece ∈ (Text.segments '\r' line).tail,
          IsCovered piece) := by
  have hresult : (onText (Text.commentLines slashes) (onText Kotlin.breakComments s)).toList
      = Text.commentLines slashes (Kotlin.parted s.toList) := by
    simp only [onText, String.toList_ofList, Kotlin.breakComments_eq_parted]
  refine ⟨_, _, breakComments_apply g s, comment_apply g _, ?_, ?_⟩
  · rw [hresult]
    exact not_hasDelimiter_commentLines s.toList
  · rw [hresult, Text.forall_mem_lines_iff isCovered_nil, segments_commentLines (by decide),
      List.forall_mem_map, Kotlin.segments_parted (by decide) (by decide), List.forall_mem_map]
    refine forall₂_congr fun line _ => ?_
    rw [covered_commentLine_iff, Kotlin.segments_parted (by decide) (by decide), ← List.map_tail,
      List.forall_mem_map]
    exact forall₂_congr fun piece _ => isCovered_parted_iff

/-- Not every line of a comment is covered: a carriage return ends the line, and no marker stands
behind it. -/
theorem line_behind_return_not_covered :
    ¬∀ (g : Kotlin.Generator) (s broken result : String),
      breakComments.apply g [{ datum := .ofText s }] = .ok broken →
      comment.apply g [{ datum := .ofText broken }] = .ok result →
      ∀ line ∈ Text.lines result.toList, IsCovered line := by
  intro hall
  have hlines := hall (.ofSettings {}) "a\rb" "a\rb" "// a\rb" (by decide) (by decide) ['b']
    (by decide)
  rcases hlines with hblank | hmarked
  · exact absurd hblank (by decide)
  · exact absurd hmarked (by decide)

end Nomenclator.Template.Filter
