import Mathlib
import Nomenclator.Proofs.Text.Small

/-!
# Capital and small forms have no marks

Casing reads underscores, hyphens, dots, slashes and line ends as marks.  No letter turns into a
mark by being raised or lowered: such a form contains a mark only if it is the form of that mark,
which is the mark itself.  So a step that raises a character neither makes new marks nor takes any
away.

Within ASCII this is checked on each character.  Beyond ASCII it is checked on the tables: the
characters of an expansion are looked at one by one, and a run of mappings is looked at by its first
target, since a run whose targets begin beyond ASCII stays there.
-/

namespace Nomenclator.Text

/-- Only letters have another case. -/
lemma toUpper_eq_iff {c x : Char} (hx : x.isAlpha = false) : c.toUpper = x ↔ c = x := by
  by_cases hc : c.isAlpha
  · have hupper : c.toUpper ≠ x := by
      rintro rfl
      simp [hc] at hx
    have hself : c ≠ x := by
      rintro rfl
      simp [hc] at hx
    exact iff_of_false hupper hself
  · have hlower : ¬c.isLower := fun h => hc (by simp [Char.isAlpha, h])
    rw [Char.toUpper_eq_of_not_isLower hlower]

lemma toLower_eq_iff {c x : Char} (hx : x.isAlpha = false) : c.toLower = x ↔ c = x := by
  by_cases hc : c.isAlpha
  · have hlower : c.toLower ≠ x := by
      rintro rfl
      simp [hc] at hx
    have hself : c ≠ x := by
      rintro rfl
      simp [hc] at hx
    exact iff_of_false hlower hself
  · have hupper : ¬c.isUpper := fun h => hc (by simp [Char.isAlpha, h])
    rw [Char.toLower_eq_of_not_isUpper hupper]

/-- The characters that casing gives a meaning of their own. -/
def marks : List Char := ['_', '-', '.', '/', '\n']

lemma ascii_of_mem_marks {x : Char} (hx : x ∈ marks) : x.toNat < 128 := by
  have hall : (marks.all fun x => x.toNat < 128) = true := by decide
  exact of_decide_eq_true (List.all_eq_true.mp hall x hx)

lemma isAlpha_of_mem_marks {x : Char} (hx : x ∈ marks) : x.isAlpha = false := by
  have hall : (marks.all fun x => !x.isAlpha) = true := by decide
  exact Bool.not_eq_true' _ ▸ List.all_eq_true.mp hall x hx

lemma upperChar_of_mem_marks {x : Char} (hx : x ∈ marks) : upperChar x = [x] := by
  have hall : (marks.all fun x => upperChar x = [x]) = true := by decide
  exact of_decide_eq_true (List.all_eq_true.mp hall x hx)

lemma lowerChar_of_mem_marks {x : Char} (hx : x ∈ marks) : lowerChar x = [x] := by
  have hall : (marks.all fun x => lowerChar x = [x]) = true := by decide
  exact of_decide_eq_true (List.all_eq_true.mp hall x hx)

/-- A code point beyond ASCII is not that of a mark. -/
lemma ofNat_not_mem_marks {n : Nat} (hn : 128 ≤ n) : Char.ofNat n ∉ marks := by
  intro hmem
  by_cases hvalid : n.isValidChar
  · have hself : (Char.ofNat n).toNat = n := by
      rw [Char.ofNat, dif_pos hvalid]
      rfl
    have hascii := ascii_of_mem_marks hmem
    omega
  · rw [show Char.ofNat n = '\x00' from dif_neg hvalid] at hmem
    exact absurd hmem (by decide)

/-- Whether a table of expansions has no marks in it. -/
def expansionsAvoidMarks (expansions : List (Nat × List Nat)) : Bool :=
  expansions.all fun entry => entry.2.all fun n => Char.ofNat n ∉ marks

/-- Whether a table of runs leads to no marks. -/
def runsAvoidMarks (runs : List CaseRun) : Bool :=
  runs.all fun r => 128 ≤ r.target || (r.last = r.first && Char.ofNat r.target ∉ marks)

lemma CaseRun.image?_not_mem_marks {r : CaseRun} {n m : Nat} (h : r.image? n = some m)
    (hr : 128 ≤ r.target ∨ r.last = r.first ∧ Char.ofNat r.target ∉ marks) :
    Char.ofNat m ∉ marks := by
  obtain ⟨-, hlast, -, rfl⟩ := CaseRun.image?_eq_some h
  rcases hr with hbeyond | ⟨hone, hmark⟩
  · exact ofNat_not_mem_marks (by omega)
  · rwa [show r.target + (n - r.first) = r.target by omega]

/-- Tables without marks map no character beyond ASCII to one. -/
lemma not_mem_mapCase {expansions : List (Nat × List Nat)} {runs : List CaseRun}
    (hexpansions : expansionsAvoidMarks expansions = true) (hruns : runsAvoidMarks runs = true)
    {c x : Char} (hc : ¬c.toNat < 128) (hx : x ∈ marks) : x ∉ mapCase expansions runs c := by
  intro hmem
  unfold mapCase at hmem
  split at hmem
  · rename_i ns hexpand
    obtain ⟨before, after, hsplit, -⟩ := List.lookup_eq_some_iff.mp hexpand
    obtain ⟨n, hn, rfl⟩ := List.mem_map.mp hmem
    have hentry := List.all_eq_true.mp hexpansions (c.toNat, ns) (by simp [hsplit])
    have havoid := List.all_eq_true.mp hentry n hn
    exact absurd hx (by simpa using havoid)
  · split at hmem <;> rename_i hrun
    · obtain ⟨r, hr, himage⟩ := List.exists_of_findSome?_eq_some hrun
      have havoid := List.all_eq_true.mp hruns r hr
      rw [List.mem_singleton] at hmem
      exact CaseRun.image?_not_mem_marks himage (by simpa using havoid) (hmem ▸ hx)
    · rw [List.mem_singleton] at hmem
      exact hc (hmem ▸ ascii_of_mem_marks hx)

lemma upperTables_avoidMarks :
    expansionsAvoidMarks upperExpansions = true ∧ runsAvoidMarks upperRuns = true := by
  decide +kernel

lemma lowerTables_avoidMarks :
    expansionsAvoidMarks lowerExpansions = true ∧ runsAvoidMarks lowerRuns = true := by
  decide +kernel

/-- A form that is another one character within ASCII, and is looked up in tables without marks
beyond it, contains a mark only where that is the other character. -/
lemma mem_form_iff {expansions : List (Nat × List Nat)} {runs : List CaseRun}
    (htables : expansionsAvoidMarks expansions = true ∧ runsAvoidMarks runs = true)
    {single : Char → Char} {c x : Char} (hx : x ∈ marks) (hsingle : single c = x ↔ c = x) :
    x ∈ (if c.toNat < 128 then [single c] else mapCase expansions runs c) ↔ c = x := by
  split <;> rename_i hc
  · rw [List.mem_singleton, eq_comm, hsingle]
  · refine iff_of_false (not_mem_mapCase htables.1 htables.2 hc hx) ?_
    rintro rfl
    exact hc (ascii_of_mem_marks hx)

/-- A capital form contains a mark only where it is that of the mark. -/
lemma mem_upperChar_iff {c x : Char} (hx : x ∈ marks) : x ∈ upperChar c ↔ c = x :=
  mem_form_iff upperTables_avoidMarks hx (toUpper_eq_iff (isAlpha_of_mem_marks hx))

/-- A small form contains a mark only where it is that of the mark. -/
lemma mem_lowerChar_iff {c x : Char} (hx : x ∈ marks) : x ∈ lowerChar c ↔ c = x :=
  mem_form_iff lowerTables_avoidMarks hx (toLower_eq_iff (isAlpha_of_mem_marks hx))

end Nomenclator.Text
