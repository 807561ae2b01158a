import Nomenclator.Files.Path
import Nomenclator.Proofs.Text.Pieces

/-!
# The text of a path

Reading a text as a path drops the parts that are empty or a single dot, and no part has a slash in
it.  A path with such parts only is normal; those that are read from texts are, and stay so when
they are joined.  A normal path can be told from its text: `ofText_toText`.
-/

namespace Nomenclator.Path

variable {part : String} {p q : Path}

/-- A part that a path keeps. -/
def IsPart (part : String) : Prop := isKept part.toList = true ∧ '/' ∉ part.toList

/-- A path of parts that are kept. -/
def IsNormal (p : Path) : Prop := ∀ part ∈ p.parts, IsPart part

/-- A part begins with a character that is no slash. -/
lemma IsPart.exists_cons (h : IsPart part) : ∃ c cs, part.toList = c :: cs ∧ c ≠ '/' := by
  obtain ⟨hkept, hslash⟩ := h
  cases hpart : part.toList with
  | nil =>
    rw [hpart] at hkept
    exact absurd hkept (by decide)
  | cons c cs =>
    rw [hpart, List.mem_cons, not_or] at hslash
    exact ⟨c, cs, rfl, Ne.symm hslash.1⟩

/-! ## Reading -/

/-- A root is read from its text. -/
lemma rootOf_append (root : Root) {c : Char} (hc : c ≠ '/') (cs : List Char) :
    rootOf ((rootText root).toList ++ c :: cs) = root := by
  cases root <;> simp [rootOf, rootText, hc]

lemma root_ofText_eq_relative_iff {s : String} :
    (ofText s).root = .relative ↔ s.toList.head? ≠ some '/' := by
  show rootOf s.toList = .relative ↔ _
  cases hs : s.toList with
  | nil => simp [rootOf]
  | cons c cs =>
    by_cases hc : c = '/'
    · have hslash : rootOf (c :: cs) ≠ .relative := by
        rw [rootOf, List.takeWhile_cons_of_pos (by simp [hc]), List.length_cons]
        split <;> simp_all
      exact iff_of_false hslash (by simp [hc])
    · simp [rootOf, hc]

lemma isNormal_ofText (s : String) : (ofText s).IsNormal := by
  intro part hpart
  obtain ⟨stretch, hstretch, rfl⟩ := List.mem_map.mp hpart
  obtain ⟨hmem, hkept⟩ := List.mem_filter.mp hstretch
  rw [IsPart, String.toList_ofList]
  exact ⟨hkept, Text.not_mem_of_mem_segments hmem⟩

lemma IsNormal.join (hp : p.IsNormal) (hq : q.IsNormal) : (p.join q).IsNormal := by
  rw [Path.join]
  split
  · exact fun part hpart => (List.mem_append.mp hpart).elim (hp part) (hq part)
  · exact hq

/-- A part is the only one of the path that it writes. -/
lemma ofText_of_isPart (h : IsPart part) :
    ofText part = { root := .relative, parts := [part] } := by
  obtain ⟨c, cs, hpart, hc⟩ := h.exists_cons
  have hroot : (ofText part).root = .relative := by
    rw [root_ofText_eq_relative_iff, hpart]
    simpa using hc
  have hparts : (ofText part).parts = [part] := by
    simp [ofText, Text.segments_of_not_mem h.2, h.1]
  rw [← hroot, ← hparts]

/-- Parts that are joined one after the other stand behind what they are joined to. -/
lemma foldl_join {parts : List String} (h : ∀ part ∈ parts, IsPart part) (base : Path) :
    parts.foldl (fun folder part => folder.join (ofText part)) base
      = { base with parts := base.parts ++ parts } := by
  induction parts generalizing base with
  | nil => simp
  | cons part rest ih =>
    obtain ⟨hpart, hrest⟩ := List.forall_mem_cons.mp h
    rw [List.foldl_cons, ofText_of_isPart hpart, join, if_pos rfl, ih hrest]
    simp

/-! ## Writing and reading -/

/-- The parts of a normal path, joined and read again; the slashes of a root stand in front of empty
parts. -/
lemma filter_segments_parts (hne : p.parts ≠ []) (h : p.IsNormal) (root : Root) :
    (Text.segments '/' ((rootText root).toList ++ ("/".intercalate p.parts).toList)).filter isKept
      = p.parts.map String.toList := by
  have hsegments : Text.segments '/' (['/'].intercalate (p.parts.map String.toList))
      = p.parts.map String.toList := by
    refine Text.segments_intercalate (by simpa using hne) fun stretch hstretch => ?_
    obtain ⟨part, hpart, rfl⟩ := List.mem_map.mp hstretch
    exact (h part hpart).2
  have hkept : (p.parts.map String.toList).filter isKept = p.parts.map String.toList := by
    rw [List.filter_eq_self, List.forall_mem_map]
    exact fun part hpart => (h part hpart).1
  have hempty : isKept [] = false := rfl
  cases root <;> simp [rootText, Text.segments_cons_self, hsegments, hkept, hempty]

/-- A normal path is the one that its text writes. -/
theorem ofText_toText (h : p.IsNormal) : ofText p.toText = p := by
  obtain ⟨root, parts⟩ := p
  cases parts with
  | nil => cases root <;> rfl
  | cons first rest =>
    have hne : first :: rest ≠ [] := List.cons_ne_nil first rest
    obtain ⟨c, cs, hfirst, hc⟩ := (h first List.mem_cons_self).exists_cons
    obtain ⟨behind, hjoined⟩ :
        ∃ behind, ("/".intercalate (first :: rest)).toList = c :: behind := by
      rw [String.toList_intercalate, List.map_cons, hfirst]
      cases rest with
      | nil => exact ⟨cs, by simp⟩
      | cons next rest => exact ⟨_, rfl⟩
    have htext : (toText ⟨root, first :: rest⟩).toList
        = (rootText root).toList ++ ("/".intercalate (first :: rest)).toList := by
      have hsome : rootText root ++ "/".intercalate (first :: rest) ≠ "" := by
        intro hempty
        have := congrArg String.toList hempty
        simp [String.toList_append, hjoined] at this
      simp only [toText, if_neg hsome, String.toList_append]
    have hroot : rootOf (toText ⟨root, first :: rest⟩).toList = root := by
      rw [htext, hjoined]
      exact rootOf_append root hc behind
    rw [ofText, hroot, htext, filter_segments_parts hne h root, List.map_map]
    simp

end Nomenclator.Path
