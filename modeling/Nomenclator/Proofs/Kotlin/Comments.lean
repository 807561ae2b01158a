import Nomenclator.Kotlin.Identifier
import Nomenclator.Proofs.Text.Pieces
import Nomenclator.Proofs.Word.Boundaries

/-!
# Broken comment delimiters

A text inside a comment must not end the comment or open another one.  Its delimiters are broken in
two passes, first the closing ones, then the opening ones.  Delimiters can overlap, as in `/*/`, and
the second pass goes over what the first has written.

It makes no difference.  A delimiter is a pair of neighbours, and the passes put one underscore
between the neighbours of every pair.  Pairs of one kind do not overlap, so a pass misses none of
its kind; and the underscores of the first pass are in no pair, so they leave the other kind
together and make no new pair.  What the passes do is said by a rule on neighbours (`parted`), which
has to do with each stretch of a text on its own if what stands between the stretches is in no
delimiter (`segments_parted`).
-/

namespace Nomenclator.Kotlin

variable {cs : List Char} {a b c : Char}

/-! ## Delimiters -/

/-- Whether two neighbours close a comment. -/
def closesComment (a b : Char) : Bool := a = '*' && b = '/'

/-- Whether two neighbours open a comment. -/
def opensComment (a b : Char) : Bool := a = '/' && b = '*'

/-- Whether two neighbours are a delimiter of comments. -/
def isDelimiter (a b : Char) : Bool := closesComment a b || opensComment a b

/-- Whether a text holds a delimiter of comments. -/
def HasDelimiter (cs : List Char) : Prop := ['*', '/'] <:+: cs ∨ ['/', '*'] <:+: cs

/-- A text with one underscore between the two characters of each delimiter, whether or not the
delimiters overlap. -/
def parted (cs : List Char) : List Char := Word.partBy (fun a b _ => isDelimiter a b) cs

/-- Whether a character is in no delimiter. -/
def isApart (c : Char) : Bool := c ≠ '*' && c ≠ '/'

lemma isDelimiter_iff : isDelimiter a b = true ↔ (a = '*' ∧ b = '/') ∨ (a = '/' ∧ b = '*') := by
  simp [isDelimiter, closesComment, opensComment]

lemma isDelimiter_of_isApart_left (h : isApart a = true) (b : Char) : isDelimiter a b = false := by
  simp only [isApart, Bool.and_eq_true, decide_eq_true_eq] at h
  simp [isDelimiter, closesComment, opensComment, h]

lemma isDelimiter_of_isApart_right (h : isApart b = true) (a : Char) : isDelimiter a b = false := by
  simp only [isApart, Bool.and_eq_true, decide_eq_true_eq] at h
  simp [isDelimiter, closesComment, opensComment, h]

/-- A text without delimiters, said of its neighbours. -/
lemma not_hasDelimiter_iff : ¬HasDelimiter cs ↔ cs.IsChain fun a b => isDelimiter a b = false := by
  rw [List.isChain_iff_forall_rel_of_append_cons_cons, HasDelimiter, not_or]
  constructor
  · rintro ⟨hclosing, hopening⟩ a b before behind rfl
    rw [← Bool.not_eq_true, isDelimiter_iff]
    rintro (⟨rfl, rfl⟩ | ⟨rfl, rfl⟩)
    · exact hclosing ⟨before, behind, by simp⟩
    · exact hopening ⟨before, behind, by simp⟩
  · intro hchain
    constructor
    · rintro ⟨before, behind, rfl⟩
      have hpair : isDelimiter '*' '/' = false := hchain (List.append_assoc before _ behind)
      exact absurd hpair (by decide)
    · rintro ⟨before, behind, rfl⟩
      have hpair : isDelimiter '/' '*' = false := hchain (List.append_assoc before _ behind)
      exact absurd hpair (by decide)

lemma not_hasDelimiter_cons_cons :
    ¬HasDelimiter (a :: b :: cs) ↔ isDelimiter a b = false ∧ ¬HasDelimiter (b :: cs) := by
  simp only [not_hasDelimiter_iff, List.isChain_cons_cons]

lemma not_hasDelimiter_cons (ha : isApart a = true) :
    ¬HasDelimiter (a :: cs) ↔ ¬HasDelimiter cs := by
  rw [not_hasDelimiter_iff, not_hasDelimiter_iff, List.isChain_cons]
  exact and_iff_right fun b _ => isDelimiter_of_isApart_left ha b

/-- A delimiter has a slash in it. -/
lemma not_hasDelimiter_of_not_mem (h : '/' ∉ cs) : ¬HasDelimiter cs := by
  rintro (hclosing | hopening)
  · exact h (hclosing.subset (by simp))
  · exact h (hopening.subset (by simp))

/-! ## Passes -/

/-- Replacing a pair of two different characters parts it, wherever it stands. -/
lemma replaceAll_pair (hne : a ≠ b) (cs : List Char) :
    Text.replaceAll [a, b] [a, '_', b] cs = Word.partBy (fun x y _ => x = a && y = b) cs := by
  fun_induction Word.partBy (fun x y _ => x = a && y = b) cs with
  | case1 => rfl
  | case2 x =>
    have hsingle : ¬[a, b].isPrefixOf [x] = true := by simp
    rw [Text.replaceAll_cons_of_not_isPrefixOf hsingle]
    rfl
  | case3 x y w ih =>
    rw [← ih]
    by_cases hpair : x = a ∧ y = b
    · -- the second character of the pair is the first of no other
      obtain ⟨rfl, rfl⟩ := hpair
      have hbehind : ¬[x, y].isPrefixOf (y :: w) = true := by simp [hne]
      have hreplaced : Text.replaceAll [x, y] [x, '_', y] (x :: y :: w)
          = x :: '_' :: y :: Text.replaceAll [x, y] [x, '_', y] w :=
        Text.replaceAll_pattern_append (List.cons_ne_nil x [y]) w
      rw [hreplaced, if_pos (by simp), Text.replaceAll_cons_of_not_isPrefixOf hbehind]
      rfl
    · have hnot : ¬(x = a && y = b) = true := by simpa using hpair
      have hstart : ¬[a, b].isPrefixOf (x :: y :: w) = true := by
        simpa [@eq_comm Char a, @eq_comm Char b] using hpair
      rw [Text.replaceAll_cons_of_not_isPrefixOf hstart, if_neg hnot, List.singleton_append]

lemma breakComments_eq_parted (cs : List Char) : breakComments cs = parted cs := by
  calc breakComments cs
      = Word.partBy (fun a b _ => opensComment a b)
          (Word.partBy (fun a b _ => closesComment a b) cs) := by
        rw [breakComments, replaceAll_pair (by decide), replaceAll_pair (by decide)]
        rfl
    _ = parted cs :=
        Word.partBy_pairs_partBy (by simp [opensComment]) (by simp [opensComment]) cs

/-! ## What is parted -/

/-- An underscore is in no delimiter, so no delimiter is left. -/
lemma not_hasDelimiter_parted (cs : List Char) : ¬HasDelimiter (parted cs) := by
  rw [parted]
  fun_induction Word.partBy (fun a b _ => isDelimiter a b) cs with
  | case1 => exact not_hasDelimiter_iff.mpr .nil
  | case2 a => exact not_hasDelimiter_iff.mpr (.singleton a)
  | case3 a b w ih =>
    obtain ⟨rest, hrest⟩ := Word.exists_partBy_cons (fun a b _ => isDelimiter a b) b w
    rw [hrest] at ih ⊢
    split <;> rename_i hpair
    · rw [List.cons_append, List.singleton_append, not_hasDelimiter_cons_cons,
        not_hasDelimiter_cons (by decide)]
      exact ⟨isDelimiter_of_isApart_right (by decide) a, ih⟩
    · rw [List.singleton_append, not_hasDelimiter_cons_cons]
      exact ⟨Bool.eq_false_iff.mpr hpair, ih⟩

/-- Where there is no delimiter, nothing is parted. -/
lemma parted_of_not_hasDelimiter (h : ¬HasDelimiter cs) : parted cs = cs := by
  rw [parted]
  fun_induction Word.partBy (fun a b _ => isDelimiter a b) cs with
  | case1 => rfl
  | case2 a => rfl
  | case3 a b w ih =>
    rw [not_hasDelimiter_cons_cons] at h
    rw [h.1, ih h.2]
    rfl

lemma mem_of_mem_parted (h : c ∈ parted cs) : c ∈ cs ∨ c = '_' := by
  rw [parted] at h
  fun_induction Word.partBy (fun a b _ => isDelimiter a b) cs with
  | case1 => exact Or.inl h
  | case2 a => exact Or.inl h
  | case3 a b w ih =>
    rcases List.mem_append.mp h with h | h
    · split at h
      · have hfirst : c = a ∨ c = '_' := by simpa using h
        exact hfirst.imp_left fun heq => List.mem_cons.mpr (Or.inl heq)
      · exact Or.inl (List.mem_cons.mpr (Or.inl (List.mem_singleton.mp h)))
    · exact (ih h).imp_left (List.mem_cons_of_mem a)

lemma mem_parted_of_mem (h : c ∈ cs) : c ∈ parted cs := by
  rw [parted]
  fun_induction Word.partBy (fun a b _ => isDelimiter a b) cs with
  | case1 => exact h
  | case2 a => exact h
  | case3 a b w ih =>
    rw [List.mem_append]
    rcases List.mem_cons.mp h with rfl | h
    · left
      split <;> simp
    · exact Or.inr (ih h)

/-! ## Separators -/

section Separators

variable {separator : Char} (hapart : isApart separator = true)

include hapart

lemma parted_append (before behind : List Char) :
    parted (before ++ separator :: behind) = parted before ++ separator :: parted behind := by
  have hseparator : parted (separator :: behind) = separator :: parted behind :=
    Word.partBy_cons (fun b _ => isDelimiter_of_isApart_left hapart b) behind
  induction before with
  | nil => exact hseparator
  | cons a before ih =>
    cases before with
    | nil =>
      rw [List.singleton_append, parted,
        Word.partBy_of_not_boundary (isDelimiter_of_isApart_right hapart a)]
      exact congrArg (a :: ·) hseparator
    | cons b before =>
      simp only [parted, List.cons_append, Word.partBy, List.append_assoc] at ih ⊢
      rw [ih]

lemma parted_intercalate (stretches : List (List Char)) :
    parted ([separator].intercalate stretches)
      = [separator].intercalate (stretches.map parted) := by
  induction stretches with
  | nil => rfl
  | cons stretch stretches ih =>
    cases stretches with
    | nil => simp
    | cons next stretches =>
      rw [List.map_cons] at ih
      rw [List.map_cons, List.map_cons, List.intercalate_cons_cons, List.intercalate_cons_cons,
        ← ih, List.append_assoc, List.append_assoc, List.singleton_append, List.singleton_append,
        parted_append hapart]

/-- Parting a text parts each of its stretches. -/
lemma segments_parted (hmark : separator ≠ '_') (cs : List Char) :
    Text.segments separator (parted cs) = (Text.segments separator cs).map parted := by
  have hne : (Text.segments separator cs).map parted ≠ [] := by simp [Text.segments_ne_nil]
  have hfree : ∀ stretch ∈ (Text.segments separator cs).map parted, separator ∉ stretch := by
    intro stretch hstretch hmem
    obtain ⟨x, hx, rfl⟩ := List.mem_map.mp hstretch
    exact (mem_of_mem_parted hmem).elim (Text.not_mem_of_mem_segments hx) hmark
  calc Text.segments separator (parted cs)
      = Text.segments separator
          (parted ([separator].intercalate (Text.segments separator cs))) := by
        rw [Text.intercalate_segments]
    _ = Text.segments separator
          ([separator].intercalate ((Text.segments separator cs).map parted)) := by
        rw [parted_intercalate hapart]
    _ = (Text.segments separator cs).map parted := Text.segments_intercalate hne hfree

/-- Stretches without delimiters make a text without delimiters. -/
lemma not_hasDelimiter_intercalate {stretches : List (List Char)}
    (h : ∀ stretch ∈ stretches, ¬HasDelimiter stretch) :
    ¬HasDelimiter ([separator].intercalate stretches) := by
  have hsame : stretches.map parted = stretches :=
    (List.map_congr_left fun stretch hstretch =>
      parted_of_not_hasDelimiter (h stretch hstretch)).trans (List.map_id stretches)
  rw [← hsame, ← parted_intercalate hapart]
  exact not_hasDelimiter_parted _

end Separators

/-! ## Broken delimiters -/

/-- Breaking the delimiters of a text puts one underscore into each of them, overlapping ones
included, and changes nothing else.  None is left, so it makes no difference to break them again,
and the texts that stay as they are are those without delimiters. -/
theorem breakComments_parts_delimiters (text : List Char) :
    breakComments text = parted text ∧ ¬HasDelimiter (breakComments text) ∧
    breakComments (breakComments text) = breakComments text ∧
    (breakComments text = text ↔ ¬HasDelimiter text) := by
  have hbroken : ¬HasDelimiter (parted text) := not_hasDelimiter_parted text
  simp only [breakComments_eq_parted]
  refine ⟨trivial, hbroken, parted_of_not_hasDelimiter hbroken, fun hsame => ?_,
    parted_of_not_hasDelimiter⟩
  rwa [hsame] at hbroken

example : breakComments "/*/ **// */*".toList = "/_*_/ **_// *_/_*".toList := by decide

end Nomenclator.Kotlin
