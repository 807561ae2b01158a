import Nomenclator.Proofs.Text.Replacement
import Nomenclator.Proofs.Word.SnakeCase

/-!
# Boundaries inside a word

Snake case finds the boundaries of a word in two passes.  The first collects runs of capitals and
parts each from the capital that begins a small word; the second goes in pairs, over what the first
has written.  A run can be of any length, what is collected is not looked at again, and the second
pass sees underscores that were not in the word.

None of this matters.  Whether two neighbours are parted can be told from the two of them and the
character behind them (`isBoundary`), and the passes together put one underscore at each boundary:

* all but the last of a run are in front of a capital, so no small letter is behind the next one,
  and the only boundary of a run is in front of its last capital;
* the capital behind a boundary of the second pass is neither a small letter nor a digit, so no
  boundary begins with a character that a pair has used up;
* an underscore of the first pass is no capital, no small letter and no digit, and the capitals on
  either side of it are no boundary for the second pass.
-/

namespace Nomenclator.Word

variable {a b c : Char} {w : Word}

/-! ## Local rules -/

/-- The word with an underscore between neighbours wherever a rule says so, which sees the two
characters and what stands behind them. -/
def partBy (rule : Char → Char → Word → Bool) : Word → Word
  | [] => []
  | [a] => [a]
  | a :: b :: w => (if rule a b w then [a, '_'] else [a]) ++ partBy rule (b :: w)

/-- A capital in front of a capital that begins a small word. -/
def endsRun (a b : Char) (behind : Word) : Bool :=
  a.isUpper && b.isUpper && behind.head?.any Char.isLower

/-- A small letter or a digit in front of a capital. -/
def meetsCapital (a b : Char) : Bool := (a.isLower || a.isDigit) && b.isUpper

/-- Whether a word is parted between two neighbours. -/
def isBoundary (a b : Char) (behind : Word) : Bool := endsRun a b behind || meetsCapital a b

section

variable {rule : Char → Char → Word → Bool}

lemma partBy_of_boundary (h : rule a b w = true) :
    partBy rule (a :: b :: w) = a :: '_' :: partBy rule (b :: w) := by
  simp [partBy, h]

lemma partBy_of_not_boundary (h : rule a b w = false) :
    partBy rule (a :: b :: w) = a :: partBy rule (b :: w) := by
  simp [partBy, h]

/-- No underscore is put in front of a word. -/
lemma exists_partBy_cons (rule : Char → Char → Word → Bool) (a : Char) (w : Word) :
    ∃ rest, partBy rule (a :: w) = a :: rest := by
  cases w with
  | nil => exact ⟨[], rfl⟩
  | cons b w =>
    rw [partBy]
    split
    · exact ⟨_, rfl⟩
    · exact ⟨_, rfl⟩

/-- A character that no rule parts from the next one. -/
lemma partBy_cons (h : ∀ b behind, rule a b behind = false) (w : Word) :
    partBy rule (a :: w) = a :: partBy rule w := by
  cases w with
  | nil => rfl
  | cons b w => exact partBy_of_not_boundary (h b w)

/-- Parting between pairs of neighbours what a rule has parted already comes to parting it once, if
an underscore is in no pair. -/
lemma partBy_pairs_partBy {pairs : Char → Char → Bool} (hbefore : ∀ a, pairs a '_' = false)
    (hbehind : ∀ b, pairs '_' b = false) (w : Word) :
    partBy (fun a b _ => pairs a b) (partBy rule w)
      = partBy (fun a b behind => rule a b behind || pairs a b) w := by
  fun_induction partBy rule w with
  | case1 => rfl
  | case2 a => rfl
  | case3 a b w ih =>
    obtain ⟨rest, hrest⟩ := exists_partBy_cons rule b w
    rw [hrest] at ih ⊢
    cases hrule : rule a b w with
    | true =>
      have hboth : (rule a b w || pairs a b) = true := by simp [hrule]
      rw [if_pos rfl, List.cons_append, List.singleton_append, partBy_of_not_boundary (hbefore a),
        partBy_cons fun b _ => hbehind b, ih, partBy_of_boundary hboth]
    | false =>
      rw [if_neg (by decide), List.singleton_append, partBy, ih, partBy, hrule, Bool.false_or]

end

/-! ## The pass over runs -/

lemma isLower_eq_false_of_isUpper (h : a.isUpper = true) : a.isLower = false :=
  Bool.eq_false_iff.mpr (Char.not_isLower_of_isUpper h)

lemma isDigit_eq_false_of_isUpper (h : a.isUpper = true) : a.isDigit = false :=
  isDigit_eq_false_of_isAlpha (by simp [Char.isAlpha, h])

/-- The only boundary of a run is in front of its last capital. -/
lemma partBy_endsRun_run {run : Word} (hrun : ∀ x ∈ run, x.isUpper = true) (ha : a.isUpper = true)
    (hc : c.isUpper = false) (w : Word) :
    partBy endsRun (run ++ a :: c :: w) =
      run ++ (if c.isLower && !run.isEmpty then ['_', a] else [a]) ++ partBy endsRun (c :: w) := by
  induction run with
  | nil => simp [partBy, endsRun, hc]
  | cons x run ih =>
    rw [List.forall_mem_cons] at hrun
    cases run with
    | nil => cases hlower : c.isLower <;> simp [partBy, endsRun, hrun.1, ha, hc, hlower]
    | cons y run =>
      -- behind the second capital stands a third
      have hnot : endsRun x y (run ++ a :: c :: w) = false := by
        have hbehind : (run ++ a :: c :: w).head?.any Char.isLower = false := by
          cases run with
          | nil => simp [isLower_eq_false_of_isUpper ha]
          | cons z run =>
            have hz : z.isUpper = true := hrun.2 z (by simp)
            simp [isLower_eq_false_of_isUpper hz]
        rw [endsRun, hbehind, Bool.and_false]
      rw [List.cons_append, List.cons_append, partBy_of_not_boundary hnot, ← List.cons_append,
        ih hrun.2]
      rfl

/-- A word of capitals has no boundary. -/
lemma partBy_endsRun_of_capitals (h : ∀ x ∈ w, x.isUpper = true) : partBy endsRun w = w := by
  fun_induction partBy endsRun w with
  | case1 => rfl
  | case2 a => rfl
  | case3 a b w ih =>
    have hbehind : w.head?.any Char.isLower = false := by
      cases w with
      | nil => rfl
      | cons x w => simp [isLower_eq_false_of_isUpper (h x (by simp))]
    have hnot : endsRun a b w = false := by rw [endsRun, hbehind, Bool.and_false]
    rw [hnot, ih fun x hx => h x (List.mem_cons_of_mem a hx)]
    rfl

/-- The first pass goes by its rule, whatever run it has collected. -/
lemma partRuns_eq_partBy {run : List Char} (hrun : ∀ x ∈ run, x.isUpper = true) (w : Word) :
    partRuns run w = partBy endsRun (run.reverse ++ w) := by
  induction w generalizing run with
  | nil =>
    have hcapitals : ∀ x ∈ run.reverse, x.isUpper = true := by simpa using hrun
    rw [partRuns, List.append_nil, partBy_endsRun_of_capitals hcapitals]
  | cons c w ih =>
    rw [partRuns_cons]
    split <;> rename_i hc
    · rw [ih (List.forall_mem_cons.mpr ⟨hc, hrun⟩), List.reverse_cons, List.append_assoc,
        List.singleton_append]
    · have hc : c.isUpper = false := Bool.eq_false_iff.mpr hc
      have hrest : partBy endsRun (c :: w) = c :: partRuns [] w := by
        rw [ih (by simp), List.reverse_nil, List.nil_append]
        exact partBy_cons (fun b behind => by simp [endsRun, hc]) w
      rcases run with _ | ⟨last, before⟩
      · exact hrest.symm
      · rw [List.forall_mem_cons] at hrun
        have hcapitals : ∀ x ∈ before.reverse, x.isUpper = true := by simpa using hrun.2
        rw [List.reverse_cons, List.append_assoc, List.singleton_append,
          partBy_endsRun_run hcapitals hrun.1 hc, hrest]
        cases before with
        | nil => simp [endRun]
        | cons first more => cases hlower : c.isLower <;> simp [endRun, hlower]

/-! ## The pass over pairs -/

/-- The second pass goes by its rule: the capital of a pair is the first of no other. -/
lemma partCapitals_eq_partBy (w : Word) :
    partCapitals w = partBy (fun a b _ => meetsCapital a b) w := by
  fun_induction partCapitals w with
  | case1 a b w hboundary ih =>
    have hupper : b.isUpper = true := (Bool.and_eq_true _ _ ▸ hboundary).2
    have hnot : ∀ c : Char, ∀ _ : Word, meetsCapital b c = false := by
      simp [meetsCapital, isLower_eq_false_of_isUpper hupper, isDigit_eq_false_of_isUpper hupper]
    rw [partBy_of_boundary hboundary, partBy_cons hnot, ih]
  | case2 a b w hboundary ih =>
    rw [partBy_of_not_boundary (Bool.eq_false_iff.mpr hboundary), ih]
  | case3 w hshort =>
    rcases w with _ | ⟨a, _ | ⟨b, w⟩⟩
    · rfl
    · rfl
    · exact absurd rfl (hshort a b w)

/-! ## Both passes -/

/-- The second pass finds in what the first has written the boundaries that it finds in the word. -/
lemma partBy_partBy (w : Word) :
    partBy (fun a b _ => meetsCapital a b) (partBy endsRun w) = partBy isBoundary w :=
  partBy_pairs_partBy (by simp [meetsCapital]) (by simp [meetsCapital]) w

lemma parted_eq_partBy (w : Word) : partCapitals (partRuns [] w) = partBy isBoundary w := by
  rw [partCapitals_eq_partBy, partRuns_eq_partBy (by simp), List.reverse_nil, List.nil_append,
    partBy_partBy]

/-! ## Snake case -/

lemma openSigns_eq_replaceAll (w : Word) :
    openSigns w = Text.replaceAll ['$'] ['_', '_'] (Text.replaceAll ['.'] ['/'] w) := by
  rw [Text.replaceAll_singleton, Text.replaceAll_singleton, List.flatMap_assoc, openSigns]
  refine List.flatMap_congr fun c _ => ?_
  by_cases hc : c = '.' <;> simp [hc]

lemma joinWords_eq_replaceAll (w : Word) :
    joinWords w = Text.replaceAll [' '] ['_'] (Text.replaceAll ['-'] ['_'] w) := by
  rw [Text.replaceAll_singleton, Text.replaceAll_singleton, List.flatMap_assoc, joinWords,
    List.map_eq_flatMap]
  refine List.flatMap_congr fun c _ => ?_
  by_cases hc : c = '-'
  · simp [hc]
  · by_cases hspace : c = ' ' <;> simp [hc, hspace]

/-- Snake case parts a word at its boundaries: those where a capital is in front of the capital of a
small word, or a small letter or a digit in front of a capital.  Signs are replaced before and
separators behind, and no pass over the word makes any other change but to lower it. -/
theorem snake_eq_parted (w : Word) :
    snake w = Text.lower (Text.replaceAll [' '] ['_'] (Text.replaceAll ['-'] ['_']
      (partBy isBoundary (Text.replaceAll ['$'] ['_', '_'] (Text.replaceAll ['.'] ['/'] w))))) := by
  rw [snake, joinWords_eq_replaceAll, parted_eq_partBy, openSigns_eq_replaceAll]

example : partBy isBoundary "HTTPServer2GoXMLa".toList = "HTTP_Server2_Go_XM_La".toList := by decide

end Nomenclator.Word
