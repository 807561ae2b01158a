import Nomenclator.Naming
import Nomenclator.Proofs.Word.Reduction

/-!
# One scan for the marks of a name

Reducing a name takes one pass after another over all of it.  The first drops the pairs of brackets,
and what it leaves can look like a pair again: the outer brackets of `[[]]` become neighbours.  But
no later pass looks for pairs, so they count as two brackets.

All the later passes look for single characters.  Such passes take a name character by character
(`foldl_replaceAll_singletons`), so what they make of a character does not depend on the others.
The first pass finds its pairs from left to right, and whether an opening bracket begins one can be
told from the next character.  So the passes come to one scan that never looks further than that
(`reduceMarks_eq_scanMarks`).  Everything else can be read off the scan: it writes identifier
characters only, and it leaves a name of such characters alone.
-/

namespace Nomenclator

namespace Word

variable {c : Char} {w : Word}

/-! ## The scan -/

/-- The characters that become underscores. -/
def openMarks : List Char := ['[', '(', '.', '-', ' ']

/-- What a scan writes for a character outside a pair of brackets: letters and digits of ASCII and
underscores are kept, and whatever else does not become an underscore is dropped. -/
def scanned (c : Char) : Word :=
  if c ∈ openMarks then ['_'] else if c.isAlphanum || c = '_' then [c] else []

/-- A name scanned once from left to right: an opening bracket is skipped together with a closing
one right behind it, and every other character is taken by itself. -/
def scanMarks : Word → Word
  | '[' :: ']' :: w => scanMarks w
  | c :: w => scanned c ++ scanMarks w
  | [] => []

lemma isWordChar_of_mem_scanned {x : Char} (hx : x ∈ scanned c) : Text.isWordChar x = true := by
  rw [scanned] at hx
  split at hx
  · obtain rfl : x = '_' := List.mem_singleton.mp hx
    decide
  · split at hx <;> rename_i hc
    · obtain rfl : x = c := List.mem_singleton.mp hx
      exact hc
    · exact absurd hx List.not_mem_nil

lemma scanned_of_isWordChar (hc : Text.isWordChar c = true) : scanned c = [c] := by
  have hmarks : (openMarks.all fun x => !Text.isWordChar x) = true := by decide
  have hnot : c ∉ openMarks := fun hmem => by simpa [hc] using List.all_eq_true.mp hmarks c hmem
  rw [scanned, if_neg hnot]
  exact if_pos hc

/-- A scan writes identifier characters only. -/
lemma isWordChar_of_mem_scanMarks (w : Word) : ∀ x ∈ scanMarks w, Text.isWordChar x = true := by
  fun_induction scanMarks w with
  | case1 w ih => exact ih
  | case2 c w hpair ih =>
    intro x hx
    rcases List.mem_append.mp hx with hx | hx
    · exact isWordChar_of_mem_scanned hx
    · exact ih x hx
  | case3 => simp

/-- Identifier characters are left alone. -/
lemma scanMarks_of_isWordChar (hw : ∀ c ∈ w, Text.isWordChar c = true) : scanMarks w = w := by
  fun_induction scanMarks w with
  | case1 w ih => exact absurd (hw '[' List.mem_cons_self) (by decide)
  | case2 c w hpair ih =>
    rw [List.forall_mem_cons] at hw
    rw [scanned_of_isWordChar hw.1, ih hw.2, List.singleton_append]
  | case3 => rfl

/-! ## Passes over single characters -/

/-- Passes that look for single characters take a text character by character. -/
lemma foldl_replaceAll_singletons {passes : List (List Char × List Char)}
    (hpasses : ∀ pass ∈ passes, ∃ x, pass.1 = [x]) (w : Word) :
    passes.foldl (fun w pass => Text.replaceAll pass.1 pass.2 w) w
      = w.flatMap fun c => passes.foldl (fun w pass => Text.replaceAll pass.1 pass.2 w) [c] := by
  induction passes generalizing w with
  | nil => exact (List.flatMap_singleton' w).symm
  | cons pass passes ih =>
    rw [List.forall_mem_cons] at hpasses
    obtain ⟨⟨x, hx⟩, hrest⟩ := hpasses
    have hpass (w : Word) : Text.replaceAll pass.1 pass.2 w
        = w.flatMap fun c => Text.replaceAll pass.1 pass.2 [c] := by
      simp only [hx, Text.replaceAll_singleton, List.flatMap_singleton]
    rw [List.foldl_cons, ih hrest, hpass w, List.flatMap_assoc]
    refine List.flatMap_congr fun c _ => ?_
    rw [List.foldl_cons, ← ih hrest]

/-- All passes but the first look for single characters. -/
lemma exists_singleton_of_mem_tail :
    ∀ pass ∈ markReplacements.tail, ∃ x, pass.1 = [x] := by
  have hlength : (markReplacements.tail.all fun pass => pass.1.length = 1) = true := by decide
  intro pass hpass
  exact List.length_eq_one_iff.mp (of_decide_eq_true (List.all_eq_true.mp hlength pass hpass))

/-- What the later passes and the last filter make of one character. -/
lemma filter_foldl_tail (c : Char) :
    (markReplacements.tail.foldl (fun w pass => Text.replaceAll pass.1 pass.2 w) [c]).filter
      Text.isWordChar = scanned c := by
  by_cases hmark : c ∈ markReplacements.tail.flatMap Prod.fst
  · have hmarks : ((markReplacements.tail.flatMap Prod.fst).all fun c =>
        (markReplacements.tail.foldl (fun w pass => Text.replaceAll pass.1 pass.2 w) [c]).filter
          Text.isWordChar = scanned c) = true := by
      decide
    exact of_decide_eq_true (List.all_eq_true.mp hmarks c hmark)
  · -- no pass looks for the character, so it is the filter that decides
    have hfound : ∀ pass ∈ markReplacements.tail, ∃ x ∈ pass.1, x ∉ [c] := by
      intro pass hpass
      obtain ⟨x, hx⟩ := exists_singleton_of_mem_tail pass hpass
      have hmem : x ∈ pass.1 := hx ▸ List.mem_singleton_self x
      refine ⟨x, hmem, fun hc => hmark ?_⟩
      rw [← List.mem_singleton.mp hc]
      exact List.mem_flatMap.mpr ⟨pass, hpass, hmem⟩
    have hopen : openMarks ⊆ markReplacements.tail.flatMap Prod.fst := by decide
    have hnot : c ∉ openMarks := fun hmem => hmark (hopen hmem)
    rw [foldl_replaceAll_eq_self hfound, scanned, if_neg hnot, List.filter_singleton, cond_eq_ite,
      Text.isWordChar]

/-! ## All passes -/

/-- Behind the pass that drops the pairs, each character is taken by itself. -/
lemma reduceMarks_eq_flatMap (w : Word) :
    reduceMarks w = (Text.replaceAll ['[', ']'] [] w).flatMap scanned := by
  have hpasses : markReplacements = (['[', ']'], []) :: markReplacements.tail := rfl
  rw [reduceMarks, hpasses, List.foldl_cons,
    foldl_replaceAll_singletons exists_singleton_of_mem_tail, List.filter_flatMap]
  exact List.flatMap_congr fun c _ => filter_foldl_tail c

/-- The passes come to one scan. -/
lemma reduceMarks_eq_scanMarks (w : Word) : reduceMarks w = scanMarks w := by
  rw [reduceMarks_eq_flatMap]
  fun_induction scanMarks w with
  | case1 w ih =>
    have hdropped : Text.replaceAll ['[', ']'] [] ('[' :: ']' :: w)
        = Text.replaceAll ['[', ']'] [] w :=
      Text.replaceAll_pattern_append (List.cons_ne_nil '[' [']']) w
    rw [hdropped, ih]
  | case2 c w hpair ih =>
    have hkept : ¬['[', ']'].isPrefixOf (c :: w) = true := by
      intro hfound
      obtain ⟨behind, heq⟩ := List.isPrefixOf_iff_prefix.mp hfound
      obtain ⟨rfl, rfl⟩ := List.cons.inj heq
      exact hpair behind rfl rfl
    rw [Text.replaceAll_cons_of_not_isPrefixOf hkept, List.flatMap_cons, ih]
  | case3 => rfl

end Word

namespace Naming

/-! ## Reduced names -/

/-- All names but one are scanned. -/
lemma reduce_of_ne_dollar {name : String} (hname : name ≠ "$") :
    reduce (some name) = onText Word.scanMarks name := by
  have hdollar : name.toList ≠ ['$'] := fun h => hname (String.toList_inj.mp h)
  calc reduce (some name)
      = String.ofList (Word.reduce name.toList) := rfl
    _ = String.ofList (Word.scanMarks name.toList) := by
        rw [Word.reduce, if_neg hdollar, Word.reduceMarks_eq_scanMarks]
    _ = onText Word.scanMarks name := rfl

lemma isWordChar_of_mem_reduce (name : Option String) :
    ∀ c ∈ (reduce name).toList, Text.isWordChar c = true := by
  cases name with
  | none =>
    exact List.all_eq_true.mp (by decide : (reduce none).toList.all Text.isWordChar = true)
  | some name =>
    by_cases hname : name = "$"
    · rw [hname]
      exact List.all_eq_true.mp
        (by decide : (reduce (some "$")).toList.all Text.isWordChar = true)
    · rw [reduce_of_ne_dollar hname, onText, String.toList_ofList]
      exact Word.isWordChar_of_mem_scanMarks name.toList

/-- No reduced name is the one that is not scanned. -/
lemma reduce_ne_dollar (name : Option String) : reduce name ≠ "$" := by
  intro h
  have hword : Text.isWordChar '$' = true := isWordChar_of_mem_reduce name '$' (h ▸ by decide)
  exact absurd hword (by decide)

/-- Reducing a name other than `$` is one scan from left to right.  Whatever the name, and where it
is missing, the result has letters and digits of ASCII and underscores only, and reducing it again
changes nothing. -/
theorem reduce_in_one_scan :
    (∀ name : String, name ≠ "$" → reduce (some name) = onText Word.scanMarks name) ∧
    ∀ name : Option String, (∀ c ∈ (reduce name).toList, c.isAlphanum = true ∨ c = '_') ∧
      reduce (some (reduce name)) = reduce name := by
  refine ⟨fun name hname => reduce_of_ne_dollar hname, fun name => ?_⟩
  have hchars : ∀ c ∈ (reduce name).toList, Text.isWordChar c = true :=
    isWordChar_of_mem_reduce name
  constructor
  · intro c hc
    simpa [Text.isWordChar] using hchars c hc
  · rw [reduce_of_ne_dollar (reduce_ne_dollar name), onText, Word.scanMarks_of_isWordChar hchars,
      String.ofList_toList]

/-- Brackets inside brackets, an opening one in front of another mark, letters outside ASCII, and
the name that is not scanned. -/
theorem reduce_in_one_scan_nested :
    "[[]]a é[b(]ß)[]-9" ≠ "$" ∧
    reduce (some "[[]]a é[b(]ß)[]-9") = onText Word.scanMarks "[[]]a é[b(]ß)[]-9" ∧
    onText Word.scanMarks "[[]]a é[b(]ß)[]-9" = "_a__b__9" ∧
    reduce (some "_a__b__9") = "_a__b__9" ∧ reduce (some (reduce (some "$"))) = "value" := by
  obtain ⟨hscan, hreduced⟩ := reduce_in_one_scan
  have hname : "[[]]a é[b(]ß)[]-9" ≠ "$" := by decide
  have hresult : onText Word.scanMarks "[[]]a é[b(]ß)[]-9" = "_a__b__9" := by decide
  have hagain : reduce (some "_a__b__9") = "_a__b__9" := by
    rw [← hresult, ← hscan _ hname]
    exact (hreduced _).2
  exact ⟨hname, hscan _ hname, hresult, hagain, (hreduced (some "$")).2.trans (by decide)⟩

end Naming

end Nomenclator
