import Mathlib
import Nomenclator.Naming
import Nomenclator.Proofs.Text.Marks
import Nomenclator.Proofs.Text.Pieces

/-!
# Casing keeps the spelling

Camel case, snake case and the other conventions rewrite a word in many steps: parts are joined,
marks are dissolved one at a time from the left, boundaries are found by two passes that overlap.
None of the steps loses a letter or doubles one.  The `spelling` of a word is what is left of it
when underscores and the case of ASCII letters do not count, and `Respells` says that a word has the
spelling of another.

The words in question are plain: ASCII without the separators that the conventions consume.  Beyond
ASCII a capital form may take more characters than the letter it is made from, and a separator that
is consumed is lost to the spelling.  A step needs the word it works on to be plain and leaves it
plain, so `Respells` carries the two together.
-/

namespace Nomenclator.Word

/-! ## Plain words -/

/-- The separators that the conventions consume or turn into underscores. -/
def separators : List Char := ['/', '.', '-', '$', ' ']

/-- ASCII characters other than the separators. -/
def isPlain (c : Char) : Bool := c.toNat < 128 && !separators.contains c

lemma ascii_of_isPlain {c : Char} (h : isPlain c = true) : c.toNat < 128 := by
  rw [isPlain, Bool.and_eq_true, decide_eq_true_eq] at h
  exact h.1

lemma not_mem_separators {c : Char} (h : isPlain c = true) : c ∉ separators := by
  rw [isPlain, Bool.and_eq_true, Bool.not_eq_true', ← Bool.not_eq_true, List.contains_iff_mem] at h
  exact h.2

lemma isPlain_toUpper {c : Char} (h : isPlain c = true) : isPlain c.toUpper = true :=
  Text.forall_ascii (P := fun c => isPlain c = true → isPlain c.toUpper = true)
    (by decide +kernel) (ascii_of_isPlain h) h

lemma isPlain_toLower {c : Char} (h : isPlain c = true) : isPlain c.toLower = true :=
  Text.forall_ascii (P := fun c => isPlain c = true → isPlain c.toLower = true)
    (by decide +kernel) (ascii_of_isPlain h) h

lemma ascii_of_isWordChar {c : Char} (h : Text.isWordChar c = true) : c.toNat < 128 := by
  simp only [Text.isWordChar, Char.isAlphanum, Char.isAlpha, Char.isUpper, Char.isLower,
    Char.isDigit, UInt32.le_iff_toNat_le, ge_iff_le, Bool.or_eq_true, Bool.and_eq_true,
    decide_eq_true_eq] at h
  rcases h with ((⟨-, h⟩ | ⟨-, h⟩) | ⟨-, h⟩) | rfl
  · exact Nat.lt_of_le_of_lt h (by decide)
  · exact Nat.lt_of_le_of_lt h (by decide)
  · exact Nat.lt_of_le_of_lt h (by decide)
  · decide

lemma isPlain_of_isWordChar {c : Char} (h : Text.isWordChar c = true) : isPlain c = true :=
  Text.forall_ascii (P := fun c => Text.isWordChar c = true → isPlain c = true)
    (by decide +kernel) (ascii_of_isWordChar h) h

/-! ## Spelling -/

/-- A word without its underscores, in small letters. -/
def spelling (w : Word) : Word := (w.filter (· ≠ '_')).map Char.toLower

lemma spelling_append (v w : Word) : spelling (v ++ w) = spelling v ++ spelling w := by
  rw [spelling, List.filter_append, List.map_append]
  rfl

lemma spelling_cons (c : Char) (w : Word) : spelling (c :: w) = spelling [c] ++ spelling w :=
  spelling_append [c] w

lemma spelling_underscore (w : Word) : spelling ('_' :: w) = spelling w := rfl

lemma spelling_toUpper (c : Char) : spelling [c.toUpper] = spelling [c] := by
  by_cases hc : c = '_'
  · subst hc
    rfl
  · have hupper : c.toUpper ≠ '_' := (Text.toUpper_eq_iff (by decide)).not.mpr hc
    simp [spelling, hupper, hc]

lemma spelling_toLower (c : Char) : spelling [c.toLower] = spelling [c] := by
  by_cases hc : c = '_'
  · subst hc
    rfl
  · have hlower : c.toLower ≠ '_' := (Text.toLower_eq_iff (by decide)).not.mpr hc
    simp [spelling, hlower, hc]

lemma spelling_map {f : Char → Char} (hf : ∀ c, spelling [f c] = spelling [c]) (w : Word) :
    spelling (w.map f) = spelling w := by
  induction w with
  | nil => rfl
  | cons c w ih => rw [List.map_cons, spelling_cons, hf, ih, ← spelling_cons]

lemma spelling_erase_underscore (w : Word) : spelling (w.erase '_') = spelling w := by
  induction w with
  | nil => rfl
  | cons c w ih =>
    by_cases hc : c = '_'
    · subst hc
      rw [List.erase_cons_head, spelling_underscore]
    · rw [List.erase_cons_tail (by simpa using hc), spelling_cons, ih, ← spelling_cons]

/-! ## Respelling -/

/-- A plain word with the spelling of another word. -/
structure Respells (v w : Word) : Prop where
  plain : ∀ c ∈ w, isPlain c = true
  same : spelling w = spelling v

namespace Respells

variable {v w : Word}

lemma refl (h : ∀ c ∈ w, isPlain c = true) : Respells w w := ⟨h, rfl⟩

lemma ascii (h : Respells v w) : ∀ c ∈ w, c.toNat < 128 :=
  fun c hc => ascii_of_isPlain (h.plain c hc)

lemma not_mem (h : Respells v w) {x : Char} (hx : x ∈ separators) : x ∉ w :=
  fun hmem => not_mem_separators (h.plain x hmem) hx

/-- One character of the word in another case. -/
lemma recase {before after : Word} {c x : Char} (h : Respells v (before ++ c :: after))
    (hplain : isPlain x = true) (hsame : spelling [x] = spelling [c]) :
    Respells v (before ++ x :: after) where
  plain := by
    intro y hy
    rw [List.mem_append, List.mem_cons] at hy
    rcases hy with hy | rfl | hy
    · exact h.plain y (by simp [hy])
    · exact hplain
    · exact h.plain y (by simp [hy])
  same := by
    rw [← h.same, spelling_append, spelling_append, spelling_cons, hsame, ← spelling_cons]

/-- Every character of the word in another case. -/
lemma recaseAll (h : Respells v w) {f : Char → Char}
    (hplain : ∀ c, isPlain c = true → isPlain (f c) = true)
    (hsame : ∀ c, spelling [f c] = spelling [c]) : Respells v (w.map f) where
  plain := by
    intro c hc
    obtain ⟨x, hx, rfl⟩ := List.mem_map.mp hc
    exact hplain x (h.plain x hx)
  same := (spelling_map hsame w).trans h.same

lemma upper (h : Respells v w) : Respells v (Text.upper w) := by
  rw [Text.upper_of_ascii h.ascii]
  exact h.recaseAll (fun _ => isPlain_toUpper) spelling_toUpper

lemma lower (h : Respells v w) : Respells v (Text.lower w) := by
  rw [Text.lower_of_ascii h.ascii]
  exact h.recaseAll (fun _ => isPlain_toLower) spelling_toLower

lemma capitalize (h : Respells v w) : Respells v (capitalize w) := by
  cases w with
  | nil => exact h
  | cons c w =>
    have hc : isPlain c = true := h.plain c List.mem_cons_self
    have hfirst : Respells v ([] ++ c :: w) := h
    rw [Word.capitalize, Text.upperChar_of_ascii (ascii_of_isPlain hc)]
    exact hfirst.recase (isPlain_toUpper hc) (spelling_toUpper c)

lemma decapitalize (h : Respells v w) : Respells v (decapitalize w) := by
  cases w with
  | nil => exact h
  | cons c w =>
    have hc : isPlain c = true := h.plain c List.mem_cons_self
    have hfirst : Respells v ([] ++ c :: w) := h
    rw [Word.decapitalize, Text.lowerChar_of_ascii (ascii_of_isPlain hc)]
    exact hfirst.recase (isPlain_toLower hc) (spelling_toLower c)

end Respells

/-! ## Camel case -/

/-- A word without slashes and dots is its only part. -/
lemma joinParts_of_not_mem {w : Word} (hslash : '/' ∉ w) (hdot : '.' ∉ w) :
    joinParts w = capitalize w := by
  have hslashes : (w.map fun c => if c = '/' then '.' else c) = w := by
    refine (List.map_congr_left fun c hc => ?_).trans (List.map_id w)
    have hc : c ≠ '/' := fun heq => hslash (heq ▸ hc)
    exact if_neg hc
  rw [joinParts, parts, hslashes, Text.segments_of_not_mem hdot]
  cases w <;> simp [capitalize]

lemma findMark_eq_some {mark c : Char} {w before after : Word}
    (h : findMark mark w = some (before, c, after)) : w = before ++ mark :: c :: after := by
  induction w generalizing before with
  | nil => simp [findMark] at h
  | cons m w ih =>
    cases w with
    | nil => simp [findMark] at h
    | cons x rest =>
      rw [findMark] at h
      split at h <;> rename_i hmark
      · obtain ⟨rfl, rfl, rfl⟩ : [] = before ∧ x = c ∧ rest = after := by simpa using h
        rw [hmark.1]
        rfl
      · obtain ⟨⟨b, y, a⟩, hfound, heq⟩ := Option.map_eq_some_iff.mp h
        obtain ⟨rfl, rfl, rfl⟩ : m :: b = before ∧ y = c ∧ a = after := by simpa using heq
        rw [ih hfound]
        rfl

/-- What every step keeps is kept by taking steps as long as there are any. -/
lemma exhaust_of_step {P : Word → Prop} {step : Word → Option Word}
    (hstep : ∀ w next, P w → step w = some next → P next) (bound : Nat) {w : Word} (h : P w) :
    P (exhaust step bound w) := by
  induction bound generalizing w with
  | zero => exact h
  | succ bound ih =>
    rw [exhaust]
    cases hnext : step w with
    | none => exact h
    | some next => exact ih (hstep w next h hnext)

lemma withoutHyphens_of_not_mem {w : Word} (h : '-' ∉ w) : withoutHyphens w = w := by
  rw [withoutHyphens, List.count_eq_zero_of_not_mem h, exhaust]

lemma spelling_raiseFirst (w : Word) : spelling (raiseFirst w) = spelling w := by
  induction w with
  | nil => rfl
  | cons c w ih =>
    rw [raiseFirst]
    split
    · rw [spelling_cons, spelling_toUpper, ← spelling_cons]
    · rw [spelling_cons, ih, ← spelling_cons]

lemma isPlain_of_mem_raiseFirst {w : Word} (h : ∀ c ∈ w, isPlain c = true) :
    ∀ c ∈ raiseFirst w, isPlain c = true := by
  induction w with
  | nil => exact h
  | cons c w ih =>
    rw [List.forall_mem_cons] at h
    rw [raiseFirst]
    split
    · exact List.forall_mem_cons.mpr ⟨isPlain_toUpper h.1, h.2⟩
    · exact List.forall_mem_cons.mpr ⟨h.1, ih h.2⟩

namespace Respells

variable {v w : Word}

lemma joinParts (h : Respells v w) : Respells v (joinParts w) := by
  rw [joinParts_of_not_mem (h.not_mem (by decide)) (h.not_mem (by decide))]
  exact h.capitalize

lemma raiseFirst (h : Respells v w) : Respells v (raiseFirst w) :=
  ⟨isPlain_of_mem_raiseFirst h.plain, (spelling_raiseFirst w).trans h.same⟩

lemma erase_underscore (h : Respells v w) : Respells v (w.erase '_') :=
  ⟨fun c hc => h.plain c (List.mem_of_mem_erase hc), (spelling_erase_underscore w).trans h.same⟩

/-- Dissolving takes an underscore away and changes the case of the character behind it, if it
changes anything else. -/
lemma dissolveUnderscore {next : Word} (h : Respells v w)
    (hnext : dissolveUnderscore w = some next) : Respells v next := by
  obtain ⟨⟨before, c, after⟩, hfound, rfl⟩ := Option.map_eq_some_iff.mp hnext
  dsimp only
  split
  · exact h.erase_underscore
  · obtain rfl := findMark_eq_some hfound
    have hc : isPlain c = true := h.plain c (by simp)
    have hmerged : Respells v (before ++ c :: after) := by
      refine ⟨fun x hx => h.plain x ?_, ?_⟩
      · rw [List.mem_append, List.mem_cons] at hx ⊢
        exact hx.imp_right fun hx => Or.inr (List.mem_cons.mpr hx)
      · rw [← h.same, spelling_append, spelling_append, spelling_underscore]
    rw [Text.upperChar_of_ascii (ascii_of_isPlain hc), List.append_assoc]
    exact hmerged.recase (isPlain_toUpper hc) (spelling_toUpper c)

lemma withoutUnderscores (h : Respells v w) : Respells v (withoutUnderscores w) :=
  exhaust_of_step (fun _ _ hw hnext => hw.dissolveUnderscore hnext) _ h

lemma withoutHyphens (h : Respells v w) : Respells v (withoutHyphens w) := by
  rwa [withoutHyphens_of_not_mem (h.not_mem (by decide))]

lemma upperCamel (h : Respells v w) : Respells v (upperCamel w) :=
  h.joinParts.raiseFirst.withoutUnderscores.withoutHyphens

lemma lowerCamel (h : Respells v w) : Respells v (lowerCamel w) := h.upperCamel.decapitalize

end Respells

/-! ## Snake case -/

lemma openSigns_of_not_mem {w : Word} (hdot : '.' ∉ w) (hdollar : '$' ∉ w) : openSigns w = w := by
  rw [openSigns]
  refine (List.flatMap_congr fun c hc => ?_).trans (List.flatMap_singleton' w)
  have hne : c ≠ '.' := fun heq => hdot (heq ▸ hc)
  have hne' : c ≠ '$' := fun heq => hdollar (heq ▸ hc)
  rw [if_neg hne, if_neg hne']

lemma joinWords_of_not_mem {w : Word} (hhyphen : '-' ∉ w) (hspace : ' ' ∉ w) :
    joinWords w = w := by
  rw [joinWords]
  refine (List.map_congr_left fun c hc => ?_).trans (List.map_id w)
  have hne : ¬(c = '-' ∨ c = ' ') := by
    rintro (rfl | rfl)
    · exact hhyphen hc
    · exact hspace hc
  exact if_neg hne

/-- A run of capitals, last first, as it is written when a character behind it ends it. -/
def endRun (run : List Char) (c : Char) : List Char :=
  match run with
  | last :: first :: more =>
    if c.isLower then (first :: more).reverse ++ ['_', last] else run.reverse
  | _ => run.reverse

lemma partRuns_cons (run : List Char) (c : Char) (w : Word) :
    partRuns run (c :: w)
      = if c.isUpper then partRuns (c :: run) w else endRun run c ++ c :: partRuns [] w := by
  rw [partRuns.eq_def]
  rfl

lemma spelling_endRun (run : List Char) (c : Char) :
    spelling (endRun run c) = spelling run.reverse := by
  rcases run with _ | ⟨last, _ | ⟨first, more⟩⟩
  · rfl
  · rfl
  · rw [endRun]
    split
    · rw [List.reverse_cons (a := last), spelling_append, spelling_append, spelling_underscore]
    · rfl

lemma mem_endRun {x c : Char} {run : List Char} (hx : x ∈ endRun run c) : x = '_' ∨ x ∈ run := by
  rcases run with _ | ⟨last, _ | ⟨first, more⟩⟩
  · exact Or.inr hx
  · exact Or.inr hx
  · rw [endRun] at hx
    split at hx
    · rw [List.mem_append, List.mem_reverse, List.mem_pair] at hx
      rcases hx with hx | rfl | rfl
      · exact Or.inr (List.mem_cons_of_mem last hx)
      · exact Or.inl rfl
      · exact Or.inr List.mem_cons_self
    · exact Or.inr (List.mem_reverse.mp hx)

/-- Parting runs of capitals inserts underscores and nothing else. -/
lemma spelling_partRuns (run w : Word) :
    spelling (partRuns run w) = spelling (run.reverse ++ w) := by
  induction w generalizing run with
  | nil => rw [partRuns, List.append_nil]
  | cons c w ih =>
    rw [partRuns_cons]
    split
    · rw [ih, List.reverse_cons, List.append_assoc, List.singleton_append]
    · rw [spelling_append, spelling_endRun, spelling_cons, ih, List.reverse_nil, List.nil_append,
        ← spelling_cons, ← spelling_append]

lemma mem_partRuns {x : Char} {run w : Word} (hx : x ∈ partRuns run w) :
    x = '_' ∨ x ∈ run ∨ x ∈ w := by
  induction w generalizing run with
  | nil => exact Or.inr (Or.inl (List.mem_reverse.mp hx))
  | cons c w ih =>
    rw [List.mem_cons]
    rw [partRuns_cons] at hx
    split at hx
    · have h := ih hx
      rw [List.mem_cons] at h
      tauto
    · rw [List.mem_append, List.mem_cons] at hx
      rcases hx with hx | rfl | hx
      · exact (mem_endRun hx).imp_right Or.inl
      · exact Or.inr (Or.inr (Or.inl rfl))
      · have h := ih hx
        rw [List.mem_nil_iff] at h
        tauto

/-- Parting small letters and digits from capitals inserts underscores and nothing else. -/
lemma spelling_partCapitals (w : Word) : spelling (partCapitals w) = spelling w := by
  fun_induction partCapitals w with
  | case1 a b w hboundary ih =>
    rw [spelling_cons, spelling_underscore, spelling_cons b, ih, ← spelling_cons, ← spelling_cons]
  | case2 a b w hboundary ih => rw [spelling_cons, ih, ← spelling_cons]
  | case3 w hshort => rfl

lemma mem_partCapitals {x : Char} {w : Word} (hx : x ∈ partCapitals w) : x = '_' ∨ x ∈ w := by
  fun_induction partCapitals w with
  | case1 a b w hboundary ih =>
    simp only [List.mem_cons] at hx ⊢
    tauto
  | case2 a b w hboundary ih =>
    simp only [List.mem_cons] at hx ih ⊢
    tauto
  | case3 w hshort => exact Or.inr hx

namespace Respells

variable {v w : Word}

lemma partRuns (h : Respells v w) : Respells v (partRuns [] w) where
  plain := by
    intro c hc
    rcases mem_partRuns hc with rfl | hc | hc
    · decide
    · exact absurd hc List.not_mem_nil
    · exact h.plain c hc
  same := (spelling_partRuns [] w).trans h.same

lemma partCapitals (h : Respells v w) : Respells v (partCapitals w) where
  plain := by
    intro c hc
    rcases mem_partCapitals hc with rfl | hc
    · decide
    · exact h.plain c hc
  same := (spelling_partCapitals w).trans h.same

lemma snake (h : Respells v w) : Respells v (snake w) := by
  have hparted : Respells v (Word.partCapitals (Word.partRuns [] w)) := h.partRuns.partCapitals
  rw [Word.snake, openSigns_of_not_mem (h.not_mem (by decide)) (h.not_mem (by decide)),
    joinWords_of_not_mem (hparted.not_mem (by decide)) (hparted.not_mem (by decide))]
  exact hparted.lower

/-- Every convention keeps the spelling. -/
lemma applyWord (h : Respells v w) (c : Convention) : Respells v (c.applyWord w) := by
  cases c with
  | unchanged => exact h
  | camelCase => exact h.lowerCamel
  | pascalCase => exact h.upperCamel.capitalize
  | snakeCase => exact h.snake
  | upperCase => exact h.upper

end Respells

end Nomenclator.Word
