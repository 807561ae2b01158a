import Nomenclator.Kotlin.Tables
import Nomenclator.Proofs.Kotlin.Folding
import Nomenclator.Proofs.Kotlin.Legality
import Nomenclator.Proofs.Text.Replacement
import Nomenclator.Proofs.Word.Reduction

/-!
# What a transcoder leaves

The table of a transcoder may write anything.  What comes after it makes a word of identifier
characters that does not begin with a digit and is more than underscores, unless it is empty; and it
neither takes a letter or a digit away nor puts one in front, unless there is none at all.

So a word of identifier characters that the table has nothing to say about stays as it is, except
that an underscore is put in front of a digit.  A table whose keys all have a character that no
identifier can hold has nothing to say about any such word.  Then the words that stay as they are
are just the words that a transcoder leaves: `sanitize_fixed_points`.
-/

namespace Nomenclator.Kotlin.Transcoder

variable {w : Word}

/-! ## The steps behind the table -/

/-- Identifier characters end a run. -/
lemma collapse_append (hw : ∀ c ∈ w, Text.isWordChar c = true) (inRun : Bool) (v : Word) :
    collapse inRun (w ++ v) = w ++ collapse (inRun && w.isEmpty) v := by
  induction w generalizing inRun with
  | nil => simp
  | cons c w ih =>
    rw [List.forall_mem_cons] at hw
    have hended : (inRun && (c :: w).isEmpty) = false := by simp
    rw [List.cons_append, collapse, if_pos hw.1, ih hw.2, hended, Bool.false_and, List.cons_append]

lemma collapse_of_isWordChar (hw : ∀ c ∈ w, Text.isWordChar c = true) (inRun : Bool) :
    collapse inRun w = w := by
  have happend := collapse_append hw inRun []
  rwa [collapse, List.append_nil] at happend

lemma collapse_eq_nil_iff : collapse false w = [] ↔ w = [] := by
  cases w with
  | nil => simp [collapse]
  | cons c w =>
    rw [collapse]
    split <;> simp

/-- A run that is collapsed has no letters and no digits. -/
lemma find?_collapse (inRun : Bool) (w : Word) :
    (collapse inRun w).find? Char.isAlphanum = w.find? Char.isAlphanum := by
  induction w generalizing inRun with
  | nil => rfl
  | cons c w ih =>
    rw [collapse]
    split <;> rename_i hc
    · rw [List.find?_cons, List.find?_cons, ih]
    · have halnum : ¬c.isAlphanum = true := fun h => hc (Word.isWordChar_of_isAlphanum h)
      rw [List.find?_cons_of_neg halnum]
      split
      · exact ih true
      · rw [List.find?_cons_of_neg (by decide), ih]

lemma guardDigit_eq (w : Word) : guardDigit w = if startsWithDigit w then '_' :: w else w := by
  cases w with
  | nil => rfl
  | cons c w => rfl

lemma startsWithDigit_guardDigit (w : Word) : startsWithDigit (guardDigit w) = false := by
  rw [guardDigit_eq]
  split <;> rename_i hdigit
  · rfl
  · exact Bool.not_eq_true _ ▸ hdigit

lemma find?_guardDigit (w : Word) :
    (guardDigit w).find? Char.isAlphanum = w.find? Char.isAlphanum := by
  rw [guardDigit_eq]
  split
  · exact List.find?_cons_of_neg (by decide)
  · rfl

lemma guardDigit_eq_nil_iff : guardDigit w = [] ↔ w = [] := by
  rw [guardDigit_eq]
  split <;> rename_i hdigit
  · refine iff_of_false (List.cons_ne_nil _ _) ?_
    rintro rfl
    exact absurd hdigit (by decide)
  · rfl

lemma nameUnderscores_of_solid (h : ∃ c ∈ w, c ≠ '_') : nameUnderscores w = w := by
  rw [nameUnderscores, if_neg]
  rw [Bool.and_eq_true, List.all_eq_true, not_and]
  intro _ hall
  obtain ⟨c, hc, hne⟩ := h
  exact hne (of_decide_eq_true (hall c hc))

lemma nameUnderscores_of_blank (hne : w ≠ []) (h : ∀ c ∈ w, c = '_') :
    nameUnderscores w = underscoreWord := by
  rw [nameUnderscores, if_pos]
  rw [Bool.and_eq_true, List.all_eq_true]
  exact ⟨by simpa using hne, fun c hc => decide_eq_true (h c hc)⟩

/-- A word is empty, has substance, or is replaced. -/
lemma nameUnderscores_cases (w : Word) :
    (w = [] ∧ nameUnderscores w = []) ∨ ((∃ c ∈ w, c ≠ '_') ∧ nameUnderscores w = w) ∨
      ((w ≠ [] ∧ ∀ c ∈ w, c = '_') ∧ nameUnderscores w = underscoreWord) := by
  by_cases hne : w = []
  · subst hne
    exact Or.inl ⟨rfl, rfl⟩
  · by_cases hsolid : ∃ c ∈ w, c ≠ '_'
    · exact Or.inr (Or.inl ⟨hsolid, nameUnderscores_of_solid hsolid⟩)
    · push Not at hsolid
      exact Or.inr (Or.inr ⟨⟨hne, hsolid⟩, nameUnderscores_of_blank hne hsolid⟩)

lemma startsWithDigit_nameUnderscores (h : startsWithDigit w = false) :
    startsWithDigit (nameUnderscores w) = false := by
  rcases nameUnderscores_cases w with ⟨-, heq⟩ | ⟨-, heq⟩ | ⟨-, heq⟩
  · rw [heq]
    rfl
  · rwa [heq]
  · rw [heq]
    decide

lemma exists_solid_nameUnderscores (hne : w ≠ []) : ∃ c ∈ nameUnderscores w, c ≠ '_' := by
  rcases nameUnderscores_cases w with ⟨hnil, -⟩ | ⟨hsolid, heq⟩ | ⟨-, heq⟩
  · exact absurd hnil hne
  · rwa [heq]
  · rw [heq]
    exact ⟨'U', by decide, by decide⟩

/-- Only `Underscore` has a first letter that was not there. -/
lemma find?_nameUnderscores (hw : ∀ c ∈ w, Text.isWordChar c = true) (hne : w ≠ []) :
    (nameUnderscores w).find? Char.isAlphanum = (w.find? Char.isAlphanum).or (some 'U') := by
  rcases nameUnderscores_cases w with ⟨hnil, -⟩ | ⟨hsolid, heq⟩ | ⟨⟨-, hblank⟩, heq⟩
  · exact absurd hnil hne
  · have hfound := List.find?_isSome.mpr ((Word.exists_isAlphanum_iff hw).mpr hsolid)
    rw [heq, Option.or_of_isSome hfound]
  · have hnone : w.find? Char.isAlphanum = none := by
      refine List.find?_eq_none.mpr fun c hc => ?_
      rw [hblank c hc]
      decide
    rw [heq, hnone]
    rfl

/-! ## Transcoded words -/

lemma startsWithDigit_sanitize (t : Transcoder) (w : Word) :
    startsWithDigit (t.sanitize w) = false :=
  startsWithDigit_nameUnderscores (startsWithDigit_guardDigit _)

section

variable {t : Transcoder} (h : replace t.replacements w ≠ [])

include h

lemma guardDigit_collapse_ne_nil : guardDigit (collapse false (replace t.replacements w)) ≠ [] := by
  rwa [ne_eq, guardDigit_eq_nil_iff, collapse_eq_nil_iff]

lemma exists_solid_sanitize : ∃ c ∈ t.sanitize w, c ≠ '_' :=
  exists_solid_nameUnderscores (guardDigit_collapse_ne_nil h)

lemma find?_sanitize :
    (t.sanitize w).find? Char.isAlphanum
      = ((replace t.replacements w).find? Char.isAlphanum).or (some 'U') := by
  have hchars : ∀ c ∈ guardDigit (collapse false (replace t.replacements w)),
      Text.isWordChar c = true :=
    isWordChar_of_mem_guardDigit fun _ hc => isWordChar_of_mem_collapse hc
  rw [sanitize, find?_nameUnderscores hchars (guardDigit_collapse_ne_nil h), find?_guardDigit,
    find?_collapse]

end

lemma sanitize_of_replace_eq_nil {t : Transcoder} (h : replace t.replacements w = []) :
    t.sanitize w = [] := by
  rw [sanitize, h]
  rfl

/-- A word of identifier characters with substance is only kept from beginning with a digit. -/
lemma sanitize_eq_guardDigit {t : Transcoder} (hreplace : replace t.replacements w = w)
    (hw : ∀ c ∈ w, Text.isWordChar c = true) (hsolid : ∃ c ∈ w, c ≠ '_') :
    t.sanitize w = guardDigit w := by
  have hguarded : ∃ c ∈ guardDigit w, c ≠ '_' := by
    obtain ⟨c, hc, hne⟩ := hsolid
    refine ⟨c, ?_, hne⟩
    rw [guardDigit_eq]
    split
    · exact List.mem_cons_of_mem '_' hc
    · exact hc
  rw [sanitize, hreplace, collapse_of_isWordChar hw, nameUnderscores_of_solid hguarded]

/-! ## Words that stay as they are -/

/-- Identifier characters that do not begin with a digit and are more than underscores, or nothing.
-/
structure IsTranscoded (w : Word) : Prop where
  chars : ∀ c ∈ w, Text.isWordChar c = true
  begins : startsWithDigit w = false
  solid : w ≠ [] → ∃ c ∈ w, c.isAlphanum = true

/-- Whatever the table writes, what comes after it makes a transcoded word. -/
lemma isTranscoded_sanitize (t : Transcoder) (w : Word) : IsTranscoded (t.sanitize w) where
  chars := t.isWordChar_of_mem_sanitize w
  begins := t.startsWithDigit_sanitize w
  solid := by
    intro hne
    have hreplaced : replace t.replacements w ≠ [] := fun h => hne (sanitize_of_replace_eq_nil h)
    rw [Word.exists_isAlphanum_iff (t.isWordChar_of_mem_sanitize w)]
    exact exists_solid_sanitize hreplaced

/-- A transcoded word that the table leaves as it is stays as it is. -/
lemma IsTranscoded.sanitize_eq_self {t : Transcoder} (h : IsTranscoded w)
    (hreplace : replace t.replacements w = w) : t.sanitize w = w := by
  by_cases hempty : w = []
  · rw [sanitize_of_replace_eq_nil (hreplace.trans hempty), hempty]
  · have hsolid := (Word.exists_isAlphanum_iff h.chars).mp (h.solid hempty)
    rw [sanitize_eq_guardDigit hreplace h.chars hsolid, guardDigit_eq, h.begins, if_neg (by decide)]

lemma replace_eq_foldl (entries : List (String × String)) (w : Word) :
    replace entries w
      = (entries.map fun entry => (entry.1.toList, entry.2.toList)).foldl
          (fun w pass => Text.replaceAll pass.1 pass.2 w) w := by
  rw [List.foldl_map, replace]

/-- Keys that are no identifiers are not found among identifier characters. -/
lemma replace_of_isWordChar {entries : List (String × String)}
    (hkeys : ∀ entry ∈ entries, ∃ c ∈ entry.1.toList, Text.isWordChar c = false)
    (hw : ∀ c ∈ w, Text.isWordChar c = true) : replace entries w = w := by
  rw [replace_eq_foldl]
  refine Word.foldl_replaceAll_eq_self fun pass hpass => ?_
  obtain ⟨entry, hentry, rfl⟩ := List.mem_map.mp hpass
  obtain ⟨c, hc, hforeign⟩ := hkeys entry hentry
  exact ⟨c, hc, Word.not_mem_of_isWordChar hw hforeign⟩

/-- Every table leaves transcoded words.  Where each key that is kept has a character that no
identifier can hold, these are the words that stay as they are, so transcoding again changes
nothing. -/
theorem sanitize_fixed_points (entries : List (String × String)) :
    let t := ofTable entries
    (∀ w, IsTranscoded (t.sanitize w)) ∧
    ((∀ entry ∈ t.replacements, ∃ c ∈ entry.1.toList, Text.isWordChar c = false) →
      (∀ w, t.sanitize w = w ↔ IsTranscoded w) ∧
      ∀ w, t.sanitize (t.sanitize w) = t.sanitize w) := by
  intro t
  refine ⟨t.isTranscoded_sanitize, fun hkeys => ?_⟩
  have hfixed (w : Word) (h : IsTranscoded w) : t.sanitize w = w :=
    h.sanitize_eq_self (replace_of_isWordChar hkeys h.chars)
  refine ⟨fun w => ⟨fun hself => ?_, hfixed w⟩, fun w => hfixed _ (t.isTranscoded_sanitize w)⟩
  rw [← hself]
  exact t.isTranscoded_sanitize w

/-- A table of comparisons, one of them inside an identifier, and an underscore that is not kept:
names that stay as they are, and names that do not. -/
theorem sanitize_fixed_points_comparisons :
    let t := ofTable [("<=", "at_most_"), ("_", "X"), ("i<n", "2_3")]
    (∀ entry ∈ t.replacements, ∃ c ∈ entry.1.toList, Text.isWordChar c = false) ∧
    t.sanitize "_2_3__".toList = "_2_3__".toList ∧
    t.sanitize "2_3".toList ≠ "2_3".toList ∧ t.sanitize "__".toList ≠ "__".toList ∧
    t.sanitize "i<n<=8".toList = "_2_3at_most_8".toList ∧
    t.sanitize (t.sanitize "i<n<=8".toList) = t.sanitize "i<n<=8".toList := by
  intro t
  have hkeys : ∀ entry ∈ t.replacements, ∃ c ∈ entry.1.toList, Text.isWordChar c = false :=
    List.forall_mem_cons.mpr
      ⟨⟨'<', by decide, by decide⟩, List.forall_mem_singleton.mpr ⟨'<', by decide, by decide⟩⟩
  obtain ⟨-, hfixed⟩ := sanitize_fixed_points [("<=", "at_most_"), ("_", "X"), ("i<n", "2_3")]
  obtain ⟨hiff, hagain⟩ := hfixed hkeys
  have hdigit : startsWithDigit "2_3".toList = true := by decide
  refine ⟨hkeys, (hiff _).mpr ⟨?_, by decide, fun _ => ⟨'2', by decide, by decide⟩⟩,
    (hiff _).not.mpr fun h => ?_, (hiff _).not.mpr fun h => ?_, by decide +kernel, hagain _⟩
  · exact List.all_eq_true.mp (by decide : "_2_3__".toList.all Text.isWordChar = true)
  · exact absurd (hdigit.symm.trans h.begins) (by decide)
  · have hsolid : "__".toList.any Char.isAlphanum = true :=
      List.any_eq_true.mpr (h.solid (by decide))
    exact absurd hsolid (by decide)

/-! ## The default table -/

lemma replacements_default :
    (ofTable defaultReplacements).replacements = [(";", "Semicolon")] := by
  rfl

/-- The default table spells out semicolons, one by one. -/
lemma replace_default (w : Word) :
    replace (ofTable defaultReplacements).replacements w
      = w.flatMap fun c => if c = ';' then "Semicolon".toList else [c] := by
  have hkey : ";".toList = [';'] := rfl
  rw [replacements_default, replace, List.foldl_cons, List.foldl_nil, hkey,
    Text.replaceAll_singleton]

lemma replace_default_ne_nil (hne : w ≠ []) :
    replace (ofTable defaultReplacements).replacements w ≠ [] := by
  obtain ⟨c, w, rfl⟩ := List.exists_cons_of_ne_nil hne
  have hword : "Semicolon".toList ≠ [] := by decide
  rw [replace_default, List.flatMap_cons]
  split
  · exact List.append_ne_nil_of_left_ne_nil hword _
  · exact List.cons_ne_nil c _

lemma replace_default_of_not_mem (h : ';' ∉ w) :
    replace (ofTable defaultReplacements).replacements w = w := by
  rw [replacements_default, replace, List.foldl_cons, List.foldl_nil]
  exact Text.replaceAll_of_not_mem (List.mem_singleton_self ';') h

lemma replace_default_of_isWordChar (hw : ∀ c ∈ w, Text.isWordChar c = true) :
    replace (ofTable defaultReplacements).replacements w = w :=
  replace_default_of_not_mem (Word.not_mem_of_isWordChar hw (by decide))

/-- With the default table, identifier characters with substance are only kept from beginning with a
digit. -/
lemma sanitize_default (hw : ∀ c ∈ w, Text.isWordChar c = true) (hsolid : ∃ c ∈ w, c ≠ '_') :
    (ofTable defaultReplacements).sanitize w = if startsWithDigit w then '_' :: w else w := by
  rw [sanitize_eq_guardDigit (replace_default_of_isWordChar hw) hw hsolid, guardDigit_eq]

/-- Backticks become underscores. -/
lemma sanitize_escape (hw : ∀ c ∈ w, Text.isWordChar c = true) (hsolid : ∃ c ∈ w, c ≠ '_') :
    (ofTable defaultReplacements).sanitize (escape w) = '_' :: (w ++ ['_']) := by
  obtain ⟨c, hc, hne⟩ := hsolid
  have hsemicolon : ';' ∉ escape w := by
    rw [mem_escape_iff, not_or]
    exact ⟨Word.not_mem_of_isWordChar hw (by decide), by decide⟩
  have hfilled : (true && w.isEmpty) = false := by simpa using List.ne_nil_of_mem hc
  have hcollapsed : collapse false (escape w) = '_' :: (w ++ ['_']) := by
    rw [escape, List.cons_append, collapse, if_neg (by decide), if_neg (by decide),
      collapse_append hw, hfilled]
    rfl
  have hguarded : guardDigit ('_' :: (w ++ ['_'])) = '_' :: (w ++ ['_']) := by
    rw [guardDigit_eq]
    rfl
  rw [sanitize, replace_default_of_not_mem hsemicolon, hcollapsed, hguarded]
  exact nameUnderscores_of_solid ⟨c, by simp [hc], hne⟩

/-- The first letter or digit is that of the text, where a semicolon counts as its `S`. -/
lemma find?_replace_default (w : Word) :
    (replace (ofTable defaultReplacements).replacements w).find? Char.isAlphanum
      = (w.find? fun c => c.isAlphanum || c = ';').map fun c => if c = ';' then 'S' else c := by
  rw [replace_default]
  induction w with
  | nil => rfl
  | cons c w ih =>
    rw [List.flatMap_cons]
    by_cases hsemicolon : c = ';'
    · subst hsemicolon
      rfl
    · rw [if_neg hsemicolon, List.singleton_append, List.find?_cons, List.find?_cons, ih]
      cases halnum : c.isAlphanum <;> simp [hsemicolon]

/-- A backtick leaves an underscore, or the word for underscores. -/
lemma exists_not_isLower_sanitize_escapeMark (w : Word) :
    ∃ c ∈ (ofTable defaultReplacements).sanitize (escapeMark :: w), c.isLower = false := by
  have hcollapsed : ∃ v, collapse false (replace (ofTable defaultReplacements).replacements
      (escapeMark :: w)) = '_' :: v := by
    rw [replace_default, List.flatMap_cons, if_neg (by decide), List.singleton_append, collapse,
      if_neg (by decide)]
    exact ⟨_, rfl⟩
  obtain ⟨v, hv⟩ := hcollapsed
  have hguarded : guardDigit ('_' :: v) = '_' :: v := by
    rw [guardDigit_eq]
    rfl
  rw [sanitize, hv, hguarded]
  rcases nameUnderscores_cases ('_' :: v) with ⟨hnil, -⟩ | ⟨-, heq⟩ | ⟨-, heq⟩
  · exact absurd hnil (List.cons_ne_nil _ _)
  · rw [heq]
    exact ⟨'_', List.mem_cons_self, by decide⟩
  · rw [heq]
    exact ⟨'U', by decide, by decide⟩

end Nomenclator.Kotlin.Transcoder
