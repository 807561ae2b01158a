import Nomenclator.Proofs.Word.Boundaries

/-!
# Camel case and snake case of the same words

The words of a canonical name begin with a small letter, which small letters and digits follow, and
single underscores join them.  Camel case takes the underscores away and raises the letters behind
them; snake case has to find the places again, from nothing but the case of the letters.

It does, because a word has a second character.  In camel case a capital begins a word, and the next
character is no capital.  So there are no runs of capitals, the first pass of snake case finds
nothing, and every capital but the first meets the small letter or the digit that ends the word in
front of it.  A word of one letter would be a capital between two words, `aBC` for `a_b_c`, and its
underscores would be lost.
-/

namespace Nomenclator.Word

variable {a b c last : Char} {w init : Word} {words : List Word}

/-! ## Canonical words -/

/-- The characters behind the first one of a canonical word. -/
def isInner (c : Char) : Bool := c.isLower || c.isDigit

/-- A small letter with small letters and digits behind it, one at least. -/
def isCanonical : Word → Bool
  | [] => false
  | c :: w => c.isLower && !w.isEmpty && w.all isInner

/-- Words joined by single underscores. -/
def joined (words : List Word) : Word := ['_'].intercalate words

lemma isWordChar_of_isInner (h : isInner c = true) : Text.isWordChar c = true := by
  have halnum : c.isAlphanum = true := by
    simp only [isInner, Bool.or_eq_true] at h
    rcases h with hlower | hdigit
    · simp [Char.isAlphanum, Char.isAlpha, hlower]
    · simp [Char.isAlphanum, hdigit]
  exact isWordChar_of_isAlphanum halnum

lemma isUpper_of_isInner (h : isInner c = true) : c.isUpper = false := by
  by_contra hupper
  rw [Bool.not_eq_false] at hupper
  simp [isInner, isLower_eq_false_of_isUpper hupper, isDigit_eq_false_of_isUpper hupper] at h

lemma ne_underscore_of_isInner (h : isInner c = true) : c ≠ '_' := by
  rintro rfl
  exact absurd h (by decide)

lemma isInner_of_isLower (h : c.isLower = true) : isInner c = true := by
  rw [isInner, h, Bool.true_or]

/-- A canonical word, taken apart in front of its last character. -/
lemma exists_of_isCanonical (h : isCanonical w = true) :
    ∃ c init last, w = c :: (init ++ [last]) ∧ c.isLower = true ∧
      (∀ x ∈ init, isInner x = true) ∧ isInner last = true := by
  cases w with
  | nil => exact absurd h (by decide)
  | cons c w =>
    simp only [isCanonical, Bool.and_eq_true, Bool.not_eq_true', List.isEmpty_eq_false_iff,
      List.all_eq_true] at h
    obtain ⟨⟨hfirst, hne⟩, hinner⟩ := h
    obtain ⟨init, last, rfl⟩ := w.eq_nil_or_concat'.resolve_left hne
    rw [List.forall_mem_append, List.forall_mem_singleton] at hinner
    exact ⟨c, init, last, rfl, hfirst, hinner⟩

lemma isInner_of_isCanonical (h : isCanonical w = true) : ∀ x ∈ w, isInner x = true := by
  obtain ⟨c, init, last, rfl, hfirst, hinit, hlast⟩ := exists_of_isCanonical h
  simp only [List.forall_mem_cons, List.forall_mem_append, List.not_mem_nil, IsEmpty.forall_iff,
    implies_true, and_true]
  exact ⟨isInner_of_isLower hfirst, hinit, hlast⟩

lemma not_mem_of_isInner (h : ∀ x ∈ w, isInner x = true) : '_' ∉ w :=
  fun hmem => ne_underscore_of_isInner (h _ hmem) rfl

lemma joined_cons (w : Word) (words : List Word) :
    joined (w :: words) = w ++ words.flatMap ('_' :: ·) := by
  induction words generalizing w with
  | nil => simp [joined]
  | cons v words ih =>
    rw [List.flatMap_cons, List.cons_append, ← ih]
    simp [joined, List.intercalate]

lemma isWordChar_of_mem_joined (hwords : ∀ w ∈ words, isCanonical w = true) :
    ∀ c ∈ joined words, Text.isWordChar c = true := by
  have hword : ∀ w ∈ words, ∀ c ∈ w, Text.isWordChar c = true := fun w hw c hc =>
    isWordChar_of_isInner (isInner_of_isCanonical (hwords w hw) c hc)
  cases words with
  | nil => exact fun c hc => absurd hc List.not_mem_nil
  | cons w words =>
    rw [List.forall_mem_cons] at hword
    rw [joined_cons, List.forall_mem_append]
    refine ⟨hword.1, fun c hc => ?_⟩
    obtain ⟨v, hv, hc⟩ := List.mem_flatMap.mp hc
    rcases List.mem_cons.mp hc with rfl | hc
    · decide
    · exact hword.2 v hv c hc

/-! ## Camel case of canonical names -/

/-- A pass over underscores raises the words behind them. -/
lemma closeUp_flatMap (hw : '_' ∉ w) (hwords : ∀ v ∈ words, isCanonical v = true) :
    closeUp '_' false (w ++ words.flatMap ('_' :: ·)) = w ++ words.flatMap capitalize := by
  induction words generalizing w with
  | nil =>
    rw [List.flatMap_nil, List.flatMap_nil, closeUp_append hw]
    rfl
  | cons v words ih =>
    rw [List.forall_mem_cons] at hwords
    have hinner : ∀ x ∈ v, isInner x = true := isInner_of_isCanonical hwords.1
    obtain ⟨c, init, last, rfl, -⟩ := exists_of_isCanonical hwords.1
    rw [List.forall_mem_cons] at hinner
    have hrun := closeUp_run hw 0 (ne_underscore_of_isInner hinner.1)
      (init ++ [last] ++ words.flatMap ('_' :: ·))
    rw [ih (not_mem_of_isInner hinner.2) hwords.2] at hrun
    simpa [capitalize] using hrun

/-- Camel case of a canonical name puts its words together, each with a capital. -/
lemma upperCamel_joined (hwords : ∀ w ∈ words, isCanonical w = true) :
    upperCamel (joined words) = words.flatMap capitalize := by
  have hchars : ∀ c ∈ joined words, Text.isWordChar c = true := isWordChar_of_mem_joined hwords
  cases words with
  | nil => rfl
  | cons w words =>
    rw [List.forall_mem_cons] at hwords
    have hinner : ∀ x ∈ w, isInner x = true := isInner_of_isCanonical hwords.1
    obtain ⟨c, init, last, rfl, -⟩ := exists_of_isCanonical hwords.1
    rw [List.forall_mem_cons] at hinner
    have hne : joined ((c :: (init ++ [last])) :: words) ≠ [] := by simp [joined_cons]
    rw [upperCamel_eq_pending hchars hne, joined_cons, List.cons_append,
      closeUp_pending (ne_underscore_of_isInner hinner.1),
      closeUp_flatMap (not_mem_of_isInner hinner.2) hwords.2, ← List.append_assoc]
    rfl

/-! ## Snake case of camel case -/

/-- In front of a character that is no capital there is no boundary. -/
lemma isBoundary_of_not_isUpper (hb : b.isUpper = false) (behind : Word) :
    isBoundary a b behind = false := by
  simp [isBoundary, endsRun, meetsCapital, hb]

/-- The inner characters of a word are not parted, neither from each other nor from the first. -/
lemma partBy_inner (hinit : ∀ x ∈ init, isInner x = true) (hlast : isInner last = true) (a : Char)
    (w : Word) : partBy isBoundary (a :: (init ++ last :: w))
      = a :: (init ++ partBy isBoundary (last :: w)) := by
  induction init generalizing a with
  | nil =>
    exact partBy_of_not_boundary (isBoundary_of_not_isUpper (isUpper_of_isInner hlast) w)
  | cons x init ih =>
    rw [List.forall_mem_cons] at hinit
    rw [List.cons_append, partBy_of_not_boundary
      (isBoundary_of_not_isUpper (isUpper_of_isInner hinit.1) _), ih hinit.2, List.cons_append]

/-- Behind the last character of a word, every capital is parted from what stands before it. -/
lemma partBy_words (hlast : isInner last = true) (hwords : ∀ w ∈ words, isCanonical w = true) :
    partBy isBoundary (last :: words.flatMap capitalize)
      = last :: words.flatMap fun w => '_' :: capitalize w := by
  induction words generalizing last with
  | nil => rfl
  | cons w words ih =>
    rw [List.forall_mem_cons] at hwords
    obtain ⟨c, init, last', rfl, hfirst, hinit, hlast'⟩ := exists_of_isCanonical hwords.1
    have hcapital : capitalize (c :: (init ++ [last'])) = c.toUpper :: (init ++ [last']) :=
      capitalize_cons (isWordChar_of_isInner (isInner_of_isLower hfirst)) _
    have hupper : c.toUpper.isUpper = true := by
      rw [Char.isUpper_toUpper_eq_isAlpha, Char.isAlpha, hfirst, Bool.or_true]
    have hboundary : ∀ behind, isBoundary last c.toUpper behind = true := by
      intro behind
      rw [isInner] at hlast
      simp [isBoundary, meetsCapital, hlast, hupper]
    rw [List.flatMap_cons, List.flatMap_cons, hcapital, List.cons_append, List.append_assoc,
      List.singleton_append, partBy_of_boundary (hboundary _), partBy_inner hinit hlast',
      ih hlast' hwords.2]
    simp

lemma toLower_of_isInner (h : isInner c = true) : c.toLower = c :=
  Char.toLower_eq_of_not_isUpper (by simp [isUpper_of_isInner h])

lemma map_toLower_of_isInner (h : ∀ x ∈ w, isInner x = true) : w.map Char.toLower = w :=
  (List.map_congr_left fun c hc => toLower_of_isInner (h c hc)).trans (List.map_id w)

lemma map_toLower_capitalize (h : isCanonical w = true) : (capitalize w).map Char.toLower = w := by
  have hinner : ∀ x ∈ w, isInner x = true := isInner_of_isCanonical h
  cases w with
  | nil => rfl
  | cons c w =>
    have hc : Text.isWordChar c = true := isWordChar_of_isInner (hinner c List.mem_cons_self)
    have hsmall : (c :: w).map Char.toLower = c :: w := map_toLower_of_isInner hinner
    rw [capitalize_cons hc, List.map_cons, Char.toLower_toUpper_eq_toLower, ← List.map_cons, hsmall]

/-- Snake case finds the words of a name again, whatever case its first letter has. -/
lemma snake_flatMap_capitalize (hw : isCanonical (c :: w) = true) (ha : a.toLower = c)
    (hchar : Text.isWordChar a = true) (hwords : ∀ w ∈ words, isCanonical w = true) :
    snake (a :: (w ++ words.flatMap capitalize)) = joined ((c :: w) :: words) := by
  have hinner : ∀ x ∈ w, isInner x = true := (List.forall_mem_cons.mp (isInner_of_isCanonical hw)).2
  have hchars : ∀ x ∈ a :: (w ++ words.flatMap capitalize), Text.isWordChar x = true := by
    rw [List.forall_mem_cons, List.forall_mem_append]
    refine ⟨hchar, fun x hx => isWordChar_of_isInner (hinner x hx), fun x hx => ?_⟩
    obtain ⟨v, hv, hx⟩ := List.mem_flatMap.mp hx
    have hv : ∀ x ∈ v, isInner x = true := isInner_of_isCanonical (hwords v hv)
    exact isWordChar_of_mem_capitalize (fun x hx => isWordChar_of_isInner (hv x hx)) x hx
  have hlowered : (words.flatMap fun v => '_' :: capitalize v).map Char.toLower
      = words.flatMap ('_' :: ·) := by
    rw [List.map_flatMap]
    refine List.flatMap_congr fun v hv => ?_
    rw [List.map_cons, map_toLower_capitalize (hwords v hv)]
    rfl
  obtain ⟨c', init, last, heq, -, hinit, hlast⟩ := exists_of_isCanonical hw
  obtain ⟨rfl, rfl⟩ := List.cons.inj heq
  have hsmall : (init ++ [last]).map Char.toLower = init ++ [last] := map_toLower_of_isInner hinner
  rw [snake_eq hchars, parted_eq_partBy, joined_cons]
  calc (partBy isBoundary (a :: (init ++ [last] ++ words.flatMap capitalize))).map Char.toLower
      = (a :: (init ++ [last] ++ words.flatMap fun v => '_' :: capitalize v)).map Char.toLower := by
        rw [List.append_assoc, List.singleton_append, partBy_inner hinit hlast,
          partBy_words hlast hwords, List.append_assoc, List.singleton_append]
    _ = c :: (init ++ [last]) ++ words.flatMap ('_' :: ·) := by
        rw [List.map_cons, ha, List.map_append, hsmall, hlowered, List.cons_append]

/-- Camel case and snake case of a canonical name are inverse to each other. -/
theorem snake_camel_joined (hwords : ∀ w ∈ words, isCanonical w = true) :
    snake (upperCamel (joined words)) = joined words ∧
    snake (lowerCamel (joined words)) = joined words ∧
    upperCamel (joined words) = words.flatMap capitalize ∧
    upperCamel (snake (upperCamel (joined words))) = upperCamel (joined words) := by
  have hcamel : upperCamel (joined words) = words.flatMap capitalize := upperCamel_joined hwords
  cases words with
  | nil => exact ⟨rfl, rfl, rfl, rfl⟩
  | cons w words =>
    rw [List.forall_mem_cons] at hwords
    have hinner : ∀ x ∈ w, isInner x = true := isInner_of_isCanonical hwords.1
    obtain ⟨c, init, last, rfl, -⟩ := exists_of_isCanonical hwords.1
    have hc : isInner c = true := hinner c List.mem_cons_self
    have hchar : Text.isWordChar c = true := isWordChar_of_isInner hc
    have hraised : c.toUpper.toLower = c := by
      rw [Char.toLower_toUpper_eq_toLower, toLower_of_isInner hc]
    have hshape : upperCamel (joined ((c :: (init ++ [last])) :: words))
        = c.toUpper :: (init ++ [last] ++ words.flatMap capitalize) := by
      rw [hcamel, List.flatMap_cons, capitalize_cons hchar, List.cons_append]
    have hupper : snake (upperCamel (joined ((c :: (init ++ [last])) :: words)))
        = joined ((c :: (init ++ [last])) :: words) := by
      rw [hshape, snake_flatMap_capitalize hwords.1 hraised (isWordChar_toUpper hchar) hwords.2]
    have hlower : snake (lowerCamel (joined ((c :: (init ++ [last])) :: words)))
        = joined ((c :: (init ++ [last])) :: words) := by
      rw [lowerCamel, hshape, decapitalize_cons (isWordChar_toUpper hchar), hraised,
        snake_flatMap_capitalize hwords.1 (toLower_of_isInner hc) hchar hwords.2]
    exact ⟨hupper, hlower, hcamel, congrArg upperCamel hupper⟩

/-- Words that end in digits, in front of capitals. -/
theorem snake_camel_joined_http2 :
    let words := ["http2".toList, "server".toList, "x1".toList, "go".toList]
    (∀ w ∈ words, isCanonical w = true) ∧ joined words = "http2_server_x1_go".toList ∧
    snake "Http2ServerX1Go".toList = joined words ∧
    snake (lowerCamel (joined words)) = joined words ∧
    upperCamel (joined words) = "Http2ServerX1Go".toList ∧
    upperCamel (snake "Http2ServerX1Go".toList) = "Http2ServerX1Go".toList := by
  intro words
  have hall : words.all isCanonical = true := by decide
  have hcapitals : words.flatMap capitalize = "Http2ServerX1Go".toList := by decide
  obtain ⟨hupper, hlower, hcamel, hagain⟩ := snake_camel_joined (List.all_eq_true.mp hall)
  rw [hcamel, hcapitals] at hupper hagain
  exact ⟨List.all_eq_true.mp hall, by decide, hupper, hlower, hcamel.trans hcapitals, hagain⟩

example : snake (lowerCamel "a_b_c".toList) = "a_bc".toList := by decide

end Nomenclator.Word
