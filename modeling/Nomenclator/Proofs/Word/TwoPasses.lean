import Nomenclator.Proofs.Word.ClosingUp

/-!
# Camel case in two passes

After its parts have been joined and its first letter raised, a word goes through two loops, one for
underscores and one for hyphens.  Each loop looks for a mark with a character behind it, dissolves
it, and starts over; nothing but a failing search ends it.

Both end on every word, since a step takes one mark away and there are only so many.  So the bound
on the steps is never what stops them: the loop without a bound has the same result
(`eval_dissolveUnderscore`, `eval_dissolveHyphen`).  On a word without line ends this result is
one pass from left to right that closes up the runs of the mark.

The passes have to be taken in this order, and the second must not spoil what the first has done.
It raises characters, and no character turns into an underscore by being raised.  It takes hyphens
away in front of characters, so an underscore behind which nothing stood has nothing behind it
afterwards.  Hence the result has no mark in front of its last character; slashes and dots were
gone before the loops began.
-/

namespace Nomenclator.Word

variable {mark x : Char} {w : Word}

/-! ## Loops without a bound -/

/-- A loop whose steps each take a mark away ends, within as many steps as there are marks. -/
lemma exhaust_mem_eval {step : Word → Option Word}
    (hstep : ∀ v next, step v = some next → next.count mark < v.count mark) (bound : ℕ)
    (hbound : w.count mark ≤ bound) : exhaust step bound w ∈ StateTransition.eval step w := by
  rw [StateTransition.mem_eval]
  induction bound generalizing w with
  | zero =>
    refine ⟨.refl, Option.eq_none_iff_forall_ne_some.mpr fun next hnext => ?_⟩
    have hless : next.count mark < w.count mark := hstep w next hnext
    omega
  | succ bound ih =>
    rw [exhaust]
    cases hnext : step w with
    | none => exact ⟨.refl, hnext⟩
    | some next =>
      have hless : next.count mark < w.count mark := hstep w next hnext
      obtain ⟨hreaches, hnone⟩ := ih (w := next) (by omega)
      exact ⟨.head hnext hreaches, hnone⟩

lemma count_dissolveHyphen {next : Word} (h : dissolveHyphen w = some next) :
    next.count '-' < w.count '-' := by
  obtain ⟨⟨before, c, after⟩, hfound, rfl⟩ := Option.map_eq_some_iff.mp h
  obtain rfl := findMark_eq_some hfound
  have hcount : (before ++ '-' :: c :: after).count '-'
      = (before ++ Text.upperChar c ++ after).count '-' + 1 := count_step (by decide) before c after
  dsimp only
  omega

/-- An underscore goes, be it the one that was found or the first. -/
lemma count_dissolveUnderscore {next : Word} (h : dissolveUnderscore w = some next) :
    next.count '_' < w.count '_' := by
  obtain ⟨⟨before, c, after⟩, hfound, rfl⟩ := Option.map_eq_some_iff.mp h
  obtain rfl := findMark_eq_some hfound
  have hmem : '_' ∈ before ++ '_' :: c :: after := by simp
  have hpos := List.count_pos_iff.mpr hmem
  have hcount : (before ++ '_' :: c :: after).count '_'
      = (before ++ Text.upperChar c ++ after).count '_' + 1 := count_step (by decide) before c after
  dsimp only
  split
  · rw [List.count_erase_self]
    omega
  · omega

/-- The loop over underscores ends on every word. -/
lemma eval_dissolveUnderscore (w : Word) :
    StateTransition.eval dissolveUnderscore w = Part.some (withoutUnderscores w) :=
  Part.eq_some_iff.mpr (exhaust_mem_eval (fun _ _ => count_dissolveUnderscore) _ (Nat.le_refl _))

/-- The loop over hyphens ends on every word. -/
lemma eval_dissolveHyphen (w : Word) :
    StateTransition.eval dissolveHyphen w = Part.some (withoutHyphens w) :=
  Part.eq_some_iff.mpr (exhaust_mem_eval (fun _ _ => count_dissolveHyphen) _ (Nat.le_refl _))

/-! ## Marks under the other steps -/

section Marks

variable (hx : x ∈ Text.marks)

include hx

lemma mem_capitalize_iff : x ∈ capitalize w ↔ x ∈ w := by
  cases w with
  | nil => rfl
  | cons c w => rw [capitalize, List.mem_append, Text.mem_upperChar_iff hx, List.mem_cons, eq_comm]

lemma mem_decapitalize_iff : x ∈ decapitalize w ↔ x ∈ w := by
  cases w with
  | nil => rfl
  | cons c w =>
    rw [decapitalize, List.mem_append, Text.mem_lowerChar_iff hx, List.mem_cons, eq_comm]

lemma mem_raiseFirst_iff : x ∈ raiseFirst w ↔ x ∈ w := by
  induction w with
  | nil => rfl
  | cons c w ih =>
    have hraised : x = c.toUpper ↔ x = c := by
      rw [eq_comm, Text.toUpper_eq_iff (Text.isAlpha_of_mem_marks hx), eq_comm]
    rw [raiseFirst]
    split
    · rw [List.mem_cons, List.mem_cons, hraised]
    · rw [List.mem_cons, List.mem_cons, ih]

/-- The marks in the joined parts are those of the word, without the ones that part it. -/
lemma mem_of_mem_joinParts (h : x ∈ joinParts w) : x ∈ w ∧ x ≠ '/' ∧ x ≠ '.' := by
  obtain ⟨part, hpart, hmem⟩ := List.mem_flatMap.mp h
  rw [mem_capitalize_iff hx] at hmem
  obtain ⟨hmapped, hdot⟩ := Text.mem_of_mem_segments (List.mem_filter.mp hpart).1 hmem
  obtain ⟨c, hc, rfl⟩ := List.mem_map.mp hmapped
  split at hdot <;> rename_i hslash
  · exact absurd rfl hdot
  · rw [if_neg hslash]
    exact ⟨hc, hslash, hdot⟩

lemma not_mem_dropLast_decapitalize (h : x ∉ w.dropLast) : x ∉ (decapitalize w).dropLast := by
  cases w with
  | nil => exact h
  | cons c w =>
    refine not_mem_dropLast_form (c := c) (fun hmem => ?_) (not_mem_dropLast_tail h) ?_
    · obtain rfl := (Text.mem_lowerChar_iff hx).mp hmem
      exact ⟨rfl, Text.lowerChar_of_mem_marks hx⟩
    · rintro rfl
      exact eq_nil_of_not_mem_dropLast h

end Marks

/-! ## Two passes -/

/-- A word whose marks are dissolved: none parts it, and none stands in front of its last
character. -/
structure IsDissolved (w : Word) : Prop where
  slash : '/' ∉ w
  dot : '.' ∉ w
  underscore : '_' ∉ w.dropLast
  hyphen : '-' ∉ w.dropLast

lemma IsDissolved.decapitalize (h : IsDissolved w) : IsDissolved (decapitalize w) where
  slash := (mem_decapitalize_iff (by decide)).not.mpr h.slash
  dot := (mem_decapitalize_iff (by decide)).not.mpr h.dot
  underscore := not_mem_dropLast_decapitalize (by decide) h.underscore
  hyphen := not_mem_dropLast_decapitalize (by decide) h.hyphen

/-- Camel case of a word in one line: the loops end, the first with what one pass leaves that closes
up the runs of underscores, the second with what one leaves that closes up the runs of hyphens.  Of
the marks, an underscore or a hyphen can be left, as the last character. -/
theorem camel_in_two_passes (hline : '\n' ∉ w) :
    let joined := raiseFirst (joinParts w)
    let closed := closeUp '_' false joined
    let camel := closeUp '-' false closed
    StateTransition.eval dissolveUnderscore joined = Part.some closed ∧
    StateTransition.eval dissolveHyphen closed = Part.some camel ∧
    upperCamel w = camel ∧ lowerCamel w = decapitalize camel ∧
    IsDissolved (upperCamel w) ∧ IsDissolved (lowerCamel w) := by
  intro joined closed camel
  have hjoined : ∀ x ∈ Text.marks, x ∈ joined → x ∈ w ∧ x ≠ '/' ∧ x ≠ '.' := fun x hx hmem =>
    mem_of_mem_joinParts hx ((mem_raiseFirst_iff hx).mp hmem)
  have hline_joined : '\n' ∉ joined := fun hmem => hline (hjoined _ (by decide) hmem).1
  have hline_closed : '\n' ∉ closed := fun hmem =>
    hline_joined (mem_of_mem_closeUp (by decide) (by decide) hmem)
  have hclosed : withoutUnderscores joined = closed := withoutUnderscores_eq_closeUp hline_joined
  have hcamel : withoutHyphens closed = camel := withoutHyphens_eq_closeUp hline_closed
  have hupper : upperCamel w = camel := by rw [upperCamel, hclosed, hcamel]
  have hlower : lowerCamel w = decapitalize camel := by rw [lowerCamel, hupper]
  have hmarks : ∀ x ∈ Text.marks, x ≠ '_' → x ≠ '-' → x ∈ camel → x ≠ '/' ∧ x ≠ '.' :=
    fun x hx hunderscore hhyphen hmem =>
      (hjoined x hx (mem_of_mem_closeUp hx hunderscore (mem_of_mem_closeUp hx hhyphen hmem))).2
  have hdissolved : IsDissolved camel :=
    { slash := fun hmem => (hmarks '/' (by decide) (by decide) (by decide) hmem).1 rfl
      dot := fun hmem => (hmarks '.' (by decide) (by decide) (by decide) hmem).2 rfl
      underscore := not_mem_dropLast_closeUp_of (by decide) false
        (Or.inr (not_mem_dropLast_closeUp (by decide) false joined))
      hyphen := not_mem_dropLast_closeUp (by decide) false closed }
  refine ⟨?_, ?_, hupper, hlower, hupper ▸ hdissolved, hlower ▸ hdissolved.decapitalize⟩
  · rw [eval_dissolveUnderscore, hclosed]
  · rw [eval_dissolveHyphen, hcamel]

/-- Runs of either mark in front of a letter with two capitals, a digit and the other mark, and a
run at the end. -/
theorem camel_in_two_passes_runs :
    '\n' ∉ "pets/big__ß-_9ö--".toList ∧
    StateTransition.eval dissolveUnderscore "PetsBig__ß-_9ö--".toList
      = Part.some "PetsBigSS-9ö--".toList ∧
    StateTransition.eval dissolveHyphen "PetsBigSS-9ö--".toList
      = Part.some "PetsBigSS9ö-".toList ∧
    upperCamel "pets/big__ß-_9ö--".toList = "PetsBigSS9ö-".toList ∧
    lowerCamel "pets/big__ß-_9ö--".toList = "petsBigSS9ö-".toList ∧
    IsDissolved "petsBigSS9ö-".toList := by
  have hline : '\n' ∉ "pets/big__ß-_9ö--".toList := by decide
  obtain ⟨hunderscores, hhyphens, hupper, hlower, -, hdissolved⟩ := camel_in_two_passes hline
  have hjoined : raiseFirst (joinParts "pets/big__ß-_9ö--".toList) = "PetsBig__ß-_9ö--".toList := by
    decide +kernel
  have hclosed : closeUp '_' false "PetsBig__ß-_9ö--".toList = "PetsBigSS-9ö--".toList := by
    decide +kernel
  have hcamel : closeUp '-' false "PetsBigSS-9ö--".toList = "PetsBigSS9ö-".toList := by
    decide +kernel
  have hsmall : decapitalize "PetsBigSS9ö-".toList = "petsBigSS9ö-".toList := by decide +kernel
  rw [hjoined, hclosed] at hunderscores
  rw [hjoined, hclosed, hcamel] at hhyphens hupper hlower
  rw [hsmall] at hlower
  exact ⟨hline, hunderscores, hhyphens, hupper, hlower, hlower ▸ hdissolved⟩

end Nomenclator.Word
