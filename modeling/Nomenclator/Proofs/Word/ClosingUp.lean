import Nomenclator.Proofs.Text.Marks
import Nomenclator.Proofs.Word.Spelling

/-!
# Marks are closed up in one pass

Camel case looks for the first mark that a character follows, dissolves it, and starts over, until
there is no such mark.  `closeUp` reads the word once: a run of marks that a character follows
vanishes and that character is raised, and a run at the end leaves one mark.

On a word without line ends the two agree.  There a mark that is not the last character is followed
by a character of its line, so the search finds the first mark of all.  This settles the case in
which an underscore is not dissolved where it was found, but the first underscore is erased: it is
the same one.  A step therefore joins what stands before the first mark with the raised character
and the rest; it leaves `closeUp` of the word as it was and takes one mark away.

The pass also tells when a word stands still: when it has no mark in front of its last character.
What a pass has written is such a word.
-/

namespace Nomenclator.Word

variable {mark : Char} {w : Word}

/-- The word with its runs of a mark closed up.  `pending` says that marks have been read that wait
for a character. -/
def closeUp (mark : Char) : Bool → Word → Word
  | pending, [] => if pending then [mark] else []
  | pending, c :: w =>
    if c = mark then closeUp mark true w
    else (if pending then Text.upperChar c else [c]) ++ closeUp mark false w

@[simp] lemma closeUp_mark (pending : Bool) (w : Word) :
    closeUp mark pending (mark :: w) = closeUp mark true w := by
  simp [closeUp]

lemma closeUp_pending {c : Char} (hc : c ≠ mark) (w : Word) :
    closeUp mark true (c :: w) = Text.upperChar c ++ closeUp mark false w := by
  simp [closeUp, hc]

lemma closeUp_cons {c : Char} (hc : c ≠ mark) (w : Word) :
    closeUp mark false (c :: w) = c :: closeUp mark false w := by
  simp [closeUp, hc]

lemma closeUp_append {v : Word} (hv : mark ∉ v) (w : Word) :
    closeUp mark false (v ++ w) = v ++ closeUp mark false w := by
  induction v with
  | nil => rfl
  | cons c v ih =>
    rw [List.mem_cons, not_or] at hv
    rw [List.cons_append, closeUp_cons (Ne.symm hv.1), ih hv.2, List.cons_append]

/-! ## Runs -/

lemma closeUp_replicate (pending : Bool) (n : ℕ) (w : Word) :
    closeUp mark pending (List.replicate (n + 1) mark ++ w) = closeUp mark true w := by
  induction n generalizing pending with
  | zero => exact closeUp_mark pending w
  | succ n ih => rw [List.replicate_succ, List.cons_append, closeUp_mark, ih]

/-- A run in front of a character vanishes, and the character is raised. -/
lemma closeUp_run {v : Word} {c : Char} (hv : mark ∉ v) (n : ℕ) (hc : c ≠ mark) (w : Word) :
    closeUp mark false (v ++ (List.replicate (n + 1) mark ++ c :: w))
      = v ++ Text.upperChar c ++ closeUp mark false w := by
  rw [closeUp_append hv, closeUp_replicate, closeUp_pending hc, List.append_assoc]

/-- A run at the end leaves one mark. -/
lemma closeUp_last_run {v : Word} (hv : mark ∉ v) (n : ℕ) :
    closeUp mark false (v ++ List.replicate (n + 1) mark) = v ++ [mark] := by
  have hrun : closeUp mark false (List.replicate (n + 1) mark ++ []) = closeUp mark true [] :=
    closeUp_replicate false n []
  rw [List.append_nil] at hrun
  rw [closeUp_append hv, hrun, closeUp, if_pos rfl]

/-! ## Words that stand still -/

/-- A word with no mark in front of its last character is closed up. -/
lemma closeUp_eq_self (h : mark ∉ w.dropLast) : closeUp mark false w = w := by
  induction w with
  | nil => rfl
  | cons c w ih =>
    cases w with
    | nil =>
      by_cases hc : c = mark
      · subst hc
        exact closeUp_mark false []
      · exact closeUp_cons hc []
    | cons d w =>
      rw [List.dropLast_cons_cons, List.mem_cons, not_or] at h
      rw [closeUp_cons (Ne.symm h.1), ih h.2]

/-! ## Marks in the last place -/

lemma not_mem_dropLast_tail {c x : Char} (h : x ∉ (c :: w).dropLast) : x ∉ w.dropLast := by
  cases w with
  | nil => exact List.not_mem_nil
  | cons d w => exact fun hmem => h (List.mem_cons_of_mem c hmem)

lemma eq_nil_of_not_mem_dropLast {c : Char} (h : c ∉ (c :: w).dropLast) : w = [] := by
  by_contra hne
  exact h (by rw [List.dropLast_cons_of_ne_nil hne]; exact List.mem_cons_self)

/-- A mark that is nowhere but at the end stays there when the first character takes a form. -/
lemma not_mem_dropLast_form {c x : Char} {form rest : Word}
    (hform : x ∈ form → c = x ∧ form = [x]) (hrest : x ∉ rest.dropLast)
    (hlast : c = x → rest = []) : x ∉ (form ++ rest).dropLast := by
  by_cases hmem : x ∈ form
  · obtain ⟨hc, rfl⟩ := hform hmem
    simp [hlast hc]
  · rw [List.dropLast_append]
    split
    · exact fun hdrop => hmem (List.dropLast_subset _ hdrop)
    · exact List.not_mem_append hmem hrest

/-- A pass puts its own mark at the end only, and leaves another there that was there. -/
lemma not_mem_dropLast_closeUp_of {x : Char} (hx : x ∈ Text.marks) (pending : Bool)
    (h : x = mark ∨ x ∉ w.dropLast) : x ∉ (closeUp mark pending w).dropLast := by
  induction w generalizing pending with
  | nil => cases pending <;> simp [closeUp]
  | cons c w ih =>
    have htail : x = mark ∨ x ∉ w.dropLast := h.imp_right not_mem_dropLast_tail
    rw [closeUp]
    split <;> rename_i hc
    · exact ih true htail
    · refine not_mem_dropLast_form (c := c) (fun hmem => ?_) (ih false htail) ?_
      · split at hmem <;> rename_i hpending
        · obtain rfl := (Text.mem_upperChar_iff hx).mp hmem
          rw [if_pos hpending]
          exact ⟨rfl, Text.upperChar_of_mem_marks hx⟩
        · obtain rfl := List.mem_singleton.mp hmem
          rw [if_neg hpending]
          exact ⟨rfl, rfl⟩
      · rintro rfl
        rw [eq_nil_of_not_mem_dropLast (h.resolve_left hc)]
        rfl

/-- A pass leaves no mark in front of the last character. -/
lemma not_mem_dropLast_closeUp (hmark : mark ∈ Text.marks) (pending : Bool) (w : Word) :
    mark ∉ (closeUp mark pending w).dropLast :=
  not_mem_dropLast_closeUp_of hmark pending (Or.inl rfl)

/-! ## What a pass writes -/

/-- What a pass writes: the characters of the word, capital forms of them, and the mark. -/
lemma mem_closeUp {x : Char} {pending : Bool} (hx : x ∈ closeUp mark pending w) :
    x = mark ∨ x ∈ w ∨ ∃ c ∈ w, x ∈ Text.upperChar c := by
  induction w generalizing pending with
  | nil =>
    cases pending
    · exact absurd hx List.not_mem_nil
    · exact Or.inl (List.mem_singleton.mp hx)
  | cons c w ih =>
    have hrest : x = mark ∨ x ∈ w ∨ (∃ c ∈ w, x ∈ Text.upperChar c) →
        x = mark ∨ x ∈ c :: w ∨ ∃ y ∈ c :: w, x ∈ Text.upperChar y := by
      rintro (hx | hx | ⟨y, hy, hx⟩)
      · exact Or.inl hx
      · exact Or.inr (Or.inl (List.mem_cons_of_mem c hx))
      · exact Or.inr (Or.inr ⟨y, List.mem_cons_of_mem c hy, hx⟩)
    rw [closeUp] at hx
    split at hx
    · exact hrest (ih hx)
    · rcases List.mem_append.mp hx with hx | hx
      · split at hx
        · exact Or.inr (Or.inr ⟨c, List.mem_cons_self, hx⟩)
        · exact Or.inr (Or.inl (List.mem_singleton.mp hx ▸ List.mem_cons_self))
      · exact hrest (ih hx)

/-- A pass over one mark adds no other. -/
lemma mem_of_mem_closeUp {x : Char} {pending : Bool} (hx : x ∈ Text.marks) (hne : x ≠ mark)
    (h : x ∈ closeUp mark pending w) : x ∈ w := by
  rcases mem_closeUp h with heq | hmem | ⟨c, hc, hmem⟩
  · exact absurd heq hne
  · exact hmem
  · rwa [← (Text.mem_upperChar_iff hx).mp hmem]

/-! ## Steps -/

/-- A mark in front of a character of its line is found where it stands. -/
lemma findMark_cons {m c : Char} (hc : c ≠ '\n') (w : Word) :
    findMark mark (m :: c :: w) = if m = mark then some ([], c, w)
      else (findMark mark (c :: w)).map fun (before, x, after) => (m :: before, x, after) := by
  simp only [findMark, hc, ne_eq, not_false_eq_true, and_true]

/-- Nothing is found only where no mark stands in front of the last character. -/
lemma not_mem_dropLast_of_findMark (hline : '\n' ∉ w) (h : findMark mark w = none) :
    mark ∉ w.dropLast := by
  induction w with
  | nil => exact List.not_mem_nil
  | cons m w ih =>
    cases w with
    | nil => exact List.not_mem_nil
    | cons c w =>
      rw [List.mem_cons, not_or] at hline
      have hc : c ≠ '\n' := fun heq => hline.2 (heq ▸ List.mem_cons_self)
      rw [findMark_cons hc] at h
      split at h <;> rename_i hm
      · exact absurd h (by simp)
      · rw [List.dropLast_cons_cons, List.mem_cons, not_or]
        exact ⟨Ne.symm hm, ih hline.2 (Option.map_eq_none_iff.mp h)⟩

/-- In front of the mark that is found there is no other. -/
lemma not_mem_of_findMark {before after : Word} {c : Char} (hline : '\n' ∉ w)
    (h : findMark mark w = some (before, c, after)) : mark ∉ before := by
  induction w generalizing before c after with
  | nil => simp [findMark] at h
  | cons m w ih =>
    cases w with
    | nil => simp [findMark] at h
    | cons x w =>
      rw [List.mem_cons, not_or] at hline
      have hx : x ≠ '\n' := fun heq => hline.2 (heq ▸ List.mem_cons_self)
      rw [findMark_cons hx] at h
      split at h <;> rename_i hm
      · obtain ⟨rfl, -⟩ : [] = before ∧ _ := by simpa using h
        exact List.not_mem_nil
      · obtain ⟨⟨b, y, a⟩, hfound, heq⟩ := Option.map_eq_some_iff.mp h
        obtain ⟨rfl, -⟩ : m :: b = before ∧ _ := by simpa using heq
        rw [List.mem_cons, not_or]
        exact ⟨Ne.symm hm, ih hline.2 hfound⟩

/-- A step leaves the closed-up word as it was. -/
lemma closeUp_step (hmark : mark ∈ Text.marks) {before : Word} (hbefore : mark ∉ before)
    (c : Char) (after : Word) :
    closeUp mark false (before ++ Text.upperChar c ++ after)
      = closeUp mark false (before ++ mark :: c :: after) := by
  rw [List.append_assoc, closeUp_append hbefore, closeUp_append hbefore, closeUp_mark]
  by_cases hc : c = mark
  · subst hc
    rw [Text.upperChar_of_mem_marks hmark, List.singleton_append, closeUp_mark, closeUp_mark]
  · have hraised : mark ∉ Text.upperChar c :=
      fun hmem => hc ((Text.mem_upperChar_iff hmark).mp hmem)
    rw [closeUp_append hraised, closeUp_pending hc]

/-- A step takes one mark away. -/
lemma count_step (hmark : mark ∈ Text.marks) (before : Word) (c : Char) (after : Word) :
    (before ++ mark :: c :: after).count mark
      = (before ++ Text.upperChar c ++ after).count mark + 1 := by
  have hraised : (Text.upperChar c).count mark = [c].count mark := by
    by_cases hc : c = mark
    · rw [hc, Text.upperChar_of_mem_marks hmark]
    · rw [List.count_eq_zero_of_not_mem fun hmem => hc ((Text.mem_upperChar_iff hmark).mp hmem),
        List.count_eq_zero_of_not_mem fun hmem => hc (List.mem_singleton.mp hmem).symm]
  have hsplit : (c :: after).count mark = [c].count mark + after.count mark := by
    rw [← List.count_append, List.singleton_append]
  rw [List.count_append, List.count_append, List.count_append, List.count_cons_self, hsplit,
    hraised]
  omega

/-- Taking steps as long as there are any is one pass over the word. -/
lemma exhaust_eq_closeUp (hmark : mark ∈ Text.marks) {step : Word → Option Word}
    (hstep : ∀ w, '\n' ∉ w →
      step w = (findMark mark w).map fun (before, c, after) => before ++ Text.upperChar c ++ after)
    (bound : Nat) (hline : '\n' ∉ w) (hbound : w.count mark ≤ bound) :
    exhaust step bound w = closeUp mark false w := by
  induction bound generalizing w with
  | zero =>
    have hnone : mark ∉ w := List.count_eq_zero.mp (Nat.le_zero.mp hbound)
    rw [exhaust, closeUp_eq_self fun hmem => hnone (List.dropLast_subset w hmem)]
  | succ bound ih =>
    rw [exhaust, hstep w hline]
    cases hfound : findMark mark w with
    | none => exact (closeUp_eq_self (not_mem_dropLast_of_findMark hline hfound)).symm
    | some found =>
      obtain ⟨before, c, after⟩ := found
      have hbefore : mark ∉ before := not_mem_of_findMark hline hfound
      obtain rfl := findMark_eq_some hfound
      have hcount := count_step hmark before c after
      have hline' : '\n' ∉ before ++ Text.upperChar c ++ after := by
        simp only [List.mem_append, List.mem_cons, not_or] at hline ⊢
        have hraised : '\n' ∉ Text.upperChar c := fun hmem =>
          hline.2.2.1 ((Text.mem_upperChar_iff (by decide)).mp hmem).symm
        exact ⟨⟨hline.1, hraised⟩, hline.2.2.2⟩
      have hbound' : (before ++ Text.upperChar c ++ after).count mark ≤ bound := by omega
      rw [← closeUp_step hmark hbefore]
      exact ih hline' hbound'

/-! ## Underscores and hyphens -/

/-- Without line ends it is the underscore found that is dissolved, in either case. -/
lemma dissolveUnderscore_eq (hline : '\n' ∉ w) :
    dissolveUnderscore w = (findMark '_' w).map fun (before, c, after) =>
      before ++ Text.upperChar c ++ after := by
  rw [dissolveUnderscore]
  refine Option.map_congr fun found hfound => ?_
  obtain ⟨before, c, after⟩ := found
  dsimp only
  split <;> rename_i hcaseless
  · obtain rfl := findMark_eq_some hfound
    rw [List.erase_append_right _ (not_mem_of_findMark hline hfound), List.erase_cons_head,
      hcaseless, List.append_assoc, List.singleton_append]
  · rfl

lemma withoutUnderscores_eq_closeUp (hline : '\n' ∉ w) :
    withoutUnderscores w = closeUp '_' false w :=
  exhaust_eq_closeUp (by decide) (fun _ => dissolveUnderscore_eq) _ hline (Nat.le_refl _)

lemma withoutHyphens_eq_closeUp (hline : '\n' ∉ w) : withoutHyphens w = closeUp '-' false w :=
  exhaust_eq_closeUp (by decide) (fun _ _ => rfl) _ hline (Nat.le_refl _)

end Nomenclator.Word
