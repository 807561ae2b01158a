import Nomenclator.Text.Name
import Nomenclator.Proofs.Resolution.Completeness
import Nomenclator.Proofs.Text.Lines

/-!
# Values as text literals

The value of a constant of a text type is written between double quotes, and the double quotes in it
are dropped.  Values come from documents of others, so what is written has to be one literal
whatever the value is.

A literal is what a reader makes of it (`afterLiteral`).  Three things lead it astray, and dropping
quotes removes none of them: a backslash takes the next character, which can be the closing quote; a
line end breaks the literal off; and a dollar begins a template if an expression follows.  Whether a
backslash takes what follows depends on how many there are, since it may itself be taken.

`isLiteral_constantValue_iff` says that there is nothing else, and that each of the three does make
another thing of the text than one literal.
-/

namespace Nomenclator.Kotlin

open Text (doubleQuote isLineEnd)

variable {isLetter : Char → Bool} {body cs : List Char} {c : Char}

/-! ## Literals -/

/-- Whether a character behind a dollar begins the expression of a template. -/
def startsTemplate (isLetter : Char → Bool) (c : Char) : Bool := c = '\x7b' || c = '_' || isLetter c

/-- What stands behind the closing quote of a literal, which is read from behind its opening quote
on.  `escaped` says that a backslash in front takes the next character.  There is nothing where no
quote closes, or where the literal has a line end or a template in it. -/
def afterLiteral (isLetter : Char → Bool) (escaped : Bool) : List Char → Option (List Char)
  | [] => none
  | c :: cs =>
    if isLineEnd c then none
    else if escaped then afterLiteral isLetter false cs
    else if c = doubleQuote then some cs
    else if c = '$' && cs.head?.any (startsTemplate isLetter) then none
    else afterLiteral isLetter (c = '\\') cs

/-- A text that is one literal. -/
def IsLiteral (isLetter : Char → Bool) (text : List Char) : Prop :=
  ∃ cs, text = doubleQuote :: cs ∧ afterLiteral isLetter false cs = some []

/-! ## Escapes -/

/-- Whether a text takes what follows it: it ends with an odd number of backslashes. -/
def escapesNext (before : List Char) : Bool :=
  (before.reverse.takeWhile (· = '\\')).length % 2 = 1

/-- A backslash takes what follows it, unless it is taken itself. -/
lemma escapesNext_append_singleton (before : List Char) (c : Char) :
    escapesNext (before ++ [c]) = (c = '\\' && !escapesNext before) := by
  by_cases hc : c = '\\'
  · simp only [escapesNext, List.reverse_append, List.reverse_singleton, List.singleton_append, hc,
      decide_true, List.takeWhile_cons_of_pos, List.length_cons, Bool.true_and, ← decide_not,
      decide_eq_decide]
    omega
  · simp [escapesNext, hc]

/-! ## Places in a literal -/

/-- Whether a character can stand between the quotes of a literal: it is no line end, and if no
backslash takes it, it is no quote and begins no template. -/
def IsHarmless (isLetter : Char → Bool) (escaped : Bool) (c : Char) (behind : List Char) : Prop :=
  isLineEnd c = false ∧
    (escaped = false →
      c ≠ doubleQuote ∧ ¬(c = '$' ∧ behind.head?.any (startsTemplate isLetter) = true))

/-- Whether a text can stand between the quotes of a literal, behind what has been read already:
all of its characters can, and none is left that would take the closing quote. -/
def IsBody (isLetter : Char → Bool) (read body : List Char) : Prop :=
  (∀ before c behind, body = before ++ c :: behind →
    IsHarmless isLetter (escapesNext (read ++ before)) c behind) ∧
  escapesNext (read ++ body) = false

lemma isBody_nil (read : List Char) : IsBody isLetter read [] ↔ escapesNext read = false := by
  simp [IsBody]

lemma isBody_cons (read : List Char) (c : Char) (cs : List Char) :
    IsBody isLetter read (c :: cs) ↔
      IsHarmless isLetter (escapesNext read) c cs ∧ IsBody isLetter (read ++ [c]) cs := by
  have hread (before : List Char) : read ++ [c] ++ before = read ++ c :: before := by simp
  simp only [IsBody, hread, ← and_assoc]
  refine and_congr_left fun _ => ⟨fun h => ⟨?_, fun before x behind heq => ?_⟩, ?_⟩
  · simpa using h [] c cs rfl
  · exact h (c :: before) x behind (by rw [heq, List.cons_append])
  · rintro ⟨hfirst, hrest⟩ before x behind heq
    rcases List.cons_eq_append_iff.mp heq with ⟨rfl, hcons⟩ | ⟨before, rfl, rfl⟩
    · obtain ⟨rfl, rfl⟩ := List.cons.inj hcons
      simpa using hfirst
    · exact hrest before x behind rfl

/-- The reader goes on at a harmless character, and at no other. -/
lemma afterLiteral_cons (hquote : isLetter doubleQuote = false) (escaped : Bool) (c : Char)
    (cs : List Char) :
    afterLiteral isLetter escaped (c :: (cs ++ [doubleQuote])) = some [] ↔
      IsHarmless isLetter escaped c cs ∧
        afterLiteral isLetter (c = '\\' && !escaped) (cs ++ [doubleQuote]) = some [] := by
  have hnext : (cs ++ [doubleQuote]).head?.any (startsTemplate isLetter)
      = cs.head?.any (startsTemplate isLetter) := by
    cases cs with
    | nil =>
      have hclosing : startsTemplate isLetter doubleQuote = false := by
        rw [startsTemplate, hquote]
        decide
      simp [hclosing]
    | cons x cs => rfl
  rw [afterLiteral, hnext, IsHarmless]
  cases hend : isLineEnd c with
  | true => simp
  | false =>
    cases escaped with
    | true => simp
    | false =>
      by_cases hclose : c = doubleQuote
      · simp [hclose]
      · by_cases htemplate : c = '$' ∧ cs.head?.any (startsTemplate isLetter) = true
        · simp [htemplate]
        · simp [hclose, htemplate]

lemma afterLiteral_eq_some_nil_iff (hquote : isLetter doubleQuote = false) (read body : List Char) :
    afterLiteral isLetter (escapesNext read) (body ++ [doubleQuote]) = some [] ↔
      IsBody isLetter read body := by
  induction body generalizing read with
  | nil =>
    rw [isBody_nil]
    cases hread : escapesNext read <;> simp [afterLiteral, isLineEnd, doubleQuote]
  | cons c cs ih =>
    rw [List.cons_append, afterLiteral_cons hquote, isBody_cons, ← ih, escapesNext_append_singleton]

/-- Between its quotes a literal has a text that can stand there. -/
lemma isLiteral_iff_isBody (hquote : isLetter doubleQuote = false) (body : List Char) :
    IsLiteral isLetter (doubleQuote :: body ++ [doubleQuote]) ↔ IsBody isLetter [] body := by
  rw [← afterLiteral_eq_some_nil_iff hquote]
  simp [IsLiteral, escapesNext]

/-! ## Values without quotes -/

/-- A text that leads no reader astray, if it has no quotes: it does not take the closing quote, and
it has neither a line end nor a template in it. -/
structure IsInert (isLetter : Char → Bool) (body : List Char) : Prop where
  closed : escapesNext body = false
  oneLine : ∀ c ∈ body, isLineEnd c = false
  plain : ∀ before c behind, body = before ++ '$' :: c :: behind →
    startsTemplate isLetter c = true → escapesNext before = true

lemma isBody_iff_isInert (hbody : doubleQuote ∉ body) :
    IsBody isLetter [] body ↔ IsInert isLetter body := by
  constructor
  · rintro ⟨hplaces, hclosed⟩
    refine ⟨hclosed, fun c hc => ?_, fun before c behind heq hstarts => ?_⟩
    · obtain ⟨before, behind, rfl⟩ := List.append_of_mem hc
      exact (hplaces before c behind rfl).1
    · by_contra hfree
      rw [Bool.not_eq_true] at hfree
      exact ((hplaces before '$' (c :: behind) heq).2 hfree).2 ⟨rfl, hstarts⟩
  · rintro ⟨hclosed, hlines, hplain⟩
    refine ⟨fun before c behind heq => ⟨hlines c (by simp [heq]), fun hfree => ⟨?_, ?_⟩⟩, hclosed⟩
    · rintro rfl
      exact hbody (by simp [heq])
    · rintro ⟨rfl, hstarts⟩
      cases behind with
      | nil => exact absurd hstarts (by simp)
      | cons x behind =>
        rw [List.nil_append, hplain before x behind heq hstarts] at hfree
        exact absurd hfree (by decide)

lemma doubleQuote_not_mem_dropQuotes (cs : List Char) : doubleQuote ∉ dropQuotes cs := by
  simp [dropQuotes, doubleQuote]

namespace Generator

/-- The value of a constant of a text type is the value without its double quotes, between double
quotes.  Whatever characters count as letters, this is one literal if and only if the value, without
its quotes, does not end with a backslash that takes the closing quote, is in one line, and has no
dollar in front of an expression but behind a backslash that takes it. -/
theorem isLiteral_constantValue_iff (isLetter : Char → Bool) (hquote : isLetter doubleQuote = false)
    (value : String) {type : String} (htype : type ∈ textTypes) :
    ∃ literal, constantValue (.text value) (.text type) = .ok (.text literal) ∧
      literal.toList = doubleQuote :: dropQuotes value.toList ++ [doubleQuote] ∧
      (IsLiteral isLetter literal.toList ↔ IsInert isLetter (dropQuotes value.toList)) := by
  have hliteral : (onText textLiteral value).toList
      = doubleQuote :: dropQuotes value.toList ++ [doubleQuote] := String.toList_ofList
  refine ⟨onText textLiteral value, ?_, hliteral, ?_⟩
  · rw [constantValue_text, if_pos (List.contains_iff_mem.mpr htype)]
  · rw [hliteral, isLiteral_iff_isBody hquote,
      isBody_iff_isInert (doubleQuote_not_mem_dropQuotes value.toList)]

/-- A value that is left in one piece, with a quote that is dropped and backslashes in pairs, and
one whose dollar comes to stand in front of an expression when its quote is dropped. -/
theorem isLiteral_constantValue_iff_quoted :
    ("Char" ∈ textTypes ∧ Text.isNameStart doubleQuote = false) ∧
    (constantValue (.text "5\" \\\\") (.text "Char") = .ok (.text "\"5 \\\\\"") ∧
      IsLiteral Text.isNameStart "\"5 \\\\\"".toList) ∧
    (constantValue (.text "$\"name") (.text "Char") = .ok (.text "\"$name\"") ∧
      ¬IsLiteral Text.isNameStart "\"$name\"".toList) := by
  have htype : "Char" ∈ textTypes := by decide
  have hquote : Text.isNameStart doubleQuote = false := by decide
  obtain ⟨inches, hinches, hshown, hwhole⟩ :=
    isLiteral_constantValue_iff Text.isNameStart hquote "5\" \\\\" htype
  obtain ⟨name, hname, hshown', hbroken⟩ :=
    isLiteral_constantValue_iff Text.isNameStart hquote "$\"name" htype
  obtain rfl : inches = "\"5 \\\\\"" := String.toList_inj.mp (hshown.trans (by decide))
  obtain rfl : name = "\"$name\"" := String.toList_inj.mp (hshown'.trans (by decide))
  have hdropped : dropQuotes "5\" \\\\".toList = "5 \\\\".toList := by decide
  have hinert : IsInert Text.isNameStart (dropQuotes "5\" \\\\".toList) := by
    rw [hdropped]
    refine ⟨by decide, fun c hc => ?_, fun before c behind heq => ?_⟩
    · have hlines : ("5 \\\\".toList.all fun c => isLineEnd c = false) = true := by decide
      exact of_decide_eq_true (List.all_eq_true.mp hlines c hc)
    · have hdollar : '$' ∈ "5 \\\\".toList := by simp [heq]
      exact absurd hdollar (by decide)
  refine ⟨⟨htype, hquote⟩, ⟨hinches, hwhole.mpr hinert⟩, hname, fun hliteral => ?_⟩
  have hescaped := (hbroken.mp hliteral).plain [] 'n' "ame".toList (by decide) (by decide)
  exact absurd hescaped (by decide)

/-- Not every value is written as one literal: the text between the quotes can be a template, whose
expression comes from the value. -/
theorem template_written_as_literal :
    ¬∀ value type, type ∈ textTypes → ∀ literal,
      constantValue (.text value) (.text type) = .ok (.text literal) →
      IsLiteral Text.isNameStart literal.toList := by
  intro hall
  obtain ⟨cs, hcs, hread⟩ := hall "$\x7bx\x7d" "String" (by decide) "\"$\x7bx\x7d\"" rfl
  obtain rfl : cs = "$\x7bx\x7d\"".toList := (List.cons.inj hcs).2.symm
  exact absurd hread (by decide)

end Generator

end Nomenclator.Kotlin
