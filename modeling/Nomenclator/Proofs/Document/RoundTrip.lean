import Nomenclator.Document.Reader
import Nomenclator.Document.Writer
import Nomenclator.Proofs.Journal
import Nomenclator.Proofs.Table

/-!
# Documents read back as they were written

`read_write` says that the reader takes the text of a value back to that value.  It is proved for
the values that have no numbers in them, whose records have each field once, and that nest no deeper
than the reader has room: `Plain`.  Settings are written as such values.

The proof follows the writer.  A character is written as itself or as an escape, and the reader
undoes one character at a time (`readText_writeChar`).  Items and fields stand on lines of their
own, so the reader always meets them behind white space; what `readItems_writeItems` and
`readFields_writeFields` say of it is therefore said of the text from its first character that is
not white space.  The bound on the recursion needs no measure of its own: the length of the written
text is enough, because every item and every field starts with a new line.

`Plain.return_not_mem` is what a file needs to hand a written text back unchanged.
-/

namespace Nomenclator.Document

/-! ## Texts -/

lemma hexQuad?_of_lt : ∀ n < 0x20,
    hexQuad? '0' '0' (Nat.digitChar (n / 16 % 16)) (Nat.digitChar (n % 16)) = some n := by
  decide

lemma hexDigits_of_lt {n : Nat} (h : n < 0x20) :
    Text.hexDigits 4 n = ['0', '0', Nat.digitChar (n / 16 % 16), Nat.digitChar (n % 16)] := by
  have hzero : n / 16 / 16 = 0 := by omega
  simp [Text.hexDigits, hzero]

lemma isHighUnit_of_lt {n : Nat} (h : n < 0x20) : isHighUnit n = false := by
  simp only [isHighUnit, Bool.and_eq_false_iff, decide_eq_false_iff_not]
  omega

lemma unitChar_of_control {c : Char} (h : c.toNat < 0x20) : unitChar c.toNat = c := by
  have hlow : isLowUnit c.toNat = false := by
    simp only [isLowUnit, Bool.and_eq_false_iff, decide_eq_false_iff_not]
    omega
  simp [unitChar, isHighUnit_of_lt h, hlow]

/-- An escape by code stands for its unit, unless it is the first half of a pair or nothing
follows it. -/
lemma readText_unit (opening : Nat) {n : Nat} {a b c d : Char} {tail : List Char}
    (hquad : hexQuad? a b c d = some n) (hhigh : isHighUnit n = false) (htail : tail ≠ []) :
    readText opening ('\\' :: 'u' :: a :: b :: c :: d :: tail)
      = withChar (unitChar n) (readText opening tail) := by
  rw [readText.eq_def]
  simp only [hquad]
  split
  · contradiction
  · rename_i heq
    simp at heq
  · -- another escape follows, which is no second half here
    rename_i heq
    cases heq
    simp [hhigh]
  · rename_i heq
    cases heq
    rfl

lemma readText_plain {opening : Nat} {c : Char} {tail : List Char} (hquote : c ≠ '\x22')
    (hbackslash : c ≠ '\\') (hcontrol : ¬ c.toNat < 0x20) :
    readText opening (c :: tail) = withChar c (readText opening tail) := by
  rw [readText, if_neg hcontrol] <;> simp [hquote, hbackslash]

/-- A written character is read back, if anything follows it. -/
lemma readText_writeChar (opening : Nat) (c : Char) {tail : List Char} (htail : tail ≠ []) :
    readText opening (writeChar c ++ tail) = withChar c (readText opening tail) := by
  unfold writeChar
  split
  case h_8 hquote hbackslash _ _ _ _ _ =>
    by_cases hcontrol : c.toNat < 0x20
    · have hunit := readText_unit opening (hexQuad?_of_lt _ hcontrol)
        (isHighUnit_of_lt hcontrol) htail
      rw [unitChar_of_control hcontrol] at hunit
      rw [if_pos hcontrol, hexDigits_of_lt hcontrol]
      exact hunit
    · rw [if_neg hcontrol]
      exact readText_plain hquote hbackslash hcontrol
  all_goals simp [readText, simpleEscape?]

/-- A written text is read back up to its closing quote. -/
lemma readText_flatMap (opening : Nat) (cs rest : List Char) :
    readText opening (cs.flatMap writeChar ++ '\x22' :: rest) = .ok (cs, rest) := by
  induction cs with
  | nil => rfl
  | cons c cs ih =>
    rw [List.flatMap_cons, List.append_assoc, readText_writeChar opening c (by simp), ih]
    rfl

lemma writeText_append (cs rest : List Char) :
    writeText cs ++ rest = '\x22' :: (cs.flatMap writeChar ++ '\x22' :: rest) := by
  simp [writeText]

/-! ## White space -/

lemma skipSpace_cons {c : Char} (hc : isSpace c = false) (cs : List Char) :
    skipSpace (c :: cs) = c :: cs := by
  simp [skipSpace, hc]

lemma skipSpace_newLine (depth : Nat) (cs : List Char) :
    skipSpace (newLine depth ++ cs) = skipSpace cs := by
  have hspaces : ∀ n, skipSpace (List.replicate n ' ' ++ cs) = skipSpace cs := by
    intro n
    induction n with
    | zero => rfl
    | succ n ih => simpa [List.replicate_succ, skipSpace, isSpace] using ih
  simpa [newLine, skipSpace, isSpace] using hspaces (2 * depth)

/-! ## Plain values -/

/-- A value without numbers whose records have each field once, and which there is so much room to
read. -/
inductive Plain : Nat → Value → Prop
  | null (room : Nat) : Plain room .null
  | bool (room : Nat) (b : Bool) : Plain room (.bool b)
  | text (room : Nat) (s : String) : Plain room (.text s)
  | list {room : Nat} {items : List Value} (hitems : ∀ v ∈ items, Plain room v) :
      Plain (room + 1) (.list items)
  | record {room : Nat} {fields : Table Value} (hkeys : fields.keys.Nodup)
      (hfields : ∀ field ∈ fields, Plain room field.2) : Plain (room + 1) (.record fields)

/-- The written text of a plain value starts with a character that no reader skips. -/
lemma Plain.exists_writeValue {room : Nat} {v : Value} (h : Plain room v) (depth : Nat) :
    ∃ c cs, writeValue depth v = c :: cs ∧ isSpace c = false ∧ c ≠ '\ufeff' := by
  cases h with
  | null => exact ⟨'n', _, rfl, by decide, by decide⟩
  | bool _ b => cases b <;> exact ⟨_, _, rfl, by decide, by decide⟩
  | text _ s => exact ⟨'\x22', _, by rw [writeValue]; rfl, by decide, by decide⟩
  | @list _ items =>
    cases items with
    | nil => exact ⟨'[', _, by rw [writeValue], by decide, by decide⟩
    | cons v rest => exact ⟨'[', _, by rw [writeValue]; rfl, by decide, by decide⟩
  | @record _ fields =>
    cases fields with
    | nil => exact ⟨'\x7b', _, by rw [writeValue], by decide, by decide⟩
    | cons field rest => exact ⟨'\x7b', _, by rw [writeValue]; rfl, by decide, by decide⟩

lemma Plain.skipSpace_writeValue {room : Nat} {v : Value} (h : Plain room v) (depth : Nat)
    (rest : List Char) : skipSpace (writeValue depth v ++ rest) = writeValue depth v ++ rest := by
  obtain ⟨c, cs, hvalue, hspace, -⟩ := h.exists_writeValue depth
  rw [hvalue, List.cons_append, skipSpace_cons hspace]

/-- At every depth the written text is read back in so much room, whatever follows it, if the bound
on the recursion is at least its length. -/
def ReadsBack (room : Nat) (v : Value) : Prop :=
  ∀ (depth fuel : Nat) (rest : List Char), (writeValue depth v).length ≤ fuel →
    readValue fuel room (writeValue depth v ++ rest) = .ok (v, rest)

/-- A bound on the length of a text that is not empty leaves one call for its first character. -/
lemma exists_succ_of_length {c : Char} {cs : List Char} {fuel : Nat}
    (h : (c :: cs).length ≤ fuel) : ∃ n, fuel = n + 1 ∧ cs.length ≤ n := by
  rw [List.length_cons] at h
  exact ⟨fuel - 1, by omega, by omega⟩

/-! ## Items and fields -/

section Steps

variable {fuel room : Nat}

lemma readItems_last {v : Value} {cs tail rest : List Char}
    (hvalue : readValue fuel room cs = .ok (v, tail)) (hclose : skipSpace tail = ']' :: rest) :
    readItems (fuel + 1) room cs = .ok ([v], rest) := by
  rw [readItems, hvalue]
  simp only [bind, Except.bind, hclose]
  rfl

lemma readItems_next {v : Value} {items : List Value} {cs tail after rest : List Char}
    (hvalue : readValue fuel room cs = .ok (v, tail)) (hcomma : skipSpace tail = ',' :: after)
    (hitems : readItems fuel room (skipSpace after) = .ok (items, rest)) :
    readItems (fuel + 1) room cs = .ok (v :: items, rest) := by
  rw [readItems, hvalue]
  simp only [bind, Except.bind, hcomma, hitems]
  rfl

lemma readFields_last {key : String} {v : Value} {cs tail rest : List Char}
    (hvalue : readValue fuel room (skipSpace cs) = .ok (v, tail))
    (hclose : skipSpace tail = '\x7d' :: rest) :
    readFields (fuel + 1) room (writeText key.toList ++ ':' :: cs) = .ok ([(key, v)], rest) := by
  rw [writeText_append, readFields, readText_flatMap]
  simp only [bind, Except.bind, skipSpace_cons (c := ':') (by decide), hvalue, hclose,
    String.ofList_toList]
  rfl

lemma readFields_next {key : String} {v : Value} {fields : Table Value}
    {cs tail after rest : List Char} (hvalue : readValue fuel room (skipSpace cs) = .ok (v, tail))
    (hcomma : skipSpace tail = ',' :: after)
    (hfields : readFields fuel room (skipSpace after) = .ok (fields, rest)) :
    readFields (fuel + 1) room (writeText key.toList ++ ':' :: cs)
      = .ok ((key, v) :: fields, rest) := by
  rw [writeText_append, readFields, readText_flatMap]
  simp only [bind, Except.bind, skipSpace_cons (c := ':') (by decide), hvalue, hcomma, hfields,
    String.ofList_toList]
  rfl

end Steps

/-- Items that read back are read back from their lines, up to the closing bracket. -/
lemma readItems_writeItems {room : Nat} {items : List Value} (hne : items ≠ [])
    (hplain : ∀ v ∈ items, Plain room v) (hread : ∀ v ∈ items, ReadsBack room v)
    {depth fuel : Nat} (hfuel : (writeItems depth items).length ≤ fuel) (close : Nat)
    (rest : List Char) :
    readItems fuel room (skipSpace (writeItems depth items ++ (newLine close ++ ']' :: rest)))
      = .ok (items, rest) := by
  induction items generalizing fuel with
  | nil => contradiction
  | cons v items ih =>
    obtain ⟨hv, hplain⟩ := List.forall_mem_cons.mp hplain
    obtain ⟨hvalue, hread⟩ := List.forall_mem_cons.mp hread
    cases items with
    | nil =>
      rw [writeItems] at hfuel ⊢
      obtain ⟨fuel, rfl, hlength⟩ := exists_succ_of_length hfuel
      rw [List.append_assoc, skipSpace_newLine, hv.skipSpace_writeValue]
      refine readItems_last (hvalue depth fuel _ ?_) ?_
      · simp at hlength
        omega
      · rw [skipSpace_newLine, skipSpace_cons (by decide)]
    | cons next items =>
      rw [writeItems] at hfuel ⊢
      obtain ⟨fuel, rfl, hlength⟩ := exists_succ_of_length hfuel
      simp only [List.append_assoc, List.cons_append, List.nil_append] at hlength ⊢
      rw [skipSpace_newLine, hv.skipSpace_writeValue]
      refine readItems_next (hvalue depth fuel _ ?_) (skipSpace_cons (by decide) _)
        (ih (by simp) hplain hread ?_)
      all_goals
        simp at hlength
        omega

/-- Fields whose values read back are read back from their lines, up to the closing brace. -/
lemma readFields_writeFields {room : Nat} {fields : Table Value} (hne : fields ≠ [])
    (hplain : ∀ field ∈ fields, Plain room field.2)
    (hread : ∀ field ∈ fields, ReadsBack room field.2) {depth fuel : Nat}
    (hfuel : (writeFields depth fields).length ≤ fuel) (close : Nat)
    (rest : List Char) :
    readFields fuel room (skipSpace (writeFields depth fields ++ (newLine close ++ '\x7d' :: rest)))
      = .ok (fields, rest) := by
  have hquote (key : String) (cs : List Char) :
      skipSpace (writeText key.toList ++ cs) = writeText key.toList ++ cs :=
    skipSpace_cons (by decide) _
  induction fields generalizing fuel with
  | nil => contradiction
  | cons field fields ih =>
    obtain ⟨key, v⟩ := field
    obtain ⟨hv : Plain room v, hplain⟩ := List.forall_mem_cons.mp hplain
    obtain ⟨hvalue : ReadsBack room v, hread⟩ := List.forall_mem_cons.mp hread
    have hblank (tail : List Char) :
        skipSpace (' ' :: (writeValue depth v ++ tail)) = writeValue depth v ++ tail :=
      hv.skipSpace_writeValue depth tail
    cases fields with
    | nil =>
      rw [writeFields] at hfuel ⊢
      obtain ⟨fuel, rfl, hlength⟩ := exists_succ_of_length hfuel
      simp only [List.append_assoc, List.cons_append, List.nil_append] at hlength ⊢
      rw [skipSpace_newLine, hquote]
      have hclose : skipSpace (newLine close ++ '\x7d' :: rest) = '\x7d' :: rest := by
        rw [skipSpace_newLine, skipSpace_cons (by decide)]
      refine readFields_last ?_ hclose
      rw [hblank]
      refine hvalue depth fuel _ ?_
      simp at hlength
      omega
    | cons next fields =>
      rw [writeFields] at hfuel ⊢
      obtain ⟨fuel, rfl, hlength⟩ := exists_succ_of_length hfuel
      simp only [List.append_assoc, List.cons_append, List.nil_append] at hlength ⊢
      rw [skipSpace_newLine, hquote]
      refine readFields_next ?_ (skipSpace_cons (by decide) _) (ih (by simp) hplain hread ?_)
      · rw [hblank]
        refine hvalue depth fuel _ ?_
        simp at hlength
        omega
      · simp at hlength
        omega

/-! ## Values -/

lemma readItems_close_ne_ok {fuel room : Nat} {cs : List Char} {read : List Value × List Char} :
    readItems fuel room (']' :: cs) ≠ .ok read := by
  cases fuel with
  | zero => simp [readItems, failAt]
  | succ fuel =>
    cases fuel <;> simp [readItems, readValue, readScalar, readNumber, failAt, bind, Except.bind]

lemma readFields_close_ne_ok {fuel room : Nat} {cs : List Char} {read : Table Value × List Char} :
    readFields fuel room ('\x7d' :: cs) ≠ .ok read := by
  cases fuel <;> simp [readFields, failAt]

lemma readValue_list {fuel room : Nat} {items : List Value} {cs rest : List Char}
    (hitems : readItems fuel room (skipSpace cs) = .ok (items, rest)) :
    readValue (fuel + 1) (room + 1) ('[' :: cs) = .ok (.list items, rest) := by
  rw [readValue]
  split
  · rename_i heq
    rw [heq] at hitems
    exact absurd hitems readItems_close_ne_ok
  · rw [hitems]
    rfl

lemma readValue_record {fuel room : Nat} {fields : Table Value} {cs rest : List Char}
    (hkeys : fields.keys.Nodup)
    (hfields : readFields fuel room (skipSpace cs) = .ok (fields, rest)) :
    readValue (fuel + 1) (room + 1) ('\x7b' :: cs) = .ok (.record fields, rest) := by
  rw [readValue]
  split
  · rename_i heq
    rw [heq] at hfields
    exact absurd hfields readFields_close_ne_ok
  · rw [hfields]
    simp only [bind, Except.bind, Table.ofEntries_of_nodup hkeys]
    rfl

/-- The written text is not empty, so only bounds that leave a call matter. -/
lemma Plain.readsBack_of_succ {room : Nat} {v : Value} (h : Plain room v)
    (hread : ∀ (depth fuel : Nat) (rest : List Char), (writeValue depth v).length ≤ fuel + 1 →
      readValue (fuel + 1) room (writeValue depth v ++ rest) = .ok (v, rest)) :
    ReadsBack room v := by
  intro depth fuel rest hfuel
  obtain ⟨c, cs, hvalue, -⟩ := h.exists_writeValue depth
  obtain ⟨n, rfl, -⟩ := exists_succ_of_length (hvalue ▸ hfuel)
  exact hread depth n rest hfuel

lemma Plain.readsBack {room : Nat} {v : Value} (h : Plain room v) : ReadsBack room v := by
  induction h with
  | null room => exact (Plain.null room).readsBack_of_succ fun depth fuel rest hfuel => rfl
  | bool room b =>
    refine (Plain.bool room b).readsBack_of_succ fun depth fuel rest hfuel => ?_
    cases b <;> rfl
  | text room s =>
    refine (Plain.text room s).readsBack_of_succ fun depth fuel rest hfuel => ?_
    rw [writeValue, writeText_append, readValue, readText_flatMap]
    simp only [bind, Except.bind, String.ofList_toList]
    rfl
  | @list room items hitems ih =>
    refine (Plain.list hitems).readsBack_of_succ fun depth fuel rest hfuel => ?_
    cases items with
    | nil => rfl
    | cons v items =>
      rw [writeValue] at hfuel ⊢
      simp only [List.append_assoc, List.cons_append, List.nil_append, List.length_cons] at hfuel ⊢
      refine readValue_list (readItems_writeItems (by simp) hitems ih ?_ depth rest)
      rw [List.length_append] at hfuel
      omega
  | @record room fields hkeys hfields ih =>
    refine (Plain.record hkeys hfields).readsBack_of_succ fun depth fuel rest hfuel => ?_
    cases fields with
    | nil => rfl
    | cons field fields =>
      rw [writeValue] at hfuel ⊢
      simp only [List.append_assoc, List.cons_append, List.nil_append, List.length_cons] at hfuel ⊢
      refine readValue_record hkeys (readFields_writeFields (by simp) hfields ih ?_ depth rest)
      rw [List.length_append] at hfuel
      omega

/-- The text of a plain value is read back to the value. -/
theorem read_write {room : Nat} {v : Value} (h : Plain room v) :
    read room (write v) = .ok v := by
  obtain ⟨c, cs, hvalue, hspace, hmark⟩ := h.exists_writeValue 0
  have hread := h.readsBack 0 (2 * (writeValue 0 v).length + 2) [] (by omega)
  rw [List.append_nil, hvalue] at hread
  rw [read, write, String.toList_ofList, hvalue, readChars]
  · rw [skipSpace_cons hspace, hread]
    rfl
  · simpa using hmark

/-! ## Line ends -/

lemma return_not_mem_writeChar (c : Char) : '\r' ∉ writeChar c := by
  have hdigits : ∀ n < 0x20, '\r' ∉ ['\\', 'u', '0', '0', Nat.digitChar (n / 16 % 16),
      Nat.digitChar (n % 16)] := by decide
  unfold writeChar
  split
  case h_8 _ _ _ hreturn _ _ _ =>
    by_cases hcontrol : c.toNat < 0x20
    · rw [if_pos hcontrol, hexDigits_of_lt hcontrol]
      exact hdigits _ hcontrol
    · rw [if_neg hcontrol, List.mem_singleton]
      exact fun h => hreturn h.symm
  all_goals decide

lemma return_not_mem_writeText (cs : List Char) : '\r' ∉ writeText cs := by
  simp [writeText, return_not_mem_writeChar]

lemma return_not_mem_newLine (depth : Nat) : '\r' ∉ newLine depth := by
  simp [newLine]

lemma return_not_mem_writeItems {items : List Value} {depth : Nat}
    (hitems : ∀ v ∈ items, '\r' ∉ writeValue depth v) : '\r' ∉ writeItems depth items := by
  induction items with
  | nil => simp [writeItems]
  | cons v items ih =>
    obtain ⟨hv, hitems⟩ := List.forall_mem_cons.mp hitems
    cases items with
    | nil => simp [writeItems, return_not_mem_newLine, hv]
    | cons next items => simp [writeItems, return_not_mem_newLine, hv, ih hitems]

lemma return_not_mem_writeFields {fields : Table Value} {depth : Nat}
    (hfields : ∀ field ∈ fields, '\r' ∉ writeValue depth field.2) :
    '\r' ∉ writeFields depth fields := by
  induction fields with
  | nil => simp [writeFields]
  | cons field fields ih =>
    obtain ⟨key, v⟩ := field
    obtain ⟨hv, hfields⟩ := List.forall_mem_cons.mp hfields
    cases fields with
    | nil => simp [writeFields, return_not_mem_newLine, return_not_mem_writeText, hv]
    | cons next fields =>
      simp [writeFields, return_not_mem_newLine, return_not_mem_writeText, hv, ih hfields]

/-- A written text holds no carriage return: those of its texts are escaped. -/
lemma Plain.return_not_mem {room : Nat} {v : Value} (h : Plain room v) (depth : Nat) :
    '\r' ∉ writeValue depth v := by
  induction h generalizing depth with
  | null => simp [writeValue]
  | bool _ b => cases b <;> simp [writeValue]
  | text _ s =>
    rw [writeValue]
    exact return_not_mem_writeText s.toList
  | @list _ items hitems ih =>
    cases items with
    | nil => simp [writeValue]
    | cons v items =>
      have hbody := return_not_mem_writeItems fun w hw => ih w hw (depth + 1)
      simp [writeValue, return_not_mem_newLine, hbody]
  | @record _ fields hkeys hfields ih =>
    cases fields with
    | nil => simp [writeValue]
    | cons field fields =>
      have hbody := return_not_mem_writeFields fun f hf => ih f hf (depth + 1)
      simp [writeValue, return_not_mem_newLine, hbody]

end Nomenclator.Document
