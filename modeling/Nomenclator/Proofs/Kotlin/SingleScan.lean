import Nomenclator.Kotlin.Transcoder
import Nomenclator.Proofs.Table
import Nomenclator.Proofs.Text.Replacement

/-!
# Tables of single characters

A transcoder makes the replacements of its table one after another, each in all that the earlier
ones have left.  So in general a replacement can be replaced in turn, and the order of the table
counts.

In a simple table each key is one character, and no entry writes the character of a key.  Then a
pass leaves alone what an earlier one has written, since no key is in it, and what a later one looks
for, since it replaces its own character only.  So the passes come to one scan that looks every
character up once: `replace_eq_scan`.  A scan depends on the table through its look-ups.  With
distinct keys these do not depend on the order of the table, and then neither does the transcoded
text.
-/

namespace Nomenclator.Kotlin.Transcoder

variable {entries : Table String} {c x : Char}

/-! ## One scan -/

/-- What a table has for a character, or else the character.  An underscore is not looked up. -/
def rendering (entries : Table String) (c : Char) : List Char :=
  if c = '_' then [c] else ((entries.lookup (String.singleton c)).map String.toList).getD [c]

/-- A text with each of its characters looked up once, from left to right. -/
def scan (entries : Table String) (w : List Char) : List Char := w.flatMap (rendering entries)

lemma rendering_of_not_mem (h : String.singleton c ∉ entries.keys) :
    rendering entries c = [c] := by
  rw [rendering, Table.lookup_eq_none_iff.mpr h]
  exact ite_self _

lemma rendering_cons_self (hx : x ≠ '_') (value : String) :
    rendering ((String.singleton x, value) :: entries) x = value.toList := by
  rw [rendering, if_neg hx, Table.lookup_cons, if_pos rfl]
  rfl

lemma rendering_cons_of_ne (hne : c ≠ x) (value : String) :
    rendering ((String.singleton x, value) :: entries) c = rendering entries c := by
  have hkey : String.singleton c ≠ String.singleton x := String.singleton_inj.not.mpr hne
  rw [rendering, Table.lookup_cons, if_neg hkey, rendering]

/-- What the table has for an underscore does not count. -/
lemma rendering_cons_underscore (c : Char) (value : String) :
    rendering ((String.singleton '_', value) :: entries) c = rendering entries c := by
  by_cases hc : c = '_'
  · rw [rendering, rendering, if_pos hc, if_pos hc]
  · exact rendering_cons_of_ne hc value

lemma scan_of_not_mem {w : List Char} (h : ∀ c ∈ w, String.singleton c ∉ entries.keys) :
    scan entries w = w :=
  (List.flatMap_congr fun c hc => rendering_of_not_mem (h c hc)).trans (List.flatMap_singleton' w)

/-! ## Passes -/

/-- Keys of one character each, none of which is in what an entry writes. -/
structure IsSimple (entries : Table String) : Prop where
  single : ∀ key ∈ entries.keys, ∃ c, key = String.singleton c
  apart : ∀ c, String.singleton c ∈ entries.keys → ∀ entry ∈ entries, c ∉ entry.2.toList

lemma IsSimple.tail {entry : String × String} (h : IsSimple (entry :: entries)) :
    IsSimple entries where
  single key hkey := h.single key (List.mem_cons_of_mem _ hkey)
  apart c hc other hother :=
    h.apart c (List.mem_cons_of_mem _ hc) other (List.mem_cons_of_mem _ hother)

/-- Of the keys of one character only the underscore is not kept. -/
lemma isKept_singleton_iff {value : String} :
    isKept (String.singleton x, value) = true ↔ x ≠ '_' := by
  have hempty : String.singleton x ≠ "" := by simp
  have hunderscore : String.singleton x = "_" ↔ x = '_' := String.singleton_inj (c := x) (d := '_')
  rw [isKept, Bool.and_eq_true, bne_iff_ne, bne_iff_ne, ne_eq, ne_eq, hunderscore]
  exact and_iff_right hempty

/-- A pass for one entry and a scan for the others come to a scan for all of them. -/
lemma scan_replaceAll {value : String} (h : IsSimple ((String.singleton x, value) :: entries))
    (hx : x ≠ '_') (w : List Char) :
    scan entries (Text.replaceAll [x] value.toList w)
      = scan ((String.singleton x, value) :: entries) w := by
  have hvalue : scan entries value.toList = value.toList := by
    refine scan_of_not_mem fun c hc hkey => ?_
    exact h.apart c (List.mem_cons_of_mem _ hkey) _ List.mem_cons_self hc
  calc scan entries (Text.replaceAll [x] value.toList w)
      = scan entries (w.flatMap fun c => if c = x then value.toList else [c]) := by
        rw [Text.replaceAll_singleton]
    _ = w.flatMap fun c => scan entries (if c = x then value.toList else [c]) := List.flatMap_assoc
    _ = w.flatMap (rendering ((String.singleton x, value) :: entries)) := by
        refine List.flatMap_congr fun c _ => ?_
        split <;> rename_i hc
        · rw [hc, hvalue, rendering_cons_self hx]
        · rw [rendering_cons_of_ne hc, scan, List.flatMap_singleton]

/-- The passes of a simple table come to one scan. -/
lemma replace_eq_scan (h : IsSimple entries) (w : List Char) :
    replace (ofTable entries).replacements w = scan entries w := by
  induction entries generalizing w with
  | nil => exact (scan_of_not_mem fun _ _ => List.not_mem_nil).symm
  | cons entry entries ih =>
    obtain ⟨key, value⟩ := entry
    obtain ⟨x, rfl⟩ : ∃ x, key = String.singleton x := h.single key List.mem_cons_self
    by_cases hx : x = '_'
    · -- the entry is not kept, and the scan does not look it up
      subst hx
      have hdropped : ¬isKept (String.singleton '_', value) = true :=
        isKept_singleton_iff.not.mpr (not_not.mpr rfl)
      rw [ofTable, List.filter_cons_of_neg hdropped, scan,
        List.flatMap_congr fun c _ => rendering_cons_underscore c value]
      exact ih h.tail w
    · rw [ofTable, List.filter_cons_of_pos (isKept_singleton_iff.mpr hx), replace, List.foldl_cons,
        String.toList_singleton, ← scan_replaceAll h hx]
      exact ih h.tail _

/-! ## Order -/

lemma IsSimple.perm {reordered : Table String} (h : IsSimple entries)
    (hperm : reordered.Perm entries) : IsSimple reordered where
  single key hkey := h.single key ((hperm.map Prod.fst).mem_iff.mp hkey)
  apart c hc other hother :=
    h.apart c ((hperm.map Prod.fst).mem_iff.mp hc) other (hperm.mem_iff.mp hother)

lemma scan_perm {reordered : Table String} (hperm : reordered.Perm entries)
    (hkeys : entries.keys.Nodup) (w : List Char) : scan reordered w = scan entries w := by
  refine List.flatMap_congr fun c _ => ?_
  rw [rendering, rendering, Table.lookup_perm hperm.symm hkeys]

/-- The passes of a simple table replace every character at most once, in one scan from left to
right.  Where its keys are distinct, the order of its entries makes no difference to any text. -/
theorem replacements_simultaneous (entries : Table String) (hsimple : IsSimple entries)
    (hkeys : entries.keys.Nodup) (w : List Char) :
    replace (ofTable entries).replacements w = scan entries w ∧
    ∀ reordered, reordered.Perm entries →
      (ofTable reordered).sanitize w = (ofTable entries).sanitize w := by
  refine ⟨replace_eq_scan hsimple w, fun reordered hperm => ?_⟩
  have hsame : replace (ofTable reordered).replacements w
      = replace (ofTable entries).replacements w :=
    calc replace (ofTable reordered).replacements w
        = scan reordered w := replace_eq_scan (hsimple.perm hperm) w
      _ = scan entries w := scan_perm hperm hkeys w
      _ = replace (ofTable entries).replacements w := (replace_eq_scan hsimple w).symm
  rw [sanitize, sanitize, hsame]

/-- A table in one order and in the opposite one, with an entry for the underscore. -/
theorem replacements_simultaneous_marks :
    let entries : Table String := [("<", "Less"), ("_", "X"), ("&", "-and-"), ("é", "e")]
    IsSimple entries ∧ entries.keys.Nodup ∧
    replace (ofTable entries).replacements "a_<é&b".toList = "a_Lesse-and-b".toList ∧
    (ofTable entries.reverse).sanitize "a_<é&b".toList = "a_Lesse_and_b".toList := by
  intro entries
  have hkeys : entries.keys = ['<', '_', '&', 'é'].map String.singleton := rfl
  have hwritten : (['<', '_', '&', 'é'].all fun c => entries.all fun entry => c ∉ entry.2.toList)
      = true := by
    decide
  have hsimple : IsSimple entries := by
    refine ⟨fun key hkey => ?_, fun c hc entry hentry => ?_⟩
    · rw [hkeys, List.mem_map] at hkey
      obtain ⟨c, -, rfl⟩ := hkey
      exact ⟨c, rfl⟩
    · rw [hkeys, List.mem_map_of_injective fun _ _ => String.singleton_inj.mp] at hc
      exact of_decide_eq_true (List.all_eq_true.mp (List.all_eq_true.mp hwritten c hc) entry hentry)
  have hdistinct : entries.keys.Nodup := by decide
  obtain ⟨hscan, horder⟩ :=
    replacements_simultaneous entries hsimple hdistinct "a_<é&b".toList
  refine ⟨hsimple, hdistinct, hscan.trans (by decide), ?_⟩
  rw [horder _ (List.reverse_perm entries)]
  decide +kernel

/-- An entry that writes the character of a key makes the order count. -/
example : (ofTable [("a", "b"), ("b", "c")]).sanitize ['a'] = ['c'] ∧
    (ofTable [("b", "c"), ("a", "b")]).sanitize ['a'] = ['b'] := by
  decide

end Nomenclator.Kotlin.Transcoder
