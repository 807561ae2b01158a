import Nomenclator.Text.Case
import Mathlib.Data.List.Basic
import Mathlib.Tactic.Lemma

/-!
# Case within ASCII

On ASCII characters the case mappings are those of single characters: no entry of the tables is
read, no character becomes two, and no sigma has to be lowered by its surroundings.  What is claimed
of all ASCII characters can be checked on each of them.
-/

namespace Nomenclator.Text

/-- A property of all ASCII characters, checked on each of them. -/
lemma forall_ascii {P : Char → Prop} (h : ∀ n, n < 128 → P (Char.ofNat n)) {c : Char}
    (hc : c.toNat < 128) : P c := by
  have hn := h c.toNat hc
  rwa [Char.ofNat_toNat] at hn

lemma upperChar_of_ascii {c : Char} (hc : c.toNat < 128) : upperChar c = [c.toUpper] := if_pos hc

lemma lowerChar_of_ascii {c : Char} (hc : c.toNat < 128) : lowerChar c = [c.toLower] := if_pos hc

lemma upper_of_ascii {cs : List Char} (hcs : ∀ c ∈ cs, c.toNat < 128) :
    upper cs = cs.map Char.toUpper := by
  rw [upper, ← List.flatMap_singleton' (cs.map Char.toUpper), List.flatMap_map]
  exact List.flatMap_congr fun c hc => upperChar_of_ascii (hcs c hc)

lemma lowerAfter_of_ascii {cs : List Char} (afterCased : Bool) (hcs : ∀ c ∈ cs, c.toNat < 128) :
    lowerAfter afterCased cs = cs.map Char.toLower := by
  induction cs generalizing afterCased with
  | nil => rfl
  | cons c cs ih =>
    have hc : c.toNat < 128 := hcs c List.mem_cons_self
    have hsigma : c ≠ 'Σ' := by
      rintro rfl
      exact absurd hc (by decide)
    rw [lowerAfter, if_neg hsigma, lowerChar_of_ascii hc,
      ih _ fun x hx => hcs x (List.mem_cons_of_mem c hx)]
    rfl

lemma lower_of_ascii {cs : List Char} (hcs : ∀ c ∈ cs, c.toNat < 128) :
    lower cs = cs.map Char.toLower :=
  lowerAfter_of_ascii false hcs

end Nomenclator.Text
