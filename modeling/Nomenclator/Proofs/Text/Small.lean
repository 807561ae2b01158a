import Nomenclator.Proofs.Text.Ascii

/-!
# Small letters stay

The small form of a text is its own small form.  The reason is in the tables: no run of the small
forms ends in a character that another run starts from.  The check is made on the runs and not on
the characters they stand for: `CaseRun.misses` compares the ends of two runs, or, where every
second character of a stretch is mapped to its neighbour, the parity of their beginnings.

The final sigma needs no care here.  A capital sigma is lowered by its surroundings, but no small
form contains one, so the second pass never looks at the surroundings of a character.
-/

namespace Nomenclator.Text

/-! ## Runs that do not meet -/

/-- Whether it is seen from the ends of the runs that no image of the first is mapped by the
second. -/
def CaseRun.misses (r q : CaseRun) : Bool :=
  r.target + (r.last - r.first) < q.first || q.last < r.target
    || (q.step == 2 && (r.last == r.first || r.step == 2) && (r.target + q.first) % 2 == 1)

lemma CaseRun.image?_eq_some {r : CaseRun} {n m : Nat} (h : r.image? n = some m) :
    r.first ≤ n ∧ n ≤ r.last ∧ (n - r.first) % r.step = 0 ∧ m = r.target + (n - r.first) := by
  unfold CaseRun.image? at h
  split at h <;> rename_i hmem
  · exact ⟨hmem.1, hmem.2.1, hmem.2.2, (Option.some.inj h).symm⟩
  · simp at h

lemma CaseRun.image?_of_misses {r q : CaseRun} {n m : Nat} (hmiss : r.misses q = true)
    (h : r.image? n = some m) : q.image? m = none := by
  obtain ⟨hfirst, hlast, hstep, rfl⟩ := CaseRun.image?_eq_some h
  simp only [CaseRun.misses, Bool.or_eq_true, Bool.and_eq_true, decide_eq_true_eq, beq_iff_eq]
    at hmiss
  unfold CaseRun.image?
  rw [if_neg]
  rintro ⟨hqfirst, hqlast, hqstep⟩
  rcases hmiss with (hbelow | habove) | ⟨⟨htwo, hr⟩, hparity⟩
  · omega
  · omega
  · -- the distance from the beginning of `r` is even, the one from that of `q` is odd
    rw [htwo] at hqstep
    rcases hr with hone | hrtwo
    · omega
    · rw [hrtwo] at hstep
      omega

/-- The run of a single character that is expanded. -/
def expandedRun (entry : Nat × List Nat) : CaseRun := ⟨entry.1, entry.1, 1, entry.1⟩

lemma lowerRuns_misses : (lowerRuns.all fun r => lowerRuns.all fun q => r.misses q) = true := by
  decide +kernel

lemma lowerRuns_misses_expansions :
    (lowerRuns.all fun r => lowerExpansions.all fun entry => r.misses (expandedRun entry))
      = true := by
  decide +kernel

/-! ## Small characters -/

/-- Whether a character is its own small form in every surrounding. -/
def isSmall (c : Char) : Bool := lowerChar c = [c] && c != 'Σ'

lemma lowerChar_of_isSmall {c : Char} (h : isSmall c = true) : lowerChar c = [c] := by
  simp only [isSmall, Bool.and_eq_true, decide_eq_true_eq] at h
  exact h.1

lemma ne_sigma_of_isSmall {c : Char} (h : isSmall c = true) : c ≠ 'Σ' := by
  simp only [isSmall, Bool.and_eq_true, bne_iff_ne] at h
  exact h.2

lemma isSmall_expansions :
    (lowerExpansions.all fun entry => entry.2.all fun n => isSmall (Char.ofNat n)) = true := by
  decide +kernel

/-- The images below the tables are single characters. -/
lemma isSmall_low_images :
    (lowerRuns.all fun r => 128 ≤ r.target || (r.last == r.first && isSmall (Char.ofNat r.target)))
      = true := by
  decide +kernel

lemma isSmall_toLower {c : Char} (hc : c.toNat < 128) : isSmall c.toLower = true :=
  forall_ascii (P := fun c => isSmall c.toLower = true) (by decide +kernel) hc

lemma lookup_expansions_of_image {r : CaseRun} (hr : r ∈ lowerRuns) {n m : Nat}
    (h : r.image? n = some m) : lowerExpansions.lookup m = none := by
  rw [List.lookup_eq_none_iff]
  intro entry hentry
  have hmiss := List.all_eq_true.mp
    (List.all_eq_true.mp lowerRuns_misses_expansions r hr) entry hentry
  have hnone := CaseRun.image?_of_misses hmiss h
  rw [bne_iff_ne]
  rintro rfl
  simp [CaseRun.image?, expandedRun] at hnone

/-- An image of a run is small: where it is beyond ASCII because no run starts from it, and below
because there are few of those. -/
lemma isSmall_image {r : CaseRun} (hr : r ∈ lowerRuns) {n m : Nat} (h : r.image? n = some m) :
    isSmall (Char.ofNat m) = true := by
  by_cases hvalid : m.isValidChar
  · have hm : (Char.ofNat m).toNat = m := by
      rw [Char.ofNat, dif_pos hvalid]
      rfl
    have hnone : lowerRuns.findSome? (·.image? m) = none := by
      rw [List.findSome?_eq_none_iff]
      intro q hq
      exact CaseRun.image?_of_misses (List.all_eq_true.mp
        (List.all_eq_true.mp lowerRuns_misses r hr) q hq) h
    have hlow := List.all_eq_true.mp isSmall_low_images r hr
    simp only [Bool.or_eq_true, Bool.and_eq_true, decide_eq_true_eq, beq_iff_eq] at hlow
    obtain ⟨hfirst, hlast, -, hmr⟩ := CaseRun.image?_eq_some h
    rcases hlow with hbeyond | ⟨hone, hsmall⟩
    · have hsigma : Char.ofNat m ≠ 'Σ' := by
        intro heq
        rw [← hm, heq] at hnone
        exact absurd hnone (by decide)
      have hascii : 128 ≤ m := by omega
      simp [isSmall, lowerChar, hascii, mapCase, hm, lookup_expansions_of_image hr h, hnone, hsigma]
    · rwa [hmr, show r.target + (n - r.first) = r.target by omega]
  · rw [show Char.ofNat m = '\x00' from dif_neg hvalid]
    decide

lemma isSmall_of_mem_lowerChar {c x : Char} (hc : c ≠ 'Σ') (hx : x ∈ lowerChar c) :
    isSmall x = true := by
  by_cases hascii : c.toNat < 128
  · rw [lowerChar_of_ascii hascii, List.mem_singleton] at hx
    exact hx ▸ isSmall_toLower hascii
  · have hlower : lowerChar c = mapCase lowerExpansions lowerRuns c := if_neg hascii
    cases hexpand : lowerExpansions.lookup c.toNat with
    | some ns =>
      rw [hlower, mapCase, hexpand, List.mem_map] at hx
      obtain ⟨n, hn, rfl⟩ := hx
      obtain ⟨before, after, hsplit, -⟩ := List.lookup_eq_some_iff.mp hexpand
      have hentry : (c.toNat, ns) ∈ lowerExpansions := by simp [hsplit]
      exact List.all_eq_true.mp (List.all_eq_true.mp isSmall_expansions _ hentry) n hn
    | none =>
      cases hrun : lowerRuns.findSome? (·.image? c.toNat) with
      | some m =>
        rw [hlower, mapCase, hexpand] at hx
        simp only [hrun, List.mem_singleton] at hx
        obtain ⟨r, hr, himage⟩ := List.exists_of_findSome?_eq_some hrun
        exact hx ▸ isSmall_image hr himage
      | none =>
        have hself : lowerChar c = [c] := by rw [hlower, mapCase, hexpand]; simp only [hrun]
        rw [hself, List.mem_singleton] at hx
        simp [isSmall, hx, hself, hc]

/-! ## Small forms -/

lemma isSmall_of_mem_lowerAfter {x : Char} (cs : List Char) (afterCased : Bool)
    (hx : x ∈ lowerAfter afterCased cs) : isSmall x = true := by
  induction cs generalizing afterCased with
  | nil => simp [lowerAfter] at hx
  | cons c cs ih =>
    rw [lowerAfter, List.mem_append] at hx
    rcases hx with hx | hx
    · by_cases hsigma : c = 'Σ'
      · rw [if_pos hsigma] at hx
        have hcases : x = 'ς' ∨ x = 'σ' := by
          split at hx <;> simp only [List.mem_singleton] at hx
          · exact Or.inl hx
          · exact Or.inr hx
        rcases hcases with rfl | rfl <;> decide
      · rw [if_neg hsigma] at hx
        exact isSmall_of_mem_lowerChar hsigma hx
    · exact ih _ hx

lemma lowerAfter_of_small (cs : List Char) (afterCased : Bool)
    (h : ∀ c ∈ cs, isSmall c = true) : lowerAfter afterCased cs = cs := by
  induction cs generalizing afterCased with
  | nil => rfl
  | cons c cs ih =>
    have hc := h c (by simp)
    rw [lowerAfter, if_neg (ne_sigma_of_isSmall hc), lowerChar_of_isSmall hc,
      ih _ fun x hx => h x (List.mem_cons_of_mem _ hx)]
    rfl

/-- The small form of a text is its own small form. -/
theorem lower_lower (cs : List Char) : lower (lower cs) = lower cs :=
  lowerAfter_of_small _ _ fun _ hx => isSmall_of_mem_lowerAfter cs _ hx

end Nomenclator.Text
