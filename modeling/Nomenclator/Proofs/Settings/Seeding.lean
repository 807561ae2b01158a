import Nomenclator.Settings.Bundle
import Nomenclator.Proofs.Settings.Fields

/-!
# Packages that are taken from the package name

Settings that are made from a bundle and name a package get from it the two packages that the bundle
does not set.  This is not a change of two fields only: settings are never changed, they are made
again from what they hold, with the new packages in place of the old ones, and so every field is
checked a second time.

The second check cannot fail and changes nothing, because a value that settings hold is one that the
field reads as itself.  So making the settings again comes to putting the packages in place:
`remade_seeds` says so of `seedPackages`, and `ofBundle_eq` carries it to bundles.  `IsSeeded` says
what becomes of each field.
-/

namespace Nomenclator.Settings

/-- The settings with the packages of models and interfaces that are not set taken from the package
name. -/
def seedPackages (modelSet apiSet : Bool) (s : Settings) : Settings :=
  match s.packageName with
  | none => s
  | some package =>
    if package = "" then s
    else
      { s with
        modelPackage := if modelSet then s.modelPackage else package ++ ".models"
        apiPackage := if apiSet then s.apiPackage else package ++ ".apis" }

lemma seedPackages_get {modelSet apiSet : Bool} {s : Settings} {field : Field}
    (hmodel : field ≠ .modelPackage) (hapi : field ≠ .apiPackage) :
    (seedPackages modelSet apiSet s).get field = s.get field := by
  unfold seedPackages
  split
  · rfl
  · split
    · rfl
    · cases field <;> first | rfl | contradiction

/-- Settings are seeded: where they name a package, the packages that are not set come from it, and
nothing else is changed. -/
structure IsSeeded (isSet : Field → Bool) (s seeded : Settings) : Prop where
  models : ∀ package, s.packageName = some package → package ≠ "" →
    seeded.modelPackage = if isSet .modelPackage then s.modelPackage else package ++ ".models"
  apis : ∀ package, s.packageName = some package → package ≠ "" →
    seeded.apiPackage = if isSet .apiPackage then s.apiPackage else package ++ ".apis"
  unnamed : s.packageName = none ∨ s.packageName = some "" → seeded = s
  others : ∀ field : Field, field ≠ .modelPackage → field ≠ .apiPackage →
    seeded.get field = s.get field

lemma namedPackage?_eq_some {s : Settings} {package : String} (h : s.packageName = some package)
    (hne : package ≠ "") : s.namedPackage? = some package := by
  simp [namedPackage?, h, hne]

section Seeding

variable (isSet : Field → Bool) (s : Settings)

lemma seedPackages_of_unnamed {modelSet apiSet : Bool} (h : s.namedPackage? = none) :
    seedPackages modelSet apiSet s = s := by
  unfold seedPackages
  cases hname : s.packageName with
  | none => rfl
  | some package =>
    have hempty : package = "" := by simpa [namedPackage?, hname] using h
    exact if_pos hempty

lemma seedPackages_of_named {modelSet apiSet : Bool} {package : String}
    (h : s.namedPackage? = some package) :
    seedPackages modelSet apiSet s = { s with
      modelPackage := if modelSet then s.modelPackage else package ++ ".models"
      apiPackage := if apiSet then s.apiPackage else package ++ ".apis" } := by
  obtain ⟨hname, hne⟩ := Option.filter_eq_some_iff.mp h
  unfold seedPackages
  rw [hname]
  exact if_neg (by simpa using hne)

lemma isSeeded_seedPackages :
    IsSeeded isSet s (seedPackages (isSet .modelPackage) (isSet .apiPackage) s) where
  models package hpackage hne := by
    rw [seedPackages_of_named s (namedPackage?_eq_some hpackage hne)]
  apis package hpackage hne := by
    rw [seedPackages_of_named s (namedPackage?_eq_some hpackage hne)]
  unnamed h := by
    refine seedPackages_of_unnamed s ?_
    rcases h with h | h <;> simp [namedPackage?, h]
  others field hmodel hapi := seedPackages_get hmodel hapi

lemma seeds_of_ne {field : Field} (hmodel : field ≠ .modelPackage) (hapi : field ≠ .apiPackage) :
    s.seeds isSet field = none := by
  cases field <;> first | rfl | contradiction

/-- Making the settings again with the seeds succeeds, and seeds them. -/
lemma remade_seeds :
    s.remade (s.seeds isSet) = .ok (seedPackages (isSet .modelPackage) (isSet .apiPackage) s) := by
  refine ofFields_eq_ok_iff.mpr fun field => ?_
  cases hpackage : s.namedPackage? with
  | none =>
    have hnone : s.seeds isSet field = none := by
      cases field <;> simp [seeds, hpackage]
    rw [hnone, seedPackages_of_unnamed s hpackage]
    exact read_heldValue s field
  | some package =>
    by_cases hmodel : field = .modelPackage
    · subst hmodel
      rw [seedPackages_of_named s hpackage, seeds, hpackage]
      cases isSet .modelPackage <;> rfl
    by_cases hapi : field = .apiPackage
    · subst hapi
      rw [seedPackages_of_named s hpackage, seeds, hpackage]
      cases isSet .apiPackage <;> rfl
    · rw [seeds_of_ne isSet s hmodel hapi, seedPackages_get hmodel hapi]
      exact read_heldValue s field

/-- Settings without seeds are as they would be made again. -/
lemma seedPackages_of_no_seeds (h : ∀ field, s.seeds isSet field = none) :
    seedPackages (isSet .modelPackage) (isSet .apiPackage) s = s := by
  have hsame : s.remade (s.seeds isSet) = .ok s := by
    refine ofFields_eq_ok_iff.mpr fun field => ?_
    rw [h field]
    exact read_heldValue s field
  exact Except.ok.inj ((remade_seeds isSet s).symm.trans hsame)

end Seeding

/-- Settings from a bundle are those that are made of what it sets, seeded. -/
lemma ofBundle_eq (bundle : Bundle) :
    ofBundle bundle = (ofFields (assigned bundle)).map
      (seedPackages (assigned bundle .modelPackage).isSome
        (assigned bundle .apiPackage).isSome) := by
  rw [ofBundle]
  cases ofFields (assigned bundle) with
  | error e => rfl
  | ok s =>
    let isSet (field : Field) : Bool := (assigned bundle field).isSome
    have hall (field : Field) : field ∈ Field.all := by cases field <;> decide
    show (if Field.all.any fun field => (s.seeds isSet field).isSome then s.remade (s.seeds isSet)
      else pure s) = .ok (seedPackages (isSet .modelPackage) (isSet .apiPackage) s)
    split <;> rename_i hseeds
    · exact remade_seeds isSet s
    · have hnone (field : Field) : s.seeds isSet field = none := by
        by_contra hseed
        exact hseeds (List.any_eq_true.mpr ⟨field, hall field, Option.ne_none_iff_isSome.mp hseed⟩)
      rw [seedPackages_of_no_seeds isSet s hnone]
      rfl

end Nomenclator.Settings
