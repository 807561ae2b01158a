import Nomenclator.Schema.Property
import Nomenclator.Proofs.Text.Pieces

/-!
# The innermost properties

A property that holds no other is a leaf.  `Property.leaves` lists the leaves of a property from
left to right, through arrays and maps of any depth; the properties in between are containers, whose
types come with the language.

A leaf that is a reference points at a model by name.  Its target may have a path in front of the
name, and `PointsAt.targetName` says that only the name counts.
-/

namespace Nomenclator.Property

/-! ## Leaves -/

mutual

/-- The properties inside a property that hold no other, the property itself if it is one. -/
def leaves : Property → List Property
  | .mk shape type format none none target choices =>
    [.mk shape type format none none target choices]
  | .mk _ _ _ items entries _ _ => elementLeaves items ++ elementLeaves entries

/-- The leaves of the element of a container. -/
def elementLeaves : Option Property → List Property
  | none => []
  | some p => leaves p

end

@[simp] lemma leaves_referenceTo (target : Value) :
    (referenceTo target).leaves = [referenceTo target] := by
  simp [referenceTo, leaves]

@[simp] lemma leaves_arrayOf (items : Property) : (arrayOf items).leaves = items.leaves := by
  simp [arrayOf, leaves, elementLeaves]

@[simp] lemma leaves_mapOf (entries : Property) : (mapOf entries).leaves = entries.leaves := by
  simp [mapOf, leaves, elementLeaves]

/-! ## References -/

/-- A reference to the model of a name: the target is the name, perhaps behind a path. -/
def PointsAt (p : Property) (name : String) : Prop :=
  p.shape = .reference ∧
    ∃ target, p.target = .text target ∧ (target = name ∨ ∃ path, target = path ++ "/" ++ name)

lemma pointsAt_referenceTo (path name : String) :
    (referenceTo (.text (path ++ "/" ++ name))).PointsAt name :=
  ⟨rfl, _, rfl, Or.inr ⟨path, rfl⟩⟩

/-- What a reference points at is the name, whatever path is in front of it. -/
lemma PointsAt.targetName {p : Property} {name : String} (h : p.PointsAt name)
    (hname : '/' ∉ name.toList) : p.targetName = .ok name := by
  obtain ⟨-, target, htarget, hcases⟩ := h
  have hlast : Text.lastSegment '/' target.toList = name.toList := by
    rcases hcases with rfl | ⟨path, rfl⟩
    · exact Text.lastSegment_of_not_mem hname
    · simpa using Text.lastSegment_append hname path.toList
  -- an empty target counts as none, and the name it ends in is empty as well
  by_cases hempty : target = ""
  · subst hempty
    have hnil : name = "" := by simpa [Text.lastSegment, Text.segments] using hlast.symm
    simp [Property.targetName, htarget, hnil, Value.isPresent]
  · simp [Property.targetName, htarget, Value.isPresent, hempty, Value.textFor, Except.map, hlast]

end Nomenclator.Property
