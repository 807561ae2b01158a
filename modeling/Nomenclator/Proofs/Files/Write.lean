import Nomenclator.Files.Store
import Mathlib.Tactic.Lemma

/-!
# Files that have been written

A file that could be written is found again under the same path, with what was written to it.  The
directories on the way are the same before and after, and of the contents only the last step of the
way asks, so the path still leads to the place that was written.

What can be written is any name in a directory that is there (`writable_name`).  The directory may
be anywhere in the tree: nothing depends on whether the path to it has a root, or goes through two
dots.
-/

namespace Nomenclator.Files

lemma lookup_put (files : Files) (place : Place) (content : ByteArray) :
    (files.put place content).contents.lookup place = some content := by
  have hnone : (files.contents.filter fun entry => entry.1 != place).lookup place = none := by
    rw [List.lookup_eq_none_iff]
    intro entry hentry
    have hne := (List.mem_filter.mp hentry).2
    rw [bne_iff_ne] at hne ⊢
    exact hne.symm
  rw [put, List.lookup_append, hnone]
  simp

/-- A way that ended at a place, free or a file, ends in the file once the place is written. -/
lemma follow_put {files : Files} {place : Place} (content : ByteArray) {start : Place}
    {parts : List String}
    (h : files.follow start parts = .vacant place ∨
      ∃ old, files.follow start parts = .file place old) :
    (files.put place content).follow start parts = .file place content := by
  induction parts generalizing start with
  | nil => simp [follow] at h
  | cons part rest ih =>
    rw [follow] at h ⊢
    by_cases hlong : Path.maxNameBytes < part.utf8ByteSize
    · simp [hlong] at h
    rw [if_neg hlong] at h ⊢
    by_cases hback : part = ".."
    · rw [if_pos hback] at h ⊢
      exact ih h
    rw [if_neg hback] at h ⊢
    dsimp only at h ⊢
    have hdirectory : (files.put place content).isDirectory (start ++ [part])
        = files.isDirectory (start ++ [part]) := rfl
    rw [hdirectory]
    by_cases hthere : files.isDirectory (start ++ [part]) = true
    · rw [if_pos hthere] at h ⊢
      exact ih h
    · rw [if_neg hthere] at h ⊢
      -- the last step: what stood there, if anything, is replaced
      obtain ⟨hrest, hplace⟩ : rest.isEmpty = true ∧ start ++ [part] = place := by
        split at h <;> split at h <;> simp_all
      rw [hplace, lookup_put]
      simp [hrest]

/-- A path can be written when it leads to a file or to a free place in a directory. -/
def Writable (files : Files) (p : Path) : Prop :=
  ∃ place, files.locate p = .vacant place ∨ ∃ old, files.locate p = .file place old

/-- A name in a directory that is there leads to a file or to a free place, unless it is that of a
directory. -/
lemma follow_name {files : Files} {start place : Place} {parts : List String} {name : String}
    (hparts : files.follow start parts = .directory place)
    (hname : name.utf8ByteSize ≤ Path.maxNameBytes) (hback : name ≠ "..")
    (hfree : files.isDirectory (place ++ [name]) = false) :
    files.follow start (parts ++ [name]) = .vacant (place ++ [name]) ∨
      ∃ old, files.follow start (parts ++ [name]) = .file (place ++ [name]) old := by
  induction parts generalizing start with
  | nil =>
    obtain rfl : start = place := by simpa [follow] using hparts
    rw [List.nil_append, follow, if_neg (Nat.not_lt.mpr hname), if_neg hback]
    simp only [hfree]
    cases files.contents.lookup (start ++ [name]) with
    | none => exact Or.inl rfl
    | some old => exact Or.inr ⟨old, rfl⟩
  | cons part rest ih =>
    rw [follow] at hparts
    rw [List.cons_append, follow]
    by_cases hlong : Path.maxNameBytes < part.utf8ByteSize
    · simp [hlong] at hparts
    rw [if_neg hlong] at hparts ⊢
    by_cases hdots : part = ".."
    · rw [if_pos hdots] at hparts ⊢
      exact ih hparts
    rw [if_neg hdots] at hparts ⊢
    dsimp only at hparts ⊢
    by_cases hthere : files.isDirectory (start ++ [part]) = true
    · rw [if_pos hthere] at hparts ⊢
      exact ih hparts
    · rw [if_neg hthere] at hparts
      split at hparts <;> split at hparts <;> simp at hparts

/-- Every name in a directory that is there can be written, wherever the path to it starts and
however it gets there, unless it is the name of a directory. -/
theorem writable_name {files : Files} {p : Path} {name : String} {place : Place}
    (hparts : files.follow (files.start p) p.parts = .directory place)
    (hname : name.utf8ByteSize ≤ Path.maxNameBytes) (hback : name ≠ "..")
    (hfree : files.isDirectory (place ++ [name]) = false)
    (hnull : Path.hasNull { p with parts := p.parts ++ [name] } = false)
    (hlength : Path.isTooLong { p with parts := p.parts ++ [name] } = false) :
    files.Writable { p with parts := p.parts ++ [name] } := by
  refine ⟨place ++ [name], ?_⟩
  rw [locate, hnull, hlength]
  exact follow_name hparts hname hback hfree

/-- Whether a path can be written does not depend on the content. -/
lemma exists_write_iff {files : Files} {p : Path} {content : ByteArray} :
    (∃ written, files.write p content = .ok written) ↔ files.Writable p := by
  constructor
  · rintro ⟨written, h⟩
    unfold write at h
    split at h
    · exact ⟨_, Or.inr ⟨_, by assumption⟩⟩
    · exact ⟨_, Or.inl (by assumption)⟩
    all_goals simp at h
  · rintro ⟨place, hvacant | ⟨old, hfile⟩⟩
    · exact ⟨files.put place content, by simp [write, hvacant]⟩
    · exact ⟨files.put place content, by simp [write, hfile]⟩

/-- The path of a written file leads to the file. -/
lemma locate_write {files written : Files} {p : Path} {content : ByteArray}
    (h : files.write p content = .ok written) :
    ∃ place, written.locate p = .file place content := by
  obtain ⟨place, hplace⟩ := exists_write_iff.mp ⟨written, h⟩
  have hwritten : files.put place content = written := by
    rcases hplace with hvacant | ⟨old, hfile⟩
    · exact Except.ok.inj (by rw [← h, write, hvacant])
    · exact Except.ok.inj (by rw [← h, write, hfile])
  rw [← hwritten]
  refine ⟨place, ?_⟩
  unfold locate at hplace ⊢
  by_cases hnull : p.hasNull = true
  · simp [hnull] at hplace
  by_cases hlong : p.isTooLong = true
  · simp [hnull, hlong] at hplace
  rw [if_neg hnull, if_neg hlong] at hplace ⊢
  exact follow_put content hplace

/-- What has been written to a path is there, and is what opening the path gives. -/
theorem openFile_write {files written : Files} {p : Path} {content : ByteArray}
    (h : files.write p content = .ok written) :
    written.doesExist? p = some true ∧ written.openFile p = .ok content := by
  obtain ⟨place, hlocate⟩ := locate_write h
  simp [doesExist?, openFile, hlocate]

end Nomenclator.Files
