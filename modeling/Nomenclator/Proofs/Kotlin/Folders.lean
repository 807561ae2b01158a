import Nomenclator.Kotlin.Generator
import Nomenclator.Proofs.Files.PathText
import Mathlib.Data.List.DropRight

/-!
# Folders of packages

The folder of a package goes on from the output folder through the source folder, one folder deeper
for each segment of the package.  A segment between dots is a part that every path keeps: it is not
empty, no dot is left in it, and a slash is in it only where the package has one.  So a package
cannot lead out of the source folder, and no segment is dropped or merged with another.
-/

namespace Nomenclator.Kotlin.Generator

variable {package : String}

/-- The segments of a package that name folders: what stands between its dots and is not empty. -/
def packageSegments (package : String) : List String :=
  ((package.toList.splitOn '.').filter fun stretch => !stretch.isEmpty).map String.ofList

/-- A folder that follows a package below the source folder of settings. -/
structure FollowsPackage (s : Settings) (package folder : String) : Prop where
  root : (Path.ofText folder).root = (Path.ofText s.outputFolder).root
  parts : (Path.ofText folder).parts
    = (Path.ofText s.outputFolder).parts ++ (Path.ofText s.sourceFolder).parts
      ++ packageSegments package
  /-- The last parts, as many as the package has segments, spell it. -/
  spells : [] ∉ package.toList.splitOn '.' →
    ".".intercalate ((Path.ofText folder).parts.rtake (package.toList.splitOn '.').length) = package

/-! ## Segments -/

lemma isPart_of_mem_packageSegments (hslash : '/' ∉ package.toList) {part : String}
    (hpart : part ∈ packageSegments package) : Path.IsPart part := by
  obtain ⟨stretch, hstretch, rfl⟩ := List.mem_map.mp hpart
  obtain ⟨hmem, hsome⟩ := List.mem_filter.mp hstretch
  rw [← Text.segments_eq_splitOn] at hmem
  have hdot : stretch ≠ ['.'] := by
    rintro rfl
    exact Text.not_mem_of_mem_segments hmem List.mem_cons_self
  rw [Path.IsPart, String.toList_ofList]
  exact ⟨by simp [Path.isKept, hsome, hdot],
    fun hmem' => hslash (Text.mem_of_mem_segments hmem hmem').1⟩

/-- A package without empty segments is spelled by those that name folders. -/
lemma packageSegments_spell (h : [] ∉ package.toList.splitOn '.') :
    (packageSegments package).length = (package.toList.splitOn '.').length ∧
      ".".intercalate (packageSegments package) = package := by
  have hall : (package.toList.splitOn '.').filter (fun stretch => !stretch.isEmpty)
      = package.toList.splitOn '.' := by
    rw [List.filter_eq_self]
    intro stretch hstretch
    have hsome : stretch ≠ [] := fun hempty => h (hempty ▸ hstretch)
    simp [hsome]
  have hjoined : ".".intercalate ((package.toList.splitOn '.').map String.ofList) = package := by
    rw [← String.toList_inj, String.toList_intercalate, List.map_map]
    simp
  rw [packageSegments, hall, List.length_map]
  exact ⟨rfl, hjoined⟩

/-! ## Folders -/

/-- The folder of a package, part by part. -/
lemma ofText_packageFolder (g : Generator) (hslash : '/' ∉ package.toList) :
    Path.ofText (g.packageFolder package)
      = let base := (Path.ofText g.settings.outputFolder).join (Path.ofText g.settings.sourceFolder)
        { base with parts := base.parts ++ packageSegments package } := by
  have hparts (part) (hpart : part ∈ packageSegments package) : Path.IsPart part :=
    isPart_of_mem_packageSegments hslash hpart
  have hbase := (Path.isNormal_ofText g.settings.outputFolder).join
    (Path.isNormal_ofText g.settings.sourceFolder)
  have hfolder : g.packageFolder package
      = ((packageSegments package).foldl (fun folder part => folder.join (Path.ofText part))
          ((Path.ofText g.settings.outputFolder).join
            (Path.ofText g.settings.sourceFolder))).toText := by
    rw [packageFolder, packageSegments, List.foldl_map, Text.segments_eq_splitOn]
  rw [hfolder, Path.foldl_join hparts]
  exact Path.ofText_toText fun part hpart =>
    (List.mem_append.mp hpart).elim (hbase part) (hparts part)

/-- Below a source folder that is not a path of its own, the folder of a package follows it. -/
lemma followsPackage_packageFolder (g : Generator)
    (hsource : g.settings.sourceFolder.toList.head? ≠ some '/') (hslash : '/' ∉ package.toList) :
    FollowsPackage g.settings package (g.packageFolder package) := by
  have hrelative : (Path.ofText g.settings.sourceFolder).root = .relative :=
    Path.root_ofText_eq_relative_iff.mpr hsource
  have hfolder := ofText_packageFolder g hslash
  rw [Path.join, if_pos hrelative] at hfolder
  refine ⟨by rw [hfolder], by rw [hfolder], fun hsegments => ?_⟩
  obtain ⟨hlength, hspelled⟩ := packageSegments_spell hsegments
  rw [hfolder, ← hlength, List.rtake, List.length_append, Nat.add_sub_cancel, List.drop_left,
    hspelled]

/-- The folders of the models and of the interfaces follow their packages. -/
theorem folders_follow_packages (g : Generator)
    (hsource : g.settings.sourceFolder.toList.head? ≠ some '/') :
    ('/' ∉ g.settings.modelPackage.toList →
      FollowsPackage g.settings g.settings.modelPackage g.modelFolder) ∧
    ('/' ∉ g.settings.apiPackage.toList →
      FollowsPackage g.settings g.settings.apiPackage g.apiFolder) :=
  ⟨followsPackage_packageFolder g hsource, followsPackage_packageFolder g hsource⟩

/-- Doubled slashes, single dots and empty segments name no folders, and two dots name one. -/
theorem folders_follow_packages_server :
    let g := ofSettings
      { outputFolder := "//server/./shop//../app", sourceFolder := "./src//main/",
        modelPackage := "com..acme.", apiPackage := "io.pets" }
    (g.settings.sourceFolder.toList.head? ≠ some '/' ∧ '/' ∉ g.settings.modelPackage.toList ∧
      '/' ∉ g.settings.apiPackage.toList) ∧
    (Path.ofText g.modelFolder).root = .doubleSlash ∧
    (Path.ofText g.modelFolder).parts
      = ["server", "shop", "..", "app", "src", "main", "com", "acme"] ∧
    ".".intercalate ((Path.ofText g.apiFolder).parts.rtake 2) = "io.pets" := by
  intro g
  have hsource : g.settings.sourceFolder.toList.head? ≠ some '/' := by decide
  have hmodel : '/' ∉ g.settings.modelPackage.toList := by decide
  have hapi : '/' ∉ g.settings.apiPackage.toList := by decide
  obtain ⟨hmodels, hapis⟩ := folders_follow_packages g hsource
  have hroot : (Path.ofText g.settings.outputFolder).root = .doubleSlash := by decide
  have hparts : (Path.ofText g.settings.outputFolder).parts
      ++ (Path.ofText g.settings.sourceFolder).parts ++ packageSegments g.settings.modelPackage
      = ["server", "shop", "..", "app", "src", "main", "com", "acme"] := by decide
  have hcount : (g.settings.apiPackage.toList.splitOn '.').length = 2 := by decide
  have hspelled := (hapis hapi).spells (by decide)
  rw [hcount] at hspelled
  exact ⟨⟨hsource, hmodel, hapi⟩, (hmodels hmodel).root.trans hroot,
    (hmodels hmodel).parts.trans hparts, hspelled⟩

end Nomenclator.Kotlin.Generator
