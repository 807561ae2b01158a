/-!
# Fields of the settings

Each field can be set under two names: the key of the option bundle, in camel case, and the name of
the field itself, in snake case.
-/

namespace Nomenclator.Settings

/-- The fields, in the order in which they are written out. -/
inductive Field where
  | outputFolder
  | sourceFolder
  | apiDocPath
  | modelDocPath
  | packageName
  | groupId
  | artifactId
  | artifactVersion
  | modelPackage
  | apiPackage
  | enumNaming
  | typeMappings
  | importMappings
  | replacements
  deriving DecidableEq, Repr

namespace Field

/-- All fields. -/
def all : List Field :=
  [outputFolder, sourceFolder, apiDocPath, modelDocPath, packageName, groupId, artifactId,
   artifactVersion, modelPackage, apiPackage, enumNaming, typeMappings, importMappings,
   replacements]

/-- The option key of a field. -/
def optionKey : Field → String
  | outputFolder => "outputFolder"
  | sourceFolder => "sourceFolder"
  | apiDocPath => "apiDocPath"
  | modelDocPath => "modelDocPath"
  | packageName => "packageName"
  | groupId => "groupId"
  | artifactId => "artifactId"
  | artifactVersion => "artifactVersion"
  | modelPackage => "modelPackage"
  | apiPackage => "apiPackage"
  | enumNaming => "enumPropertyNaming"
  | typeMappings => "typeMappings"
  | importMappings => "importMappings"
  | replacements => "specialCharReplacements"

/-- The name of a field. -/
def name : Field → String
  | outputFolder => "output_folder"
  | sourceFolder => "source_folder"
  | apiDocPath => "api_doc_path"
  | modelDocPath => "model_doc_path"
  | packageName => "package_name"
  | groupId => "group_id"
  | artifactId => "artifact_id"
  | artifactVersion => "artifact_version"
  | modelPackage => "model_package"
  | apiPackage => "api_package"
  | enumNaming => "enum_property_naming"
  | typeMappings => "type_mappings"
  | importMappings => "import_mappings"
  | replacements => "special_char_replacements"

/-- The field of a given name. -/
def ofName? (s : String) : Option Field := all.find? fun f => f.name = s

/-- The field that a key sets, under either of its names. -/
def ofKey? (s : String) : Option Field := all.find? fun f => f.optionKey = s || f.name = s

end Field

end Nomenclator.Settings
