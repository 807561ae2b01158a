import Nomenclator.Kotlin.Transcoder
import Nomenclator.Kotlin.Words
import Nomenclator.Settings

/-!
# Tables of types

Where the names of types come from: keywords of a schema to types of Kotlin, well-known types to
their full names, and the characters that are spelled out. Settings write into the default tables.
-/

namespace Nomenclator.Kotlin

/-- The types of the keywords of a schema. -/
def defaultTypes : Table String :=
  [("string", "String"), ("boolean", "Boolean"), ("integer", "Int"), ("float", "Float"),
   ("long", "Long"), ("double", "Double"), ("number", "Double"), ("date-time", "Calendar"),
   ("date", "Calendar"), ("file", "java.io.File"), ("array", "Array"), ("list", "Array"),
   ("map", "Map"), ("object", "Empty"), ("binary", "Array<Byte>"), ("Date", "Calendar"),
   ("DateTime", "Calendar")]

/-- The functions that make an empty value of a container. -/
def constructors : Table String := [("array", "arrayOf"), ("list", "arrayOf"), ("map", "mapOf")]

/-- The full names of well-known types. -/
def defaultImports : Table String :=
  [("BigDecimal", "Double"), ("UUID", "java.util.UUID"), ("File", "java.io.File"),
   ("Date", "java.util.Date"), ("Timestamp", "java.sql.Timestamp"),
   ("DateTime", "java.time.LocalDateTime"), ("LocalDateTime", "java.time.LocalDateTime"),
   ("LocalDate", "java.time.LocalDate"), ("LocalTime", "java.time.LocalTime"),
   ("Calendar", "java.util.Calendar")]

/-- The characters that are spelled out. -/
def defaultReplacements : Table String := [(";", "Semicolon")]

/-- The tables of a generator. -/
structure Tables where
  types : Table String := defaultTypes
  imports : Table String := defaultImports
  replacements : Table String := defaultReplacements
  deriving DecidableEq, Repr

namespace Tables

/-- The default tables with those of the settings written into them. -/
def ofSettings (s : Settings) : Tables :=
  { types := Table.merge defaultTypes s.typeMappings
    imports := Table.merge defaultImports s.importMappings
    replacements := Table.merge defaultReplacements s.replacements }

/-- The type of a keyword, or the keyword itself where it has none. -/
def typeOf (t : Tables) (keyword : String) : String := (t.types.lookup keyword).getD keyword

/-- The type of arrays. -/
def arrayType (t : Tables) : String := t.typeOf "array"

/-- The type of maps. -/
def mapType (t : Tables) : String := t.typeOf "map"

/-- The type of texts. -/
def textType (t : Tables) : String := t.typeOf "string"

/-- The function that makes an empty map. -/
def mapConstructor : String := (constructors.lookup "map").getD "mapOf"

/-- The transcoder of the replacements. -/
def transcoder (t : Tables) : Transcoder := Transcoder.ofTable t.replacements

end Tables

end Nomenclator.Kotlin
