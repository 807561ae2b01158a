/-!
# Words of the language

The words that a Kotlin declaration cannot use as a plain name, and the types that are there without
an import. A name that is reserved is written between backticks; case counts, so `Class` is free.
-/

namespace Nomenclator.Kotlin

/-- Hard keywords, and the soft keywords and modifiers that break generated declarations. -/
def reservedWords : List String :=
  ["abstract", "annotation", "as", "break", "case", "catch", "class", "companion", "const",
   "constructor", "continue", "crossinline", "delegate", "do", "else", "enum", "external", "false",
   "final", "finally", "for", "fun", "if", "in", "infix", "init", "inline", "inner", "interface",
   "internal", "is", "it", "lateinit", "lazy", "noinline", "null", "object", "open", "operator",
   "out", "override", "package", "private", "protected", "public", "reified", "return", "sealed",
   "super", "suspend", "tailrec", "this", "throw", "true", "try", "typealias", "typeof", "val",
   "var", "vararg", "when", "while"]

/-- The mark on either side of an escaped name. -/
def escapeMark : Char := '\x60'

/-- Whether a word is one of the reserved ones. -/
def isReservedIn (words : List String) (word : List Char) : Bool :=
  words.contains (String.ofList word)

/-- Whether a word is reserved. -/
def isReserved (word : List Char) : Bool := isReservedIn reservedWords word

/-- A name between backticks. -/
def escape (word : List Char) : List Char := escapeMark :: word ++ [escapeMark]

/-- A name without the backticks around it; any other text as it is. -/
def unescape (word : List Char) : List Char :=
  match word with
  | first :: rest =>
    if first = escapeMark ∧ rest.getLast? = some escapeMark then rest.dropLast else word
  | [] => word

/-- Whether a text is a name between backticks. -/
def isEscaped (word : List Char) : Bool := unescape word != word

/-! ## Types that need no import -/

/-- The primitive types. -/
def primitiveTypes : List String :=
  ["Byte", "Short", "Int", "Long", "Float", "Double", "Boolean"]

/-- The types that every file sees. -/
def includedTypes : List String :=
  primitiveTypes ++ ["Char", "String", "Array", "List", "Set", "Map"]

/-- The beginnings of the names that are complete as they are. -/
def builtinPrefixes : List String := ["kotlin.", "java."]

/-- Whether a name begins like a complete one. -/
def hasBuiltinPrefix (name : String) : Bool :=
  builtinPrefixes.any fun start => start.toList.isPrefixOf name.toList

/-- The types whose enumerated values are written as texts in quotes. -/
def textTypes : List String := ["String", "kotlin.String", "Char"]

end Nomenclator.Kotlin
