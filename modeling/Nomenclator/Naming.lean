import Nomenclator.Word.Camel
import Nomenclator.Word.Reduce
import Nomenclator.Word.Snake

/-!
# Naming conventions

The conventions that enum constants can be named by, and the changes of case behind them as
functions on texts.
-/

namespace Nomenclator

/-- A function on words as a function on texts. -/
def onText (f : List Char → List Char) (s : String) : String := String.ofList (f s.toList)

/-- The conventions for the names of enum constants. -/
inductive Convention where
  /-- The name as it is. -/
  | unchanged
  | camelCase
  | pascalCase
  | snakeCase
  | upperCase
  deriving DecidableEq, Repr, Inhabited

namespace Convention

/-- All conventions, in the order in which they are offered. -/
def all : List Convention := [unchanged, camelCase, pascalCase, snakeCase, upperCase]

/-- The option value that selects a convention. -/
def option : Convention → String
  | unchanged => "original"
  | camelCase => "camelCase"
  | pascalCase => "PascalCase"
  | snakeCase => "snake_case"
  | upperCase => "UPPERCASE"

/-- The convention that an option value selects. -/
def ofOption? (s : String) : Option Convention := all.find? fun c => c.option = s

/-- A word named by a convention. -/
def applyWord : Convention → List Char → List Char
  | unchanged, w => w
  | camelCase, w => Word.lowerCamel w
  | pascalCase, w => Word.capitalize (Word.upperCamel w)
  | snakeCase, w => Word.snake w
  | upperCase, w => Text.upper w

/-- A name by a convention. -/
def apply (c : Convention) (s : String) : String := onText c.applyWord s

end Convention

namespace Naming

/-- A name in camel case with a capital first letter. -/
def upperCamel (s : String) : String := onText Word.upperCamel s

/-- A name in camel case with a small first letter. -/
def lowerCamel (s : String) : String := onText Word.lowerCamel s

/-- A name in snake case. -/
def snake (s : String) : String := onText Word.snake s

/-- A name with its first character in capital form. -/
def capitalize (s : String) : String := onText Word.capitalize s

/-- A name that may be missing, reduced to identifier characters. -/
def reduce (s : Option String) : String := String.ofList (Word.reduceNamed (s.map String.toList))

end Naming

end Nomenclator
