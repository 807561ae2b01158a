import Nomenclator.Kotlin.Transcoder
import Nomenclator.Kotlin.Words
import Nomenclator.Naming

/-!
# Identifiers

How names of a schema become names of Kotlin: variables and parameters in lower camel case, enum
constants by a chosen convention, classes in upper camel case. Names that come out reserved are put
between backticks. Class names are put there before they are raised, so that the backticks stand
around a capitalized word.
-/

namespace Nomenclator.Kotlin

/-- Whether a word is spelled like a constant: capitals and underscores only. -/
def isConstant (w : List Char) : Bool := w.all fun c => c.isUpper || c = '_'

/-- Whether a word begins with a digit. -/
def startsWithDigit (w : List Char) : Bool :=
  match w with
  | c :: _ => c.isDigit
  | [] => false

/-- The variable name of a word of identifier characters. -/
def variableOfWord (w : List Char) : List Char :=
  if isConstant w then w
  else
    let name := Word.lowerCamel w
    if isReserved name || startsWithDigit name then escape name else name

/-- The name of a variable or a parameter. -/
def variableName (name : Option (List Char)) : List Char := variableOfWord (Word.reduceNamed name)

/-- What an enum constant without a value is made from. -/
def emptyConstant : List Char := "EMPTY".toList

/-- A word escaped if it is reserved. -/
def escapeReserved (w : List Char) : List Char := if isReserved w then escape w else w

/-- The name of an enum constant. -/
def constantName (t : Transcoder) (c : Convention) (value : List Char) : List Char :=
  let word := if value.isEmpty then emptyConstant else t.sanitize value
  escapeReserved (c.applyWord word)

/-- The word that a class name is made from: dots dropped, hyphens turned into underscores, and the
rest transcoded. -/
def classWord (t : Transcoder) (name : List Char) : List Char :=
  t.sanitize ((name.filter (· ≠ '.')).map fun c => if c = '-' then '_' else c)

/-- The class name of a word of identifier characters. -/
def classOfWord (w : List Char) : List Char :=
  Word.capitalize (Word.upperCamel (Word.capitalize (escapeReserved w)))

/-- The class name of a model that no table names. -/
def className (t : Transcoder) (name : List Char) : List Char := classOfWord (classWord t name)

/-- The word behind the name of a service. -/
def serviceSuffix : String := "Service"

/-- The service of the calls that have no tag. -/
def defaultService : String := "DefaultService"

/-- The name of the service of a tag. -/
def serviceName (tag : String) : String :=
  if tag = "" then defaultService else Naming.capitalize tag ++ serviceSuffix

/-! ## Texts inside generated code -/

/-- A text without double quotes. -/
def dropQuotes (cs : List Char) : List Char := cs.filter (· ≠ '\x22')

/-- A text literal. -/
def textLiteral (cs : List Char) : List Char := '\x22' :: dropQuotes cs ++ ['\x22']

/-- A text whose comment delimiters are broken up: the closing ones first, then the opening ones. -/
def breakComments (cs : List Char) : List Char :=
  Text.replaceAll ['/', '*'] ['/', '_', '*'] (Text.replaceAll ['*', '/'] ['*', '_', '/'] cs)

end Nomenclator.Kotlin
