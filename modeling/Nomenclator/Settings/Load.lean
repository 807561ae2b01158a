import Nomenclator.Document.Reader
import Nomenclator.Document.Writer
import Nomenclator.Files.Store
import Nomenclator.Settings.Bundle

/-!
# Loading and saving settings

Settings are loaded from three bundles, each of which may be missing: defaults, a file, and options.
A later one takes precedence over an earlier one by being merged into it. A source of settings is
either settings already made, which are used as they are, or a value: null for the defaults, a
record for options, a text for the path of a file.

A file is read as UTF-8 with line ends of any kind and must hold one JSON record. It is looked for
before its suffix is, and its suffix before its content. Some problems are no matter of the settings
and are reported as what they are: a path that is too long to be followed or cannot be written,
bytes that are no text, and a document that stops its reader although it is well formed.
-/

namespace Nomenclator.Settings

/-- The text that the bytes of a file hold, its line ends unified. -/
def decodeFile (content : ByteArray) : Option String :=
  (String.fromUTF8? content).map fun s => String.ofList (Text.unifyLineEnds s.toList)

/-- The fault that it is when the text of the file at a path could not be read. -/
def readFault (path s : String) : Document.ReadError → Fault
  | .malformed complaint remaining =>
    .settings (.malformedFile path (Document.complaintMessage s complaint remaining))
  | .integerTooLong => .integerTooLong
  | .nestedTooDeep => .nestedTooDeep

/-- The bundle in a content that is read with so much room for nesting. -/
def parseFile (room : Nat) (path : String) (content : ByteArray) : Except Fault (Table Value) :=
  match decodeFile content with
  | none => .error .badEncoding
  | some s =>
    match Document.read room s with
    | .ok (.record fields) => .ok fields
    | .ok _ => .error (.settings (.fileNotRecord path))
    | .error e => .error (readFault path s e)

/-- The bundle in the file at a path. -/
def readFile (files : Files) (name : String) : Except Fault (Table Value) :=
  let p := Path.ofText name
  match files.doesExist? p with
  | none => .error .pathTooLong
  | some false => .error (.settings (.fileNotFound p.toText))
  | some true =>
    if !p.isJson then .error (.settings (.fileNotJson p.toText))
    else match files.openFile p with
      | .ok content => parseFile files.room p.toText content
      | .error e =>
        let shown := Text.quotedText p.toText
        .error (.settings (.unreadableFile p.toText (e.message shown)))

/-- The bundle in the file at a path, with an entry that says how many options it holds. -/
def loadFile (files : Files) (name : String) : Report Fault (Table Value) :=
  match readFile files name with
  | .error e => .of (.error e)
  | .ok fields =>
    { log :=
        [.debug .settings ("Loaded " ++ toString fields.length ++ " option(s) from "
          ++ (Path.ofText name).toText)]
      result := .ok fields }

/-- The bundle of a file given as a value; one that is not present stands for no file. -/
def loadFileValue (files : Files) (file : Value) : Report Fault (Table Value) :=
  if file.isPresent then
    match file.asText with
    | .ok name => loadFile files name
    | .error m => .of (.error (.mismatch m))
  else .of (.ok [])

/-- Settings from defaults, a file and options. -/
def load (files : Files) (defaults : Bundle) (options file : Value) : Report Fault Settings := do
  let fromFile ← loadFileValue files file
  let fromOptions ← Report.of (orMismatch (Bundle.ofValue options))
  loadBundle ((Keyed.merge defaults (Bundle.ofFields fromFile)).merge fromOptions)

/-- What settings can be made from. -/
inductive Source where
  | made (s : Settings)
  | value (v : Value)

/-- Settings from any source. -/
def ofSource (files : Files) : Source → Report Fault Settings
  | .made s => .of (.ok s)
  | .value .null => load files [] .null .null
  | .value (.record fields) => load files [] (.record fields) .null
  | .value (.text name) => load files [] .null (.text name)
  | .value v => .of (.error (.settings (.notSource v.kindName)))

/-- The text that a file of settings holds. -/
def toDocument (s : Settings) : String := Document.write (.record s.toOptions)

/-- Writes settings to the file at a path. -/
def save (files : Files) (s : Settings) (name : String) : Except Fault Files :=
  let p := Path.ofText name
  match files.write p s.toDocument.toUTF8 with
  | .ok files => .ok files
  | .error .malformed => .error .pathMalformed
  | .error e =>
    let shown := Text.quotedText p.toText
    .error (.settings (.unwritableFile p.toText (e.message shown)))

end Nomenclator.Settings
