import Nomenclator.Template.Datum

/-!
# How data are shown

A datum is printed as the text that it stands for, and shown as a part of another datum: a text in
quotes, a property or a model with its members. What is undefined cannot be printed, and neither
can what holds a whole number of more digits than a document may hold.
-/

namespace Nomenclator.Template.Datum

/-- Values in parentheses; a comma follows a single one. -/
def inspectTuple (vs : List Value) : Except Mismatch (List Char) :=
  match vs with
  | [v] => do return '(' :: (← v.inspect) ++ [',', ')']
  | _ => do return '(' :: (← Value.inspectItems vs) ++ [')']

/-- A datum of a named kind with its members. -/
def inspectMembers (kind : String) (members : List (String × Except Mismatch (List Char))) :
    Except Mismatch (List Char) := do
  let shown ← members.mapM fun entry => do return entry.1.toList ++ '=' :: (← entry.2)
  return kind.toList ++ '(' :: [',', ' '].intercalate shown ++ [')']

/-- A text shown in quotes. -/
def inspectText (s : String) : Except Mismatch (List Char) := (Value.text s).inspect

/-- A shape with its value. -/
def inspectShape (s : Shape) : List Char :=
  ("<PropertyKind." ++ shapeConstant s ++ ": " ++ Text.quotedText s.name ++ ">").toList

mutual

/-- A property with its members. -/
def inspectProperty : Property → Except Mismatch (List Char)
  | .mk kind type format element entries target values =>
    inspectMembers "Property"
      [("kind", .ok (inspectShape kind)),
       ("type", type.inspect), ("format", format.inspect), ("items", inspectElement element),
       ("additional_properties", inspectElement entries), ("ref", target.inspect),
       ("enum", inspectTuple values)]

/-- The element of a container with its members, where there is one. -/
def inspectElement : Option Property → Except Mismatch (List Char)
  | none => Value.null.inspect
  | some p => inspectProperty p

end

/-- A resolved property with its members. -/
def inspectField (p : ResolvedProperty) : Except Mismatch (List Char) :=
  inspectMembers "ResolvedProperty"
    [("name", inspectText p.name),
     ("original_name", (Settings.optionalText p.declaredName).inspect),
     ("declaration", inspectText p.declaration),
     ("instantiation_type", (Settings.optionalText p.instantiation).inspect),
     ("enum_name", (Settings.optionalText p.enumName).inspect),
     ("enum_vars", (Value.list (p.constants.map constantValue)).inspect)]

/-- Resolved properties in brackets. -/
def inspectAll (ps : List ResolvedProperty) : Except Mismatch (List Char) := do
  return '[' :: [',', ' '].intercalate (← ps.mapM inspectField) ++ [']']

/-- A resolved model with its members. -/
def inspectSchema (s : ResolvedSchema) : Except Mismatch (List Char) :=
  inspectMembers "ResolvedSchema"
    [("class_name", inspectText s.className), ("filename", inspectText s.filename),
     ("original_name", inspectText s.declaredName), ("properties", inspectAll s.properties),
     ("imports", (Value.list (s.imports.map .text)).inspect),
     ("description", s.description.inspect)]

/-- A datum shown as a part of another one. -/
def inspect : Datum → Except Mismatch (List Char)
  | value v => v.inspect
  | choices vs => inspectTuple vs
  | shape s => .ok (inspectShape s)
  | property p => inspectProperty p
  | schema s => inspectSchema s
  | field p => inspectField p
  | fields ps => inspectAll ps
  | loop _ shown => .ok shown.toList
  | step item _ shown => do return '(' :: (← item.inspect) ++ [',', ' '] ++ shown.toList ++ [')']
  | whole shown => .ok shown.toList
  | operation _ shown => .ok shown.toList
  | dataType _ shown => .ok shown.toList
  | undefined _ => .ok "Undefined".toList
  | void _ => .ok "Undefined".toList

/-- The text that a datum stands for. -/
def display : Datum → Except String String
  | value v => v.display.mapError Mismatch.message
  | shape s => .ok ("PropertyKind." ++ shapeConstant s)
  | undefined problem => .error problem
  | void _ => .ok ""
  | d => (d.inspect.map String.ofList).mapError Mismatch.message

end Nomenclator.Template.Datum
