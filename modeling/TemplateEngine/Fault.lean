import TemplateEngine.Value

/-!
# Faults

What can go wrong, by cause. Each fault has a kind, and the kinds form a hierarchy: a handler
for a kind takes the faults of that kind and of all kinds below it.

## Main definitions

* `FaultKind`: the kinds, with their names and the kinds directly above them.
* `FaultKind.isA`: whether a kind lies at or below another one.
* `Fault`: the causes.
* `Fault.kind`, `Fault.message`.
-/

namespace TemplateEngine

/-- The kinds of fault. -/
inductive FaultKind where
  | exception
  | templateError
  | sectionError
  | reservedName
  | nestedSection
  | notOpen
  | unclosedSection
  | capture
  | unknownBatchFunction
  | functionNotFound
  | functionRegistration
  | invalidTemplateName
  | folder
  | templateNotFound
  | script
  | typeError
  | valueError
  | lookupError
  | keyError
  | attributeError
  | osError
  | fileNotFound
  | fileExists
  | isADirectory
  | notADirectory
  | permission
  | stopIteration
  | runtimeError
  | recursionError
  | arithmeticError
  | zeroDivision
  | undefined
  | templateSyntax
  | templateAssertion
  | templateRuntime
  | document
  | documentContent
  | unicode
  | assertion
  deriving DecidableEq, Repr, Inhabited

namespace FaultKind

/-- Every kind. -/
def all : List FaultKind :=
  [exception, templateError, sectionError, reservedName, nestedSection, notOpen, unclosedSection,
    capture, unknownBatchFunction, functionNotFound, functionRegistration, invalidTemplateName,
    folder, templateNotFound, script, typeError, valueError, lookupError, keyError,
    attributeError, osError, fileNotFound, fileExists, isADirectory, notADirectory, permission,
    stopIteration, runtimeError, recursionError, arithmeticError, zeroDivision, undefined,
    templateSyntax, templateAssertion, templateRuntime, document, documentContent, unicode,
    assertion]

/-- The name of a kind. -/
def name : FaultKind → String
  | exception => "Exception"
  | templateError => "TemplateError"
  | sectionError => "SectionError"
  | reservedName => "ReservedNameError"
  | nestedSection => "NestedSectionError"
  | notOpen => "NotOpenError"
  | unclosedSection => "UnclosedSectionError"
  | capture => "CaptureError"
  | unknownBatchFunction => "UnknownBatchFunctionError"
  | functionNotFound => "FunctionNotFoundError"
  | functionRegistration => "FunctionRegistrationError"
  | invalidTemplateName => "InvalidTemplateNameError"
  | folder => "FolderError"
  | templateNotFound => "TemplateNotFound"
  | script => "ScriptError"
  | typeError => "TypeError"
  | valueError => "ValueError"
  | lookupError => "LookupError"
  | keyError => "KeyError"
  | attributeError => "AttributeError"
  | osError => "OSError"
  | fileNotFound => "FileNotFoundError"
  | fileExists => "FileExistsError"
  | isADirectory => "IsADirectoryError"
  | notADirectory => "NotADirectoryError"
  | permission => "PermissionError"
  | stopIteration => "StopIteration"
  | runtimeError => "RuntimeError"
  | recursionError => "RecursionError"
  | arithmeticError => "ArithmeticError"
  | zeroDivision => "ZeroDivisionError"
  | undefined => "UndefinedError"
  | templateSyntax => "TemplateSyntaxError"
  | templateAssertion => "TemplateAssertionError"
  | templateRuntime => "TemplateRuntimeError"
  | document => "DocumentError"
  | documentContent => "DocumentContentError"
  | unicode => "UnicodeDecodeError"
  | assertion => "AssertionError"

/-- The kind of a given name. -/
def ofName? (name : String) : Option FaultKind := all.find? (·.name = name)

/-- Every kind from the given one upwards. -/
def lineage : FaultKind → List FaultKind
  | exception => [exception]
  | templateError => [templateError, exception]
  | sectionError => [sectionError, templateError, exception]
  | reservedName => [reservedName, sectionError, templateError, exception]
  | nestedSection => [nestedSection, sectionError, templateError, exception]
  | notOpen => [notOpen, sectionError, templateError, exception]
  | unclosedSection => [unclosedSection, sectionError, templateError, exception]
  | capture => [capture, templateError, exception]
  | unknownBatchFunction => [unknownBatchFunction, templateError, lookupError, exception]
  | functionNotFound => [functionNotFound, templateError, attributeError, exception]
  | functionRegistration => [functionRegistration, templateError, exception]
  | invalidTemplateName => [invalidTemplateName, templateError, valueError, exception]
  | folder => [folder, templateError, exception]
  | templateNotFound => [templateNotFound, templateError, lookupError, exception]
  | script => [script, exception]
  | typeError => [typeError, exception]
  | valueError => [valueError, exception]
  | lookupError => [lookupError, exception]
  | keyError => [keyError, lookupError, exception]
  | attributeError => [attributeError, exception]
  | osError => [osError, exception]
  | fileNotFound => [fileNotFound, osError, exception]
  | fileExists => [fileExists, osError, exception]
  | isADirectory => [isADirectory, osError, exception]
  | notADirectory => [notADirectory, osError, exception]
  | permission => [permission, osError, exception]
  | stopIteration => [stopIteration, exception]
  | runtimeError => [runtimeError, exception]
  | recursionError => [recursionError, runtimeError, exception]
  | arithmeticError => [arithmeticError, exception]
  | zeroDivision => [zeroDivision, arithmeticError, exception]
  | undefined => [undefined, templateRuntime, exception]
  | templateSyntax => [templateSyntax, exception]
  | templateAssertion => [templateAssertion, templateSyntax, exception]
  | templateRuntime => [templateRuntime, exception]
  | document => [document, exception]
  | documentContent => [documentContent, valueError, exception]
  | unicode => [unicode, valueError, exception]
  | assertion => [assertion, exception]

/-- Whether a kind lies at or below another one. -/
def isA (kind above : FaultKind) : Bool := above ∈ kind.lineage

@[simp] theorem isA_self (kind : FaultKind) : kind.isA kind = true := by cases kind <;> decide

end FaultKind

/-- What can go wrong, by cause. -/
inductive Fault where
  | reservedName (name : String)
  | nestedSection (name openName : String)
  | notOpen
  | unclosedSection (name : String)
  | noRegionToEnd
  | noRegionToDiscard
  | unknownBatchFunction (name : String)
  | functionNotFound (name : String)
  | functionNameTaken (name : String)
  | functionNameInvalid (name : String)
  | functionNotCallable (name : String)
  /-- The folder separator occurs more than once in a template name. -/
  | separatorRepeated (name : String)
  | folderPartEmpty (name : String)
  | filePartEmpty (name : String)
  | folderNameTaken (name : String)
  | folderDirectoryMissing (path : Path)
  | folderNotFound (name : String)
  | directoryMissing (path : Path)
  | templateNotFound (name : String) (tried : List Path)
  /-- The name needs the default directory and there is none. -/
  | templateWithoutDirectory (name : String)
  /-- A body's own fault. -/
  | raised (text : String)
  /-- A missing value was used. -/
  | absent (why : Absent)
  | sourceSyntax
  /-- A file template names a filter or a test that does not exist, or assigns to a reserved
  name. -/
  | sourceVocabulary
  | bodyNotCallable (name : String)
  | configurationMissing (path : Path)
  | dataFileMissing (path : Path)
  | dataFileShape (path : Path)
  | documentSyntax
  /-- A key of a document is nothing. -/
  | documentKey
  /-- A reference of a document is malformed or leads nowhere. -/
  | reference
  /-- A fault of code outside of the engine, with a text of its own. -/
  | foreign (kind : FaultKind) (text : String)
  /-- A fault known by its kind only. -/
  | plain (kind : FaultKind)
  deriving DecidableEq, Repr, Inhabited

namespace Fault

/-- The kind of a fault. -/
def kind : Fault → FaultKind
  | reservedName _ => .reservedName
  | nestedSection _ _ => .nestedSection
  | notOpen => .notOpen
  | unclosedSection _ => .unclosedSection
  | noRegionToEnd => .capture
  | noRegionToDiscard => .capture
  | unknownBatchFunction _ => .unknownBatchFunction
  | functionNotFound _ => .functionNotFound
  | functionNameTaken _ => .functionRegistration
  | functionNameInvalid _ => .functionRegistration
  | functionNotCallable _ => .functionRegistration
  | separatorRepeated _ => .invalidTemplateName
  | folderPartEmpty _ => .invalidTemplateName
  | filePartEmpty _ => .invalidTemplateName
  | folderNameTaken _ => .folder
  | folderDirectoryMissing _ => .folder
  | folderNotFound _ => .folder
  | directoryMissing _ => .folder
  | templateNotFound _ _ => .templateNotFound
  | templateWithoutDirectory _ => .templateNotFound
  | raised _ => .script
  | absent _ => .undefined
  | sourceSyntax => .templateSyntax
  | sourceVocabulary => .templateAssertion
  | bodyNotCallable _ => .typeError
  | configurationMissing _ => .fileNotFound
  | dataFileMissing _ => .fileNotFound
  | dataFileShape _ => .valueError
  | documentSyntax => .document
  | documentKey => .documentContent
  | reference => .documentContent
  | foreign kind _ => kind
  | plain kind => kind

/-- The text of a template that was not found, with the paths that were tried. -/
def notFoundMessage (name : String) (tried : List String) : String :=
  s!"The template \"{name}\" could not be found." ++
    (if tried = [] then "" else "\nTried: " ++ String.intercalate ", " tried)

/-- The text of a fault; one known by its kind only has none. -/
def message : Fault → String
  | reservedName name => s!"The section name \"{name}\" is reserved."
  | nestedSection name openName =>
    "You cannot nest sections within other sections " ++
      s!"(tried to open \"{name}\" while \"{openName}\" is open)."
  | notOpen => "You must start a section before you can stop it."
  | unclosedSection name => s!"The section \"{name}\" was started but never stopped."
  | noRegionToEnd => "Cannot end capture: no capture region is open."
  | noRegionToDiscard => "Cannot discard capture: no capture region is open."
  | unknownBatchFunction name =>
    s!"The batch function could not find the \"{name}\" function."
  | functionNotFound name => s!"The template function \"{name}\" was not found."
  | functionNameTaken name => s!"The template function name \"{name}\" is already registered."
  | functionNameInvalid name => s!"Not a valid function name: \"{name}\"."
  | functionNotCallable name => s!"The callback for \"{name}\" must be callable."
  | separatorRepeated name =>
    s!"The template name \"{name}\" is not valid. " ++
      "Do not use the folder namespace separator \"::\" more than once."
  | folderPartEmpty name =>
    s!"The template name \"{name}\" is not valid. The folder name cannot be empty."
  | filePartEmpty name =>
    s!"The template name \"{name}\" is not valid. The template name cannot be empty."
  | folderNameTaken name => s!"The template folder \"{name}\" is already being used."
  | folderDirectoryMissing path =>
    s!"The specified directory path \"{path.text}\" does not exist."
  | folderNotFound name => s!"The template folder \"{name}\" was not found."
  | directoryMissing path => s!"The specified path \"{path.text}\" does not exist."
  | templateNotFound name tried => notFoundMessage name (tried.map Path.text)
  | templateWithoutDirectory name =>
    s!"The template \"{name}\" could not be found: the default directory has not been defined."
  | raised text => text
  | absent why => why.message
  | sourceSyntax => ""
  | sourceVocabulary => ""
  | bodyNotCallable name => s!"Template body for '{name}' must be callable"
  | configurationMissing path => s!"Engine config not found at {path.text}"
  | dataFileMissing path => s!"Data file not found at {path.text}"
  | dataFileShape path =>
    s!"Data file {path.text} must contain a mapping of keys to values"
  | documentSyntax => ""
  | documentKey => ""
  | reference => ""
  | foreign _ text => text
  | plain _ => ""

/-- Whether a fault is of a kind or of one below it. -/
def isA (fault : Fault) (kind : FaultKind) : Bool := fault.kind.isA kind

/-- A wrong kind of argument or a wrong number of them. -/
abbrev wrongType : Fault := plain .typeError

/-- An argument of the right kind with a value that is not possible. -/
abbrev wrongValue : Fault := plain .valueError

/-- A key that is not there. -/
abbrev missingKey : Fault := plain .keyError

/-- An attribute that is not there. -/
abbrev missingAttribute : Fault := plain .attributeError

end Fault

/-! ### Outcomes that are no faults -/

section Outcomes

variable {α β : Type} {outcome : Except Fault α} {b : β}

theorem exists_of_map_ok {f : α → β} (h : outcome.map f = .ok b) :
    ∃ a, outcome = .ok a ∧ f a = b := by
  cases outcome with
  | error fault => cases h
  | ok a => exact ⟨a, rfl, Except.ok.inj h⟩

theorem exists_of_bind_ok {f : α → Except Fault β} (h : outcome >>= f = .ok b) :
    ∃ a, outcome = .ok a ∧ f a = .ok b := by
  cases outcome with
  | error fault => cases h
  | ok a => exact ⟨a, rfl, h⟩

end Outcomes

end TemplateEngine
