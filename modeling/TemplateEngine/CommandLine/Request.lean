import TemplateEngine.Path

/-!
# What a command line asks for

A command line names a command and a template, and gives options before or behind the name. A
long option takes the text behind its equals sign or else the next word; a short one takes what
follows its letter or else the next word. Behind two dashes alone nothing is an option. Of an
option that is given twice the last one counts, except for data, of which all count.

## Main definitions

* `Command`, `OptionKey`: the commands and their options.
* `Request`: what a command is asked to do.
* `Invocation`: what a command line asks for.
* `Invocation.read`: reads a command line.
-/

namespace TemplateEngine.CommandLine

/-- The commands. -/
inductive Command where
  | render
  | exists
  | path
  deriving DecidableEq, Repr, Inhabited

/-- What an option sets. -/
inductive OptionKey where
  | directory
  | settings
  | data
  | dataFile
  | output
  | logDirectory
  deriving DecidableEq, Repr, Inhabited

/-- The options of a command. -/
def Command.options : Command → List OptionKey
  | .render => [.directory, .settings, .data, .dataFile, .output, .logDirectory]
  | _ => [.directory, .settings]

/-- The command of a given name. -/
def Command.ofName? : String → Option Command
  | "render" => some .render
  | "exists" => some .exists
  | "path" => some .path
  | _ => none

/-- The long name of an option. -/
def OptionKey.longName : OptionKey → String
  | directory => "--directory"
  | settings => "--config"
  | data => "--data"
  | dataFile => "--data-file"
  | output => "--output"
  | logDirectory => "--log-dir"

/-- The letter of an option, if it has one. -/
def OptionKey.letter? : OptionKey → Option Char
  | directory => some 'd'
  | settings => some 'c'
  | output => some 'o'
  | _ => none

/-- The words of a command line, sorted. -/
structure Words where
  /-- Whether help is asked for. -/
  help : Bool := false
  given : List (OptionKey × String) := []
  operands : List String := []
  deriving DecidableEq, Repr, Inhabited

namespace Words

/-- An option in front of the words that follow. -/
def withOption (key : OptionKey) (value : String) (w : Words) : Words :=
  { w with given := (key, value) :: w.given }

/-- A word that is no option in front of the words that follow. -/
def withOperand (word : String) (w : Words) : Words := { w with operands := word :: w.operands }

/-- The last value of an option. -/
def last? (w : Words) (key : OptionKey) : Option String :=
  (w.given.filter (·.1 = key)).getLast?.map (·.2)

/-- Every value of an option, in order. -/
def all (w : Words) (key : OptionKey) : List String := (w.given.filter (·.1 = key)).map (·.2)

end Words

/-- What a word that begins with a dash is. -/
inductive Dashed where
  | help
  /-- An option with a value in the same word, or with the next word as its value. -/
  | option (key : OptionKey) (value : Option String)
  | unknown
  deriving DecidableEq, Repr, Inhabited

/-- Whether a word begins with a dash and has something behind it. -/
def isDashed (word : String) : Bool :=
  match word.toList with
  | '-' :: _ :: _ => true
  | _ => false

/-- A long option, taken apart at its first equals sign. -/
def longOption (options : List OptionKey) (cs : List Char) : Dashed :=
  let name := String.ofList (cs.takeWhile (· ≠ '='))
  let value := match cs.dropWhile (· ≠ '=') with
    | [] => none
    | _ :: rest => some (String.ofList rest)
  if name = "--help" then (if value.isSome then .unknown else .help)
  else match options.find? (·.longName = name) with
    | some key => .option key value
    | none => .unknown

/-- A short option, taken apart behind its letter. -/
def shortOption (options : List OptionKey) (letter : Char) (rest : List Char) : Dashed :=
  match options.find? (·.letter? = some letter) with
  | some key => .option key (if rest = [] then none else some (String.ofList rest))
  | none => .unknown

/-- What a word that begins with a dash is, given the options of a command. -/
def Dashed.ofWord (options : List OptionKey) (word : String) : Dashed :=
  match word.toList with
  | '-' :: c :: rest =>
    if c = '-' then longOption options ('-' :: c :: rest) else shortOption options c rest
  | _ => .unknown

/-- Sorts the words behind a command; none if one of them is not understood or lacks a value. -/
def Words.sort? (options : List OptionKey) : List String → Option Words
  | [] => some {}
  | word :: rest =>
    if word = "--" then some { operands := rest }
    else if isDashed word then
      match Dashed.ofWord options word with
      | .unknown => none
      | .help => (sort? options rest).map fun w => { w with help := true }
      | .option key (some value) => (sort? options rest).map (Words.withOption key value)
      | .option key none =>
        match rest with
        | [] => none
        | value :: more => (sort? options more).map (Words.withOption key value)
    else (sort? options rest).map (Words.withOperand word)

/-- What a command is asked to do. -/
structure Request where
  command : Command
  /-- The name of the template. -/
  name : String
  directory : Option Path := none
  settings : Option Path := none
  /-- Keys and values joined by an equals sign. -/
  data : List String := []
  dataFile : Option Path := none
  output : Option Path := none
  logDirectory : Option Path := none
  deriving DecidableEq, Repr, Inhabited

/-- What a command line asks for. -/
inductive Invocation where
  | help
  /-- The command line is not understood. -/
  | misuse
  | run (request : Request)
  deriving DecidableEq, Repr, Inhabited

namespace Invocation

/-- What the words behind a command ask for. -/
def ofWords (command : Command) (words : List String) : Invocation :=
  match Words.sort? command.options words with
  | none => .misuse
  | some w =>
    if w.help then .help
    else match w.operands with
      | [name] =>
        let path (key : OptionKey) : Option Path := (w.last? key).map Path.ofText
        .run
          { command := command, name := name, directory := path .directory
            settings := path .settings, data := w.all .data, dataFile := path .dataFile
            output := path .output, logDirectory := path .logDirectory }
      | _ => .misuse

/-- What a command line asks for whose first word names a command; one without words asks for
help. -/
def ofCommand : List String → Invocation
  | [] => .help
  | word :: rest =>
    match Command.ofName? word with
    | some command => ofWords command rest
    | none => .misuse

/-- Reads a command line. In front of the command only help can be asked for; the flag tells
whether it was. -/
def readFrom (help : Bool) : List String → Invocation
  | [] => .help
  | word :: rest =>
    if word = "--" then (if help then .help else ofCommand rest)
    else if isDashed word then
      (if Dashed.ofWord [] word = .help then readFrom true rest else .misuse)
    else if help then .help else ofCommand (word :: rest)

/-- Reads a command line. -/
def read (words : List String) : Invocation := readFrom false words

end Invocation

end TemplateEngine.CommandLine
