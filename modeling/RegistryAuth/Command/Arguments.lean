import RegistryAuth.Text.Cut

/-!
# Command lines

A command line is a list of options and words.  `OptionTable` says which options there are
and which of them are followed by a value; `Arguments.read` tells options and words apart.

An option with a value is written `--name value`, whatever the value looks like, or
`--name=value`.  One without a value may have a letter, and letters may stand together
behind one dash.  Everything behind `--` is a word, and so is a single dash.
-/

namespace RegistryAuth

/-- The options that a command line may have. -/
structure OptionTable where
  valued : List String
  flags : List String
  letters : List (Char × String)

/-- Why a command line cannot be understood. -/
inductive UsageError where
  | unknownOption (name : String)
  | missingValue (name : String)
  | needlessValue (name : String)
  | notNumber (name text : String)
  | missingWord (name : String)
  | needlessWord (text : String)
  | missingCommand
  | unknownCommand (name : String)
  deriving Repr, DecidableEq

/-- The words for the failure. -/
def UsageError.message : UsageError → String
  | .unknownOption name => "There is no option " ++ name ++ "."
  | .missingValue name => "The option " ++ name ++ " needs a value."
  | .needlessValue name => "The option " ++ name ++ " takes no value."
  | .notNumber name text => "The value of " ++ name ++ " is no number: " ++ text
  | .missingWord name => name ++ " is missing."
  | .needlessWord text => "There is no use for " ++ text ++ "."
  | .missingCommand => "The command is missing."
  | .unknownCommand name => "There is no command " ++ name ++ "."

/-- What an option turns out to be: complete, or in need of the value that follows. -/
inductive OptionPart where
  | complete (options : List (String × String))
  | needsValue (name : String)
  deriving Repr, DecidableEq

namespace OptionTable

/-- Whether an argument is an option by its looks. -/
def looksLikeOption (arg : String) : Bool :=
  match arg.toList with
  | '-' :: _ :: _ => true
  | _ => false

/-- The options that letters behind a dash stand for. -/
def ofLetters (table : OptionTable) : List Char → Except UsageError (List (String × String))
  | [] => .ok []
  | c :: cs =>
    match table.letters.lookup c with
    | none => .error (.unknownOption (String.ofList ['-', c]))
    | some name => (table.ofLetters cs).map ((name, "") :: ·)

/-- The name of an option, and the value that is written with it. -/
def nameAndValue (arg : List Char) : String × Option String :=
  match Text.cut? (· = '=') arg with
  | some (name, value) => (String.ofList name, some (String.ofList value))
  | none => (String.ofList arg, none)

/-- Reads an argument that looks like an option. -/
def readOption (table : OptionTable) (arg : String) : Except UsageError OptionPart :=
  let (name, value?) := nameAndValue arg.toList
  if table.valued.contains name then
    match value? with
    | some value => .ok (.complete [(name, value)])
    | none => .ok (.needsValue name)
  else if table.flags.contains name then
    match value? with
    | some _ => .error (.needlessValue name)
    | none => .ok (.complete [(name, "")])
  else
    match arg.toList with
    | '-' :: '-' :: _ => .error (.unknownOption name)
    | cs => (table.ofLetters (cs.drop 1)).map .complete

end OptionTable

/-- The options of a command line, each with its value, and its words; a flag has the
empty value. -/
structure Arguments where
  options : List (String × String)
  words : List String
  deriving Repr, DecidableEq

namespace Arguments

/-- Puts options in front. -/
def withOptions (options : List (String × String)) (a : Arguments) : Arguments :=
  { a with options := options ++ a.options }

/-- Puts a word in front. -/
def withWord (word : String) (a : Arguments) : Arguments := { a with words := word :: a.words }

/-- Tells options and words apart.  Where options may not stand behind words, all that
follows the first word is a word. -/
def read (table : OptionTable) (optionsAnywhere : Bool) :
    List String → Except UsageError Arguments
  | [] => .ok ⟨[], []⟩
  | arg :: rest =>
    if arg = "--" then .ok ⟨[], rest⟩
    else if !OptionTable.looksLikeOption arg then
      if optionsAnywhere then (read table optionsAnywhere rest).map (withWord arg)
      else .ok ⟨[], arg :: rest⟩
    else
      match table.readOption arg with
      | .error e => .error e
      | .ok (.complete options) => (read table optionsAnywhere rest).map (withOptions options)
      | .ok (.needsValue name) =>
        match rest with
        | [] => .error (.missingValue name)
        | value :: rest =>
          (read table optionsAnywhere rest).map (withOptions [(name, value)])

/-- Whether an option is given. -/
def has (a : Arguments) (name : String) : Bool := a.options.any fun o => o.1 == name

/-- The value of an option: the last one that is given. -/
def value? (a : Arguments) (name : String) : Option String := a.options.reverse.lookup name

end Arguments
end RegistryAuth
