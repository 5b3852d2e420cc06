import InputReplay.Document.Checked
import InputReplay.Text.Similarity

/-! Words of a command line: options, which may carry a value, and operands. An option is written long
or short; short ones may be joined, and the value of one may follow it at once. Two dashes alone end
the options. -/

namespace InputReplay

/-- What an option takes: nothing, or a value of a kind. A file must be there already. -/
inductive OptionKind where
  | flag
  | text
  | number
  | file
  | path
deriving DecidableEq

structure CommandOption where
  long : String
  short : Option Char
  kind : OptionKind
deriving DecidableEq

namespace CommandOption

def takesValue (o : CommandOption) : Bool := o.kind != .flag

def shortName (c : Char) : String := String.ofList ['-', c]

def shown (o : CommandOption) : String :=
  match o.short with
  | some c => quoted o.long ++ " / " ++ quoted (shortName c)
  | none => quoted o.long

end CommandOption

/-- What is wrong with a command line. An unknown name comes with the known ones it is like. -/
inductive UsageError where
  | unknownOption (name : String) (similar : List String)
  | valueMissing (name : String)
  | valueUnwanted (name : String)
  | optionMissing (option : CommandOption)
  | operandMissing (name : String)
  | operandsUnwanted (words : List String)
  | notNumber (option : CommandOption) (word : String)
  | noSuchFile (option : CommandOption) (path : String)
  | unknownCommand (name : String) (similar : List String)
  | commandMissing
deriving DecidableEq

namespace UsageError

def badValue (option : CommandOption) (reason : String) : String :=
  s!"Invalid value for {option.shown}: {reason}"

def suggestion : List String → String
  | [] => ""
  | [name] => s!" Did you mean {quoted name}?"
  | names => " (Did you mean one of: " ++ ", ".intercalate (names.map quoted) ++ "?)"

def message : UsageError → String
  | unknownOption name similar =>
    s!"No such option {quoted name}." ++ suggestion similar
  | valueMissing name => s!"Option {quoted name} requires an argument."
  | valueUnwanted name => s!"Option {quoted name} does not take a value."
  | optionMissing option => s!"Missing option {option.shown}."
  | operandMissing name => s!"Missing argument {quoted name}."
  | operandsUnwanted words =>
    "Got unexpected extra argument" ++ (if words.length = 1 then "" else "s") ++
      " (" ++ " ".intercalate words ++ ")"
  | notNumber option word => badValue option (quoted word ++ " is not a valid float.")
  | noSuchFile option path => badValue option s!"Path {quoted path} does not exist."
  | unknownCommand name similar =>
    s!"No such command {quoted name}." ++ suggestion similar
  | commandMissing => "Missing command."

end UsageError

/-- An option where it was given, with its value if it takes one. -/
structure GivenOption where
  option : CommandOption
  value : String

/-- What a command line gives, each in order. -/
structure Given where
  options : List GivenOption
  operands : List String

namespace Given

def withOptions (found : List GivenOption) (g : Given) : Given :=
  { g with options := found ++ g.options }

def withOperand (word : String) (g : Given) : Given := { g with operands := word :: g.operands }

def value? (g : Given) (o : CommandOption) : Option String :=
  (g.options.reverse.find? (·.option = o)).map (·.value)

def has (g : Given) (o : CommandOption) : Bool := g.options.any (·.option = o)

/-- The options given, each where it first was. -/
def order (g : Given) : List CommandOption :=
  g.options.foldl (fun seen o => if seen.contains o.option then seen else seen ++ [o.option]) []

end Given

/-- What one word gives: options, and perhaps one more by a name whose value is the next word. -/
structure WordOptions where
  complete : List GivenOption
  open? : Option (CommandOption × String)

def readJoined (table : List CommandOption) : List Char → Except UsageError WordOptions
  | [] => .ok ⟨[], none⟩
  | c :: rest =>
    match table.find? (·.short = some c) with
    | none => .error (.unknownOption (CommandOption.shortName c) [])
    | some o =>
      if o.takesValue then
        if rest = [] then .ok ⟨[], some (o, CommandOption.shortName c)⟩
        else .ok ⟨[⟨o, String.ofList rest⟩], none⟩
      else do
        let found ← readJoined table rest
        return { found with complete := ⟨o, ""⟩ :: found.complete }

/-- The options in a word that begins with a dash. -/
def readOptions (table : List CommandOption) (word : List Char) :
    Except UsageError WordOptions :=
  let (name, value) := match splitFirst? '=' word with
    | some (name, value) => (String.ofList name, some (String.ofList value))
    | none => (String.ofList word, none)
  match table.find? (·.long = name), value with
  | some o, some value =>
    if o.takesValue then .ok ⟨[⟨o, value⟩], none⟩ else .error (.valueUnwanted name)
  | some o, none => .ok (if o.takesValue then ⟨[], some (o, name)⟩ else ⟨[⟨o, ""⟩], none⟩)
  | none, _ =>
    if "--".toList.isPrefixOf word then
      .error (.unknownOption name (Similarity.closest name (table.map (·.long))))
    else readJoined table (word.drop 1)

/-- Reads words. Unless options may follow operands, the first operand ends the options. -/
def readWords (table : List CommandOption) (mixed : Bool) : List String → Except UsageError Given
  | [] => .ok ⟨[], []⟩
  | word :: rest =>
    if word = "--" then .ok ⟨[], rest⟩
    else if word.startsWith "-" ∧ 1 < word.length then do
      let found ← readOptions table word.toList
      match found.open?, rest with
      | none, rest => return (← readWords table mixed rest).withOptions found.complete
      | some (o, _), value :: rest =>
        return (← readWords table mixed rest).withOptions (found.complete ++ [⟨o, value⟩])
      | some (_, name), [] => .error (.valueMissing name)
    else if mixed then return (← readWords table mixed rest).withOperand word
    else .ok ⟨[], word :: rest⟩

end InputReplay
