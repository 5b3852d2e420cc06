import InputReplay.CommandLine.Options
import InputReplay.Console.Basic
import InputReplay.Settings.File

/-! Invocations: what a command line asks for. A command has options of its own; what is wrong with an
option that was given is told before what is missing. -/

namespace InputReplay

inductive Invocation where
  | version
  /-- What commands there are, or how one of them is called. -/
  | help (usage : List String)
  | run (prompt : String) (config url : Option String)
  | replay (log : String) (interval : Option Binary64) (dryRun : Bool) (config : Option String)
  | exec (commands : List String) (dryRun : Bool) (config : Option String)
  | record (output : String) (seconds : Binary64) (config : Option String)
  | check

inductive Exit where
  | done
  | failed
  | misused (error : UsageError)
  /-- Nothing was asked for. -/
  | idle
  | unsettled (fault : SettingsFault)
  | unreadable (fault : Utf8.Fault)

def Exit.code : Exit → Nat
  | done => 0
  | misused _ | idle => 2
  | failed | unsettled _ | unreadable _ => 1

/-- A part of a command line's work; it may end the whole. -/
abbrev Job := ExceptT Exit Console

namespace CommandLine

def versionOption : CommandOption := ⟨"--version", none, .flag⟩
def helpOption : CommandOption := ⟨"--help", none, .flag⟩
def promptOption : CommandOption := ⟨"--prompt", some 'p', .text⟩
def configOption : CommandOption := ⟨"--config", some 'c', .file⟩
def urlOption : CommandOption := ⟨"--backend-url", some 'b', .text⟩
def verboseOption : CommandOption := ⟨"--verbose", some 'v', .flag⟩
def logOption : CommandOption := ⟨"--log", some 'l', .file⟩
def intervalOption : CommandOption := ⟨"--interval", some 'n', .number⟩
def dryRunOption : CommandOption := ⟨"--dry-run", none, .flag⟩
def outputOption : CommandOption := ⟨"--output", some 'o', .path⟩
def secondsOption : CommandOption := ⟨"--seconds", some 's', .number⟩

inductive Word where
  | check
  | exec
  | record
  | replay
  | run
deriving DecidableEq

namespace Word

def all : List Word := [check, exec, record, replay, run]

def name : Word → String
  | check => "check"
  | exec => "exec"
  | record => "record"
  | replay => "replay"
  | run => "run"

def ofName? (name : String) : Option Word := all.find? fun w => w.name == name

def options : Word → List CommandOption
  | check => [helpOption]
  | exec => [dryRunOption, configOption, helpOption]
  | record => [outputOption, secondsOption, configOption, helpOption]
  | replay => [logOption, intervalOption, dryRunOption, configOption, verboseOption, helpOption]
  | run => [promptOption, configOption, urlOption, verboseOption, helpOption]

def purpose : Word → String
  | check => "Check input control and gesture backend availability."
  | exec => "Execute one or more commands, e.g. 'shortcut:command+c'."
  | record => "Record keyboard and mouse input as a replayable command log."
  | replay => "Replay a recorded command log."
  | run => "Start a live session and execute the backend's instructions."

def operands : Word → String
  | exec => " COMMANDS..."
  | _ => ""

def usage (w : Word) : List String := [
  "Usage: main " ++ w.name ++ " [OPTIONS]" ++ w.operands, "", "  " ++ w.purpose]

def overview : List String :=
  let longest := (all.map (·.name.length)).foldl max 0
  let row (w : Word) := "  " ++ w.name ++ String.ofList (List.replicate (longest - w.name.length + 2) ' ')
    ++ w.purpose
  ["Usage: main [OPTIONS] COMMAND [ARGS]...", "", "Commands:"] ++ all.map row

end Word

def misuse {α : Type} (e : UsageError) : Job α := throw (.misused e)

def orMisuse {α : Type} : Except UsageError α → Job α
  | .ok a => pure a
  | .error e => misuse e

def checkValue (o : CommandOption) (value : String) : Job Unit := do
  match o.kind with
  | .number => if (NumberWord.number? value.toList).isNone then misuse (.notNumber o value)
  | .file => do
    if !(← Console.hasFile value) then misuse (.noSuchFile o value)
  | .path => discard (Console.hasFile value : Console Bool)
  | _ => pure ()

def checkValues (g : Given) : Job Unit :=
  g.order.forM fun o => checkValue o ((g.value? o).getD "")

def need (g : Given) (o : CommandOption) : Job String :=
  match g.value? o with
  | some value => pure value
  | none => misuse (.optionMissing o)

def number? (g : Given) (o : CommandOption) : Option Binary64 :=
  (g.value? o).bind fun value => NumberWord.number? value.toList

def noOperands (g : Given) : Job Unit :=
  if g.operands = [] then pure () else misuse (.operandsUnwanted g.operands)

/-- What the words after a command's name ask of it. -/
def ofGiven (g : Given) : Word → Job Invocation
  | .run => do
    let prompt ← need g promptOption
    noOperands g
    return .run prompt (g.value? configOption) (g.value? urlOption)
  | .replay => do
    let log ← need g logOption
    noOperands g
    return .replay log (number? g intervalOption) (g.has dryRunOption) (g.value? configOption)
  | .exec =>
    if g.operands = [] then misuse (.operandMissing "COMMANDS...")
    else return .exec g.operands (g.has dryRunOption) (g.value? configOption)
  | .record => do
    let output ← need g outputOption
    noOperands g
    return .record output ((number? g secondsOption).getD (.ofNat 10)) (g.value? configOption)
  | .check => do
    noOperands g
    return .check

def readCommand (w : Word) (words : List String) : Job Invocation := do
  let g ← orMisuse (readWords w.options true words)
  if g.has helpOption then return .help w.usage
  else do
    checkValues g
    ofGiven g w

def mainOptions : List CommandOption := [versionOption, helpOption]

/-- What an option asks for that stands before a command. -/
def byOption (o : CommandOption) : Invocation :=
  if o = versionOption then .version else .help Word.overview

def read (words : List String) : Job Invocation := do
  let g ← orMisuse (readWords mainOptions false words)
  match g.order, g.operands with
  | o :: _, _ => return byOption o
  | [], name :: rest =>
    match Word.ofName? name with
    | some w => readCommand w rest
    | none => do
      -- a name that follows two dashes may still be an option
      let again ← orMisuse (readWords mainOptions false (name :: rest))
      match again.order with
      | o :: _ => return byOption o
      | [] => misuse (.unknownCommand name (Similarity.closest name (Word.all.map (·.name))))
  | [], [] => if words = [] then throw .idle else misuse .commandMissing

end CommandLine

end InputReplay
