import SetScript.CommandLine.Similarity

/-!
# The command line

Arguments are taken from left to right, and the first of a request for help, a
request for the version and a mistake decides.

An option takes its value from the same argument, after an equals sign, or from
the next argument.  In the second case the option is settled only when the next
option comes or the arguments end, so a mistake in it gives way to an argument
that fits nowhere.
-/

namespace SetScript.CommandLine

/-- The options. -/
inductive Switch
  | stdio
  | logLevel
  | config
  | help
  | version
deriving DecidableEq

namespace Switch

def all : List Switch :=
  [stdio, logLevel, config, help, version]

def name : Switch → String
  | stdio => "stdio"
  | logLevel => "log-level"
  | config => "config"
  | help => "help"
  | version => "version"

/-- What stands for the value of an option that takes one. -/
def valueName? : Switch → Option String
  | logLevel => some "LOG_LEVEL"
  | config => some "PATH"
  | _ => none

/-- An option as it is shown in messages. -/
def display (switch : Switch) : String :=
  "--" ++ switch.name ++
    match switch.valueName? with
    | some value => " <" ++ value ++ ">"
    | none => ""

def ofName? (name : String) : Option Switch :=
  all.find? (·.name == name)

def ofLetter? : Char → Option Switch
  | 'h' => some help
  | 'V' => some version
  | _ => none

/-- Whether an option says how to serve, and does not ask for a text. -/
def isSetting : Switch → Bool
  | help => false
  | version => false
  | _ => true

/-- Whether an option accepts a value; a path is not empty. -/
def accepts (switch : Switch) (value : String) : Bool :=
  switch != config || !value.isEmpty

end Switch

/-- What is wrong with the arguments. -/
inductive Mistake
  | unexpected (argument : String) (similar? : Option Switch)
  | unexpectedValue (switch : Switch) (value : String)
  | repeated (switch : Switch)
  | missingValue (switch : Switch)
deriving DecidableEq

/-- What a usage line is about. -/
structure Subject where
  /-- The options that were used, in order. -/
  used : List Switch := []
  /-- Whether the settings among them stand for the choice of all settings. -/
  asChoice : Bool := false
deriving DecidableEq

/-- What the arguments ask for. -/
inductive Outcome
  | serve (configFile? : Option String)
  | help
  | version
  | mistake (mistake : Mistake) (subject : Subject)
deriving DecidableEq

/-- The options so far. -/
structure Progress where
  /-- The options that are settled, in order. -/
  used : List Switch := []
  configFile? : Option String := none
  /-- An option that waits for its value, or has it from a separate argument. -/
  pending? : Option (Switch × Option String) := none

/-- The result of settling an option: what to do at once, if anything, and the
options after that. -/
abbrev Settled := Option Outcome × Progress

namespace Progress

/-- Settle an option. -/
def settle (progress : Progress) (switch : Switch) (value? : Option String) : Settled :=
  match switch with
  | .help => (some .help, progress)
  | .version => (some .version, progress)
  | _ =>
      if switch.valueName?.isSome && value?.isNone then
        (some (.mistake (.missingValue switch) {}), progress)
      else if progress.used.contains switch then
        (some (.mistake (.repeated switch) {}),
          { progress with used := progress.used.erase switch })
      else
        let used := progress.used ++ [switch]
        if value?.all switch.accepts then
          let configFile? := if switch = .config then value? else progress.configFile?
          (none, { progress with used := used, configFile? := configFile? })
        else
          (some (.mistake (.missingValue switch) {}), { progress with used := used })

/-- Settle the option that is pending. -/
def settlePending (progress : Progress) : Settled :=
  match progress.pending? with
  | none => (none, progress)
  | some (switch, value?) => settle { progress with pending? := none } switch value?

/-- Settle the option that is pending, and then another one. -/
def settleNext (progress : Progress) (switch : Switch) (value? : Option String) : Settled :=
  match progress.settlePending with
  | (some outcome, progress) => (some outcome, progress)
  | (none, progress) => progress.settle switch value?

/-- An option that is not known.  An option of a similar name is taken as meant. -/
def unexpectedOption (progress : Progress) (name : String) : Outcome :=
  let settled := progress.settlePending.2
  let similar? := (Similarity.closest? name (Switch.all.map Switch.name)).bind Switch.ofName?
  let used :=
    match similar? with
    | some switch =>
        if settled.used.contains switch then settled.used else settled.used ++ [switch]
    | none => settled.used
  .mistake (.unexpected ("--" ++ name) similar?) { used := used }

end Progress

/-- Take an argument that names an option in full. -/
def takeLong (progress : Progress) (text : List Char) : Settled :=
  let name := text.takeWhile (· != '=')
  let value? :=
    match text.drop name.length with
    | [] => none
    | _ :: value => some (String.ofList value)
  match Switch.ofName? (String.ofList name) with
  | none => (some (progress.unexpectedOption (String.ofList name)), progress)
  | some switch =>
      match switch.valueName?, value? with
      | none, some value =>
          let subject : Subject := ⟨progress.used ++ [switch], progress.used.any Switch.isSetting⟩
          (some (.mistake (.unexpectedValue switch value) subject), progress)
      | none, none => progress.settleNext switch none
      | some _, some value => progress.settleNext switch (some value)
      | some _, none =>
          match progress.settlePending with
          | (some outcome, progress) => (some outcome, progress)
          | (none, progress) => (none, { progress with pending? := some (switch, none) })

/-- Take an argument that names options by letters. -/
def takeLetters (progress : Progress) : List Char → Settled
  | [] => (none, progress)
  | letter :: rest =>
      match Switch.ofLetter? letter with
      | none =>
          (some (.mistake (.unexpected (String.ofList ['-', letter]) none) {}), progress)
      | some switch =>
          match progress.settleNext switch none with
          | (some outcome, progress) => (some outcome, progress)
          | (none, progress) => takeLetters progress rest

/-- Take an argument that names no option: the value of the option that waits for
one, or nothing that is expected. -/
def takeOther (progress : Progress) (argument : String) : Settled :=
  match progress.pending? with
  | some (switch, none) =>
      (none, { progress with pending? := some (switch, some argument) })
  | _ => (some (.mistake (.unexpected argument none) {}), progress)

/-- Take one argument. -/
def take (progress : Progress) (argument : String) : Settled :=
  match argument.toList with
  | '-' :: '-' :: name => takeLong progress name
  | '-' :: letter :: letters => takeLetters progress (letter :: letters)
  | _ => takeOther progress argument

/-- What the arguments ask for, given the options so far.  After two dashes no
argument is an option or a value. -/
def parseFrom (progress : Progress) : List String → Outcome
  | [] =>
      match progress.settlePending with
      | (some outcome, _) => outcome
      | (none, settled) => .serve settled.configFile?
  | argument :: rest =>
      if argument = "--" then
        match rest with
        | [] => parseFrom progress []
        | extra :: _ => .mistake (.unexpected extra none) {}
      else
        match take progress argument with
        | (some outcome, _) => outcome
        | (none, progress) => parseFrom progress rest

/-- What the arguments ask for. -/
def parse (arguments : List String) : Outcome :=
  parseFrom {} arguments

end SetScript.CommandLine
