import SetScript.CommandLine.Basic
import SetScript.Text.Visible

/-!
# Texts of the command line

What is printed for help, for the version, and for mistakes, and the exit code
that goes with it.  Of the arguments only the visible text is repeated.
-/

namespace SetScript.CommandLine

/-- The name of the program. -/
def programName : String :=
  "setlang_lsp"

/-- The version of the program. -/
def programVersion : String :=
  "0.1.0"

/-- All settings, as a choice. -/
def settingsChoice : String :=
  "<" ++ "|".intercalate ((Switch.all.filter Switch.isSetting).map Switch.display) ++ ">"

/-- The usage line: the options that it is about, or a stand-in for all. -/
def usage (subject : Subject) : String :=
  let options :=
    if subject.used.isEmpty then ["[OPTIONS]"]
    else if subject.asChoice then
      (subject.used.filter (!·.isSetting)).map Switch.display ++ [settingsChoice]
    else
      subject.used.map Switch.display
  "Usage: " ++ programName ++ " " ++ " ".intercalate options

def helpText : String :=
  "Language server for the set/setr scripting DSL: goto definition for variables and
unresolved-variable diagnostics.

" ++ usage {} ++ "

Options:
      --stdio                  Communicate over stdin/stdout (the only transport; accepted for
                               editors that always pass it)
      --log-level <LOG_LEVEL>  Log filter used when `RUST_LOG` is not set, e.g. `info` or
                               `setlang_lsp=debug`.  Logs go to stderr [default: warn]
      --config <PATH>          Read configuration from this TOML file instead of discovering
                               `.setlang.toml` in the workspace
  -h, --help                   Print help
  -V, --version                Print version
"

def versionText : String :=
  programName ++ " " ++ programVersion ++ "\n"

namespace Mistake

def message : Mistake → String
  | unexpected argument _ => "unexpected argument '" ++ Text.visible argument ++ "' found"
  | unexpectedValue switch value =>
      "unexpected value '" ++ Text.visible value ++ "' for '" ++ switch.display ++
        "' found; no more were expected"
  | repeated switch =>
      "the argument '" ++ switch.display ++ "' cannot be used multiple times"
  | missingValue switch =>
      "a value is required for '" ++ switch.display ++ "' but none was supplied"

/-- Whether the usage line is printed. -/
def showsUsage : Mistake → Bool
  | missingValue _ => false
  | _ => true

/-- The hint at an option of a similar name. -/
def hint? : Mistake → Option String
  | unexpected _ (some switch) =>
      some ("  tip: a similar argument exists: '--" ++ switch.name ++ "'")
  | _ => none

/-- All that is printed for a mistake: paragraphs with blank lines between. -/
def report (mistake : Mistake) (subject : Subject) : String :=
  let paragraphs :=
    ["error: " ++ mistake.message] ++ mistake.hint?.toList ++
      (if mistake.showsUsage then [usage subject] else []) ++
      ["For more information, try '--help'."]
  "\n\n".intercalate paragraphs ++ "\n"

end Mistake

/-- What the program prints and the code it ends with, unless it serves. -/
structure Ending where
  code : Nat := 0
  output : String := ""
  complaint : String := ""

def Outcome.ending : Outcome → Ending
  | .serve _ => {}
  | .help => { output := helpText }
  | .version => { output := versionText }
  | .mistake reason subject => { code := 2, complaint := reason.report subject }

end SetScript.CommandLine
