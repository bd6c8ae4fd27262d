import OpenBroker.Number.Literal
import OpenBroker.Text.Quoted

/-!
# Grammars of command lines

A command line consists of options and of at most one command, which takes all
arguments behind it.  A grammar says which options and commands there are; how a
command line is used, and the help about it, are written from the grammar alone.

The usage begins with the program and lists the options, those that may be left out in
brackets, then the commands.  A usage that does not fit a line is broken between
parts, the commands beginning a line of their own.
-/
namespace OpenBroker
namespace Client

/-- What an option does. -/
inductive OptionKind
  /-- It asks for help, and takes no value. -/
  | help
  /-- It takes a text. -/
  | text
  /-- It takes a real number. -/
  | real
  deriving DecidableEq, Repr

/-- **Option** of a command line, in one or several spellings. -/
structure CommandOption where
  spellings : List Text
  kind : OptionKind
  required : Bool
  deriving DecidableEq, Repr

namespace CommandOption

/-- The option that asks for help. -/
def help : CommandOption := ⟨["-h", "--help"], .help, false⟩

/-- The option's name in messages. -/
def label (o : CommandOption) : Text := Text.join "/" o.spellings

/-- The spelling shown in the usage. -/
def firstSpelling (o : CommandOption) : Text := o.spellings.headD []

/-- The name of the option's value: the spelling without its dashes, in capitals. -/
def valueName (o : CommandOption) : Text :=
  (o.firstSpelling.dropWhile (· == ('-' : CodePoint))).map fun (c : CodePoint) =>
    if c = '-' then '_' else CodePoint.asciiUpper c

/-- An option's spelling with its value's name. -/
def withValue (o : CommandOption) (spelling : Text) : Text :=
  match o.kind with
  | .help => spelling
  | _ => spelling ++ " " ++ o.valueName

/-- The parts of the usage for the option; a line may be broken between two. -/
def usageParts (o : CommandOption) : List Text :=
  if o.required then [o.firstSpelling, o.valueName]
  else ["[" ++ o.withValue o.firstSpelling ++ "]"]

/-- How the help shows the option. -/
def helpHead (o : CommandOption) : Text := Text.join ", " (o.spellings.map o.withValue)

/-- What the help says about the option. -/
def helpText (o : CommandOption) : Text :=
  match o.kind with
  | .help => "show this help message and exit"
  | _ => []

end CommandOption

/-- **Grammar** of a command line. -/
structure Grammar where
  program : Text
  description : Text
  options : List CommandOption
  commands : List Text
  deriving DecidableEq, Repr

namespace Grammar

/-- The spellings of the options, in order, each with its option. -/
def spellings (g : Grammar) : List (Text × CommandOption) :=
  g.options.flatMap fun o => o.spellings.map fun s => (s, o)

/-- The choice among the commands, as the usage shows it. -/
def choice (g : Grammar) : Text := "\x7b" ++ Text.join "," g.commands ++ "\x7d"

/-- The width that a usage may have. -/
def width : Nat := 78

/-- The column at which the help texts begin at the latest. -/
def helpColumn : Nat := 24

/-- A number of spaces. -/
def spaces (n : Nat) : Text := Text.replicate n ' '

/-- Parts laid out on lines behind an indentation; `used` counts the columns that are
taken on the first one. -/
def layOut (indent : Nat) : (used : Nat) → List Text → Text
  | _, [] => []
  | used, part :: rest =>
    let broken := indent < used && width < used + 1 + part.length
    let column := if broken || used == indent then indent else used + 1
    let gap : Text := if broken then "\n" ++ spaces indent else spaces (column - used)
    gap ++ part ++ layOut indent (column + part.length) rest

/-- **Usage.** -/
def usage (g : Grammar) : Text :=
  let start : Text := "usage: " ++ g.program
  let optionParts := g.options.flatMap CommandOption.usageParts
  let commandParts : List Text := if g.commands.isEmpty then [] else [g.choice, "..."]
  let line := Text.join " " (start :: optionParts ++ commandParts)
  if line.length ≤ width then line ++ "\n"
  else
    let indent := start.length + 1
    let commandLines : Text :=
      if commandParts.isEmpty then []
      else spaces indent ++ layOut indent indent commandParts ++ "\n"
    start ++ " " ++ layOut indent indent optionParts ++ "\n" ++ commandLines

/-- A line of the help: what it is about from the second column on, what is said about
it at a column behind all of these, or on the next line where there is no room. -/
def helpLine (column : Nat) (head text : Text) : Text :=
  if text.isEmpty then "  " ++ head ++ "\n"
  else if head.length + 4 ≤ column then
    "  " ++ head ++ spaces (column - 2 - head.length) ++ text ++ "\n"
  else "  " ++ head ++ "\n" ++ spaces column ++ text ++ "\n"

/-- **Help.** -/
def help (g : Grammar) : Text :=
  let heads := g.options.map CommandOption.helpHead
  let longest := ((g.choice :: heads).map List.length).foldl max 0
  let longest := if g.commands.isEmpty then (heads.map List.length).foldl max 0 else longest
  let column := min (longest + 4) helpColumn
  let description : Text := if g.description.isEmpty then [] else "\n" ++ g.description ++ "\n"
  let commands : Text :=
    if g.commands.isEmpty then [] else "\npositional arguments:\n" ++ helpLine column g.choice []
  g.usage ++ description ++ commands ++ "\noptions:\n"
    ++ g.options.flatMap fun o => helpLine column o.helpHead o.helpText

end Grammar
end Client
end OpenBroker
