import OpenBroker.Client.Grammar

/-!
# Reading command lines

Every argument is first read by itself.  It is plain, unless it begins with a dash;
then it is an option of the grammar, spelled out or shortened to a beginning that no
other spelling has, or an option that is not known.  A negative number, a single dash and
an unknown option with a blank inside are plain too, and so is everything behind
`--`.

The readings are then consumed from left to right.  An option takes its value from
behind an equals sign, or else from the next argument, which has to be plain; the
last value of an option counts.  The first plain argument of a grammar with commands
is the command, with everything behind it.  What finds no use is left over.

Reading ends early where help is asked for, and at the first fault.  An ambiguous
shortening is a fault wherever it stands before `--`, and comes before all others.
-/
namespace OpenBroker
namespace Client

/-- **Reading** of a single argument. -/
inductive Reading
  | plain
  /-- The two dashes that end the options. -/
  | divider
  | unknown
  /-- An option; `attached?` is what stands behind its spelling in the same argument, and
  whether an equals sign stands between. -/
  | option (o : CommandOption) (attached? : Option (Bool × Text))
  deriving DecidableEq, Repr

/-- What is wrong with a command line. -/
inductive UsageFault
  | ambiguous (argument : Text) (spellings : List Text)
  | valueExpected (o : CommandOption)
  | valueIgnored (o : CommandOption) (value : Text)
  | noReal (o : CommandOption) (value : Text)
  | missing (options : List CommandOption)
  | unknownCommand (name : Text) (known : List Text)
  | leftOver (arguments : List Text)
  deriving DecidableEq, Repr

/-- The words for a fault. -/
def UsageFault.message : UsageFault → Text
  | ambiguous t spellings =>
    "ambiguous option: " ++ t ++ " could match " ++ Text.join ", " spellings
  | valueExpected o => "argument " ++ o.label ++ ": expected one argument"
  | valueIgnored o t => "argument " ++ o.label ++ ": ignored explicit argument " ++ Text.quoted t
  | noReal o t => "argument " ++ o.label ++ ": invalid float value: " ++ Text.quoted t
  | missing os =>
    "the following arguments are required: " ++ Text.join ", " (os.map CommandOption.label)
  | unknownCommand t known =>
    "argument cmd: invalid choice: " ++ Text.quoted t ++ " (choose from "
      ++ Text.join ", " (known.map Text.quoted) ++ ")"
  | leftOver ts => "unrecognized arguments: " ++ Text.join " " ts

/-- **Why reading ended**: help about a grammar, or a fault in it. -/
inductive Halt
  | help (g : Grammar)
  | fault (g : Grammar) (f : UsageFault)
  deriving DecidableEq, Repr

/-- The message that a halt leaves. -/
def Halt.text : Halt → Text
  | help g => g.help
  | fault g f => g.usage ++ g.program ++ ": error: " ++ f.message ++ "\n"

/-- A decimal digit of any script. -/
def isDigit (c : CodePoint) : Bool := (Text.digit? c).isSome

/-- A negative number: a minus sign, digits, and perhaps a point with digits behind
it; a line feed may follow. -/
def isNegativeNumber : Text → Bool
  | [] => false
  | c :: rest =>
    let body := match rest.getLast? with
      | some d => if d = '\n' then rest.dropLast else rest
      | none => rest
    let fraction := body.dropWhile isDigit
    c == '-' &&
      match fraction with
      | [] => !body.isEmpty
      | d :: ds => d == '.' && !ds.isEmpty && ds.all isDigit

/-- The options that an argument with two dashes shortens, with their spellings and
what is attached. -/
def shortened (g : Grammar) (t : Text) : List (Text × Reading) :=
  let (beginning, value?) := Text.cut '=' t
  (g.spellings.filter fun e => Text.startsWith beginning e.1).map fun (s, o) =>
    (s, .option o (value?.map fun v => (true, v)))

/-- The options that an argument with one dash begins with or shortens. -/
def clustered (g : Grammar) (t : Text) : List (Text × Reading) :=
  g.spellings.filterMap fun (s, o) =>
    if s = t.take 2 then some (s, .option o (some (false, t.drop 2)))
    else if Text.startsWith t s then some (s, .option o none)
    else none

/-- The reading of an argument that is no spelling as it stands. -/
def readOther (g : Grammar) (t : Text) : Except Halt Reading :=
  let candidates := if Text.startsWith "--" t then shortened g t else clustered g t
  match candidates with
  | [(_, r)] => .ok r
  | [] => .ok (if isNegativeNumber t || t.contains ' ' then .plain else .unknown)
  | _ => .error (.fault g (.ambiguous t (candidates.map (·.1))))

/-- **Read** one argument in front of the divider. -/
def readArgument (g : Grammar) (t : Text) : Except Halt Reading :=
  if !Text.startsWith "-" t then .ok .plain
  else
    match g.spellings.lookup t with
    | some o => .ok (.option o none)
    | none =>
      if t.length = 1 then .ok .plain
      else
        match Text.cut '=' t with
        | (s, some v) =>
          match g.spellings.lookup s with
          | some o => .ok (.option o (some (true, v)))
          | none => readOther g t
        | (_, none) => readOther g t

/-- **Read** all arguments, each by itself. -/
def readArguments (g : Grammar) : List Text → Except Halt (List (Text × Reading))
  | [] => .ok []
  | t :: rest =>
    if t = "--" then .ok ((t, .divider) :: rest.map fun s => (s, .plain))
    else do
      let r ← readArgument g t
      let rs ← readArguments g rest
      .ok ((t, r) :: rs)

/-- **What was read**: the values of the options, the arguments that are left over, and
the command with the arguments behind it. -/
structure CommandLine where
  values : List (CommandOption × Text)
  leftOver : List Text
  command? : Option (Text × List Text)
  deriving DecidableEq, Repr

namespace CommandLine

/-- The value of an option: the last one given. -/
def value? (l : CommandLine) (o : CommandOption) : Option Text := l.values.reverse.lookup o

/-- The command line with one more value. -/
def give (l : CommandLine) (o : CommandOption) (v : Text) : CommandLine :=
  { l with values := l.values ++ [(o, v)] }

/-- The command line with more arguments left over. -/
def leave (l : CommandLine) (ts : List Text) : CommandLine :=
  { l with leftOver := l.leftOver ++ ts }

end CommandLine

/-- What becomes of a request for help with letters attached, each of which may ask for
help again: it is granted, unless a value or a dash follows. -/
def clusteredHelp (g : Grammar) (o : CommandOption) : Text → Halt
  | [] => .help g
  | c :: rest =>
    if c = '-' then .fault g (.valueIgnored o (c :: rest))
    else if c ≠ 'h' then .help g
    else if rest.head? = some ('=' : CodePoint) then .fault g (.valueIgnored o (rest.drop 1))
    else clusteredHelp g o rest

/-- The value of an option, if it is one that the option takes. -/
def checkValue (g : Grammar) (o : CommandOption) (v : Text) : Except Halt Text :=
  match o.kind with
  | .real => if (Literal.real? v).isSome then .ok v else .error (.fault g (.noReal o v))
  | _ => .ok v

/-- The halt that a request for help leads to. -/
def helpHalt (g : Grammar) (o : CommandOption) : (attached? : Option (Bool × Text)) → Halt
  | none => .help g
  | some (true, v) => .fault g (.valueIgnored o v)
  | some (false, letters) => clusteredHelp g o letters

/-- **Consume** the readings from left to right. -/
def consume (g : Grammar) : List (Text × Reading) → CommandLine → Except Halt CommandLine
  | [], l => .ok l
  | (t, .unknown) :: rest, l => consume g rest (l.leave [t])
  | (t, .plain) :: rest, l =>
    if g.commands.isEmpty then consume g rest (l.leave [t])
    else .ok { l with command? := some (t, rest.map (·.1)) }
  | (t, .divider) :: rest, l =>
    if g.commands.isEmpty || rest.isEmpty then .ok (l.leave (t :: rest.map (·.1)))
    else .ok { l with command? := some (t, rest.map (·.1)) }
  | (_, .option o attached?) :: rest, l =>
    match o.kind, attached?, rest with
    | .help, attached?, _ => .error (helpHalt g o attached?)
    | _, some (_, v), rest => do
      let v ← checkValue g o v
      consume g rest (l.give o v)
    | _, none, (v, .plain) :: rest => do
      let v ← checkValue g o v
      consume g rest (l.give o v)
    | _, none, _ => .error (.fault g (.valueExpected o))

/-- The command line, if all options that are required were given. -/
def complete (g : Grammar) (l : CommandLine) : Except Halt CommandLine :=
  match g.options.filter fun o => o.required && (l.value? o).isNone with
  | [] => .ok l
  | missing => .error (.fault g (.missing missing))

/-- **Read a command line.** -/
def Grammar.read (g : Grammar) (arguments : List Text) : Except Halt CommandLine := do
  let readings ← readArguments g arguments
  let l ← consume g readings ⟨[], [], none⟩
  complete g l

end Client
end OpenBroker
