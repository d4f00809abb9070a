/-
Options.

The options of the command line: their names, and how the words of a call are read.  An option may
be cut short as long as it is clear which one is meant; a value follows as the next word, behind an
equals sign, or right behind a name of one letter.

Main statements:
* `CommandLine.Choice`, `CommandLine.Options` — the options, and what a call sets;
* `CommandLine.Misuse` — what is wrong with a call;
* `CommandLine.read` — the reading of a call.
-/
import ReleaseNotes.Text.Blank
import ReleaseNotes.Text.Digit
import ReleaseNotes.Text.Quoted

namespace ReleaseNotes
namespace CommandLine

/-- The options. -/
inductive Choice where
  | help
  | input
  | config
  | planOnly
  deriving DecidableEq, Repr

namespace Choice

/-- All options. -/
def all : List Choice := [help, input, config, planOnly]

/-- The names of an option. -/
def names : Choice → List String
  | help => ["-h", "--help"]
  | input => ["--input", "-i"]
  | config => ["--config", "-c"]
  | planOnly => ["--plan-only"]

/-- Whether an option takes a value. -/
def takesValue : Choice → Bool
  | input | config => true
  | help | planOnly => false

/-- The names with their options. -/
def named : List (String × Choice) :=
  all.flatMap fun choice => choice.names.map fun name => (name, choice)

/-- All names of an option, as a message shows them. -/
def shown (choice : Choice) : String := String.intercalate "/" choice.names

end Choice

/-- What a call sets. -/
structure Options where
  input : Option String := none
  config : Option String := none
  planOnly : Bool := false
  deriving DecidableEq, Repr

/-- What is wrong with a call. -/
inductive Misuse where
  | unrecognized (words : List String)
  | ambiguous (word : String) (names : List String)
  | valueMissing (choice : Choice)
  | valueIgnored (choice : Choice) (value : String)
  deriving DecidableEq, Repr

/-- The message on a call that is wrong. -/
def Misuse.message : Misuse → String
  | unrecognized words => "unrecognized arguments: " ++ String.intercalate " " words
  | ambiguous word names =>
    "ambiguous option: " ++ word ++ " could match " ++ String.intercalate ", " names
  | valueMissing choice => "argument " ++ choice.shown ++ ": expected one argument"
  | valueIgnored choice value =>
    "argument " ++ choice.shown ++ ": ignored explicit argument " ++ quoted value

/-! ### Words -/

/-- What a word of a call is. -/
inductive Word where
  /-- No option. -/
  | plain (text : String)
  /-- The mark behind which no option follows. -/
  | separator
  /-- An option, with one of its names and its value, if the word has one. -/
  | option (choice : Choice) (name : String) (value : Option String)
  /-- An option without a value, named by one letter, with more letters right behind it. -/
  | cluster (choice : Choice) (behind : List Char)
  /-- What looks like an option, but is none. -/
  | unknown (text : String)
  deriving DecidableEq, Repr

/-- The characters before and behind the first equals sign. -/
def splitValue (cs : List Char) : List Char × Option (List Char) :=
  match cs.dropWhile (· != '=') with
  | _ :: value => (cs.takeWhile (· != '='), some value)
  | [] => (cs, none)

/-- A name of one letter with more right behind it: a value, if the option takes one. -/
def glued (name : String) (choice : Choice) (behind : List Char) : Word :=
  if choice.takesValue then .option choice name (some (String.ofList behind))
  else .cluster choice behind

/-- What a word may be that is cut short or goes on behind a name of one letter: the names, each
with what the word is then. -/
def candidates (word : List Char) : List (String × Word) :=
  match word with
  | '-' :: '-' :: _ =>
    let (start, value) := splitValue word
    (Choice.named.filter fun (name, _) => start.isPrefixOf name.toList).map fun (name, choice) =>
      (name, .option choice name (value.map String.ofList))
  | _ =>
    (Choice.named.filter fun (name, _) => name.toList = word.take 2).map fun (name, choice) =>
      (name, glued name choice (word.drop 2))

/-- Whether a word is a negative number. -/
def isNegativeNumber (word : List Char) : Bool :=
  match withoutBreak word with
  | '-' :: cs =>
    match cs.dropWhile isDecimalDigit with
    | [] => !cs.isEmpty
    | '.' :: ds => !ds.isEmpty && ds.all isDecimalDigit
    | _ => false
  | _ => false

/-- What a word is. -/
def wordOf (text : String) : Except Misuse Word :=
  let cs := text.toList
  let (start, value) := splitValue cs
  if cs.head? != some '-' || cs.length = 1 then .ok (.plain text)
  else match Choice.named.lookup text, Choice.named.lookup (String.ofList start), value with
    | some choice, _, _ => .ok (.option choice text none)
    | none, some choice, some value =>
      .ok (.option choice (String.ofList start) (some (String.ofList value)))
    | _, _, _ => match candidates cs with
      | [] => .ok (if isNegativeNumber cs || cs.contains ' ' then .plain text else .unknown text)
      | [(_, word)] => .ok word
      | several => .error (.ambiguous text (several.map Prod.fst))

/-- What the words of a call are. -/
def wordsOf : List String → Except Misuse (List Word)
  | [] => .ok []
  | "--" :: rest => .ok (.separator :: rest.map .plain)
  | text :: rest => do return (← wordOf text) :: (← wordsOf rest)

/-! ### Calls -/

/-- What a call asks for. -/
inductive Call where
  | help
  | run (options : Options)
  | misused (misuse : Misuse)
  deriving DecidableEq, Repr

namespace Options

/-- The options with the value of one of them. -/
def set (o : Options) (choice : Choice) (value : String) : Options :=
  match choice with
  | .input => { o with input := some value }
  | .config => { o with config := some value }
  | .help | .planOnly => o

/-- The options with one that takes no value. -/
def turnOn (o : Options) : Choice → Options
  | .planOnly => { o with planOnly := true }
  | .help | .input | .config => o

end Options

/-- What is wrong with the letters behind the name of an option: they may name further options, of
which the last one may take a value, and letters that name none are passed over. -/
def clusterMisuse? (after : List Word) (choice : Choice) : List Char → Option Misuse
  | [] => none
  | c :: cs =>
    if c = '-' then some (.valueIgnored choice (String.ofList (c :: cs)))
    else match Choice.named.lookup (String.ofList ['-', c]), cs with
      | none, _ => none
      | some next, [] =>
        let hasValue := after.head?.any fun
          | .plain _ => true
          | _ => false
        if next.takesValue && !hasValue then some (.valueMissing next) else none
      | some next, '=' :: value =>
        if next.takesValue then none else some (.valueIgnored next (String.ofList value))
      | some next, cs => if next.takesValue then none else clusterMisuse? after next cs

/-- The reading of the words that are left, with the options so far and the words that are none. -/
def readWords : List Word → Options → List String → Call
  | [], o, extras => if extras.isEmpty then .run o else .misused (.unrecognized extras.reverse)
  | .plain text :: rest, o, extras => readWords rest o (text :: extras)
  | .unknown text :: rest, o, extras => readWords rest o (text :: extras)
  | .separator :: rest, o, extras => readWords rest o ("--" :: extras)
  | .option choice _ (some value) :: rest, o, extras =>
    if choice.takesValue then readWords rest (o.set choice value) extras
    else .misused (.valueIgnored choice value)
  | .cluster choice behind :: rest, _, _ => match clusterMisuse? rest choice behind with
    | some misuse => .misused misuse
    | none => .help
  | .option choice _ none :: .plain value :: rest, o, extras =>
    if choice = .help then .help
    else if choice.takesValue then readWords rest (o.set choice value) extras
    else readWords (.plain value :: rest) (o.turnOn choice) extras
  | .option choice _ none :: rest, o, extras =>
    if choice = .help then .help
    else if choice.takesValue then .misused (.valueMissing choice)
    else readWords rest (o.turnOn choice) extras

/-- The reading of a call. -/
def read (arguments : List String) : Call :=
  match wordsOf arguments with
  | .error misuse => .misused misuse
  | .ok words => readWords words {} []

/-! ### Texts -/

/-- The name of the program. -/
def program : String := "changelog-agent"

/-- How the program is called. -/
def usage : String :=
  "usage: " ++ program ++ " [-h] [--input INPUT] [--config CONFIG] [--plan-only]\n"

/-- The help on the program. -/
def helpText : String := usage ++
  "\nChangelog Generation Agent\n\noptions:\n" ++
  "  -h, --help            show this help message and exit\n" ++
  "  --input INPUT, -i INPUT\n" ++
  "                        Path to JSON file with release data (reads stdin if\n" ++
  "                        omitted)\n" ++
  "  --config CONFIG, -c CONFIG\n" ++
  "                        Path to YAML config file (default: ./changelog-\n" ++
  "                        agent.yaml)\n" ++
  "  --plan-only           Only resolve the next version; don't call the LLM\n"

end CommandLine
end ReleaseNotes
