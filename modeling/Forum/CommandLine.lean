import Forum.Settings.Variables
import Forum.Terminal.Styled
import Forum.Text.Similarity

/-!
# The command line

The replicator takes the name of an environment file, which a variable may give as well, and two switches. Arguments are
read from left to right, and the first fault ends the reading; `--help` and `--version` end it too.
-/

namespace Forum.CommandLine

open Terminal Text

/-- The name of the program. -/
def program : String := "agora-replicator"

def version : String := "0.1.0"

/-- What an argument may ask for. -/
inductive Flag where
  /-- Takes the name of the environment file as its value. -/
  | environmentFile
  | debug
  | migrate
  | help
  | version
deriving DecidableEq, Repr

namespace Flag

def all : List Flag := [environmentFile, debug, migrate, help, version]

/-- The word behind two hyphens. -/
def word : Flag → String
  | environmentFile => "env-file"
  | debug => "debug"
  | migrate => "migrate"
  | help => "help"
  | version => "version"

/-- The letter behind one hyphen. -/
def letter? : Flag → Option Char
  | debug => some 'd'
  | help => some 'h'
  | version => some 'V'
  | _ => none

/-- The flag sets something for a run. -/
def isSetting (f : Flag) : Bool := f == environmentFile || f == debug || f == migrate

/-- What stands for the value of a flag that takes one. -/
def placeholder (f : Flag) : String :=
  match f with
  | environmentFile => " <ENV_FILE>"
  | _ => ""

/-- A flag as messages show it. -/
def text (f : Flag) : String := s!"--{f.word}{f.placeholder}"

/-- A flag as usage lines and the list of flags show it. -/
def shown (f : Flag) : Styled :=
  literal s!"--{f.word}" ++ if f.placeholder.isEmpty then [] else plain f.placeholder

def ofWord? (s : String) : Option Flag := all.find? fun f => f.word == s

def ofLetter? (c : Char) : Option Flag := all.find? fun f => f.letter? == some c

end Flag

/-- What the program is started with. -/
structure Options where
  environmentFile : Option String
  debug : Bool
  migrate : Bool
deriving DecidableEq, Repr

/-- What the arguments ask for. -/
inductive Request where
  | run (options : Options)
  | help
  | version
deriving DecidableEq, Repr

/-- What is wrong with the arguments. -/
inductive Fault where
  /-- An argument means nothing. `used` are the flags that the usage line shows. -/
  | unexpected (argument : String) (similar : Option Flag) (used : List Flag)
  /-- The name of the environment file is missing or empty. -/
  | valueRequired
  /-- A flag has a value and takes none. `late` tells whether another setting stands before it. -/
  | unexpectedValue (value : String) (flag : Flag) (late : Bool)
  | repeated (flag : Flag)
deriving DecidableEq, Repr

/-! ## Texts -/

/-- The usage line: what may stand behind the name of the program, or any flags. -/
def usage (items : List Styled) : Styled :=
  heading "Usage:" ++ plain " " ++ literal program ++
    match items with
    | [] => plain " [OPTIONS]"
    | _ => items.flatMap fun item => plain " " ++ item

/-- The choice between all settings. -/
def anySetting : Styled :=
  plain ("<" ++ String.intercalate "|" ((Flag.all.filter Flag.isSetting).map Flag.text) ++ ">")

/-- What a usage line shows for a flag that has a value and takes none. Behind another setting, the choice between all
of them stands for those in use. -/
def usageOfValue (flag : Flag) (late : Bool) : List Styled :=
  if !late then [flag.shown] else if flag.isSetting then [anySetting] else [flag.shown, anySetting]

/-- A fault with what follows it. -/
def describe (paragraphs : List Styled) : Styled :=
  failure "error:" ++ plain " " ++
    Styled.join "\n\n"
      (paragraphs ++ [plain "For more information, try " ++ (literal "--help").quoted ++ plain "."]) ++
    plain "\n"

/-- The text of a fault. -/
def Fault.report : Fault → Styled
  | unexpected argument similar used =>
    let found := plain "unexpected argument " ++ (invalid argument).quoted ++ plain " found"
    let tip (flag : Flag) : Styled :=
      plain "  " ++ valid "tip:" ++ plain " a similar argument exists: " ++ (valid s!"--{flag.word}").quoted
    describe ([found] ++ (similar.map tip).toList ++ [usage (used.map Flag.shown)])
  | valueRequired =>
    describe [plain "a value is required for " ++ (invalid (Flag.text .environmentFile)).quoted ++
      plain " but none was supplied"]
  | unexpectedValue value flag late =>
    describe [plain "unexpected value " ++ (invalid value).quoted ++ plain " for " ++
      (literal flag.text).quoted ++ plain " found; no more were expected", usage (usageOfValue flag late)]
  | repeated flag =>
    describe [plain "the argument " ++ (invalid flag.text).quoted ++ plain " cannot be used multiple times",
      usage []]

/-- What a flag does. -/
def Flag.explanation (vars : Lookup) : Flag → String
  | environmentFile =>
    let value := (vars Variable.environmentFile).getD ""
    s!"Load environment variables from this file first [env: {Variable.environmentFile}={value}]"
  | debug => "Enable debug logging"
  | migrate => "Create the comments schema before starting"
  | help => "Print help"
  | version => "Print version"

/-- Explanations start behind this many columns. -/
def explanationColumn : Nat := 29

def blanks (n : Nat) : String := String.ofList (List.replicate n ' ')

/-- A text whose lines behind the first one start at the column of explanations. -/
def indented (text : String) : String :=
  String.ofList (text.toList.flatMap fun c => if c = '\n' then c :: List.replicate explanationColumn ' ' else [c])

/-- The line that explains a flag. -/
def Flag.line (vars : Lookup) (f : Flag) : Styled :=
  let letter : Styled := match f.letter? with
    | some c => literal (String.ofList ['-', c]) ++ plain ", "
    | none => plain "    "
  plain "  " ++ letter ++ f.shown ++ plain (blanks (explanationColumn - 6 - f.text.length)) ++
    plain (indented (f.explanation vars)) ++ plain "\n"

/-- The text that explains the flags. -/
def helpText (vars : Lookup) : Styled :=
  plain "Applies post events to the comments service replica\n\n" ++ usage [] ++ plain "\n\n" ++
    heading "Options:" ++ plain "\n" ++ Flag.all.flatMap (Flag.line vars)

def versionText : Styled := plain s!"{program} {version}\n"

/-! ## Reading -/

/-- The name of an environment file that is being read. -/
inductive Pending where
  | none
  /-- The value is the next argument. -/
  | awaited
  /-- The value is known but not yet checked. -/
  | given (value : String)
deriving DecidableEq, Repr

/-- The state between two arguments. -/
structure State where
  /-- The flags so far, in order. -/
  used : List Flag
  file : Option String
  pending : Pending
deriving DecidableEq, Repr

namespace State

def start : State := ⟨[], none, .none⟩

/-- Why reading stops before the end. -/
inductive Stop where
  | fault (fault : Fault)
  | request (request : Request)
deriving DecidableEq, Repr

/-- Adds a flag to those in use. -/
def use (s : State) (f : Flag) : State := { s with used := s.used.filter (· ≠ f) ++ [f] }

/-- Takes a name of an environment file. -/
def setFile (s : State) (value : String) : State × Option Fault :=
  if .environmentFile ∈ s.used then
    ({ s with used := s.used.filter (· ≠ .environmentFile) }, some (.repeated .environmentFile))
  else if value.isEmpty then (s.use .environmentFile, some .valueRequired)
  else ({ s.use .environmentFile with file := some value }, none)

/-- Finishes the name of an environment file that is being read. -/
def settle (s : State) : State × Option Fault :=
  match s.pending with
  | .none => (s, none)
  | .awaited => ({ s with pending := .none }, some .valueRequired)
  | .given value => { s with pending := .none }.setFile value

/-- Finishes what is being read and goes on if there was no fault. -/
def settled (s : State) : Except Stop State :=
  match s.settle with
  | (s, none) => .ok s
  | (_, some fault) => .error (.fault fault)

/-- Takes a flag without a value. -/
def switch (s : State) (f : Flag) : Except Stop State := do
  let s ← s.settled
  match f with
  | .help => .error (.request .help)
  | .version => .error (.request .version)
  | _ => if f ∈ s.used then .error (.fault (.repeated f)) else .ok (s.use f)

/-- Refuses a word behind two hyphens. The flag that it resembles, if any, counts as used. -/
def refuseWord (s : State) (w : String) : Stop :=
  let similar := Similarity.mostSimilar? (fun f : Flag => f.word.toList) w.toList Flag.all
  let s := s.settle.1
  let used := match similar with
    | some f => if f ∈ s.used then s.used else s.used ++ [f]
    | none => s.used
  .fault (.unexpected ("--" ++ w) similar used)

/-- Reads a word behind two hyphens, and the value behind an equals sign. -/
def readWord (s : State) (w : String) (value : Option String) : Except Stop State :=
  match Flag.ofWord? w, value with
  | none, _ => .error (s.refuseWord w)
  | some .environmentFile, none => do
    let s ← s.settled
    .ok { s with pending := .awaited }
  | some .environmentFile, some value => do
    let s ← s.settled
    match s.setFile value with
    | (s, none) => .ok s
    | (_, some fault) => .error (.fault fault)
  | some f, none => s.switch f
  | some f, some value =>
    .error (.fault (.unexpectedValue value f (!s.used.isEmpty)))

/-- Reads letters behind one hyphen. -/
def readLetters (s : State) : List Char → Except Stop State
  | [] => .ok s
  | c :: cs =>
    match Flag.ofLetter? c with
    | some f => do
      let s ← s.switch f
      s.readLetters cs
    | none => .error (.fault (.unexpected (String.ofList ['-', c]) none []))

/-- Splits an argument at its first equals sign. -/
def splitValue (cs : List Char) : String × Option String :=
  let w := cs.takeWhile (· != '=')
  (String.ofList w, match cs.drop w.length with
    | [] => none
    | _ :: value => some (String.ofList value))

/-- Reads an argument. -/
def read (s : State) (argument : String) : Except Stop State :=
  match argument.toList with
  | '-' :: '-' :: c :: cs => let (w, value) := splitValue (c :: cs); s.readWord w value
  | '-' :: c :: cs => s.readLetters (c :: cs)
  | _ =>
    match s.pending with
    | .awaited => .ok { s with pending := .given argument }
    | _ => .error (.fault (.unexpected argument none []))

/-- Reads arguments up to two hyphens on their own; what follows those is not expected. -/
def readAll (s : State) : List String → Except Stop State
  | [] => s.settled
  | "--" :: [] => s.settled
  | "--" :: argument :: _ => .error (.fault (.unexpected argument none []))
  | argument :: arguments => do
    let s ← s.read argument
    s.readAll arguments

end State

/-- What the arguments ask for, with the environment file that a variable names where no argument does. -/
def parse (vars : Lookup) (arguments : List String) : Except Fault Request :=
  match State.start.readAll arguments with
  | .error (.fault fault) => .error fault
  | .error (.request request) => .ok request
  | .ok s =>
    let options (file : Option String) : Request := .run ⟨file, .debug ∈ s.used, .migrate ∈ s.used⟩
    match s.file, vars Variable.environmentFile with
    | some file, _ => .ok (options (some file))
    | none, none => .ok (options none)
    | none, some file => if file.isEmpty then .error .valueRequired else .ok (options (some file))

end Forum.CommandLine
