import TableBench.CommandLine.Usage
import TableBench.Config
import TableBench.Number.Numeral
import TableBench.Text.Characters

namespace TableBench.CommandLine

/-- What a command is asked to do: the settings of its configuration, and how it is to run. -/
structure Invocation where
  settings : List (Setting Float) := []
  keys : List String := []
  plain : Bool := false
  approved : Bool := false
  verbosity : Nat := 0

def Invocation.set (i : Invocation) (s : Setting Float) : Invocation :=
  { i with settings := i.settings ++ [s] }

/-- How the value of an option is read, and what it changes. -/
inductive Action where
  | text (setting : String → Setting Float)
  | integer (setting : Int → Setting Float)
  | decimal (setting : Float → Setting Float)
  | switch (change : Bool → Invocation → Invocation)
  | count (change : Nat → Invocation → Invocation)

/-- An option: the names that turn it on, the names that turn it off, and the environment
variable that stands in for it. -/
structure Parameter where
  names : List String
  offNames : List String := []
  variableName : Option String := none
  action : Action

namespace Parameter

def display (p : Parameter) : String := p.names.headD ""

def takesValue (p : Parameter) : Bool :=
  match p.action with
  | .text _ | .integer _ | .decimal _ => true
  | .switch _ | .count _ => false

/-- Reads a word that says yes or no, in any case and with blanks around it. -/
def readBoolean? (s : String) : Option Bool :=
  booleanWords.lookup (String.ofList ((Text.trim s.toList).map Char.toLower))

def ofValue (p : Parameter) (value : String) : Except UsageProblem (Invocation → Invocation) :=
  match p.action with
  | .text setting => .ok (·.set (setting value))
  | .integer setting =>
    match Number.readInteger value with
    | .ok n => .ok (·.set (setting n))
    | .error _ => .error (.notInteger p.display value)
  | .decimal setting =>
    match Number.readFloat? value with
    | some x => .ok (·.set (setting x))
    | none => .error (.notDecimal p.display value)
  | .switch change =>
    match readBoolean? value with
    | some b => .ok (change b)
    | none => .error (.notBoolean p.display value)
  | .count change =>
    match Number.readInteger value with
    | .ok n => .ok (change n.toNat)
    | .error _ => .error (.notInteger p.display value)

end Parameter

inductive Mention where
  | value (s : String)
  | on
  | off
  deriving DecidableEq, Repr

/-- The options that were mentioned, in order, and the arguments between them. -/
structure Parsed where
  mentions : List (Parameter × Mention) := []
  arguments : List String := []

def find? (ps : List Parameter) (name : String) : Option (Parameter × Mention) :=
  ps.findSome? fun p =>
    if p.names.contains name then some (p, .on)
    else if p.offNames.contains name then some (p, .off)
    else none

/-- A name with two dashes, or with one dash and more than one letter. -/
def isLong (name : String) : Bool := 2 < name.length || name.startsWith "--"

def splitValue (s : String) : String × Option String :=
  let cs := s.toList
  let name := cs.takeWhile (· ≠ '=')
  match cs.drop name.length with
  | [] => (s, none)
  | _ :: value => (String.ofList name, some (String.ofList value))

/-- One step over the command line: what it mentions, and what is left. -/
abbrev Step := Except UsageProblem (List (Parameter × Mention) × List String)

/-- A long option takes its value from after the equals sign, or else the next word. -/
def longStep (p : Parameter) (m : Mention) (name : String) (value : Option String)
    (rest : List String) : Step :=
  if p.takesValue then
    match value, rest with
    | some v, rest => .ok ([(p, .value v)], rest)
    | none, v :: rest => .ok ([(p, .value v)], rest)
    | none, [] => .error (.valueMissing name)
  else
    match value with
    | some _ => .error (.valueUnwanted name)
    | none => .ok ([(p, m)], rest)

/-- Short options stand behind one dash; one that takes a value takes the rest of the word, or
else the next. -/
def shortSteps (ps : List Parameter) : List Char → List String → Step
  | [], rest => .ok ([], rest)
  | c :: cs, rest => do
    let name := String.ofList ['-', c]
    match find? ps name with
    | none => .error (.unknownOption name)
    | some (p, m) =>
      if p.takesValue then
        match cs, rest with
        | [], [] => .error (.valueMissing name)
        | [], v :: rest => .ok ([(p, .value v)], rest)
        | cs, rest => .ok ([(p, .value (String.ofList cs))], rest)
      else
        let (ms, rest) ← shortSteps ps cs rest
        .ok ((p, m) :: ms, rest)

def step (ps : List Parameter) (word : String) (rest : List String) : Step :=
  let (name, value) := splitValue word
  match if isLong name then find? ps name else none with
  | some (p, m) => longStep p m name value rest
  | none =>
    if word.startsWith "--" then .error (.unknownOption name)
    else shortSteps ps (word.toList.drop 1) rest

def isOption (word : String) : Bool := word.startsWith "-" && 1 < word.length

/-- Reads words until none are left; with `anywhere`, options may stand behind arguments. Every
step uses up a word, so that their number is enough steps. -/
def scan (ps : List Parameter) (anywhere : Bool) : Nat → List String → Except UsageProblem Parsed
  | 0, words => .ok { arguments := words }
  | _, [] => .ok {}
  | steps + 1, word :: rest =>
    if word = "--" then .ok { arguments := rest }
    else if isOption word then do
      let (ms, rest) ← step ps word rest
      let parsed ← scan ps anywhere steps rest
      .ok { parsed with mentions := ms ++ parsed.mentions }
    else if anywhere then do
      let parsed ← scan ps anywhere steps rest
      .ok { parsed with arguments := word :: parsed.arguments }
    else .ok { arguments := word :: rest }

def parse (ps : List Parameter) (anywhere : Bool) (words : List String) :
    Except UsageProblem Parsed :=
  scan ps anywhere words.length words

namespace Parsed

def of (parsed : Parsed) (p : Parameter) : List Mention :=
  (parsed.mentions.filter fun m => m.1.names == p.names).map Prod.snd

/-- What the mentions of an option change: the last one counts, or their number. -/
def change (p : Parameter) (ms : List Mention) : Except UsageProblem (Invocation → Invocation) :=
  match p.action with
  | .count change => .ok (change ms.length)
  | .switch change =>
    match ms.getLast? with
    | some .off => .ok (change false)
    | _ => .ok (change true)
  | _ =>
    match ms.getLast? with
    | some (.value v) => p.ofValue v
    | _ => .ok id

end Parsed

end TableBench.CommandLine
