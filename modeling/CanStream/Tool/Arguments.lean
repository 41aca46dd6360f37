import CanStream.Text.Number

/-!
# Command line arguments

A command line consists of options and plain words in any order. An option is a switch or takes one
value, and has a long name and perhaps a letter. Letters can be joined, a value can follow its
letter directly or behind an equals sign, and after two dashes every word is plain.

The words are read from the left. Asking for help or for the version ends the reading, and so does a
word that cannot stand where it does. What has to be there, and what was given too often, is looked
for at the end only: an option that takes a value may be left without one as long as it has a value
elsewhere on the line.
-/

namespace CanStream.Tool

/-- What an option does. -/
inductive OptionKind
  | switch
  | value
  /-- Takes a value every time it is given. -/
  | values
  deriving DecidableEq, Repr

/-- An option of a command. -/
structure OptionSpec where
  name : String
  letter : Option Char
  kind : OptionKind
  /-- Whether its value may start with a dash. -/
  takesDash : Bool
  required : Bool
  isValue : String → Bool

namespace OptionSpec

def switch (name : String) (letter : Option Char) : OptionSpec :=
  ⟨name, letter, .switch, false, false, fun _ => true⟩

def text (name : String) (letter : Option Char) (kind : OptionKind) (required : Bool) :
    OptionSpec :=
  ⟨name, letter, kind, false, required, fun _ => true⟩

end OptionSpec

/-- The arguments of a command: its options, and the most plain words. The first of them is
required. -/
structure CommandSpec where
  options : List OptionSpec
  mostWords : Option Nat

/-- Why a command is not run. -/
inductive Usage
  | help
  | version
  | wrong
  deriving DecidableEq, Repr

def Usage.exitCode : Usage → Nat
  | help => 0
  | version => 0
  | wrong => 2

/-- The arguments that were given. -/
structure Given where
  /-- The options in order, each with its value, if it has one. -/
  options : List (String × Option String)
  words : List String
  deriving DecidableEq, Repr

namespace Given

def none : Given := ⟨[], []⟩

def has (g : Given) (name : String) : Bool := g.options.any (·.1 == name)

def values (g : Given) (name : String) : List String :=
  (g.options.filter (·.1 == name)).filterMap (·.2)

def value? (g : Given) (name : String) : Option String := (g.values name).head?

end Given

/-- How far a command line was read. -/
structure Reading where
  given : Given
  /-- The option that waits for its value. -/
  pending : Option OptionSpec
  /-- Whether only plain words follow. -/
  plain : Bool

namespace Reading

def start : Reading := ⟨Given.none, none, false⟩

def add (r : Reading) (name : String) (value : Option String) : Reading :=
  { r with given := { r.given with options := r.given.options ++ [(name, value)] } }

/-- Gives up waiting for a value: the option that waits is given without one. -/
def settle (r : Reading) : Reading :=
  match r.pending with
  | some o => { r with pending := none }.add o.name none
  | none => r

/-- Adds an option with a value, if the value is one for it. -/
def addValue (r : Reading) (o : OptionSpec) (value : String) : Except Usage Reading :=
  if o.isValue value then .ok ({ r with pending := none }.add o.name (some value))
  else .error .wrong

/-- Adds a plain word, if there is room for one more. -/
def addWord (spec : CommandSpec) (r : Reading) (word : String) : Except Usage Reading :=
  let words := r.given.words ++ [word]
  if spec.mostWords.all (words.length ≤ ·) then
    .ok { r with given := { r.given with words := words } }
  else .error .wrong

/-- Reads an option by its long name, with the value joined to it. -/
def long (spec : CommandSpec) (r : Reading) (name : String) (value : Option String) :
    Except Usage Reading :=
  if name = "help" ∧ value = none then .error .help
  else if name = "version" ∧ value = none then .error .version
  else
    match spec.options.find? (·.name == name) with
    | none => .error .wrong
    | some o =>
        if o.kind = .switch then
          if value = none then .ok (r.settle.add o.name none) else .error .wrong
        else
          match value with
          | some v => r.settle.addValue o v
          | none => .ok { r.settle with pending := some o }

/-- Reads joined letters, up to the first that takes a value; the rest is its value. -/
def letters (spec : CommandSpec) (r : Reading) : List Char → Except Usage Reading
  | [] => .ok r
  | c :: rest =>
      if c = '?' then .error .help
      else if c = 'V' then .error .version
      else
        match spec.options.find? (·.letter == some c) with
        | none => .error .wrong
        | some o =>
            if o.kind = .switch then letters spec (r.settle.add o.name none) rest
            else
              match rest with
              | [] => .ok { r.settle with pending := some o }
              | '=' :: v => r.settle.addValue o (String.ofList v)
              | v => r.settle.addValue o (String.ofList v)

/-- Reads a word that does not start with a dash, or a single dash. -/
def bare (spec : CommandSpec) (r : Reading) (word : String) : Except Usage Reading :=
  match r.pending with
  | some o => r.addValue o word
  | none => r.addWord spec word

def next (spec : CommandSpec) (r : Reading) (word : String) : Except Usage Reading :=
  if r.plain then r.addWord spec word
  else if r.pending.any (·.takesDash) then r.bare spec word
  else
    match word.toList with
    | ['-', '-'] => .ok { r with plain := true }
    | '-' :: '-' :: rest =>
        match rest.span (· ≠ '=') with
        | (name, []) => r.long spec (String.ofList name) none
        | (name, _ :: value) => r.long spec (String.ofList name) (some (String.ofList value))
    | '-' :: c :: rest => r.letters spec (c :: rest)
    | _ => r.bare spec word

/-- Whether an option that is not to be repeated was given twice. -/
def isRepeated (g : Given) (o : OptionSpec) : Bool :=
  o.kind != .values && decide (1 < g.options.countP (·.1 == o.name))

/-- Whether an option that takes a value was given, and never with a value. -/
def lacksValue (g : Given) (o : OptionSpec) : Bool :=
  o.kind != .switch && g.has o.name && (g.values o.name).isEmpty

/-- Whether an option that has to be there is absent. -/
def isAbsent (g : Given) (o : OptionSpec) : Bool := o.required && !g.has o.name

def finish (spec : CommandSpec) (r : Reading) : Except Usage Given :=
  let g := r.settle.given
  if g.words.isEmpty ||
      spec.options.any (fun o => isRepeated g o || lacksValue g o || isAbsent g o) then
    .error .wrong
  else .ok g

end Reading

def arguments (spec : CommandSpec) (words : List String) : Except Usage Given := do
  let r ← words.foldlM (Reading.next spec) Reading.start
  r.finish spec

def count? (s : String) : Option Nat := (Number.unsigned 10 0x10000000000000000 s.toList).toOption

def integer? (s : String) : Option Int := (Number.signed 10 0x8000000000000000 s.toList).toOption

def byte? (s : String) : Option Nat :=
  (integer? s).bind fun n => if 0 ≤ n ∧ n ≤ 255 then some n.toNat else none

end CanStream.Tool
