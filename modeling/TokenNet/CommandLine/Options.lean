import TokenNet.Text.Decimal

namespace TokenNet
namespace CommandLine

/-!
# Options of the command line

Arguments are read from left to right.  An option with a value takes it from the
same argument, after an equals sign or directly after a single letter, or from the
next argument, which then must not look like an option.  Only expected snapshots
may be given more than once.
-/

/-- What the command line asks for. -/
structure Options where
  /-- The file with the topology. -/
  topology : String
  /-- The file with the script. -/
  events : String
  /-- The seed, if it is not to be the usual one. -/
  seed : Option UInt64
  /-- The bound on delays, if it is not to be the usual one. -/
  maxDelay : Option UInt64
  /-- The files with expected snapshots. -/
  expected : List String
  /-- Whether snapshots are printed as JSON. -/
  json : Bool
deriving DecidableEq, Repr

/-- The files that the options name. -/
def Options.files (options : Options) : List String :=
  options.topology :: options.events :: options.expected

/-- What has been read of the options so far. -/
structure Given where
  /-- The file with the topology. -/
  topology : Option String := none
  /-- The file with the script. -/
  events : Option String := none
  /-- The seed. -/
  seed : Option UInt64 := none
  /-- The bound on delays. -/
  maxDelay : Option UInt64 := none
  /-- The files with expected snapshots. -/
  expected : List String := []
  /-- Whether snapshots are printed as JSON. -/
  json : Bool := false
deriving DecidableEq, Repr

/-- The options that take a value. -/
inductive ValueOption where
  /-- The topology file. -/
  | topology
  /-- The script file. -/
  | events
  /-- The seed. -/
  | seed
  /-- The bound on delays. -/
  | maxDelay
  /-- A file with an expected snapshot. -/
  | expected
deriving DecidableEq, Repr

/-- What one argument says. -/
inductive Argument where
  /-- An option, with its value if the argument holds one. -/
  | option (option : ValueOption) (value : Option String)
  /-- Print snapshots as JSON. -/
  | json
  /-- Print the help text. -/
  | help
  /-- Print the name and the version. -/
  | version
  /-- No option follows. -/
  | endOfOptions
  /-- None of these. -/
  | unknown
deriving DecidableEq, Repr

/-- What the arguments together ask for. -/
inductive Request where
  /-- Run a scenario. -/
  | run (options : Options)
  /-- Print the help text. -/
  | help
  /-- Print the name and the version. -/
  | version
  /-- The arguments cannot be understood. -/
  | invalid
deriving DecidableEq, Repr

/-- The option of a long name. -/
def longOption? (name : String) : Option ValueOption :=
  if name = "topology" then some .topology
  else if name = "events" then some .events
  else if name = "seed" then some .seed
  else if name = "max-delay" then some .maxDelay
  else if name = "expected" then some .expected
  else none

/-- The option of a letter. -/
def shortOption? (letter : Char) : Option ValueOption :=
  if letter = 't' then some .topology
  else if letter = 'e' then some .events
  else none

/-- What an argument says that starts with two dashes, given what follows them. -/
def readLong (text : List Char) : Argument :=
  let name := String.ofList (text.takeWhile (· ≠ '='))
  let value :=
    match text.dropWhile (· ≠ '=') with
    | [] => none
    | _ :: value => some (String.ofList value)
  match longOption? name with
  | some option => .option option value
  | none =>
      if value.isSome then .unknown
      else if name = "json" then .json
      else if name = "help" then .help
      else if name = "version" then .version
      else .unknown

/-- What an argument says that starts with one dash, given what follows it. -/
def readShort (letter : Char) (rest : List Char) : Argument :=
  match shortOption? letter with
  | some option =>
      match rest with
      | [] => .option option none
      | '=' :: value => .option option (some (String.ofList value))
      | value => .option option (some (String.ofList value))
  | none =>
      if letter = 'h' then .help
      else if letter = 'V' then .version
      else .unknown

/-- What an argument says. -/
def readArgument (argument : String) : Argument :=
  match argument.toList with
  | ['-', '-'] => .endOfOptions
  | '-' :: '-' :: text => readLong text
  | '-' :: letter :: rest => readShort letter rest
  | _ => .unknown

/-- Whether an argument cannot be the value of an option: it starts with a dash and
is not a single dash. -/
def looksLikeOption (argument : String) : Bool :=
  match argument.toList with
  | '-' :: _ :: _ => true
  | _ => false

/-- Sets what has not been set before. -/
def setOnce {α : Type} (old value : Option α) : Option (Option α) :=
  if old.isSome || value.isNone then none else some value

/-- A file name, which must not be empty. -/
def fileName? (value : String) : Option String :=
  if value.isEmpty then none else some value

/-- Gives an option its value. -/
def Given.assign (given : Given) (option : ValueOption) (value : String) : Option Given :=
  match option with
  | .topology => do
      let topology ← setOnce given.topology (fileName? value)
      return { given with topology := topology }
  | .events => do
      let events ← setOnce given.events (fileName? value)
      return { given with events := events }
  | .seed => do
      let seed ← setOnce given.seed (Text.readWord? value.toList)
      return { given with seed := seed }
  | .maxDelay => do
      let maxDelay ← setOnce given.maxDelay (Text.readWord? value.toList)
      return { given with maxDelay := maxDelay }
  | .expected => do
      let file ← fileName? value
      return { given with expected := given.expected ++ [file] }

/-- The request once all arguments have been read.  Topology and script have to be
there. -/
def Given.request (given : Given) : Request :=
  match given.topology, given.events with
  | some topology, some events =>
      .run ⟨topology, events, given.seed, given.maxDelay, given.expected, given.json⟩
  | _, _ => .invalid

/-- Reads the arguments that are left, where `pending` is an option whose value is to
come. -/
def readArguments (given : Given) (pending : Option ValueOption) : List String → Request
  | [] => if pending.isSome then .invalid else given.request
  | argument :: rest =>
      match pending with
      | some option =>
          -- An option in place of a value means that the value is missing.
          if looksLikeOption argument then .invalid
          else
            match given.assign option argument with
            | some given => readArguments given none rest
            | none => .invalid
      | none =>
          match readArgument argument with
          | .option option none => readArguments given (some option) rest
          | .option option (some value) =>
              match given.assign option value with
              | some given => readArguments given none rest
              | none => .invalid
          | .json =>
              if given.json then .invalid
              else readArguments { given with json := true } none rest
          | .help => .help
          | .version => .version
          | .endOfOptions => if rest.isEmpty then given.request else .invalid
          | .unknown => .invalid

/-- What the arguments ask for. -/
def request (arguments : List String) : Request := readArguments {} none arguments

end CommandLine
end TokenNet
