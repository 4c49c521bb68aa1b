import Ancestry.CommandLine.Tools
import Ancestry.System.Path

/-!
# Arguments of the command line

A command line names a command and gives options before and behind it. Some options are
known everywhere and the others only to their command. An option that takes a value has it
in the same argument, behind an equals sign or directly behind its letter, or in the next
one. Each option may be given once on either side of the command; what is given behind the
command counts more, and the environment only counts where nothing is given.

A value in an argument of its own is looked at when the next option is read, so a fault
that is found before comes first.
-/
namespace Ancestry.CommandLine

/-- What may be wrong with a command line. -/
inductive UsageError
  | nothingGiven
  | missingCommand
  | unknownCommand
  | unknownArgument
  | repeatedArgument
  | missingValue
  | invalidValue
  | superfluousValue
  | malformedText
  deriving Repr, DecidableEq

def UsageError.text : UsageError → String
  | nothingGiven => ""
  | missingCommand => "error: a subcommand is required but one was not provided"
  | unknownCommand => "error: unrecognized subcommand"
  | unknownArgument => "error: unexpected argument found"
  | repeatedArgument =>
    "error: an argument cannot be used with one or more of the other specified arguments"
  | missingValue => "error: one of the values isn't valid for an argument"
  | invalidValue => "error: invalid value for one of the arguments"
  | superfluousValue => "error: unexpected value for an argument found"
  | malformedText => "error: invalid UTF-8 was detected in one or more arguments"

/-! ## Options -/

inductive Opt
  | verbose
  | config
  | log
  | pid
  | json
  | library
  deriving Repr, DecidableEq

namespace Opt

def all : List Opt := [verbose, config, log, pid, json, library]

def takesValue : Opt → Bool
  | verbose | json => false
  | config | log | pid | library => true

def longName : Opt → String
  | verbose => "verbose"
  | config => "config"
  | log => "log"
  | pid => "pid"
  | json => "json"
  | library => "library"

/-- The options that have a letter. -/
def ofLetter (b : UInt8) : Option Opt :=
  if b = 'v'.toUInt8 then some verbose else if b = 'c'.toUInt8 then some config else none

end Opt

inductive CommandName
  | listen
  | replay
  | install
  deriving Repr, DecidableEq

namespace CommandName

def all : List CommandName := [listen, replay, install]

def text : CommandName → String
  | listen => "listen"
  | replay => "replay"
  | install => "install"

def ofBytes (arg : Bytes) : Option CommandName := all.find? fun c => Bytes.ofString c.text = arg

theorem ofBytes_text (c : CommandName) : ofBytes (Bytes.ofString c.text) = some c := by
  cases c <;> decide

/-- The options that only a command knows. -/
def options : CommandName → List Opt
  | listen => []
  | replay => [.log, .pid, .json]
  | install => [.library]

end CommandName

/-- Where an argument stands: before the command, or behind it. -/
abbrev Scope := Option CommandName

def Scope.options (s : Scope) : List Opt := [.verbose, .config] ++ (s.map (·.options)).getD []

/-- The options given in one scope. -/
structure Given where
  verbose : Bool
  config : Option Bytes
  log : Option Bytes
  pid : Option Pid
  json : Bool
  library : Option Bytes
  deriving Repr, DecidableEq

namespace Given

def nothing : Given := ⟨false, none, none, none, false, none⟩

def has (g : Given) : Opt → Bool
  | .verbose => g.verbose
  | .config => g.config.isSome
  | .log => g.log.isSome
  | .pid => g.pid.isSome
  | .json => g.json
  | .library => g.library.isSome

def readPath (value : Bytes) : Except UsageError Bytes :=
  if value = [] then .error .missingValue else .ok value

def readPid (value : Bytes) : Except UsageError Pid :=
  match Utf8.decode value with
  | .error _ => .error .malformedText
  | .ok cs =>
    match Decimal.readInt32 cs with
    | some p => .ok p
    | none => .error .invalidValue

/-- Gives an option that takes no value. -/
def switch (g : Given) (o : Opt) : Except UsageError Given :=
  if g.has o then .error .repeatedArgument
  else
    match o with
    | .verbose => .ok { g with verbose := true }
    | .json => .ok { g with json := true }
    | _ => .error .missingValue

/-- Gives an option with its value. -/
def assign (g : Given) (o : Opt) (value : Bytes) : Except UsageError Given :=
  if g.has o then .error .repeatedArgument
  else
    match o with
    | .config => do return { g with config := some (← readPath value) }
    | .log => do return { g with log := some (← readPath value) }
    | .library => do return { g with library := some (← readPath value) }
    | .pid => do return { g with pid := some (← readPid value) }
    | .verbose | .json => .error .superfluousValue

end Given

/-! ## Reading a scope -/

/-- An option whose value stands in an argument of its own. -/
inductive Pending
  | nothing
  | awaiting (o : Opt)
  | filled (o : Opt) (value : Bytes)
  deriving Repr, DecidableEq

structure Reading where
  scope : Scope
  given : Given
  pending : Pending

namespace Reading

def start (s : Scope) : Reading := ⟨s, Given.nothing, .nothing⟩

/-- Gives the pending option. -/
def settle (r : Reading) : Except UsageError Reading :=
  match r.pending with
  | .nothing => .ok r
  | .awaiting _ => .error .missingValue
  | .filled o value => do return { r with given := ← r.given.assign o value, pending := .nothing }

def switch (r : Reading) (o : Opt) : Except UsageError Reading := do
  let r ← r.settle
  return { r with given := ← r.given.switch o }

def assign (r : Reading) (o : Opt) (value : Bytes) : Except UsageError Reading := do
  let r ← r.settle
  return { r with given := ← r.given.assign o value }

def await (r : Reading) (o : Opt) : Except UsageError Reading := do
  return { ← r.settle with pending := .awaiting o }

def hyphen : UInt8 := '-'.toUInt8

def equalsSign : UInt8 := '='.toUInt8

/-- An option by its name, behind two hyphens. -/
def readLong (r : Reading) (arg : Bytes) : Except UsageError Reading :=
  let name := arg.takeWhile (· ≠ equalsSign)
  match r.scope.options.find? fun o => Bytes.ofString o.longName = name with
  | none => .error .unknownArgument
  | some o =>
    match arg.drop name.length, o.takesValue with
    | [], true => r.await o
    | [], false => r.switch o
    | _ :: value, true => r.assign o value
    | _ :: _, false => .error .superfluousValue

/-- Options by their letters, behind one hyphen. The first that takes a value has the rest
for it. -/
def readLetters (r : Reading) : Bytes → Except UsageError Reading
  | [] => .ok r
  | b :: rest =>
    match Opt.ofLetter b with
    | none => .error .unknownArgument
    | some o =>
      if !o.takesValue then do readLetters (← r.switch o) rest
      else
        match rest with
        | [] => r.await o
        | c :: value => r.assign o (if c = equalsSign then value else rest)

/-- An argument that is neither an option nor a value of one. -/
def stray (s : Scope) : UsageError := if s.isSome then .unknownArgument else .unknownCommand

/-- One argument. -/
def step (r : Reading) (arg : Bytes) : Except UsageError Reading :=
  match arg, r.pending with
  | a :: b :: rest, pending =>
    if a = hyphen && b = hyphen then r.readLong rest
    else if a = hyphen then r.readLetters (b :: rest)
    else
      match pending with
      | .awaiting o => .ok { r with pending := .filled o arg }
      | _ => .error (stray r.scope)
  | _, .awaiting o => .ok { r with pending := .filled o arg }
  | _, _ => .error (stray r.scope)

def isAwaiting (r : Reading) : Bool :=
  match r.pending with
  | .awaiting _ => true
  | _ => false

/-- Two hyphens say that no options follow. -/
def endOfOptions : Bytes := [hyphen, hyphen]

/-- Whatever follows the end of the options is too much. -/
def afterOptions (r : Reading) : Bytes → UsageError
  | arg => if (CommandName.ofBytes arg).isSome then .unknownArgument else stray r.scope

/-- The options in the scope of a command, up to the end. -/
def readAll (r : Reading) : List Bytes → Except UsageError Reading
  | [] => .ok r
  | arg :: rest =>
    if arg = endOfOptions then
      match rest with
      | [] => .ok r
      | next :: _ => .error (r.afterOptions next)
    else do readAll (← r.step arg) rest

/-- The options before the command, with the command and what follows it. -/
def readUpToCommand (r : Reading) :
    List Bytes → Except UsageError (Reading × Option (CommandName × List Bytes))
  | [] => .ok (r, none)
  | arg :: rest =>
    match if r.isAwaiting then none else CommandName.ofBytes arg with
    | some c => .ok (r, some (c, rest))
    | none =>
      if arg = endOfOptions then
        match rest with
        | [] => .ok (r, none)
        | next :: _ => .error (r.afterOptions next)
      else do readUpToCommand (← r.step arg) rest

end Reading

/-! ## The whole line -/

/-- The options of a scope once all its arguments have been read. A file of settings that
the environment names has to have a name where no other is given. -/
def finish (fallback : Option Bytes) (r : Reading) : Except UsageError Given := do
  let r ← r.settle
  if r.given.config.isNone && fallback = some [] then .error .missingValue else .ok r.given

def commandOf (name : CommandName) (g : Given) : Command :=
  match name with
  | .listen => .listen
  | .replay => .replay g.log g.pid g.json
  | .install => .install g.library

/-- Reads a command line; the environment may name a file of settings. -/
def Invocation.read (fallback : Option Bytes) (args : List Bytes) :
    Except UsageError Invocation := do
  let (outer, rest) ← (Reading.start none).readUpToCommand args
  match rest with
  | none =>
    let given ← finish fallback outer
    if given = Given.nothing && fallback.isNone then .error .nothingGiven
    else .error .missingCommand
  | some (name, rest) =>
    let inner ← (Reading.start (some name)).readAll rest
    let inside ← finish fallback inner
    let outside ← finish fallback outer
    return ⟨outside.verbose || inside.verbose,
      inside.config.or (outside.config.or fallback), commandOf name inside⟩

/-- What the program says to a command line that is wrong. -/
def UsageError.refusal (e : UsageError) : Refusal := ⟨2, e.text⟩

end Ancestry.CommandLine
