import Gridwalk.Machine.Dump
import Gridwalk.Machine.Run

/-! # The command line

`run FILE` and `eval SOURCE` run a program. Options may stand before the program or right behind it;
from the first argument of the program on, everything belongs to the program. What the command line
does is computed here; the streams and files are handed in. A seed picks the stream of random choices
of a run, which for the machine is any stream at all.
-/

namespace Gridwalk.CommandLine
set_option autoImplicit false

structure Options where
  maxTicks : Option Nat := none
  seed : Option Nat := none
  dump : Bool := false
  dumpEachTick : Bool := false
deriving DecidableEq, Repr

inductive Source where
  | file (name : String)
  | inline (text : String)
deriving DecidableEq, Repr

inductive Invocation where
  | version
  | execute (source : Source) (options : Options) (arguments : List String)
deriving DecidableEq, Repr

/-- A natural number of 64 bits, in decimal and with an optional plus sign. -/
def count? (s : String) : Option Nat :=
  let digits := match s.toList with
    | '+' :: rest => rest
    | all => all
  (Text.natural? digits).filter (· < 0x10000000000000000)

def looksLikeOption (s : String) : Bool := s.startsWith "-" && s != "-"

/-- What an option does to the options given before it. -/
inductive Effect where
  | flag (set : Options)
  | number (set : Nat → Options)
  | repeated
  | unknown

/-- The effect of the option with a name. Each option may be given once only. -/
def Options.effect (o : Options) : String → Effect
  | "--dump" => if o.dump then .repeated else .flag { o with dump := true }
  | "--dump-each-tick" =>
    if o.dumpEachTick then .repeated else .flag { o with dumpEachTick := true }
  | "--max-ticks" =>
    if o.maxTicks.isSome then .repeated else .number fun n => { o with maxTicks := some n }
  | "--seed" => if o.seed.isSome then .repeated else .number fun n => { o with seed := some n }
  | _ => .unknown

def splitValue (s : String) : String × Option String :=
  match s.toList.span (· != '=') with
  | (name, _ :: value) => (String.ofList name, some (String.ofList value))
  | (_, []) => (s, none)

abbrev Parsed := Options × String × List String

/-- The program, if it was not given before, is the first of some words without a meaning as
options. -/
def finish (o : Options) (program : Option String) (words : List String) : Option Parsed :=
  match program, words with
  | some p, rest => some (o, p, rest)
  | none, p :: rest => some (o, p, rest)
  | none, [] => none

def parseWords (o : Options) (program : Option String) : List String → Option Parsed
  | [] => finish o program []
  | word :: rest =>
    if word = "--" then finish o program rest
    else if looksLikeOption word then
      let (name, value) := splitValue word
      match o.effect name, value with
      | .flag o', none => parseWords o' program rest
      | .number set, some v => (count? v).bind fun n => parseWords (set n) program rest
      | .number set, none =>
        match rest with
        | v :: rest' => (count? v).bind fun n => parseWords (set n) program rest'
        | [] => none
      | .unknown, _ => if program.isSome then finish o program (word :: rest) else none
      | _, _ => none
    else
      match program with
      | none => parseWords o (some word) rest
      | some _ => finish o program (word :: rest)

/-- Whether a word asks for the version. Short options may be joined into one word, and the first
of them decides. -/
def asksVersion (word : String) : Bool := word == "--version" || word.startsWith "-V"

def parse? : List String → Option Invocation
  | "run" :: words =>
    (parseWords {} none words).bind fun (o, file, arguments) =>
      if file.isEmpty then none else some (.execute (.file file) o arguments)
  | "eval" :: words =>
    (parseWords {} none words).map fun (o, text, arguments) => .execute (.inline text) o arguments
  | word :: _ => if asksVersion word then some .version else none
  | [] => none

inductive FileFault where
  | missing
  | directory
  | notUtf8
  | other (reason : String)
deriving DecidableEq, Repr

def FileFault.message : FileFault → String
  | missing => "No such file or directory (os error 2)"
  | directory => "Is a directory (os error 21)"
  | notUtf8 => "stream did not contain valid UTF-8"
  | other reason => reason

def Source.load (read : String → Except FileFault (List UInt8)) : Source → Except FileFault String
  | inline text => .ok text
  | file name => do
    match Text.Utf8.decode? (← read name) with
    | some s => return String.ofList s
    | none => throw .notUtf8

structure Report where
  code : Nat
  output : Array UInt8
  errors : String

def versionText : String := "alice 0.1.0\n"

def usageText : String :=
  "usage: run FILE [ARGS]... | eval SOURCE [ARGS]...\n"
    ++ "options: --max-ticks N, --seed N, --dump, --dump-each-tick, --version\n"

def cannotRead (name : String) (fault : FileFault) : String :=
  "error: cannot read '" ++ name ++ "': " ++ fault.message ++ "\n"

def Options.budget (o : Options) : Nat := o.maxTicks.getD unlimited

def Options.verdict (o : Options) : Except Fault Ending → Nat × String
  | .ok .terminated => (0, "")
  | .ok .budgetSpent =>
    (2, "error: tick budget of " ++ toString (o.maxTicks.getD 0) ++ " exhausted\n")
  | .error fault => (3, "runtime error: " ++ fault.message ++ "\n")

def runReport (o : Options) (m : Machine) : Report :=
  let (result, last) := match run o.budget m with
    | .ok ending m' => (Except.ok ending, m')
    | .error fault m' => (Except.error fault, m')
  let eachTick := if o.dumpEachTick then (ticks o.budget m).map Machine.dump else []
  let final := if o.dump then [last.dump] else []
  let (code, line) := o.verdict result
  ⟨code, last.output.written, String.join (eachTick ++ final ++ [line])⟩

/-- What the command line does, given the choices of each seed, the files, the input and the time
of day. -/
def respond (dice : Nat → Dice) (read : String → Except FileFault (List UInt8)) (input : Input)
    (clock : String) (words : List String) : Report :=
  match parse? words with
  | none => ⟨1, #[], usageText⟩
  | some .version => ⟨0, versionText.toUTF8.data, ""⟩
  | some (.execute source o arguments) =>
    match source, source.load read with
    | .file name, .error fault => ⟨1, #[], cannotRead name fault⟩
    | _, .error fault => ⟨1, #[], fault.message⟩
    | _, .ok text =>
      runReport o (Machine.load (.ofSource text) arguments input .empty
        (dice (o.seed.getD 0)) clock)

end Gridwalk.CommandLine

namespace Gridwalk

def Dice.mixed (seed : UInt64) (k : Nat) : UInt64 :=
  let z := seed + (k.toUInt64 + 1) * 0x9E3779B97F4A7C15
  let z := (z ^^^ (z >>> 30)) * 0xBF58476D1CE4E5B9
  let z := (z ^^^ (z >>> 27)) * 0x94D049BB133111EB
  z ^^^ (z >>> 31)

/-- The choices that belong to a seed. A choice among more things takes more bits. -/
def Dice.ofSeed (seed : Nat) : Dice where
  choose k n :=
    let bits := (n.log2 / 64 + 2).fold (fun j _ bits =>
      bits * 0x10000000000000000 + (mixed (mixed seed.toUInt64 k) j).toNat) 0
    ⟨bits % (n + 1), Nat.mod_lt bits n.succ_pos⟩
  used := 0

def CommandLine.report (read : String → Except FileFault (List UInt8)) (input : Input)
    (clock : String) (words : List String) : CommandLine.Report :=
  CommandLine.respond Dice.ofSeed read input clock words

end Gridwalk
