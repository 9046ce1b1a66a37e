import Gridwalk.CommandLine
import Std.Time.Format

/-! # The program

The outer layer: it reads the file and the standard input, runs the machine tick by tick, and passes
on what the machine writes. Input is read only when a command asks for more than has arrived: such a
tick is tried again from the machine before it, with more input.
-/

namespace Gridwalk.CommandLine
set_option autoImplicit false

def timeOfDay : IO String := do
  try
    return (← Std.Time.DateTime.now).toISO8601String
  catch _ =>
    return (Std.Time.DateTime.ofTimestamp (← Std.Time.Timestamp.now) .UTC).toISO8601String

def readProgram (name : String) : IO (Except FileFault (List UInt8)) := do
  try
    return .ok (← IO.FS.readBinFile name).toList
  catch
    | .noFileOrDirectory .. => return .error .missing
    | .inappropriateType _ 21 _ => return .error .directory
    | e => return .error (.other (toString e))

/-- Pass on the bytes written, and wait if the program asked for it. -/
def settle (m : Machine) : IO Machine := do
  let out ← IO.getStdout
  out.write ⟨m.output.written⟩
  if m.waiting ≠ 0 then
    out.flush
    IO.sleep m.waiting.toUInt32
  return { m with output := .empty, waiting := 0 }

partial def runLive (o : Options) (m : Machine) : IO (Except Fault Ending × Machine) := do
  if m.done then return (.ok .terminated, m)
  if o.budget ≤ m.tick then return (.ok .budgetSpent, m)
  let m := { m with clock := ← timeOfDay }
  match step m with
  | .ok _ m' =>
    let m' ← settle m'
    if o.dumpEachTick then IO.eprint m'.dump
    runLive o m'
  | .error (.stream .unreadable) _ =>
    let more ← (← IO.getStdin).read 4096
    runLive o { m with input := ⟨m.input.unread ++ more.toList, !more.isEmpty⟩ }
  | .error fault m' => return (.error fault, ← settle m')

def execute (source : Source) (o : Options) (arguments : List String) : IO UInt32 := do
  let text ← match source with
    | .inline text => pure (.ok text)
    | .file name => do
      let content ← readProgram name
      pure (source.load fun _ => content)
  match source, text with
  | .file name, .error fault => IO.eprint (cannotRead name fault); return 1
  | _, .error fault => IO.eprint fault.message; return 1
  | _, .ok text =>
    let seed := o.seed.getD (← IO.rand 0 0x7FFFFFFFFFFFFFFF)
    let m := Machine.load (.ofSource text) arguments ⟨[], true⟩ .empty (.ofSeed seed) ""
    let (result, last) ← runLive o m
    if o.dump then IO.eprint last.dump
    (← IO.getStdout).flush
    let (code, line) := o.verdict result
    IO.eprint line
    return code.toUInt32

end Gridwalk.CommandLine

def main (words : List String) : IO UInt32 := do
  match Gridwalk.CommandLine.parse? words with
  | none => IO.eprint Gridwalk.CommandLine.usageText; return 1
  | some .version => IO.print Gridwalk.CommandLine.versionText; return 0
  | some (.execute source o arguments) => Gridwalk.CommandLine.execute source o arguments
