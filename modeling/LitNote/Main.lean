import Std.Time.Zoned
import LitNote.CommandLine.Run

/-!
The program: reads the files that a command names and the clock, and shows what the command shows.
-/

namespace LitNote.Main

open CommandLine

def lookAt (path : Text) : IO Entry := do
  match ← EIO.toBaseIO (IO.FS.readFile (String.ofList (shown path))) with
  | .ok content => return .file content.toList
  | .error (.noFileOrDirectory _ _ _) => return .nothing
  | .error _ => return .directory

def entriesOf (paths : List Text) : IO (Text → Entry) := do
  let entries ← paths.mapM fun path => do return (path, ← lookAt path)
  return fun path => ((entries.find? (·.1 = path)).map (·.2)).getD .nothing

def now : IO Moment := do
  let t ← Std.Time.PlainDateTime.now
  let date := Date.ofInts? t.date.year.toInt t.date.month.val t.date.day.val
  let time := TimeOfDay.of? t.time.hour.val.toNat t.time.minute.val.toNat t.time.second.val.toNat 0
  return ⟨date.getD default, time.getD .midnight, none⟩

def unmarked (s : Text) : Text :=
  ["[red]", "[/red]", "[dim]", "[/dim]"].foldl (fun s mark => Text.replaceAll mark.toList [] s) s

def display : Shown → IO Unit
  | .line s => IO.println (String.ofList s)
  | .marked s => IO.println (String.ofList (unmarked s))
  | .text s => IO.println (String.ofList s)
  | .panel title s => do
    IO.println (String.ofList title)
    IO.println (String.ofList s)
  | .code s => IO.println (String.ofList s)

def usage : String :=
  "Template and citekey engine for literature notes.\n\n" ++
  "  render TEMPLATE [-d FILE] [--citekey] [--yaml-array]\n" ++
  "  citekey FILE [-t TEMPLATE] [--min-length N] [-c FILE]\n" ++
  "  normalize TEXT\n" ++
  "  explain TEMPLATE [-d FILE]\n" ++
  "  note FILE [-c FILE] [-a PATH]... [-l PATH]..."

def report (o : Outcome) : IO UInt32 := do
  o.shown.forM display
  o.complaints.forM fun s => IO.eprintln (String.ofList (unmarked s))
  match o.failure with
  | some f => IO.eprintln (String.ofList f.message)
  | none => pure ()
  return o.exit.toUInt32

end LitNote.Main

open LitNote CommandLine in
def main (args : List String) : IO UInt32 := do
  let args := args.map String.toList
  match Request.ofArguments args with
  | .help => do
    IO.println Main.usage
    return 0
  | .misuse => do
    IO.eprintln Main.usage
    return 2
  | .run command => do
    let world : World := ⟨← Main.entriesOf command.paths, ← Main.now⟩
    let seed ← IO.rand 0 999999
    Main.report (execute world args ⟨seed⟩).1
