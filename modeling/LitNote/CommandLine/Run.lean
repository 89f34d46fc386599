import LitNote.CommandLine.Arguments
import LitNote.CommandLine.Files
import LitNote.FrontMatter.Preview
import LitNote.Note.Basic
import LitNote.Note.Sample
import LitNote.Settings.File

/-!
Commands and what they show.
-/

namespace LitNote.CommandLine

inductive Shown where
  | line (s : Text)
  | marked (s : Text)
  | text (s : Text)
  | panel (title s : Text)
  | code (s : Text)
deriving Repr, DecidableEq, Inhabited

inductive Stop where
  | complaint (message : Text)
  | failure (f : Failure)
deriving Repr, DecidableEq, Inhabited

structure World where
  look : Text → Entry
  now : Moment

abbrev Run (α : Type) := ExceptT Stop (StateM Draws) α

def markedAs (style : String) (s : Text) : Text :=
  ("[" ++ style ++ "]").toList ++ s ++ ("[/" ++ style ++ "]").toList

def complain {α : Type} (message : Text) : Run α := throw (.complaint (markedAs "red" message))

def failing {α : Type} (x : Except Failure α) : Run α :=
  match x with
  | .ok a => return a
  | .error f => throw (.failure f)

def drawing {α : Type} (x : Drawing α) : Run α := ExceptT.mk fun d =>
  match x.run d with
  | (.ok a, d) => (.ok a, d)
  | (.error f, d) => (.error (.failure f), d)

def onlyItem : Value → Value
  | .list [v] => v
  | v => v

def readJson (path content : Text) : Run Value := do
  let content := Text.unifyLineEnds content
  match Json.read content with
  | .ok v => return v
  | .error f =>
    if f.cause = .tooDeep then throw (.failure .tooDeep)
    complain ("Invalid JSON in ".toList ++ shown path ++ ':' :: ' ' :: f.message content)

def readCitation (w : World) (path : Text) : Run Value := do
  match w.look path with
  | .nothing => complain ("Data file not found: ".toList ++ shown path)
  | .directory => throw (.failure (.isDirectory (shown path)))
  | .file content =>
    let v := onlyItem (← readJson path content)
    if v.isRecord then return v else complain "Expected a single CSL-JSON object.".toList

def settingsAt (w : World) (path : Text) : Except Failure Settings :=
  match w.look path with
  | .nothing => Settings.ofFile (shown path) none
  | .directory => .error (.isDirectory (shown path))
  | .file content => Settings.ofFile (shown path) (some content)

def readSettings (w : World) (path : Text) : Run Settings := do
  match settingsAt w path with
  | .ok s => return s
  | .error (.noSettingsFile path) => complain (Failure.message (.noSettingsFile path))
  | .error f => complain ("Config error: ".toList ++ f.message)

def templateVars (w : World) (data : Option Text) (forFrontMatter : Bool) : Run Value := do
  match data with
  | none => return .record (Note.sample forFrontMatter w.now)
  | some path => do
    let citation ← readCitation w path
    let contributors ← failing (Contributor.ofCitation citation)
    return .record (← failing (Note.templateVars citation contributors ⟨w.now, [], []⟩))

def tellsFailure (key : Text) : Bool := "error_".toList.isPrefixOf key

def keyOptions (base : Key.Options) (template : Option Text) (minLength : Option Int) :
    Key.Options :=
  ⟨(template.map .text).getD base.template, (minLength.map .int).getD base.minLength⟩

def runKey (w : World) (data : Text) (template : Option Text) (minLength : Option Int)
    (settings : Option Text) : Run (List Shown) := do
  let base ← match settings with
    | some path => Settings.key <$> readSettings w path
    | none => pure Key.Options.standard
  let options := (keyOptions base template minLength).merged
  let key ← drawing (Key.generate w.now.date (← readCitation w data) (.ok options))
  if tellsFailure key then complain ("Citekey generation failed: ".toList ++ key)
  return [.line key]

def isHidden (c : Char) : Bool := [7, 8, 11, 12, 13].contains c.toNat

def visible (s : Text) : Text := s.filter (!isHidden ·)

def runExplain (w : World) (template : Text) (data : Option Text) : Run (List Shown) := do
  let vars ← templateVars w data true
  let rendered ← drawing
    (Template.renderAs ⟨false, ArrayLiteral.isTemplate template⟩ template vars)
  let preview ← failing (FrontMatter.Preview.of template rendered)
  let yaml ← failing preview.text
  let panel := if rendered.isEmpty then "(empty)".toList else rendered
  return [.panel "Rendered".toList (visible panel), .code yaml,
    .marked (markedAs "dim" preview.explanation.toList)]

def runNote (w : World) (data : Text) (settings : Option Text) (attachments links : List Text) :
    Run (List Shown) := do
  let settings ← match settings with
    | some path => readSettings w path
    | none => pure Settings.builtIn
  let citation ← readCitation w data
  let note ← drawing (Note.compose citation settings none ⟨w.now, attachments, links⟩)
  return [.text (visible note.path), .code note.content]

def runCommand (w : World) : Command → Run (List Shown)
  | .render template data asKey asArray => do
    let vars ← templateVars w data asArray
    return [.line (← drawing (Template.renderAs ⟨asKey, asArray⟩ template vars))]
  | .key data template minLength settings => runKey w data template minLength settings
  | .normalize literal => do return [.line (← failing (ArrayLiteral.normalize literal))]
  | .explain template data => runExplain w template data
  | .note data settings attachments links => runNote w data settings attachments links

structure Outcome where
  exit : Nat
  shown : List Shown
  complaints : List Text
  failure : Option Failure
deriving Repr, Inhabited

def Outcome.quiet (exit : Nat) : Outcome := ⟨exit, [], [], none⟩

def Outcome.ofRun : Except Stop (List Shown) → Outcome
  | .ok shown => ⟨0, shown, [], none⟩
  | .error (.complaint message) => ⟨1, [], [message], none⟩
  | .error (.failure f) => ⟨1, [], [], some f⟩

def execute (w : World) (args : List Text) : Draws → Outcome × Draws := fun d =>
  match Request.ofArguments args with
  | .help => (.quiet 0, d)
  | .misuse => (.quiet 2, d)
  | .run command =>
    let (r, d) := (runCommand w command).run d
    (.ofRun r, d)

end LitNote.CommandLine
