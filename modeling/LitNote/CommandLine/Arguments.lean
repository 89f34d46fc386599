import LitNote.Number.Integer

/-!
Arguments of the command line and the commands that they ask for.  Options may stand anywhere among
the arguments of a command; after two dashes nothing is an option.
-/

namespace LitNote.CommandLine

inductive Command where
  | render (template : Text) (data : Option Text) (asKey asArray : Bool)
  | key (data : Text) (template : Option Text) (minLength : Option Int) (settings : Option Text)
  | normalize (literal : Text)
  | explain (template : Text) (data : Option Text)
  | note (data : Text) (settings : Option Text) (attachments links : List Text)
deriving Repr, DecidableEq, Inhabited

def Command.paths : Command → List Text
  | .render _ data _ _ => data.toList
  | .key data _ _ settings => data :: settings.toList
  | .normalize _ => []
  | .explain _ data => data.toList
  | .note data settings _ _ => data :: settings.toList

inductive Request where
  | help
  | run (command : Command)
  | misuse
deriving Repr, DecidableEq, Inhabited

inductive Opt where
  | help
  | data
  | asKey
  | asArray
  | template
  | minLength
  | settings
  | attachment
  | link
deriving Repr, DecidableEq, Inhabited

namespace Opt

def takesValue : Opt → Bool
  | help => false
  | asKey => false
  | asArray => false
  | _ => true

end Opt

abbrev Spellings := List (String × Opt)

def dataOption : Spellings := [("--data", .data), ("-d", .data)]

def settingsOption : Spellings := [("--config", .settings), ("-c", .settings)]

inductive Name where
  | render
  | key
  | normalize
  | explain
  | note
deriving Repr, DecidableEq, Inhabited

namespace Name

def names : List (String × Name) :=
  [("render", render), ("citekey", key), ("normalize", normalize), ("explain", explain),
    ("note", note)]

def ofText? (s : Text) : Option Name := (names.find? (·.1.toList == s)).map (·.2)

def spellings : Name → Spellings
  | render => dataOption ++ [("--citekey", .asKey), ("--yaml-array", .asArray)]
  | key => settingsOption ++ [("--template", .template), ("-t", .template),
      ("--min-length", .minLength)]
  | normalize => []
  | explain => dataOption
  | note => settingsOption ++ [("--attachment", .attachment), ("-a", .attachment),
      ("--link", .link), ("-l", .link)]

end Name

abbrev Given := List (Opt × Text)

def isOption (arg : Text) : Bool := arg.head? == some '-' && 1 < arg.length

def find? (known : Spellings) (s : Text) : Option Opt := (known.find? (·.1.toList == s)).map (·.2)

def readLetters (known : Spellings) : Text → Option (Given × Option Opt)
  | [] => some ([], none)
  | c :: rest =>
    match find? known ['-', c] with
    | none => none
    | some o =>
      if o.takesValue then
        if rest.isEmpty then some ([], some o) else some ([(o, rest)], none)
      else (readLetters known rest).map fun (given, pending) => ((o, []) :: given, pending)

def isLong (arg : Text) : Bool := ['-', '-'].isPrefixOf arg

def readLong (o : Opt) (value : Option Text) : Option (Given × Option Opt) :=
  match o.takesValue, value with
  | true, some v => some ([(o, v)], none)
  | true, none => some ([], some o)
  | false, none => some ([(o, [])], none)
  | false, some _ => none

def readOption (known : Spellings) (arg : Text) : Option (Given × Option Opt) :=
  if isLong arg then
    let (name, value) := Text.cutAt '=' arg
    (find? known name).bind (readLong · value)
  else readLetters known (arg.drop 1)

structure Parts where
  given : Given
  others : List Text
deriving Repr, Inhabited

def Parts.add (given : Given) (p : Parts) : Parts := { p with given := given ++ p.given }

def readArguments (known : Spellings) : List Text → Option Parts
  | [] => some ⟨[], []⟩
  | arg :: args =>
    if arg = ['-', '-'] then some ⟨[], args⟩
    else if isOption arg then
      match readOption known arg, args with
      | none, _ => none
      | some (given, none), args => (readArguments known args).map (Parts.add given)
      | some (given, some o), value :: args =>
        (readArguments known args).map (Parts.add (given ++ [(o, value)]))
      | some (_, some _), [] => none
    else (readArguments known args).map fun p => { p with others := arg :: p.others }

namespace Given

def values (given : Given) (o : Opt) : List Text :=
  (given.filter (·.1 = o)).map (·.2)

/-- Of an option that comes again, the last value counts. -/
def last? (given : Given) (o : Opt) : Option Text := (values given o).getLast?

def has (given : Given) (o : Opt) : Bool := given.any (·.1 = o)

end Given

def integer? (given : Given) (o : Opt) : Option (Option Int) :=
  match Given.last? given o with
  | none => some none
  | some s => match Integer.read s with
    | .ok n => some (some n)
    | .error _ => none

def build (name : Name) (arg : Text) (given : Given) : Request :=
  match name with
  | .render =>
    .run (.render arg (Given.last? given .data) (Given.has given .asKey) (Given.has given .asArray))
  | .key =>
    match integer? given .minLength with
    | some n =>
      .run (.key arg (Given.last? given .template) n (Given.last? given .settings))
    | none => .misuse
  | .normalize => .run (.normalize arg)
  | .explain => .run (.explain arg (Given.last? given .data))
  | .note =>
    .run (.note arg (Given.last? given .settings) (Given.values given .attachment)
      (Given.values given .link))

def helpOption : Spellings := [("--help", .help)]

def readCommand (name : Name) (args : List Text) : Request :=
  match readArguments (helpOption ++ name.spellings) args with
  | none => .misuse
  | some parts =>
    if Given.has parts.given .help then .help
    else match parts.others with
      | [arg] => build name arg parts.given
      | _ => .misuse

def readLeading (help : Bool) : List Text → Option (Bool × List Text)
  | [] => some (help, [])
  | arg :: args =>
    if arg = ['-', '-'] then some (help, args)
    else if isOption arg then
      if arg = "--help".toList then readLeading true args else none
    else some (help, arg :: args)

def Request.ofArguments (args : List Text) : Request :=
  match readLeading false args with
  | none => .misuse
  | some (true, _) => .help
  | some (false, []) => .misuse
  | some (false, name :: args) =>
    match Name.ofText? name with
    | some n => readCommand n args
    | none => .misuse

end LitNote.CommandLine
