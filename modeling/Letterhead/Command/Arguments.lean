/-!
# The command line

* `Command` — what is asked for, with the options of rendering;
* `Command.ofArguments` — the command that arguments ask for;
* `UsageError` — why they ask for none.

An option is written `--name value` or `--name=value`. Values that look like options need the
second form. Contexts and fonts may be given several times, any other option once.
-/

namespace Letterhead

/-! ### Commands -/

/-- The formats of output. -/
inductive OutputFormat where
  | text
  | json
deriving DecidableEq, Repr

/-- The options of rendering that were given. -/
structure RenderOptions where
  template : Option String := none
  contexts : List String := []
  output : Option String := none
  format : Option OutputFormat := none
  withoutMargins : Bool := false
  page : Option String := none
  fonts : List String := []
  store : Option String := none
deriving DecidableEq, Repr

/-- What can be asked for. -/
inductive Command where
  /-- Render the template in a file. -/
  | render (template : String) (options : RenderOptions)
  /-- List the kinds of dynamic block. -/
  | blocks
deriving DecidableEq, Repr

/-- The options of rendering by name. -/
inductive RenderOption where
  | template
  | context
  | output
  | format
  | noHeaderFooter
  | page
  | font
  | store
deriving DecidableEq, Repr

/-- Why arguments ask for no command. -/
inductive UsageError where
  /-- They ask how commands are written. -/
  | help
  /-- They ask for the program's version. -/
  | version
  | noCommand
  | unexpected (argument : String)
  | noValue (option : RenderOption)
  | surplusValue (option : RenderOption)
  | repeated (option : RenderOption)
  | badValue (option : RenderOption) (value : String)
  | required (option : RenderOption)
deriving DecidableEq, Repr

/-! ### Names -/

namespace RenderOption

/-- Every option. -/
def all : List RenderOption :=
  [.template, .context, .output, .format, .noHeaderFooter, .page, .font, .store]

/-- The long name of an option. -/
def name : RenderOption → String
  | .template => "template"
  | .context => "context"
  | .output => "output"
  | .format => "format"
  | .noHeaderFooter => "no-header-footer"
  | .page => "page"
  | .font => "font"
  | .store => "store"

/-- The option of a long name. -/
def ofName? (name : String) : Option RenderOption :=
  all.find? (·.name == name)

/-- Whether an option has a value. -/
def hasValue : RenderOption → Bool
  | .noHeaderFooter => false
  | _ => true

end RenderOption

/-- The name and the version of the program. -/
def versionText : String :=
  "carta 0.1.0\n"

/-- How commands are written. -/
def usageText : String :=
  "usage: carta render --template FILE [--context FILE]... [-o FILE] [--format text|json]\n" ++
  "         [--no-header-footer] [--page a4|letter] [--font FAMILY=FILE]... [--store DIR]\n" ++
  "       carta blocks\n"

/-- The text of an error. -/
def UsageError.message : UsageError → String
  | .help => usageText
  | .version => versionText
  | .noCommand => usageText
  | .unexpected argument => "unexpected argument '" ++ argument ++ "'\n"
  | .noValue option => "--" ++ option.name ++ " needs a value\n"
  | .surplusValue option => "--" ++ option.name ++ " takes no value\n"
  | .repeated option => "--" ++ option.name ++ " is given more than once\n"
  | .badValue option value => "'" ++ value ++ "' is no value for --" ++ option.name ++ "\n"
  | .required option => "--" ++ option.name ++ " is missing\n"

/-- Whether a text about the program is asked for, which is no mistake. -/
def UsageError.isQuestion : UsageError → Bool
  | .help => true
  | .version => true
  | _ => false

/-! ### Setting options -/

/-- A value for an option that may be given once. -/
def once {α : Type} (option : RenderOption) (present : Option α) (value : α) :
    Except UsageError (Option α) :=
  match present with
  | none => .ok (some value)
  | some _ => .error (.repeated option)

/-- A path, which is not empty. -/
def pathValue (option : RenderOption) (value : String) : Except UsageError String :=
  if value.isEmpty then .error (.badValue option value) else .ok value

/-- A format by its name. -/
def formatValue (value : String) : Except UsageError OutputFormat :=
  match value with
  | "text" => .ok .text
  | "json" => .ok .json
  | _ => .error (.badValue .format value)

/-- The options with one more. -/
def RenderOptions.set (o : RenderOptions) (option : RenderOption) (value : String) :
    Except UsageError RenderOptions := do
  match option with
  | .template => return { o with template := ← once option o.template (← pathValue option value) }
  | .context => return { o with contexts := o.contexts ++ [← pathValue option value] }
  | .output => return { o with output := ← once option o.output (← pathValue option value) }
  | .format => return { o with format := ← once option o.format (← formatValue value) }
  | .noHeaderFooter =>
    if o.withoutMargins then throw (.repeated option) else return { o with withoutMargins := true }
  | .page => return { o with page := ← once option o.page value }
  | .font => return { o with fonts := o.fonts ++ [value] }
  | .store => return { o with store := ← once option o.store (← pathValue option value) }

/-! ### Reading arguments -/

/-- A text cut at its first equals sign. -/
def splitAtEquals (cs : List Char) : List Char × Option (List Char) :=
  match cs.dropWhile (· != '=') with
  | [] => (cs, none)
  | _ :: value => (cs.takeWhile (· != '='), some value)

/-- The option that an argument names, with the value that is attached to it. -/
def optionOf? (argument : String) : Option (RenderOption × Option String) :=
  match argument.toList with
  | '-' :: '-' :: rest =>
    let (name, value) := splitAtEquals rest
    (RenderOption.ofName? (String.ofList name)).map fun option => (option, value.map String.ofList)
  | ['-', 'o'] => some (.output, none)
  | '-' :: 'o' :: '=' :: value => some (.output, some (String.ofList value))
  | '-' :: 'o' :: value => some (.output, some (String.ofList value))
  | _ => none

/-- Whether an argument asks for help. -/
def asksForHelp (argument : String) : Bool :=
  argument == "--help" || argument.startsWith "-h"

/-- Whether an argument in place of a command asks for the version. -/
def asksForVersion (argument : String) : Bool :=
  argument == "--version" || argument.startsWith "-V"

/-- Whether an argument looks like an option. A single hyphen does not. -/
def looksLikeOption (argument : String) : Bool :=
  argument.startsWith "-" && argument != "-"

/-- The options that arguments give, added to those before them. -/
def readOptions (o : RenderOptions) : List String → Except UsageError RenderOptions
  | [] => .ok o
  | argument :: rest =>
    if argument == "--" then
      match rest with
      | [] => .ok o
      | next :: _ => .error (.unexpected next)
    else if asksForHelp argument then .error .help
    else
      match optionOf? argument with
      | none => .error (.unexpected argument)
      | some (option, some value) =>
        if option.hasValue then do readOptions (← o.set option value) rest
        else .error (.surplusValue option)
      | some (option, none) =>
        if option.hasValue then
          match rest with
          | [] => .error (.noValue option)
          | value :: rest =>
            if looksLikeOption value then .error (.noValue option)
            else do readOptions (← o.set option value) rest
        else do readOptions (← o.set option "") rest

/-- A command without options. -/
def readNothing : List String → Except UsageError Unit
  | [] => .ok ()
  | ["--"] => .ok ()
  | argument :: _ => .error (if asksForHelp argument then .help else .unexpected argument)

/-- Whether arguments after the word for help name at most one command. -/
def isHelpTopic : List String → Bool
  | [] => true
  | ["render"] => true
  | ["blocks"] => true
  | ["help"] => true
  | _ => false

/-- The command that arguments ask for. -/
def Command.ofArguments (arguments : List String) : Except UsageError Command := do
  match arguments with
  | [] => throw .noCommand
  | "render" :: rest =>
    let options ← readOptions {} rest
    match options.template with
    | some template => return .render template options
    | none => throw (.required .template)
  | "blocks" :: rest =>
    readNothing rest
    return .blocks
  | "help" :: rest => throw (if isHelpTopic rest then .help else .noCommand)
  | argument :: _ =>
    if asksForHelp argument then throw .help
    else if asksForVersion argument then throw .version
    else throw (.unexpected argument)

end Letterhead
