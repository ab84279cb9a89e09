import EnumBindings.Command.Invocation
import EnumBindings.Duration
import EnumBindings.Generate
import EnumBindings.Path.Relative
import EnumBindings.Text.Visible

/-!
# Running commands

What each command does and says. Results go to standard output; status lines, the log and
explanations of failures go to standard error. With events, standard output holds nothing but
events, of which the last tells how the run ended. A path that goes into JSON has to be text; where
it is none the program breaks off without a word on standard output.
-/

namespace EnumBindings.Command

open EnumBindings.Files
open EnumBindings.Text

variable {m : Type → Type} [Monad m] [Disk m] [Terminal m]

/-- Writes on standard output. -/
def say (text : String) : Task m Unit := liftM (Terminal.print text : m Unit)

/-- Writes a status line. -/
def report (console : Console) (status : Status) (message : String) : Task m Unit :=
  liftM (Terminal.printError (console.statusText status message) : m Unit)

/-- Writes an event. -/
def announce (console : Console) (event : Json) : Task m Unit := say (console.eventText event)

/-- How a command ends that does not fail. -/
inductive Ending where
  | done
  /-- The program breaks off in the middle. -/
  | brokenOff
deriving Repr, DecidableEq

/-! ## Generating -/

/-- The event of an output with its path as text. -/
def outputEvent (o : OutputReport) (path : String) : Json :=
  .object
    [("reason", .string "output"),
     ("language", .string o.language.name),
     ("path", .string path),
     ("checksum", .string o.checksum),
     ("state", .string o.state.name)]

/-- The event of an output, if its path is text. -/
def outputEvent? (o : OutputReport) : Option Json := o.path.text?.map (outputEvent o)

/-- The event of a run that made every output. -/
def finishedEvent (r : GenerateReport) : Json :=
  .object
    [("reason", .string "generate-finished"),
     ("enums", .number r.enums),
     ("outputs", .number r.outputs.length)]

/-- The verb for what became of an output. -/
def statusOf : OutputState → Status
  | .written => .generated
  | .unchanged | .fresh => .fresh
  | .stale => .stale

/-- Tells about one output. Its event is made for people too, and without one nothing is told. -/
def tell (console : Console) (here : Path) (o : OutputReport) : Task m Ending := do
  match outputEvent? o with
  | none => return .brokenOff
  | some event =>
    announce console event
    report console (statusOf o.state)
      ((o.path.relativeTo here).shown ++ " (" ++ o.language.name ++ ", "
        ++ Sha256.short o.checksum ++ ")")
    return .done

/-- Tells about outputs in order, up to one of which nothing can be told. -/
def tellAll (console : Console) (here : Path) : List OutputReport → Task m Ending
  | [] => return .done
  | o :: rest => do
    match ← tell console here o with
    | .brokenOff => return .brokenOff
    | .done => tellAll console here rest

/-- The time between two moments in nanoseconds. -/
def between (start stop : Nat) : Duration :=
  ⟨(stop - start) / 1000000000, (stop - start) % 1000000000⟩

/-- What a run is asked for by settings and arguments; arguments count more. -/
def optionsOf (config : Config) (table : Option Path) (output : Option (Language × Path))
    (package : Option String) (check : Bool) : GenerateOptions :=
  { table := table <|> config.table
    header := ⟨config.license⟩
    outputs := match output with
      | some (language, path) => [⟨language, path, package⟩]
      | none => config.outputs
    check }

/-- Makes or checks all outputs. Gives the directory that paths are told from, and what was done. -/
def makeOutputs (console : Console) (config table : Option Path)
    (output : Option (Language × Path)) (package : Option String) (check : Bool) :
    Task m (Path × GenerateReport) := do
  let here ← Project.currentDirectory
  let project ← Project.choose config
  let options := optionsOf project.config table output package check
  if options.outputs.isEmpty then throw (.of (.complaint .noOutputsGiven))
  if options.check then
    report console .checking (toString options.outputs.length ++ " generated file(s)")
  return (here, ← Generate.run options)

/-- Tells what was done since a moment. Stale outputs are a failure. -/
def conclude (console : Console) (start : Nat) (here : Path) (result : GenerateReport) :
    Task m Ending := do
  if (← tellAll console here result.outputs) = .brokenOff then return .brokenOff
  if !result.isFresh then
    throw (.of (.complaint (.staleOutputs (result.stale.map fun o => o.path.relativeTo here))))
  announce console (finishedEvent result)
  let stop ← liftM (Terminal.now : m Nat)
  report console .finished
    (toString result.enums ++ " enum types into " ++ toString result.outputs.length
      ++ " file(s) in " ++ (between start stop).text)
  return .done

/-- Makes or checks all outputs and tells about it. -/
def generate (console : Console) (config table : Option Path) (output : Option (Language × Path))
    (package : Option String) (check : Bool) : Task m Ending := do
  let start ← liftM (Terminal.now : m Nat)
  let (here, result) ← makeOutputs console config table output package check
  conclude console start here result

/-! ## Showing the table -/

/-- A member for tools. -/
def memberJson (x : Member) : Json :=
  .object
    [("name", .string x.name),
     ("constant_name", .string x.constantName),
     ("external_name", .string x.externalName),
     ("value", .number x.value)]

/-- An enum type for tools. -/
def enumJson (e : EnumType) : Json :=
  .object
    [("name", .string e.name),
     ("repr", .string e.representation.name),
     ("preserve", .bool e.preserve),
     ("positional", .bool e.positional),
     ("members", .array (e.members.map memberJson))]

/-- An enum type for people: a title and its members in columns. -/
def enumLines (e : EnumType) : List String :=
  let traits := [e.representation.name, if e.isBitset then "bitset" else "sequential"]
    ++ (if e.preserve then ["preserved"] else [])
  let value (x : Member) : String := e.representation.literal x.value
  let nameWidth := widest (e.members.map fun x => x.name.utf8ByteSize)
  let valueWidth := widest (e.members.map fun x => (value x).utf8ByteSize)
  (e.name ++ " (" ++ ", ".intercalate traits ++ ")")
    :: e.members.map fun x =>
      "  " ++ alignLeft nameWidth x.name ++ "  " ++ alignRight valueWidth (value x) ++ "  "
        ++ x.externalName

/-- Enum types for people, a blank line between two of them. -/
def tableText (enums : List EnumType) : String :=
  "\n".intercalate (enums.map fun e => unlines (enumLines e))

/-- The enum types to show: all, or the one of a name. -/
def select (enums : List EnumType) : Option String → Except Failure (List EnumType)
  | none => .ok enums
  | some name =>
    match enums.find? (·.name == name) with
    | some e => .ok [e]
    | none => .error (.of (.complaint (.enumNotFound name)))

/-- Shows the table. -/
def showTable (name : Option String) (config table : Option Path) (json : Bool) :
    Task m Unit := do
  let project ← Project.choose config
  let loaded ← Generate.loadTable (table <|> project.config.table)
  let selected : Except Failure (List EnumType) := do
    let enums ← loaded.resolve.mapError fun error => Failure.of (.generate error)
    select enums name
  let enums ← ExceptT.mk (pure selected)
  if json then say (Json.pretty "" (.array (enums.map enumJson)) ++ "\n")
  else say (tableText enums)

/-! ## Listing build targets -/

/-- A target for tools, if the path of its library is text. -/
def targetJson? (layout : InstallLayout) (t : BuildTarget) : Option Json :=
  (layout.library t).text?.map fun library =>
    .object
      [("target", .string t.text),
       ("platform", .string t.platform.name),
       ("arch", .string t.architecture),
       ("library", .string library),
       ("host", .bool (t == BuildTarget.host))]

/-- All targets for tools, if their paths are text. -/
def targetsJson? (layout : InstallLayout) : Option Json := do
  let targets ← BuildTarget.all.mapM (targetJson? layout)
  let headers ← layout.publicHeaders.text?
  return .object
    [("host", .string BuildTarget.host.text),
     ("targets", .array targets),
     ("headers", .string headers)]

/-- All targets for people, with paths from a directory. -/
def targetLines (layout : InstallLayout) (here : Path) : List String :=
  let width := widest (BuildTarget.all.map fun t => t.text.utf8ByteSize)
  BuildTarget.all.map (fun t =>
      alignLeft width t.text ++ "  " ++ ((layout.library t).relativeTo here).shown
        ++ (if t == BuildTarget.host then "  (host)" else ""))
    ++ [alignLeft width "headers" ++ "  " ++ (layout.publicHeaders.relativeTo here).shown]

/-- Lists the targets. -/
def listTargets (config : Option Path) (json : Bool) : Task m Ending := do
  let here ← Project.currentDirectory
  let project ← Project.choose config
  let layout := project.config.layout (project.root.getD here)
  if json then
    match targetsJson? layout with
    | none => return .brokenOff
    | some targets => say (targets.sorted.pretty "" ++ "\n")
  else say (unlines (targetLines layout here))
  return .done

/-! ## Ending -/

/-- Does what is asked for. -/
def perform (console : Console) : Request → Task m Ending
  | .generate config table output package check =>
    generate console config table output package check
  | .table name config table json => do
    showTable name config table json
    return .done
  | .platforms config json => listTargets config json
  | .completions shell => do
    say (completionScript shell)
    return .done

/-- Whether characters stand side by side among others. -/
def occursIn (part : List Char) : List Char → Bool
  | [] => part.isEmpty
  | c :: rest => part.isPrefixOf (c :: rest) || occursIn part rest

/-- The explanation of a failure under its line. What the line says already is left out. -/
def explanation? (failure : Failure) : Option Diagnostic :=
  failure.diagnostic?.map fun d =>
    { d with
      message := failure.line
      context := d.context.filter fun text => !occursIn text.toList failure.line.toList }

/-- What a failure puts on standard error. -/
def failureText (console : Console) (failure : Failure) : String :=
  if console.json then ""
  else
    match explanation? failure with
    | some d => d.text console.color
    | none => "error: " ++ failure.line ++ "\n"

/-- Reports a failure. -/
def reportFailure (console : Console) (failure : Failure) : m Unit := do
  Terminal.print (console.errorEventText failure.line)
  Terminal.printError (failureText console failure)

/-- What the program breaks off with. -/
def brokenOffText : String := "path contains invalid UTF-8 characters\n"

/-- Whether a variable speaks against colors. -/
def refusesColor (environment : Environment) : Bool :=
  (environment.lookup "NO_COLOR").any (!·.isEmpty)

/-- How the log is written: in color, unless a variable speaks against it. -/
def logStyle (environment : Environment) (verbose : Bool) : LogStyle :=
  if !verbose then .off else if refusesColor environment then .plain else .colored

/-- The exit code of a command line that was read. -/
def exitCode : Except Failure Ending → UInt32
  | .ok .done => 0
  | .ok .brokenOff => 101
  | .error _ => 1

/-- Reports how a command ended. -/
def reportEnd (console : Console) : Except Failure Ending → m Unit
  | .ok .done => return ()
  | .ok .brokenOff => Terminal.printError brokenOffText
  | .error failure => reportFailure console failure

/-- Runs a command line that was read and gives the exit code. -/
def execute (environment : Environment) (call : Invocation) : m UInt32 := do
  Terminal.startLog (logStyle environment call.verbose)
  let console := Console.ofChoices call.quiet call.color call.json (← Terminal.isInteractive)
  let result ← (perform console call.request).run
  reportEnd console result
  return exitCode result

/-- Explains why a command line is refused. What could steer a terminal is left out unless a
person reads it. -/
def reportUsage (environment : Environment) (error : UsageError) : m Unit := do
  let colored := (← Terminal.isInteractive) && !refusesColor environment
  Terminal.printError (if colored then error.text else visible error.text)

/-- Runs a command line and gives the exit code. -/
def run (environment : Environment) (words : List ByteString) : m UInt32 := do
  match parse environment words with
  | .ok call => execute environment call
  | .error .help =>
    Terminal.print helpText
    return 0
  | .error .version =>
    Terminal.print versionText
    return 0
  | .error (.usage error) =>
    reportUsage environment error
    return 2

end EnumBindings.Command
