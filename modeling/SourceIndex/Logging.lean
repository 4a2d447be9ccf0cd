import SourceIndex.FileStore
import SourceIndex.Logging.Line
import SourceIndex.Logging.Template
import SourceIndex.Logging.Threshold
import SourceIndex.Settings
import SourceIndex.Text.Utf8
import SourceIndex.Value.Conversion

/-! # Logging

Logging goes to the console, to a file or nowhere.  Two sources feed it: loggers of this
library, which write events with fields, and plain loggers of other libraries, which write
texts with placeholders.  What is written to the console cannot be seen from here. -/
set_option autoImplicit false
namespace SourceIndex

inductive LogSink where
  | nowhere
  | console (threshold : Threshold) (layout : LogLayout)
  | file (place : Place) (layout : LogLayout)
  deriving DecidableEq, Repr

structure Logging where
  /-- Below this number the loggers of this library are silent; nothing was set at first. -/
  silentBelow : Option Int := none
  threshold : Threshold := .number 30
  sink : Option LogSink := none
  /-- The files that were written, the latest first. -/
  written : List (Place × List LogLine) := []

structure LogSetup where
  level : Value := .null
  enableConsole : Value := .bool true
  consoleLevel : Value := .null
  jsonOutput : Value := .null

namespace Logging

def knownThresholds : List Int := [50, 40, 30, 20, 10, 0]

def silence (logging : Logging) (threshold : Threshold) : Except Failure Logging :=
  if knownThresholds.contains threshold.toInt then
    .ok { logging with silentBelow := some threshold.toInt }
  else .error (.missingEntry threshold.toValue.shown)

def layoutOf (settings : Settings) (jsonOutput : Value) : LogLayout :=
  let asObject :=
    match jsonOutput with
    | .null => settings.logJson
    | v => v.isTrue
  if asObject then .object else .console

def configure (logging : Logging) (settings : Settings) (setup : LogSetup) :
    Except Failure Unit × Logging :=
  match Threshold.ofValue settings.logLevel setup.level with
  | .error failure => (.error failure, logging)
  | .ok threshold =>
    match logging.silence threshold with
    | .error failure => (.error failure, logging)
    | .ok silenced =>
      if setup.enableConsole.isTrue then
        let own : Except Failure Threshold :=
          match setup.consoleLevel with
          | .null => .ok threshold
          | v => Threshold.ofValue settings.logLevel v
        match own with
        | .error failure => (.error failure, silenced)
        | .ok own =>
          (.ok (), { silenced with
            threshold, sink := some (.console own (layoutOf settings setup.jsonOutput)) })
      else (.ok (), { silenced with threshold, sink := some .nowhere })

def writeFile (logging : Logging) (place : Place) (lines : List LogLine) : Logging :=
  { logging with
    written := (place, lines) :: logging.written.filter fun file => file.1 != place }

/-- Log to a file, which is emptied. -/
def redirect (logging : Logging) (files : FileStore) (settings : Settings) (path : Path)
    (setup : LogSetup) : Except Failure Unit × Logging × FileStore :=
  match Threshold.ofValue settings.logLevel setup.level with
  | .error failure => (.error failure, logging, files)
  | .ok threshold =>
    match logging.silence threshold with
    | .error failure => (.error failure, logging, files)
    | .ok silenced =>
      match files.ensureDirectory path.parent with
      | .error cause => (.error (.fileSystem cause), silenced, files)
      | .ok made =>
        match made.create path with
        | .error cause => (.error (.fileSystem cause), silenced, made)
        | .ok (place, opened) =>
          let sink := LogSink.file place (layoutOf settings setup.jsonOutput)
          (.ok (), { silenced.writeFile place [] with threshold, sink := some sink }, opened)

def deliver (logging : Logging) (entry : LogEntry) : Logging :=
  match logging.sink with
  | some (.file place layout) =>
    let before := ((logging.written.find? fun file => file.1 == place).map Prod.snd).getD []
    logging.writeFile place (before ++ entry.lines layout)
  | _ => logging

def methodLevel? (method : String) : Option (Int × String) :=
  match method with
  | "debug" => some (10, "debug")
  | "info" => some (20, "info")
  | "msg" => some (20, "info")
  | "warning" => some (30, "warning")
  | "warn" => some (30, "warning")
  | "error" => some (40, "error")
  | "exception" => some (40, "error")
  | "critical" => some (50, "critical")
  | "fatal" => some (50, "critical")
  | _ => none

/-- The name of a logger; one without a name is the root. -/
def loggerName (name : Option String) : String := orElseText name "root"

def eventOf (template : Value) (values : List Value) : Except Failure Value :=
  match template, values with
  | v, [] => .ok v
  | .text s, values => (Template.fill s values).map .text
  | _, _ => .error .badType

/-- Write an event with fields by a logger of this library.  The event is not given by a field
once more. -/
def log (logging : Logging) (logger : Option String) (method : String) (template : Value)
    (values : List Value) (fields : Entries) : Except Failure Unit × Logging :=
  match methodLevel? method with
  | none => (.error .badAttribute, logging)
  | some (number, level) =>
    if (Value.lookup "event" fields).isSome then (.error .badType, logging)
    else if number < logging.silentBelow.getD 0 then (.ok (), logging)
    else
      match eventOf template values with
      | .error failure => (.error failure, logging)
      | .ok event =>
        if logging.silentBelow.isSome ∧ logging.threshold.toInt ≤ number then
          (.ok (), logging.deliver ⟨event, level, loggerName logger, fields⟩)
        else (.ok (), logging)

def plainText (template : Value) (values : List Value) : Except Failure String :=
  match values with
  | [] => .ok template.plain
  | [.table (entry :: entries)] => Template.fillEntries template.plain (entry :: entries)
  | values => Template.fill template.plain values

/-- Write a text by a plain logger.  A text that cannot be filled is left out. -/
def logPlain (logging : Logging) (logger : Option String) (method : String) (template : Value)
    (values : List Value) : Except Failure Unit × Logging :=
  match methodLevel? method with
  | none => (.error .badAttribute, logging)
  | some (number, level) =>
    if number < logging.threshold.toInt then (.ok (), logging)
    else
      match plainText template values with
      | .error _ => (.ok (), logging)
      | .ok text => (.ok (), logging.deliver ⟨.text text, level, loggerName logger, []⟩)

def read (logging : Logging) (files : FileStore) (path : Path) : Except Failure (List LogLine) :=
  match files.resolve path with
  | .error astray => .error (.fileSystem (astray.error path))
  | .ok place =>
    match files.at? place, logging.written.find? fun file => file.1 == place with
    | some (.bytes _), some file => .ok file.2
    | some (.bytes bytes), none =>
      .ok ((Text.splitLines (Utf8.decode bytes)).map fun line =>
        .text (String.ofList (Text.trimRight Text.isBlank line)))
    | some .directory, _ => .error (.fileSystem (.isADirectory path.text))
    | some (.dataset _), _ => .ok []
    | none, _ => .error (.fileSystem (.notFound path.text))

end Logging

end SourceIndex
