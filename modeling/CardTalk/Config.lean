/-
Configuration.

A configuration is a mapping laid over the built-in one, so that a file has to give only
what differs.  `Settings` is the part that running scripts depends on.
-/
import CardTalk.Data

namespace CardTalk.Config

/-- The built-in configuration. -/
def builtin : Table Data := [
  ("name", .value (.text "cardscript")),
  ("engine", .mapping [
    ("idle_interval", .value (.float 0.3)),
    ("serialize_events", .value (.logical true))]),
  ("scripting", .mapping [
    ("host_marker", .value (.text "-- @lua")),
    ("repeat_limit", .value (.int 9999)),
    ("ticks_per_second", .value (.int 60)),
    ("fetch_timeout", .value (.float 10.0))]),
  ("api", .mapping [
    ("enabled", .value (.logical false)),
    ("host", .value (.text "127.0.0.1")),
    ("port", .value (.int 8080))]),
  ("logging", .mapping [
    ("level", .value (.text "INFO"))])]

/-- The built-in configuration with `overrides` and then `entries` laid over it. -/
def load (overrides entries : Table Data) : Table Data :=
  Data.overlayEntries (Data.overlayEntries builtin overrides) entries

/-- The configuration of a file; `path` is named when it holds no mapping. -/
def ofFile (path : Text) (overrides : Table Data) (d : Data) : Except Fault (Table Data) := do
  return load overrides (← Data.ofFile "Config" path d)

/-- An entry of one of the configuration's sections; a section has to be a mapping. -/
def entry (config : Table Data) (group name : Text) : Except Fault Data :=
  match config.get? group with
  | some (.mapping entries) => .ok ((Table.get? entries name).getD .null)
  | some d => .error (.noEntries d.typeName)
  | none => .ok .null

/-- How much is logged. -/
def logLevel (config : Table Data) : Except Fault Data := entry config "logging" "level"

end CardTalk.Config

namespace CardTalk

/-- What running scripts depends on.  Numbers are kept as they are given: one of the wrong
type is a fault only where it is needed. -/
structure Settings where
  /-- The first line of a host-mode script; without one no script is. -/
  hostMarker : Option Text
  /-- How often a loop without a fixed count may run. -/
  repeatLimit : Data
  ticksPerSecond : Data
  /-- Whether events of one source wait for each other. -/
  serializeEvents : Except Fault Bool
  /-- The seconds between two idle ticks; none are sent if it is not positive. -/
  idleInterval : Except Fault Data
  /-- Whether the stack is to be served over a network as well. -/
  isServed : Except Fault Bool

/-- The settings that a configuration gives. -/
def Settings.ofConfig (config : Table Data) : Except Fault Settings := do
  let marker ← Config.entry config "scripting" "host_marker"
  return {
    hostMarker := marker.text?
    repeatLimit := ← Config.entry config "scripting" "repeat_limit"
    ticksPerSecond := ← Config.entry config "scripting" "ticks_per_second"
    serializeEvents := (Config.entry config "engine" "serialize_events").map fun d => !d.isBlank
    idleInterval := Config.entry config "engine" "idle_interval"
    isServed := (Config.entry config "api" "enabled").map fun d => !d.isBlank }

end CardTalk
