import LabLifecycle.Engine.Registry
import LabLifecycle.Host.CommandSearch
import LabLifecycle.Toml.Document

/-!
# Engine settings

Settings come from a TOML document with five optional keys and no others. They say how
external commands are named and where they are looked for, how long a hook may take, whether
apps do dry runs, and which commands are default apps.
-/
namespace LabLifecycle

/-- The settings of the engine. -/
structure EngineConfig where
  commandStart : String := defaultCommandStart
  searchPath : Option (List String) := none
  hookTimeoutMs : Option Nat := none
  dryRun : Bool := false
  defaultApps : List String := []
  deriving DecidableEq, Repr, Inhabited

/-- Why settings cannot be used. -/
inductive ConfigError where
  | read (message : String)
  | malformed
  | unfit (mismatch : Mismatch)
  | emptyStart
  | defaultApp (app : String) (source : AppError)
  deriving DecidableEq, Repr

/-- The wording of what is wrong with the settings in a file. -/
def ConfigError.message (path : String) : ConfigError → String
  | read message => "reading config " ++ path ++ ": " ++ message
  | malformed => "parsing config: malformed document"
  | unfit m => "parsing config: " ++ m.message
  | emptyStart => "command_prefix must not be empty"
  | defaultApp app source => "initializing default app " ++ app ++ ": " ++ source.message

namespace EngineConfig

/-- The keys of a settings document. -/
def keys : List String :=
  ["command_prefix", "search_path", "hook_timeout_ms", "dry_run", "default_apps"]

/-- A value of some other kind than expected. -/
def mistyped {α : Type} (v : Toml.Value) (expected : String) : Except Mismatch α :=
  .error (.kind v.found expected)

/-- A text, under the name by which its absence is reported. -/
def text (expected : String) : Toml.Value → Except Mismatch String
  | .text s => .ok s
  | v => mistyped v expected

/-- A list of texts. -/
def texts (expected : String) : Toml.Value → Except Mismatch (List String)
  | .array items => items.mapM (text expected)
  | v => mistyped v "a sequence"

/-- A truth value. -/
def truth : Toml.Value → Except Mismatch Bool
  | .bool b => .ok b
  | v => mistyped v "a boolean"

/-- An integer that is not negative. -/
def natural : Toml.Value → Except Mismatch Nat
  | .int z => if 0 ≤ z then .ok z.toNat else .error (.range (.int z) "u64")
  | v => mistyped v "u64"

/-- The settings after one entry of a document. -/
def set (c : EngineConfig) (key : String) (v : Toml.Value) : Except Mismatch EngineConfig :=
  if key = "command_prefix" then return { c with commandStart := ← text "a string" v }
  else if key = "search_path" then return { c with searchPath := some (← texts "path string" v) }
  else if key = "hook_timeout_ms" then return { c with hookTimeoutMs := some (← natural v) }
  else if key = "dry_run" then return { c with dryRun := ← truth v }
  else if key = "default_apps" then return { c with defaultApps := ← texts "a string" v }
  else .error (.unknownField key keys)

/-- The settings after the entries of a document, in order. -/
def setAll : EngineConfig → Toml.Table → Except Mismatch EngineConfig
  | c, [] => .ok c
  | c, (key, v) :: rest => do
    let c ← c.set key v
    c.setAll rest

/-- The settings of a table. Without a fixed start every executable would be an app. -/
def ofTable (table : Toml.Table) : Except ConfigError EngineConfig :=
  match setAll {} table with
  | .error m => .error (.unfit m)
  | .ok c => if c.commandStart.isEmpty then .error .emptyStart else .ok c

/-- The settings of a document. -/
def parse (document : String) : Except ConfigError EngineConfig :=
  match Toml.read document with
  | none => .error .malformed
  | some table => ofTable table

/-- The settings in a file, of which the content was read or could not be. -/
def load (file : Except String Bytes) : Except ConfigError EngineConfig :=
  match file with
  | .error message => .error (.read message)
  | .ok content =>
    match Bytes.text? content with
    | none => .error (.read "stream did not contain valid UTF-8")
    | some document => parse document

/-- The time limit for hooks. -/
def hookTimeout (c : EngineConfig) : Option Duration := c.hookTimeoutMs.map .ofMillis

/-- The directories where commands are looked for: those of the settings, or else those in
the value of the search path variable. -/
def directories (c : EngineConfig) (searchPath : Option String) : List String :=
  c.searchPath.getD (searchPathOf searchPath)

/-- The external command of an app. -/
def external (c : EngineConfig) (host : CommandHost) (name : String) : ExternalApp :=
  ⟨name, c.commandStart, host⟩

/-- Register commands as default apps. Calls never tell default apps their options, so
they are told here. -/
def registerDefaults (c : EngineConfig) (host : CommandHost) :
    List String → RegistryBuilder → Surroundings →
      Except ConfigError (RegistryBuilder × Surroundings)
  | [], b, surroundings => .ok (b, surroundings)
  | name :: rest, b, surroundings =>
    let app := (c.external host name).app
    let outcome := app.init (Invocation.forApp name c.dryRun) surroundings
    match outcome.result with
    | .error e => .error (.defaultApp name e)
    | .ok _ => c.registerDefaults host rest (b.registerDefault app) outcome.surroundings

/-- The registry under construction that the settings describe: the default apps, and
external commands for all other names. -/
def registryBuilder (c : EngineConfig) (host : CommandHost) (surroundings : Surroundings) :
    Except ConfigError (RegistryBuilder × Surroundings) := do
  let (b, surroundings) ← c.registerDefaults host c.defaultApps {} surroundings
  return ((b.withExternalCommands host c.commandStart).expectDefaults c.defaultApps, surroundings)

end EngineConfig
end LabLifecycle
