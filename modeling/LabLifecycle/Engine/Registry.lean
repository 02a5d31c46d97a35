import LabLifecycle.Engine.Commands
import LabLifecycle.Text.Quote

/-!
# The registry of apps

A registry knows apps by name, and which of them run by default and in which order. A name
that is not registered is left to a fallback, or stands for an app that is not available.
Registries are built step by step; a build fails if an app that was expected to run by
default was never registered as such.
-/
namespace LabLifecycle

/-- The usual start of the names of external commands. -/
def defaultCommandStart : String := "stagehand-app-"

/-- Apps by name, the names of the default ones in order, and what to do with others. -/
structure Registry where
  apps : SortedMap App
  defaultNames : List String
  fallback : Option (String → App)
  commandStart : String

namespace Registry

/-- The registered app of a name. -/
def get? (r : Registry) (name : String) : Option App := r.apps.get? name

/-- The app of a name: the registered one, or the fallback's. -/
def resolve (r : Registry) (name : String) : App :=
  match r.get? name with
  | some app => app
  | none =>
    match r.fallback with
    | some make => make name
    | none => App.missing name

/-- The default apps in order. -/
def defaults (r : Registry) : List App := r.defaultNames.filterMap r.get?

/-- Whether a name is a default app's. -/
def isDefault (r : Registry) (name : String) : Bool := r.defaultNames.contains name

/-- The names that are worth declaring in a scenario: registered apps that are not default
ones, and external commands that can be found. -/
def names (r : Registry) (finder : CommandFinder) : List String :=
  let registered := r.apps.keys.filter fun name => !r.isDefault name
  let found := finder.find r.commandStart
  (SortedMap.ofList ((registered ++ found).map fun name => (name, ()))).keys

/-- The number of registered apps. -/
def size (r : Registry) : Nat := r.apps.size

end Registry

/-- Why a registry cannot be built. -/
inductive BuildError where
  | missingDefaults (names : List String)
  deriving DecidableEq, Repr

/-- The wording of a build error. -/
def BuildError.message : BuildError → String
  | missingDefaults names =>
    "Missing default apps: " ++ quoteList names ++
      ". These apps were expected but not registered as defaults."

/-- A registry under construction. -/
structure RegistryBuilder where
  apps : SortedMap App := SortedMap.empty
  defaultNames : List String := []
  fallback : Option (String → App) := none
  commandStart : String := defaultCommandStart
  expected : Option (List String) := none

/-- A step in building a registry. -/
inductive BuildStep where
  | register (app : App)
  | registerDefault (app : App)
  | fallback (make : String → App)
  | externalCommands (host : CommandHost) (start : String)
  | expectDefaults (names : List String)

namespace RegistryBuilder

/-- Register an app under its name, in place of an earlier one. -/
def register (b : RegistryBuilder) (app : App) : RegistryBuilder :=
  { b with apps := b.apps.insert app.name app }

/-- Register an app and let it run by default, after those before it. -/
def registerDefault (b : RegistryBuilder) (app : App) : RegistryBuilder :=
  register { b with
    defaultNames :=
      if b.defaultNames.contains app.name then b.defaultNames
      else b.defaultNames ++ [app.name] } app

/-- Leave names that are not registered to a fallback. -/
def withFallback (b : RegistryBuilder) (make : String → App) : RegistryBuilder :=
  { b with fallback := some make }

/-- Leave names that are not registered to external commands. -/
def withExternalCommands (b : RegistryBuilder) (host : CommandHost) (start : String) :
    RegistryBuilder :=
  { b with commandStart := start }.withFallback fun name => (ExternalApp.mk name start host).app

/-- Expect some apps to run by default. -/
def expectDefaults (b : RegistryBuilder) (names : List String) : RegistryBuilder :=
  { b with expected := some names }

/-- Take a step. -/
def step (b : RegistryBuilder) : BuildStep → RegistryBuilder
  | .register app => b.register app
  | .registerDefault app => b.registerDefault app
  | .fallback make => b.withFallback make
  | .externalCommands host start => b.withExternalCommands host start
  | .expectDefaults names => b.expectDefaults names

/-- Take steps in order. -/
def run (b : RegistryBuilder) (steps : List BuildStep) : RegistryBuilder := steps.foldl step b

/-- The expected default apps that were not registered as such. -/
def missing (b : RegistryBuilder) : List String :=
  (b.expected.getD []).filter fun name => !b.defaultNames.contains name

/-- The finished registry. -/
def build (b : RegistryBuilder) : Except BuildError Registry :=
  if b.missing.isEmpty then
    .ok {
      apps := b.apps, defaultNames := b.defaultNames, fallback := b.fallback,
      commandStart := b.commandStart }
  else .error (.missingDefaults b.missing)

end RegistryBuilder

/-- Build a registry from scratch. -/
def Registry.ofSteps (steps : List BuildStep) : Except BuildError Registry :=
  (RegistryBuilder.run {} steps).build

end LabLifecycle
