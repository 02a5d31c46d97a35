import LabLifecycle.Engine.App
import LabLifecycle.Engine.Trace

/-!
# Running hooks

A session is the state of one call: the scene, the clock, the cancel channel, what is going
to happen to the handle later on, and the trace so far. The clock stands still while a hook
acts and jumps to the next event while it waits.

A wait ends in the first of these that applies: its time is over already; the hook's time
is up already; the call is cancelled already; or whatever comes next on the clock, where of
two things at one moment the end of the wait comes before the hook's time limit, and that
before anything else.
-/
namespace LabLifecycle

/-- The state of a call. Times are in nanoseconds from its start. -/
structure Session where
  scene : Scene
  now : Nat := 0
  channel : Channel := Channel.never
  upcoming : Option (Nat × HandleEvent) := none
  trace : Trace := []

/-- The moment at which a hook's time is up, and the time it was given. -/
structure Deadline where
  limit : Duration
  time : Nat
  deriving DecidableEq, Repr

/-- How a wait ends. -/
inductive Wakeup where
  | woken
  | timedOut (limit : Duration)
  | interrupted
  | never
  deriving DecidableEq, Repr

/-- How a hook ends: with a result of its own or for lack of time, cut off by
cancellation, or not at all. -/
inductive HookEnd where
  | finished (result : HookResult)
  | interrupted
  | pending

namespace Session

/-- The session with an event added to its trace. -/
def emit (s : Session) (e : Event) : Session := { s with trace := s.trace ++ [e] }

/-- The session with its scene changed. -/
def act (s : Session) (change : Scene → Scene) : Session :=
  { s with scene := change s.scene }

/-- The session after something happened to the cancel handle. -/
def signal (s : Session) (e : HandleEvent) : Session :=
  { s with channel := s.channel.react e }

/-- The session at a later time. -/
def advance (s : Session) (time : Nat) : Session := { s with now := max s.now time }

/-- Let the wait run to its end or to the deadline. -/
def settle (s : Session) (deadline : Option Deadline) (wake : Option Nat) :
    Session × Wakeup :=
  match wake, deadline with
  | some w, some d =>
    if w ≤ d.time then (s.advance w, .woken) else (s.advance d.time, .timedOut d.limit)
  | some w, none => (s.advance w, .woken)
  | none, some d => (s.advance d.time, .timedOut d.limit)
  | none, none => (s, .never)

/-- Whether a moment comes before another one, if there is another one. -/
def precedes (time : Nat) : Option Nat → Bool
  | some other => time < other
  | none => true

/-- Wait until a moment, or for ever. -/
def suspend (s : Session) (deadline : Option Deadline) (wake : Option Nat) :
    Session × Wakeup :=
  if wake.any (· ≤ s.now) then (s, .woken)
  else match deadline.filter (·.time ≤ s.now) with
    | some d => (s, .timedOut d.limit)
    | none =>
      if s.channel.fired then (s, .interrupted)
      else match s.upcoming with
        | some (time, event) =>
          if precedes time wake && precedes time (deadline.map (·.time)) then
            let s := { (s.advance time).signal event with upcoming := none }
            if s.channel.fired then (s, .interrupted) else s.settle deadline wake
          else s.settle deadline wake
        | none => s.settle deadline wake

end Session

/-- Run a hook up to its end. -/
def Hook.run (deadline : Option Deadline) : Hook → Session → Session × HookEnd
  | finish result, s => (s, .finished result)
  | act change next, s => (next (change s.scene)).run deadline (s.act change)
  | signal event next, s => next.run deadline (s.signal event)
  | wait time next, s =>
    match s.suspend deadline (some (s.now + time.nanos)) with
    | (s, .woken) => next.run deadline s
    | (s, .timedOut limit) => (s, .finished (.error (.timedOut limit)))
    | (s, .interrupted) => (s, .interrupted)
    | (s, .never) => (s, .pending)
  | hang, s =>
    match s.suspend deadline none with
    | (s, .timedOut limit) => (s, .finished (.error (.timedOut limit)))
    | (s, .interrupted) => (s, .interrupted)
    | (s, _) => (s, .pending)

/-- Run a hook with a time limit that starts now. -/
def Session.runHook (s : Session) (limit : Option Duration) (hook : Hook) : Session × HookEnd :=
  hook.run (limit.map fun l => ⟨l, s.now + l.nanos⟩) s

end LabLifecycle
