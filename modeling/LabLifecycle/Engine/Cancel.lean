/-!
# Cancellation

A channel connects one handle to any number of tokens. The handle can request
cancellation and can be dropped; once requested, cancellation stands. A request goes nowhere
if no token is left to hear of it.

A wait on a token goes on by single accesses to the channel, and anything can happen between
two of them. It looks at the value, and resolves if cancellation was requested; otherwise it
looks for news, and only if there are none for the handle. So a request right before the drop
is not missed. A wait is stranded for good if the handle was dropped without a request.
-/
namespace LabLifecycle

/-- What can happen to a cancel handle. -/
inductive HandleEvent where
  | cancel
  | drop
  deriving DecidableEq, Repr

/-- The state shared by a handle and its tokens. `version` counts the requests. -/
structure Channel where
  fired : Bool := false
  closed : Bool := false
  version : Nat := 0
  deriving DecidableEq, Repr, Inhabited

namespace Channel

/-- A channel whose handle does not exist. -/
def never : Channel := { closed := true }

/-- What an event does to a channel; nothing once the handle is dropped. -/
def react (c : Channel) : HandleEvent → Channel
  | .cancel => if c.closed then c else { c with fired := true, version := c.version + 1 }
  | .drop => { c with closed := true }

/-- No event takes a request back. -/
theorem fired_react {c : Channel} (h : c.fired = true) (e : HandleEvent) :
    (c.react e).fired = true := by
  cases e
  · simp only [react]; split <;> simp [h]
  · exact h

end Channel

/-- A wait for cancellation: it is about to look at the value of the channel, or to look for
anything newer than the version that it has seen, or it has come to its end. -/
inductive Waiter where
  | fresh
  | parked (seen : Nat)
  | stranded
  | resolved
  deriving DecidableEq, Repr

namespace Waiter

/-- Access the channel once. The version and whether there is a handle are read together. -/
def access (c : Channel) : Waiter → Waiter
  | fresh => if c.fired then resolved else parked c.version
  | parked seen =>
    if c.version ≠ seen then fresh else if c.closed then stranded else parked seen
  | w => w

/-- Go on with a wait until it rests, which takes three accesses at most. -/
def poll (c : Channel) (w : Waiter) : Waiter := ((w.access c).access c).access c

end Waiter

/-- A wait on a channel. -/
structure PendingWait where
  channel : Nat
  waiter : Waiter := .fresh
  deriving DecidableEq, Repr

/-- All channels made so far, the channel of the current handle and those of the handles kept
besides it, the channels of the current tokens, and the waits under way, each of which has a
token of its own. -/
structure CancelState where
  channels : List Channel := []
  handle : Option Nat := none
  kept : List Nat := []
  tokens : List Nat := []
  waits : List PendingWait := []
  deriving DecidableEq, Repr, Inhabited

/-- A step with handles and tokens. A new pair replaces the current handle, unless that is kept. -/
inductive CancelStep where
  | pair
  | never
  | clone (token : Nat)
  | cancel
  | dropHandle
  | keepHandle
  | useHandle (kept : Nat)
  | dropTokens
  | dropToken (token : Nat)
  | beginWait (token : Nat)
  | access (wait : Nat)
  | poll (wait : Nat)
  | dropWait (wait : Nat)
  deriving DecidableEq, Repr

namespace CancelState

/-- The channel of a number. -/
def channel (s : CancelState) (n : Nat) : Channel := s.channels.getD n Channel.never

/-- The channel of a token. -/
def tokenChannel (s : CancelState) (token : Nat) : Channel :=
  match s.tokens[token]? with
  | some n => s.channel n
  | none => Channel.never

/-- Whether there is still a token of a channel, in a wait or not. -/
def isHeard (s : CancelState) (n : Nat) : Bool :=
  s.tokens.contains n || s.waits.any (·.channel == n)

/-- Let an event happen to the current handle, if there is one. -/
def react (s : CancelState) (e : HandleEvent) : CancelState :=
  match s.handle with
  | some n => { s with channels := s.channels.modify n (·.react e) }
  | none => s

/-- Request cancellation with the current handle. -/
def cancel (s : CancelState) : CancelState :=
  if s.handle.any s.isHeard then s.react .cancel else s

/-- Drop the current handle. -/
def dropHandle (s : CancelState) : CancelState := { s.react .drop with handle := none }

/-- Keep the current handle for later. -/
def keepHandle (s : CancelState) : CancelState :=
  { s with handle := none, kept := s.handle.toList ++ s.kept }

/-- Take up a handle that was kept, and keep the current one. -/
def useHandle (s : CancelState) (kept : Nat) : CancelState :=
  match s.kept[kept]? with
  | some n => { s with handle := some n, kept := s.handle.toList ++ s.kept.eraseIdx kept }
  | none => s

/-- Make a channel, and a token of it. -/
def addChannel (s : CancelState) (c : Channel) : CancelState :=
  { s with channels := s.channels ++ [c], tokens := s.tokens ++ [s.channels.length] }

/-- Go on with a wait. -/
def proceed (s : CancelState) (wait : Nat) (go : Channel → Waiter → Waiter) : CancelState :=
  { s with waits := s.waits.modify wait fun w =>
      { w with waiter := go (s.channel w.channel) w.waiter } }

/-- Take a step. -/
def step (s : CancelState) : CancelStep → CancelState
  | .pair => { s.dropHandle.addChannel {} with handle := some s.channels.length }
  | .never => s.addChannel Channel.never
  | .clone token => { s with tokens := s.tokens ++ s.tokens[token]?.toList }
  | .cancel => s.cancel
  | .dropHandle => s.dropHandle
  | .keepHandle => s.keepHandle
  | .useHandle kept => s.useHandle kept
  | .dropTokens => { s with tokens := [] }
  | .dropToken token => { s with tokens := s.tokens.eraseIdx token }
  | .beginWait token =>
    { s with waits := s.waits ++ s.tokens[token]?.toList.map fun n => { channel := n } }
  | .access wait => s.proceed wait Waiter.access
  | .poll wait => s.proceed wait Waiter.poll
  | .dropWait wait => { s with waits := s.waits.eraseIdx wait }

/-- Take steps in order. -/
def run (s : CancelState) (steps : List CancelStep) : CancelState := steps.foldl step s

/-- Whether cancellation of a token was requested. -/
def isCancelled (s : CancelState) (token : Nat) : Bool := (s.tokenChannel token).fired

/-- Begin a wait on a token, take steps while it is under way, and tell whether it has
resolved. -/
def waitDuring (s : CancelState) (token : Nat) (during : List CancelStep) :
    CancelState × Bool :=
  let wait := s.waits.length
  let s := s.run ([.beginWait token, .poll wait] ++ during ++ [.poll wait])
  (s, s.waits[wait]?.any (·.waiter == .resolved))

end CancelState
end LabLifecycle
