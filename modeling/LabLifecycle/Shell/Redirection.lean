import LabLifecycle.Shell.Expansion

/-!
# Redirections

Redirections are expanded first and carried out then, one after the other. What the
descriptors were before is kept aside and can be brought back.
-/
namespace LabLifecycle.Shell

/-- A redirection that is ready to be carried out: a file that is opened, a descriptor that is
copied or closed, or a text that can be read. -/
inductive Opening where
  | file (descriptor : Nat) (kind : RedirectKind) (path : Raw)
  | copy (descriptor source : Nat)
  | close (descriptor : Nat)
  | text (descriptor : Nat) (content : Raw)
  deriving DecidableEq, Repr

/-- The descriptor that a redirection changes. -/
def Opening.descriptor : Opening → Nat
  | file d _ _ | copy d _ | close d | text d _ => d

/-- Make a redirection ready. -/
def readyRedirect (run : Substituter) : Redirect → Step Opening
  | .document d number => do
    let word := ((← get).documents.lookup number).getD []
    return .text d (wholeText (← expandPieces run false .script word))
  | .file d .copy target => do
    match ← expandText run target with
    | ['-'] => return .close d
    | [c] =>
      if c.isDigit then return .copy d (c.toNat - '0'.toNat) else badNumber
    | _ => badNumber
  | .file d kind target => do return .file d kind (← expandText run target)
where
  /-- Refuse what is no descriptor, at the line that reading has come to. -/
  badNumber : Step Opening := do
    modify fun s => { s with line := s.readLine }
    Step.refuse "Syntax error: Bad fd number"

/-- How the shell words that a file cannot be used in some way. -/
def fileReason (missing : String) : FileError → String
  | .notFound | .notDirectory => missing
  | e => e.reason

/-- Open a file in some way. -/
def openFile (path : Raw) (mode : OpenMode) : Step Nat := do
  match ← Step.request (.openFile path mode) with
  | .ok d => return d
  | .error e =>
    let name := String.ofList path
    if mode = .read then Step.refuse ("cannot open " ++ name ++ ": " ++ fileReason "No such file" e)
    else Step.refuse ("cannot create " ++ name ++ ": " ++ fileReason "Directory nonexistent" e)

/-- Open a file that is not to be overwritten. -/
def openCarefully (path : Raw) : Step Nat := do
  if !(← get).has 'C' then openFile path .write
  else
    match ← Step.request (.info path true) with
    | .ok i => openFile path (if i.kind == .file then .fresh else .write)
    | .error _ => openFile path .fresh

/-- A descriptor from which a text can be read. A long text is written by a process of its
own. -/
def openText (content : Raw) : Step Nat := do
  let (source, drain) ← Step.request .pipe
  if content.length ≤ 4096 then Step.tell drain content
  else
    let writer : Action Nat := do
      Action.request (.close source)
      Action.request (.dispose 13 .usual)
      let _ ← Action.write drain content
      return 0
    let _ ← Step.act (Action.fork writer.task)
  Step.request (.close drain)
  return source

/-- Keep aside what a descriptor is, once for a set of redirections. -/
def saveDescriptor (d : Nat) (isNew : Bool) : Step Unit := do
  let s ← get
  match s.redirections with
  | [] => return ()
  | frame :: rest =>
    if frame.any (·.1 == d) then return ()
    else
      let kept ← if isNew then pure none else Step.request (.keep d)
      if !isNew then Step.request (.close d)
      set { s with redirections := ((d, kept) :: frame) :: rest }

/-- Carry out a redirection. With `saving` the descriptor is kept aside. -/
def redirect (saving : Bool) (o : Opening) : Step Unit := do
  let d := o.descriptor
  let save (isNew : Bool) : Step Unit := if saving then saveDescriptor d isNew else return ()
  let opened (source : Nat) : Step Unit := do
    save (source == d)
    if source != d then
      let _ ← Step.request (.copy source d)
      Step.request (.close source)
  match o with
  | .close _ =>
    save false
    Step.request (.close d)
  | .copy _ source =>
    if source != d then
      save false
      match ← Step.request (.copy source d) with
      | .ok _ => return ()
      | .error e => Step.refuse (toString source ++ ": " ++ e.reason)
  | .text _ content => opened (← openText content)
  | .file _ kind path =>
    match kind with
    | .write => opened (← openCarefully path)
    | .clobber => opened (← openFile path .write)
    | .append => opened (← openFile path .append)
    | .update => opened (← openFile path .update)
    | _ => opened (← openFile path .read)

/-- Carry out redirections that can be undone. The flag tells whether that worked. -/
def redirectSafely (openings : List Opening) : Step Bool := do
  if openings.isEmpty then return true
  modify fun s => { s with redirections := [] :: s.redirections }
  Step.guarded (openings.forM (redirect true))

/-- Bring back what a descriptor was. -/
def restoreDescriptor (saved : SavedDescriptor) : Step Unit := do
  match saved.2 with
  | none => Step.request (.close saved.1)
  | some kept =>
    let _ ← Step.request (.copy kept saved.1)
    Step.request (.close kept)

/-- Undo the innermost redirections, or forget what was before them. -/
def popRedirects (forget : Bool) : Step Unit := do
  let s ← get
  match s.redirections with
  | [] => return ()
  | frame :: rest =>
    set { s with redirections := rest }
    if forget then
      (frame.filterMap (·.2)).forM fun kept => Step.request (.close kept)
    else frame.forM restoreDescriptor

/-- Undo redirections down to a number of sets of them. -/
def unwindRedirects (depth : Nat) : Step Unit := do
  let frames := (← get).redirections.length
  (List.range (frames - depth)).forM fun _ => popRedirects false

end LabLifecycle.Shell
