import LabLifecycle.Shell.State

/-!
# Jobs

The processes that a shell starts, and waiting for them. What is known of the end of a process
is kept until somebody has asked for it.
-/
namespace LabLifecycle.Shell

/-! ### Signals -/

/-- The names of signals, from the first one on. -/
def signalNames : List String :=
  ["HUP", "INT", "QUIT", "ILL", "TRAP", "ABRT", "BUS", "FPE", "KILL", "USR1", "SEGV", "USR2",
    "PIPE", "ALRM", "TERM", "16", "CHLD", "CONT", "STOP", "TSTP", "TTIN", "TTOU", "URG", "XCPU",
    "XFSZ", "VTALRM", "PROF", "WINCH", "IO", "PWR", "SYS", "32", "33", "RTMIN", "RTMIN+1",
    "RTMIN+2", "RTMIN+3", "RTMIN+4", "RTMIN+5", "RTMIN+6", "RTMIN+7", "RTMIN+8", "RTMIN+9",
    "RTMIN+10", "RTMIN+11", "RTMIN+12", "RTMIN+13", "RTMIN+14", "RTMIN+15", "RTMAX-14",
    "RTMAX-13", "RTMAX-12", "RTMAX-11", "RTMAX-10", "RTMAX-9", "RTMAX-8", "RTMAX-7", "RTMAX-6",
    "RTMAX-5", "RTMAX-4", "RTMAX-3", "RTMAX-2", "RTMAX-1", "RTMAX"]

/-- The name of a signal; the signal without a number is the end of the shell. -/
def signalName (n : Nat) : String := ("EXIT" :: signalNames).getD n (toString n)

/-- The number of a signal, given by number or name. -/
def signal? (s : Raw) : Option Nat :=
  if !s.isEmpty && s.all Char.isDigit then
    let n := Raw.digitsValue s
    if n ≤ 64 then some n else none
  else
    let name := String.ofList (s.map Char.toUpper)
    ("EXIT" :: signalNames).findIdx? (· == name)

/-- What is said about a process that a signal has ended. -/
def signalTitle (n : Nat) : String :=
  ["Hangup", "Interrupt", "Quit", "Illegal instruction", "Trace/breakpoint trap", "Aborted",
    "Bus error", "Floating point exception", "Killed", "User defined signal 1",
    "Segmentation fault", "User defined signal 2", "Broken pipe", "Alarm clock", "Terminated",
    "Stack fault", "Child exited", "Continued", "Stopped (signal)", "Stopped",
    "Stopped (tty input)", "Stopped (tty output)", "Urgent I/O condition",
    "CPU time limit exceeded", "File size limit exceeded", "Virtual timer expired",
    "Profiling timer expired", "Window changed", "I/O possible", "Power failure",
    "Bad system call"].getD (n - 1) ("Real-time signal " ++ toString (n - 34))

/-! ### Lists of jobs -/

namespace Job

/-- Whether all processes of a job have ended. -/
def isDone (j : Job) : Bool := j.processes.all (·.2.isSome)

/-- The status of a job: that of its last process. -/
def status (j : Job) : Nat :=
  match j.processes.getLast? with
  | some (_, some e) => e.status
  | _ => 0

/-- The number of a job's last process. -/
def last (j : Job) : Nat := (j.processes.getLast?.map (·.1)).getD 0

/-- The job when one of its processes has ended. -/
def noteEnd (j : Job) (process : Nat) (e : Exit) : Job :=
  { j with processes := j.processes.map fun p => if p.1 = process then (p.1, some e) else p }

end Job

/-- The lowest place for a new job: one that is not taken, or the place of a job whose end
was asked for. -/
def freePlace (jobs : List (Nat × Job)) : Nat :=
  let isFree (n : Nat) : Bool :=
    match jobs.lookup n with
    | some j => j.heard && j.isDone
    | none => true
  ((List.range (jobs.length + 1)).map (· + 1)).find? isFree |>.getD 1

/-- The jobs without the one in the place that a new job takes. -/
def makeRoom (jobs : List (Nat × Job)) : List (Nat × Job) :=
  jobs.filter (·.1 != freePlace jobs)

namespace Step

/-- Take note of the end of a process. -/
def noteEnd (process : Nat) (e : Exit) : Step Unit :=
  modify fun s => { s with jobs := s.jobs.map fun (n, j) => (n, j.noteEnd process e) }

/-- Remember processes that run by themselves. -/
def addJob (processes : List Nat) : Step Unit :=
  modify fun s =>
    { s with jobs := (freePlace s.jobs, ⟨processes.map fun p => (p, none), false⟩) ::
        makeRoom s.jobs }

/-- Say how a process ended that a signal has ended, except for some signals. -/
def tellSignal : Exit → Step Unit
  | .killed n => if n = 2 || n = 13 then return () else tell 2 ((signalTitle n ++ "\n").toList)
  | .code _ => return ()

/-- Wait for the end of processes, all of which were just started. Yields the status of the
last one. They take the place of a job for as long as they run. -/
def awaitAll (processes : List Nat) : Step Nat := do
  modify fun s => { s with jobs := makeRoom s.jobs }
  let j : Job := ⟨processes.map fun p => (p, none), true⟩
  loop (fun j => do
    if j.isDone then return .inr j.status
    else
      match ← request (.await false) with
      | .ended process e =>
        if processes.contains process then tellSignal e
        noteEnd process e
        return .inl (j.noteEnd process e)
      | _ => return .inr j.status) j

/-- Take note of the ends of processes that have come already. -/
def noteEnds : Step Unit :=
  loop (fun () => do
    match ← request .reap with
    | some (process, e) =>
      noteEnd process e
      return .inl ()
    | none => return .inr ()) ()

/-- Take note of signals that have come already. -/
def noteSignals : Step Unit := do
  let arrived ← request .tick
  if !arrived.isEmpty then modify fun s => { s with arrived := s.arrived ++ arrived }

/-- Wait until a condition on the jobs holds, or no process is left, or a caught signal
comes. Yields the signal's number then. Ends of the given processes are told. -/
def awaitJobs (enough : State → Bool) (told : List Nat) : Step (Option Nat) :=
  loop (fun () => do
    let s ← get
    if enough s then return .inr none
    else
      match s.arrived.head? with
      | some signal => return .inr (some signal)
      | none =>
        match ← request (.await true) with
        | .ended process e =>
          if told.contains process then tellSignal e
          noteEnd process e
          return .inl ()
        | .nobody => return .inr none
        | .interrupted =>
          noteSignals
          return .inl ()) ()

/-- The job that a text names: by its place, or the current or the previous one. -/
def job (name : Raw) : Step (Nat × Job) := do
  let s ← get
  let missing (what : String) : Step (Nat × Job) := refuse ("No " ++ what)
  let current (skip : Nat) (what : String) : Step (Nat × Job) :=
    match s.jobs.drop skip with
    | j :: _ => return j
    | [] => missing what
  match name with
  | ['%'] | ['%', '%'] | ['%', '+'] => current 0 "current job"
  | ['%', '-'] => current 1 "previous job"
  | '%' :: rest =>
    let found :=
      if rest.all Char.isDigit then s.jobs.find? (·.1 == Raw.digitsValue rest) else none
    match found with
    | some j => return j
    | none => missing ("such job: " ++ String.ofList name)
  | _ => missing ("such job: " ++ String.ofList name)

/-- The listing of a job: its place, whether it is the current one, and how it is. -/
def jobLine (rank : Nat) (place : Nat) (j : Job) : String :=
  let mark := if rank = 0 then "+" else if rank = 1 then "-" else " "
  let state := match j.isDone, j.processes.getLast? with
    | true, some (_, some (.code 0)) => "Done"
    | true, some (_, some (.code n)) => "Done(" ++ toString n ++ ")"
    | true, some (_, some (.killed n)) => signalTitle n
    | _, _ => "Running"
  let head := "[" ++ toString place ++ "] " ++ mark ++ " " ++ state
  let bars := String.join (j.processes.tail.map fun _ => " | ")
  head ++ String.ofList (List.replicate (33 - head.length) ' ') ++ bars ++ "\n"

end Step
end LabLifecycle.Shell
