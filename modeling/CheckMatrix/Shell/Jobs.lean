/-
Jobs of a shell.

A script that a shell leaves to go on by itself has a place in a table of jobs, which it keeps until
it is over and somebody has waited for it or was shown how it ended.  The places are counted from
one, and a new job takes the first one that it can have.  A script that the shell waits for has a
place too as long as it goes on, so it may push out one that is over.
-/
import CheckMatrix.Shell.Memory

namespace CheckMatrix.Shell

/-! ### Places -/

namespace Job

/-- The parts of a job that go on. -/
def running (job : Job) : List Nat :=
  (job.parts.filter (·.2.isNone)).map Prod.fst

/-- All parts of a job have ended. -/
def isOver (job : Job) : Bool :=
  job.running.isEmpty

/-- Nobody needs to know of a job any more. -/
def isSettled (job : Job) : Bool :=
  job.isOver && job.waited

/-- The number of a job, which is that of its last part. -/
def pid (job : Job) : Nat :=
  (job.parts.getLast?.map Prod.fst).getD 0

/-- The first place that a new job can have among others. -/
def freePlace (jobs : List Job) : Nat :=
  let places := (jobs.filter fun job => !job.isSettled).map Job.place
  (((List.range (places.length + 1)).map (· + 1)).find? fun n => !places.contains n).getD 1

/-- How a job ended, which is how its last part did, or that it goes on. -/
def described (job : Job) : String :=
  match if job.isOver then job.parts.getLast?.bind Prod.snd else none with
  | none => "Running"
  | some (.exited 0) => "Done"
  | some (.exited code) => "Done(" ++ toString code ++ ")"
  | some (.killed signal) => Signal.words signal

/-- A text and blanks behind it up to the column for commands, but one blank at least. -/
def padded (text : String) : String :=
  text ++ String.ofList (List.replicate (max 1 (33 - text.length)) ' ')

/-- What is shown of a job among all of them, of which the first one is marked and the one behind
it.  The numbers of its parts are shown on request. -/
def report (jobs : List Job) (showsPids : Bool) (job : Job) : String :=
  let mark := match jobs.findIdx? (·.place = job.place) with
    | some 0 => "+"
    | some 1 => "-"
    | _ => " "
  let label := "[" ++ toString job.place ++ "] " ++ mark ++ " "
  let numbers := job.parts.map fun part => toString part.1
  if showsPids then
    let indent := String.ofList (List.replicate label.length ' ')
    " |\n".intercalate (padded (label ++ numbers.headD "" ++ " " ++ job.described) ::
      numbers.tail.map fun number => padded (indent ++ number ++ " ")) ++ "\n"
  else
    padded (label ++ job.described) ++ String.join (numbers.tail.map fun _ => " | ") ++ "\n"

end Job

namespace State

/-- The state in which the first place for a job is free. -/
def withRoom (s : State) : State :=
  { s with jobs := s.jobs.filter (·.place ≠ Job.freePlace s.jobs) }

/-- The state with one more job, which has some parts. -/
def withJob (s : State) (pids : List Nat) : State :=
  let job : Job := ⟨Job.freePlace s.jobs, pids.map fun pid => (pid, none), false⟩
  { s with jobs := job :: s.withRoom.jobs, lastJob := pids.getLast? }

/-- The state in which somebody has waited for a job. -/
def settleJob (s : State) (place : Nat) : State :=
  { s with jobs := s.jobs.map fun job =>
      if job.place = place then { job with waited := true } else job }

/-- Takes over how parts of jobs ended that have ended by now. -/
def noticeJobs (s : State) : State :=
  let noticed (job : Job) : Job :=
    { job with parts := job.parts.map fun (pid, ended) => (pid, ended.or (s.world.ending? pid)) }
  let ended := (s.jobs.flatMap Job.running).filter fun pid => (s.world.ending? pid).isSome
  { s with jobs := s.jobs.map noticed, world := ended.foldl World.dismiss s.world }

end State

/-! ### Naming jobs -/

/-- The job that a word names. -/
def jobNamed (word : String) : Act Job := do
  let jobs := (← get).jobs
  let unknown := "No such job: " ++ word
  let found (job : Option Job) (reason : String) : Act Job :=
    match job with
    | some job => return job
    | none => giveUp reason
  match word.toList with
  | ['%'] => found jobs.head? "No current job"
  | ['%', '%'] => found jobs.head? "No current job"
  | ['%', '+'] => found jobs.head? "No current job"
  | ['%', '-'] => found jobs[1]? "No previous job"
  | ['%', '?'] =>
    if jobs.length > 1 then giveUp (word ++ ": ambiguous") else found jobs.head? unknown
  | '%' :: digits =>
    found ((Text.natOf? 10 digits).bind fun n => jobs.find? (·.place = n)) unknown
  | _ => giveUp unknown

/-! ### Commands -/

/-- Goes on with a job, which no shell can do that does not steer them. -/
def continueJob (args : List String) : Act Unit := do
  let (_, words) ← optionsOf [] args
  let _ ← jobNamed (words.headD "%%")
  giveUp ("job " ++ words.headD "(null)" ++ " not created under job control")

/-- Shows a job, which is forgotten then if it has ended. -/
def showJob (option : Option Char) (job : Job) : Act Unit := do
  let s ← get
  if option = some 'p' then say (toString ((job.parts.head?.map Prod.fst).getD 0) ++ "\n")
  else
    say (Job.report s.jobs (option = some 'l') job)
    if job.isOver then
      modify fun s => { s with jobs := s.jobs.filter (·.place ≠ job.place) }

/-- Shows jobs. -/
def showJobs (args : List String) : Act Unit := do
  let (options, words) ← optionsOf [('l', false), ('p', false)] args
  let option := options.getLast?.map Prod.fst
  if words.isEmpty then
    modify State.noticeJobs
    for job in (← get).jobs do
      showJob option job
  else
    for word in words do
      showJob option (← jobNamed word)
  setStatus 0

end CheckMatrix.Shell
