import Switchboard.Tools.Octets
import Switchboard.Tools.Shell.Grammar

/-!
The state of a shell while it runs a script: parameters, functions, open files, and what was written.

A run changes the state and may stop: at the end of a loop or a function, at the end of the script, or
because of an error. What was done before it stopped stays done.
-/
namespace Switchboard.Tools.Shell

/-- A variable. It may be known without a value. -/
structure Variable where
  value : Option Octets
  isExported : Bool
  isFixed : Bool

/-- What an open file reads from or writes to. Pieces that were written come last first. -/
inductive Stream where
  | sink (written : List Octets)
  | source (left : Octets)
  | file (name : Octets)
  | nothing

/-- A command that ran beside the others: its status, when it ends, and what it wrote to which
streams. -/
structure Job where
  status : Int
  finished : Float
  written : List (Nat × List Octets)

/-- The state of a shell. -/
structure State where
  name : Octets
  parameters : List Octets
  bindings : List (Octets × Variable)
  functions : List (Octets × Command)
  /-- The letters of the options that are set. -/
  options : List Char
  status : Int
  /-- The line of the command that runs, and the command of the shell on whose behalf it does. -/
  line : Nat
  asker : Option Octets
  /-- The variables to be restored behind the function, if one runs. -/
  locals : Option (List (Octets × Option Variable))
  loops : Nat
  calls : Nat
  /-- Whether a failure is looked at, so that it does not end the script. -/
  isTested : Bool
  /-- The streams that numbers are open for. -/
  numbers : List (Nat × Nat)
  streams : Array Stream
  files : List (Octets × Octets)
  directory : Octets
  /-- What is to be run when a signal comes; the number zero is the end of the script. -/
  traps : List (Int × Octets)
  /-- The signals that have come and wait for what is to be run. -/
  pending : List Int
  /-- The status of the last substitution in a word. -/
  substituted : Option Int
  seconds : Float
  jobs : List Job

/-- Why a run stops before its end. -/
inductive Stop where
  | leaveLoops (count : Nat)
  | nextRound (count : Nat)
  | leaveFunction
  | exit
  | fault
  | signal (n : Int)
  | endless

/-- A step of a run. -/
abbrev Run := ExceptT Stop (StateM State)

namespace State

/-- The number that the process of a shell goes by. -/
def processNumber : Octets := ['1']

/-- The value of a variable. -/
def valueOf? (s : State) (name : Octets) : Option Octets :=
  (s.bindings.lookup name).bind Variable.value

/-- Whether an option is set. -/
def has (s : State) (option : Char) : Bool := option ∈ s.options

/-- The characters at which words are cut. -/
def separators (s : State) : Octets := (s.valueOf? "IFS".toList).getD [' ', '\t', '\n']

/-- The stream behind a number, and where it is kept. -/
def stream? (s : State) (number : Nat) : Option (Nat × Stream) := do
  let place ← s.numbers.lookup number
  let stream ← s.streams[place]?
  some (place, stream)

/-- Sets a value under a key. -/
def put {β : Type} (key : Octets) (value : β) : List (Octets × β) → List (Octets × β)
  | [] => [(key, value)]
  | (k, v) :: rest => if k = key then (k, value) :: rest else (k, v) :: put key value rest

/-- Writes to the stream behind a number; nothing is written behind a number that is not open. -/
def write (number : Nat) (data : Octets) (s : State) : State :=
  match s.stream? number with
  | some (place, .sink written) =>
    { s with streams := s.streams.set! place (.sink (data :: written)) }
  | some (_, .file name) =>
    { s with files := put name (((s.files.lookup name).getD []) ++ data) s.files }
  | _ => s

/-- What a sink holds. -/
def written (s : State) (place : Nat) : Octets :=
  match s.streams[place]? with
  | some (.sink written) => written.reverse.flatten
  | _ => []

/-- Opens a new stream for a number. -/
def connect (number : Nat) (stream : Stream) (s : State) : State :=
  { s with
    numbers := (number, s.streams.size) :: s.numbers.filter (·.1 != number)
    streams := s.streams.push stream }

/-- Lets a job write what it wrote. -/
def Job.settle (s : State) (j : Job) : State :=
  { s with
    seconds := if s.seconds < j.finished then j.finished else s.seconds
    streams := j.written.foldl (fun streams (place, data) =>
      match streams[place]? with
      | some (.sink before) => streams.set! place (.sink (data ++ before))
      | _ => streams) s.streams }

/-- Waits for all jobs; they write in the order in which they end. -/
def settled (s : State) : State :=
  let inOrder := s.jobs.reverse.mergeSort fun a b => a.finished ≤ b.finished
  inOrder.foldl Job.settle { s with jobs := s.jobs.map fun j => { j with written := [] } }

/-- The start of a complaint: the names of the shell, the line and the command of the shell that
complains. -/
def complainant (s : State) : Octets :=
  s.name ++ ": ".toList ++ Octets.ofInt s.line ++ ": ".toList ++ (match s.asker with
    | some name => name ++ ": ".toList
    | none => [])

end State

namespace Run

/-- Writes to the stream behind a number. -/
def write (number : Nat) (data : Octets) : Run Unit := modify (State.write number data)

/-- Sets the status. -/
def setStatus (status : Int) : Run Unit := modify fun s => { s with status }

/-- Complains on a line of its own. -/
def complain (why : Octets) : Run Unit := do write 2 ((← get).complainant ++ why ++ ['\n'])

/-- Complains, and ends what runs with a status. -/
def fault {α : Type} (why : Octets) (status : Int) : Run α := do
  complain why
  setStatus status
  throw .fault

/-- Sets a variable. One that is fixed cannot be set. -/
def assign (name value : Octets) : Run Unit := do
  let s ← get
  match s.bindings.lookup name with
  | some v =>
    if v.isFixed then fault (name ++ ": is read only".toList) 2
    set { s with bindings := State.put name { v with value := some value } s.bindings }
  | none =>
    set { s with bindings := State.put name ⟨some value, s.has 'a', false⟩ s.bindings }

/-- What is left to be read behind a number. -/
def input (number : Nat) : Run Octets := do
  match (← get).stream? number with
  | some (_, .source left) => return left
  | some (_, .file name) => return ((← get).files.lookup name).getD []
  | _ => return []

/-- Says what is left to be read behind a number. -/
def setInput (number : Nat) (left : Octets) : Run Unit := do
  match (← get).stream? number with
  | some (place, .source _) =>
    modify fun s => { s with streams := s.streams.set! place (.source left) }
  | _ => pure ()

/-- A run whose stops are caught. -/
def caught {α : Type} (run : Run α) : Run (Except Stop α) :=
  fun s => let (result, s) := run s; (.ok result, s)

/-- Runs something on behalf of a command of the shell. -/
def onBehalf {α : Type} (asker : Octets) (run : Run α) : Run α := fun s =>
  let (result, t) := run { s with asker := some asker }
  (result, { t with asker := s.asker })

/-- Runs something in a copy of the shell. What it writes and how long it takes stays; the copy ends
with a status. -/
def apart (run : Run Unit) : Run Unit := do
  let outer ← get
  set { outer with traps := outer.traps.filter (·.2.isEmpty), loops := 0 }
  let result ← caught run
  let inner ← get
  set { outer with
    status := inner.status
    streams := inner.streams
    files := inner.files
    seconds := inner.seconds
    jobs := inner.jobs }
  match result with
  | .error (.signal n) => throw (.signal n)
  | .error .endless => throw .endless
  | _ => pure ()

/-- Runs something beside what follows: what it writes waits until it has ended. -/
def beside (run : Run Unit) : Run Unit := do
  let before ← get
  apart do
    modify (State.connect 0 (.source []))
    run
  let after ← get
  let count (streams : Array Stream) (place : Nat) : List Octets := match streams[place]? with
    | some (.sink written) => written
    | _ => []
  let places := List.range before.streams.size
  let written := places.map fun place =>
    let all := count after.streams place
    (place, all.take (all.length - (count before.streams place).length))
  let streams := places.foldl (fun streams place =>
    match before.streams[place]? with
    | some stream => streams.set! place stream
    | none => streams) after.streams
  set { after with
    status := 0
    streams
    seconds := before.seconds
    jobs := ⟨after.status, after.seconds, written⟩ :: after.jobs }

/-- What something writes in a copy of the shell. -/
def captured (run : Run Unit) : Run Octets := do
  let place := (← get).streams.size
  apart do
    modify (State.connect 1 (.sink []))
    run
  modify State.settled
  return (← get).written place

end Run

end Switchboard.Tools.Shell
