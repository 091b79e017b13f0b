/-
# Dispatching records

Records wait in a queue until a worker hands them to a sink, one at a time and in the order in which
they were accepted. A full queue refuses records and never delays the caller. The sink writes a
record, fails on it, or keeps it until some later time; while it keeps one, the worker waits.

The parts of a dispatcher's history are separate steps: accepting a record, starting the worker,
letting it work until it must wait, waiting for the queue to drain, and closing. A close that others
interfere with is not one step; its parts are, and they are the ones that `close` is made of.

Left out is a sink that is called off or calls itself off while nobody closes the dispatcher: the
worker would end at once, with the record neither written nor failed.
-/

import Clearance.Drawn
import Clearance.Settings.Number
import Clearance.Trace

namespace Clearance

/-- What a sink does with a record. -/
inductive SinkReply where
  | written
  | failed (message : String)
  | held
deriving DecidableEq

/-- Something that writes records and has a state. -/
abbrev Sink (ρ σ : Type) := ρ → σ → SinkReply × List TraceEntry × σ

/-- Where the worker of a dispatcher is. -/
inductive Worker (ρ : Type) where
  | absent
  | waiting
  /-- The sink holds a record. -/
  | busy (record : ρ)

/-- A queue of records with its worker, and the counts of what became of them. -/
structure Dispatcher (ρ : Type) where
  capacity : Number
  shutdownTimeout : Span
  queue : Option (List ρ) := none
  worker : Worker ρ := .absent
  submitted : Nat := 0
  written : Nat := 0
  failed : Nat := 0
  dropped : Nat := 0

namespace Dispatcher

variable {ρ σ : Type}

/-- Whether there is a worker. -/
def isRunning (d : Dispatcher ρ) : Bool :=
  match d.worker with
  | .absent => false
  | _ => true

/-- The records in the queue. -/
def queued (d : Dispatcher ρ) : List ρ := d.queue.getD []

/-- The number of records in the queue. -/
def pending (d : Dispatcher ρ) : Nat := d.queued.length

/-- Whether the queue takes no more. A capacity of zero or less is no limit. -/
def isFull (d : Dispatcher ρ) : Bool :=
  !d.capacity.isAtMost 0 && d.capacity.isReachedBy d.pending

/-- Make a queue if there is none. -/
def open_ (d : Dispatcher ρ) : Dispatcher ρ := { d with queue := some d.queued }

/-- Start the worker if there is none. -/
def start (d : Dispatcher ρ) : Dispatcher ρ :=
  if d.isRunning then d else { d.open_ with worker := .waiting }

/-- An entry of the dispatcher's trace. -/
def entry (level : TraceLevel) (message : String) : TraceEntry := ⟨.audit, level, message⟩

/-- Accept a record, or refuse it because the queue is full. -/
def submit (d : Dispatcher ρ) (record : ρ) : Bool × Dispatcher ρ × List TraceEntry :=
  let d := d.start
  if d.isFull then
    (false, { d with dropped := d.dropped + 1 },
      [entry .warning s!"Audit queue full, dropping access request record {Drawn.id}"])
  else
    (true, { d with queue := some (d.queued ++ [record]), submitted := d.submitted + 1 }, [])

/-- Refuse a record because there is nothing that a worker could run on. -/
def refuse (d : Dispatcher ρ) : Bool × Dispatcher ρ × List TraceEntry :=
  (false, { d.open_ with dropped := d.dropped + 1 },
    [entry .warning
      (s!"Audit dispatcher unavailable, dropping record {Drawn.id}: " ++ "no running event loop")])

/-- The outcome of handing one record to the sink. -/
def settle (d : Dispatcher ρ) (record : ρ) : SinkReply → Dispatcher ρ × List TraceEntry
  | .written => ({ d with worker := .waiting, written := d.written + 1 }, [])
  | .failed message =>
    ({ d with worker := .waiting, failed := d.failed + 1 },
      [entry .error s!"Failed to record access request {Drawn.id}: {message}"])
  | .held => ({ d with worker := .busy record }, [])

/-- Hand records to the sink until it holds one or none is left. -/
def drain (sink : Sink ρ σ) (d : Dispatcher ρ) (world : σ) :
    List ρ → Dispatcher ρ × σ × List TraceEntry
  | [] => ({ d with queue := some [] }, world, [])
  | record :: rest =>
    let (reply, noted, world) := sink record world
    let (d, entries) := d.settle record reply
    match reply with
    | .held => ({ d with queue := some rest }, world, noted ++ entries)
    | _ =>
      let (d, world, more) := drain sink d world rest
      (d, world, noted ++ entries ++ more)

/-- Let the worker work until it must wait. A record that the sink holds is tried again first. -/
def work (sink : Sink ρ σ) (d : Dispatcher ρ) (world : σ) :
    Dispatcher ρ × σ × List TraceEntry :=
  match d.worker with
  | .absent => (d, world, [])
  | .waiting => drain sink d world d.queued
  | .busy record => drain sink d world (record :: d.queued)

/-- Whether every accepted record has been dealt with. -/
def isDrained (d : Dispatcher ρ) : Bool :=
  d.pending == 0 && match d.worker with
    | .busy _ => false
    | _ => true

/-- Wait until the queue is drained, as long as a time allows. A time that is not positive is over at
once, but the worker gets to work meanwhile. -/
def flush (sink : Sink ρ σ) (timeout : Option Span) (d : Dispatcher ρ) (world : σ) :
    Bool × Dispatcher ρ × σ × List TraceEntry :=
  if !d.isRunning then (true, d, world, [])
  else
    let (d, world, entries) := d.work sink world
    ((!timeout.any Span.isOver) && d.isDrained, d, world, entries)

/-- How many records are lost when the wait for the queue is over, as far as they are counted: those
that are still in the queue, if it could not be drained. -/
def lossReport (d : Dispatcher ρ) (isDrained : Bool) : Option Nat :=
  if isDrained then none else some d.pending

/-- What is said of records that were not written in time. -/
def lossEntry (timeout : Span) (lost : Nat) : TraceEntry :=
  let limit := Decimal.fixed 1 timeout.toFloat
  entry .warning s!"Audit queue not drained within {limit}s, {lost} records lost"

/-- The worker ends, and with it what it had at the sink. -/
def stop (d : Dispatcher ρ) : Dispatcher ρ := { d with worker := .absent }

/-- The queue goes, and with it what is left there. -/
def forget (d : Dispatcher ρ) : Dispatcher ρ := { d with worker := .absent, queue := none }

/-- Drain the queue as long as the time for it allows, then stop the worker. What is left is lost.
Nothing else happens meanwhile. -/
def close (sink : Sink ρ σ) (d : Dispatcher ρ) (world : σ) :
    Dispatcher ρ × σ × List TraceEntry :=
  if !d.isRunning then (d, world, [])
  else
    let (isDrained, d, world, entries) := d.flush sink (some d.shutdownTimeout) world
    let loss := (d.lossReport isDrained).map (lossEntry d.shutdownTimeout)
    (d.stop.forget, world, entries ++ loss.toList)

/-- The counts of a dispatcher. -/
def stats (d : Dispatcher ρ) : Value :=
  .ofFields [("submitted", .int d.submitted), ("written", .int d.written),
    ("failed", .int d.failed), ("dropped", .int d.dropped), ("pending", .int d.pending)]

end Dispatcher

end Clearance
