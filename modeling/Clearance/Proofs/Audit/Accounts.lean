/-
# The accounts of a dispatcher

Beside a dispatcher a ledger is kept of what happens to it: how many records were submitted, which
of them were accepted, which reached the sink, which the sink is done with, and how many were lost.
In whatever order records are submitted, the worker is started, takes records and hears from the
sink, and the dispatcher is flushed and closed, its counters agree with the ledger: no record is
lost but in a close that does not wait until the queue is drained, none is written twice, and none
overtakes another.
-/

import Clearance.Audit.Dispatcher

namespace Clearance

variable {ρ σ : Type}

namespace Dispatcher

/-- The record that the sink holds, if it holds one. -/
def atSink (d : Dispatcher ρ) : List ρ :=
  match d.worker with
  | .busy record => [record]
  | _ => []

theorem worker_of_not_isRunning (d : Dispatcher ρ) (h : ¬d.isRunning) : d.worker = .absent := by
  simp only [isRunning] at h
  cases hworker : d.worker with
  | absent => rfl
  | waiting => simp [hworker] at h
  | busy record => simp [hworker] at h

theorem atSink_of_not_isRunning (d : Dispatcher ρ) (h : ¬d.isRunning) : d.atSink = [] := by
  rw [atSink, d.worker_of_not_isRunning h]

theorem isDrained_iff (d : Dispatcher ρ) : d.isDrained ↔ d.queued = [] ∧ d.atSink = [] := by
  simp only [isDrained, pending, atSink]
  cases d.worker <;> simp

theorem isRunning_start (d : Dispatcher ρ) : d.start.isRunning := by
  simp only [start]
  split
  · assumption
  · rfl

end Dispatcher

/-! ## Keeping a ledger -/

/-- What has happened to a dispatcher. -/
structure Ledger (ρ : Type) where
  /-- The number of records that were submitted. -/
  submits : Nat := 0
  /-- The records that were accepted, in this order. -/
  accepted : List ρ := []
  /-- The records that were handed to the sink, in this order. -/
  reached : List ρ := []
  /-- The records that the sink holds no longer: it has written them, has failed on them, or was cut
  off. -/
  left : List ρ := []
  /-- The number of records that were accepted and given up. -/
  lost : Nat := 0

namespace Ledger

/-- A record is submitted. -/
def submit (l : Ledger ρ) (record : ρ) (isAccepted : Bool) : Ledger ρ :=
  { l with
    submits := l.submits + 1
    accepted := if isAccepted then l.accepted ++ [record] else l.accepted }

/-- A record is handed to the sink. -/
def reach (l : Ledger ρ) (record : ρ) : Ledger ρ := { l with reached := l.reached ++ [record] }

/-- The sink tells what it has done with a record. -/
def reply (l : Ledger ρ) (record : ρ) : SinkReply → Ledger ρ
  | .held => l
  | _ => { l with left := l.left ++ [record] }

/-- Records are handed to the sink until it holds one. -/
def drain (sink : Sink ρ σ) (l : Ledger ρ) (world : σ) : List ρ → Ledger ρ
  | [] => l
  | record :: rest =>
    let (reply, _, world) := sink record world
    let l := (l.reach record).reply record reply
    match reply with
    | .held => l
    | _ => drain sink l world rest

/-- The worker works until it must wait. -/
def work (sink : Sink ρ σ) (l : Ledger ρ) (d : Dispatcher ρ) (world : σ) : Ledger ρ :=
  match d.worker with
  | .absent => l
  | .waiting => l.drain sink world d.queued
  | .busy record =>
    let (reply, _, world) := sink record world
    let l := l.reply record reply
    match reply with
    | .held => l
    | _ => l.drain sink world d.queued

/-- What a dispatcher still has is given up. -/
def giveUp (l : Ledger ρ) (d : Dispatcher ρ) : Ledger ρ :=
  { l with
    left := l.left ++ d.atSink
    lost := l.lost + (d.pending + d.atSink.length) }

/-- Nothing is given up of a dispatcher that has nothing. -/
theorem giveUp_of_drained (l : Ledger ρ) {d : Dispatcher ρ} (hqueued : d.queued = [])
    (hsink : d.atSink = []) : l.giveUp d = l := by
  simp [giveUp, Dispatcher.pending, hqueued, hsink]

theorem lost_drain (sink : Sink ρ σ) (l : Ledger ρ) (world : σ) (records : List ρ) :
    (l.drain sink world records).lost = l.lost := by
  induction records generalizing l world with
  | nil => rfl
  | cons record rest ih =>
      simp only [drain]
      rcases sink record world with ⟨reply, noted, world'⟩
      cases reply with
      | held => rfl
      | written => exact ih _ world'
      | failed message => exact ih _ world'

/-- The worker loses nothing. -/
theorem lost_work (sink : Sink ρ σ) (l : Ledger ρ) (d : Dispatcher ρ) (world : σ) :
    (l.work sink d world).lost = l.lost := by
  simp only [work]
  cases d.worker with
  | absent => rfl
  | waiting => exact l.lost_drain sink world _
  | busy record =>
      dsimp only
      rcases sink record world with ⟨reply, noted, world'⟩
      cases reply with
      | held => rfl
      | written => exact lost_drain sink _ world' _
      | failed message => exact lost_drain sink _ world' _

end Ledger

/-- A dispatcher with the ledger that is kept of it. -/
structure Scene (ρ : Type) where
  dispatcher : Dispatcher ρ
  ledger : Ledger ρ := {}

/-- What can happen to a dispatcher. The sink may be in any state whenever it is asked. -/
inductive Occurrence (ρ σ : Type) where
  | submit (record : ρ)
  /-- A record is submitted where no worker can be started. -/
  | submitOutside (record : ρ)
  | start
  /-- The worker takes the next record from the queue and hands it to the sink. -/
  | take
  /-- The sink tells what it has done with the record that it holds. -/
  | reply (reply : SinkReply)
  /-- The worker works until it must wait. -/
  | work (world : σ)
  | flush (timeout : Option Span) (world : σ)
  | close (world : σ)

/-- How many records are lost when something happens: in a close that could not wait until the queue
was drained, those that are queued then and the one at the sink. -/
def Occurrence.loss (sink : Sink ρ σ) (d : Dispatcher ρ) : Occurrence ρ σ → Nat
  | .close world =>
    let (drained, flushed, _) := d.flush sink (some d.shutdownTimeout) world
    if drained then 0 else flushed.pending + flushed.atSink.length
  | _ => 0

namespace Scene

/-- A record is accepted or not. -/
def submit (s : Scene ρ) (record : ρ) (outcome : Bool × Dispatcher ρ × List TraceEntry) : Scene ρ :=
  ⟨outcome.2.1, s.ledger.submit record outcome.1⟩

/-- The worker takes the next record if it waits for one and there is one. -/
def take (s : Scene ρ) : Scene ρ :=
  match s.dispatcher.worker, s.dispatcher.queued with
  | .waiting, record :: rest =>
    ⟨{ s.dispatcher with queue := some rest, worker := .busy record }, s.ledger.reach record⟩
  | _, _ => s

/-- The sink tells what it has done with the record that it holds, if it holds one. -/
def reply (s : Scene ρ) (reply : SinkReply) : Scene ρ :=
  match s.dispatcher.worker with
  | .busy record => ⟨(s.dispatcher.settle record reply).1, s.ledger.reply record reply⟩
  | _ => s

/-- The worker works until it must wait. -/
def work (sink : Sink ρ σ) (s : Scene ρ) (world : σ) : Scene ρ :=
  ⟨(s.dispatcher.work sink world).1, s.ledger.work sink s.dispatcher world⟩

/-- The dispatcher is flushed; what is done for that is the work of the worker. -/
def flush (sink : Sink ρ σ) (timeout : Option Span) (s : Scene ρ) (world : σ) : Scene ρ :=
  ⟨(s.dispatcher.flush sink timeout world).2.1, s.ledger.work sink s.dispatcher world⟩

/-- The dispatcher is closed. What it still has is given up if it could not be flushed. -/
def close (sink : Sink ρ σ) (s : Scene ρ) (world : σ) : Scene ρ :=
  let (drained, flushed, _) :=
    s.dispatcher.flush sink (some s.dispatcher.shutdownTimeout) world
  let l := s.ledger.work sink s.dispatcher world
  ⟨(s.dispatcher.close sink world).1, if drained then l else l.giveUp flushed⟩

/-- Something happens. -/
def after (sink : Sink ρ σ) (s : Scene ρ) : Occurrence ρ σ → Scene ρ
  | .submit record => s.submit record (s.dispatcher.submit record)
  | .submitOutside record =>
    s.submit record
      (if s.dispatcher.isRunning then s.dispatcher.submit record else s.dispatcher.refuse)
  | .start => ⟨s.dispatcher.start, s.ledger⟩
  | .take => s.take
  | .reply reply => s.reply reply
  | .work world => s.work sink world
  | .flush timeout world => s.flush sink timeout world
  | .close world => s.close sink world

/-- Things happen one after the other. -/
def run (sink : Sink ρ σ) (s : Scene ρ) (occurrences : List (Occurrence ρ σ)) : Scene ρ :=
  occurrences.foldl (after sink) s

/-! ## The accounts -/

/-- The counters of a dispatcher agree with its ledger, and its queue is no longer than it may be.
-/
structure IsAccounted (size : Int) (s : Scene ρ) : Prop where
  capacity_eq : s.dispatcher.capacity = .int size
  submits_eq : s.ledger.submits = s.dispatcher.submitted + s.dispatcher.dropped
  submitted_eq : s.dispatcher.submitted =
    s.dispatcher.written + s.dispatcher.failed + s.dispatcher.pending +
      s.dispatcher.atSink.length + s.ledger.lost
  length_accepted : s.ledger.accepted.length = s.dispatcher.submitted
  pending_le : (s.dispatcher.pending : Int) ≤ size
  /-- No record reaches the sink but when the sink holds none. -/
  reached_eq : s.ledger.reached = s.ledger.left ++ s.dispatcher.atSink
  /-- The records come from the queue in the order in which they were accepted, and each once. -/
  sublist_accepted : (s.ledger.reached ++ s.dispatcher.queued).Sublist s.ledger.accepted
  queued_eq : ¬s.dispatcher.isRunning → s.dispatcher.queued = []

namespace IsAccounted

variable {size : Int} {s : Scene ρ}

theorem open_ (h : s.IsAccounted size) : IsAccounted size ⟨s.dispatcher.open_, s.ledger⟩ :=
  ⟨h.capacity_eq, h.submits_eq, h.submitted_eq, h.length_accepted, h.pending_le, h.reached_eq,
    h.sublist_accepted, h.queued_eq⟩

theorem start (h : s.IsAccounted size) : IsAccounted size ⟨s.dispatcher.start, s.ledger⟩ := by
  simp only [Dispatcher.start]
  by_cases hrunning : s.dispatcher.isRunning
  · rw [if_pos hrunning]
    exact h
  · rw [if_neg hrunning]
    have hsink := s.dispatcher.atSink_of_not_isRunning hrunning
    have hsubmitted := h.submitted_eq
    have hreached := h.reached_eq
    rw [hsink] at hsubmitted hreached
    exact ⟨h.capacity_eq, h.submits_eq, hsubmitted, h.length_accepted, h.pending_le, hreached,
      h.sublist_accepted, fun hidle => absurd rfl hidle⟩

/-- A record that is refused is counted. -/
theorem refuse (h : s.IsAccounted size) (record : ρ) :
    IsAccounted size ⟨{ s.dispatcher with dropped := s.dispatcher.dropped + 1 },
      s.ledger.submit record false⟩ where
  capacity_eq := h.capacity_eq
  submits_eq := by
    show s.ledger.submits + 1 = s.dispatcher.submitted + (s.dispatcher.dropped + 1)
    rw [h.submits_eq]
    rfl
  submitted_eq := h.submitted_eq
  length_accepted := h.length_accepted
  pending_le := h.pending_le
  reached_eq := h.reached_eq
  sublist_accepted := h.sublist_accepted
  queued_eq := h.queued_eq

/-- A record that is accepted waits at the end of the queue. -/
theorem accept (h : s.IsAccounted size) (hrunning : s.dispatcher.isRunning)
    (hroom : (s.dispatcher.pending : Int) < size) (record : ρ) :
    IsAccounted size ⟨{ s.dispatcher with
        queue := some (s.dispatcher.queued ++ [record])
        submitted := s.dispatcher.submitted + 1 }, s.ledger.submit record true⟩ where
  capacity_eq := h.capacity_eq
  submits_eq := by
    show s.ledger.submits + 1 = s.dispatcher.submitted + 1 + s.dispatcher.dropped
    rw [h.submits_eq]
    omega
  submitted_eq := by
    have hsubmitted := h.submitted_eq
    show s.dispatcher.submitted + 1 = s.dispatcher.written + s.dispatcher.failed +
      (s.dispatcher.queued ++ [record]).length + s.dispatcher.atSink.length + s.ledger.lost
    simp only [Dispatcher.pending, List.length_append, List.length_singleton] at hsubmitted ⊢
    omega
  length_accepted := by
    show (s.ledger.accepted ++ [record]).length = s.dispatcher.submitted + 1
    rw [List.length_append, h.length_accepted]
    rfl
  pending_le := by
    show ((s.dispatcher.queued ++ [record]).length : Int) ≤ size
    simp only [Dispatcher.pending, List.length_append, List.length_singleton] at hroom ⊢
    omega
  reached_eq := h.reached_eq
  sublist_accepted := by
    show (s.ledger.reached ++ (s.dispatcher.queued ++ [record])).Sublist
      (s.ledger.accepted ++ [record])
    rw [← List.append_assoc]
    exact h.sublist_accepted.append (.refl _)
  queued_eq := fun hidle => absurd hrunning hidle

/-- A record is accepted or refused. -/
theorem submit (h : s.IsAccounted size) (hsize : 1 ≤ size) (record : ρ) :
    (s.submit record (s.dispatcher.submit record)).IsAccounted size := by
  have hstarted := h.start
  have hcapacity : s.dispatcher.start.capacity = .int size := hstarted.capacity_eq
  simp only [Scene.submit, Dispatcher.submit]
  by_cases hfull : s.dispatcher.start.isFull
  · rw [if_pos hfull]
    exact hstarted.refuse record
  · rw [if_neg hfull]
    refine hstarted.accept s.dispatcher.isRunning_start ?_ record
    simp only [Dispatcher.isFull, hcapacity, Number.isAtMost, Number.isReachedBy] at hfull
    simp only [Bool.and_eq_true, Bool.not_eq_true', decide_eq_false_iff_not, decide_eq_true_eq] at hfull
    show (s.dispatcher.start.pending : Int) < size
    omega

theorem submitOutside (h : s.IsAccounted size) (hsize : 1 ≤ size) (record : ρ) :
    (s.submit record (if s.dispatcher.isRunning then s.dispatcher.submit record
      else s.dispatcher.refuse)).IsAccounted size := by
  by_cases hrunning : s.dispatcher.isRunning
  · rw [if_pos hrunning]
    exact h.submit hsize record
  · rw [if_neg hrunning]
    exact h.open_.refuse record

/-! ### The worker and the sink -/

/-- The next record goes from the queue to the sink. -/
theorem reach (h : s.IsAccounted size) {record : ρ} {rest : List ρ}
    (hworker : s.dispatcher.worker = .waiting) (hqueued : s.dispatcher.queued = record :: rest) :
    IsAccounted size ⟨{ s.dispatcher with queue := some rest, worker := .busy record },
      s.ledger.reach record⟩ where
  capacity_eq := h.capacity_eq
  submits_eq := h.submits_eq
  submitted_eq := by
    have hsubmitted := h.submitted_eq
    show s.dispatcher.submitted = s.dispatcher.written + s.dispatcher.failed +
      rest.length + 1 + s.ledger.lost
    simp only [Dispatcher.pending, hqueued, Dispatcher.atSink, hworker, List.length_cons,
      List.length_nil] at hsubmitted
    omega
  length_accepted := h.length_accepted
  pending_le := by
    have hpending := h.pending_le
    show (rest.length : Int) ≤ size
    simp only [Dispatcher.pending, hqueued, List.length_cons] at hpending
    omega
  reached_eq := by
    have hreached := h.reached_eq
    simp only [Dispatcher.atSink, hworker, List.append_nil] at hreached
    show s.ledger.reached ++ [record] = s.ledger.left ++ [record]
    rw [hreached]
  sublist_accepted := by
    have hsublist := h.sublist_accepted
    rw [hqueued] at hsublist
    show (s.ledger.reached ++ [record] ++ rest).Sublist s.ledger.accepted
    rw [List.append_assoc]
    exact hsublist
  queued_eq := fun hidle => absurd rfl hidle

theorem take (h : s.IsAccounted size) : s.take.IsAccounted size := by
  simp only [Scene.take]
  split
  · exact h.reach ‹_› ‹_›
  · exact h

/-- What the sink tells of the record that it holds is counted. -/
theorem settle (h : s.IsAccounted size) {record : ρ} (hworker : s.dispatcher.worker = .busy record)
    (reply : SinkReply) :
    IsAccounted size ⟨(s.dispatcher.settle record reply).1, s.ledger.reply record reply⟩ := by
  have hsubmitted := h.submitted_eq
  have hreached := h.reached_eq
  simp only [Dispatcher.atSink, hworker, List.length_singleton] at hsubmitted hreached
  have hleft : s.ledger.reached = s.ledger.left ++ [record] ++ [] := by
    rw [List.append_nil]
    exact hreached
  cases reply with
  | written =>
      refine ⟨h.capacity_eq, h.submits_eq, ?_, h.length_accepted, h.pending_le, hleft,
        h.sublist_accepted, fun hidle => absurd rfl hidle⟩
      show s.dispatcher.submitted = s.dispatcher.written + 1 + s.dispatcher.failed +
        s.dispatcher.pending + 0 + s.ledger.lost
      omega
  | failed message =>
      refine ⟨h.capacity_eq, h.submits_eq, ?_, h.length_accepted, h.pending_le, hleft,
        h.sublist_accepted, fun hidle => absurd rfl hidle⟩
      show s.dispatcher.submitted = s.dispatcher.written + (s.dispatcher.failed + 1) +
        s.dispatcher.pending + 0 + s.ledger.lost
      omega
  | held => exact ⟨h.capacity_eq, h.submits_eq, hsubmitted, h.length_accepted, h.pending_le,
      hreached, h.sublist_accepted, fun hidle => absurd rfl hidle⟩

theorem reply (h : s.IsAccounted size) (reply : SinkReply) : (s.reply reply).IsAccounted size := by
  simp only [Scene.reply]
  split
  · exact h.settle ‹_› reply
  · exact h

/-- Handing on records is taking each of them and hearing of it from the sink. -/
theorem drain (sink : Sink ρ σ) {d : Dispatcher ρ} {l : Ledger ρ} {records : List ρ}
    (h : IsAccounted size ⟨{ d with queue := some records }, l⟩) (hworker : d.worker = .waiting)
    (world : σ) :
    IsAccounted size ⟨(d.drain sink world records).1, l.drain sink world records⟩ := by
  induction records generalizing d l world with
  | nil => exact h
  | cons record rest ih =>
      have hheld := h.reach hworker rfl
      simp only [Dispatcher.drain, Ledger.drain]
      rcases sink record world with ⟨reply, noted, world'⟩
      have hsettled := hheld.settle rfl reply
      cases reply with
      | held => exact hsettled
      | written => exact ih hsettled rfl world'
      | failed message => exact ih hsettled rfl world'

/-- The worker works by taking records and hearing of them from the sink. -/
theorem work (h : s.IsAccounted size) (sink : Sink ρ σ) (world : σ) :
    (s.work sink world).IsAccounted size := by
  simp only [Scene.work, Dispatcher.work, Ledger.work]
  cases hworker : s.dispatcher.worker with
  | absent => exact h
  | waiting => exact drain sink h.open_ hworker world
  | busy record =>
      have hopen := h.open_
      simp only [Dispatcher.drain]
      rcases sink record world with ⟨reply, noted, world'⟩
      have hsettled := hopen.settle hworker reply
      cases reply with
      | held => exact hsettled
      | written => exact drain sink hsettled rfl world'
      | failed message => exact drain sink hsettled rfl world'

/-- A worker that is stopped leaves nothing behind that is not counted as lost. -/
theorem stop (h : s.IsAccounted size) :
    IsAccounted size ⟨{ s.dispatcher with worker := .absent, queue := none },
      s.ledger.giveUp s.dispatcher⟩ where
  capacity_eq := h.capacity_eq
  submits_eq := h.submits_eq
  submitted_eq := by
    have hsubmitted := h.submitted_eq
    show s.dispatcher.submitted = s.dispatcher.written + s.dispatcher.failed + 0 + 0 +
      (s.ledger.lost + (s.dispatcher.pending + s.dispatcher.atSink.length))
    omega
  length_accepted := h.length_accepted
  pending_le := by
    have hpending := h.pending_le
    show (0 : Int) ≤ size
    omega
  reached_eq := by
    show s.ledger.reached = s.ledger.left ++ s.dispatcher.atSink ++ []
    rw [List.append_nil]
    exact h.reached_eq
  sublist_accepted := by
    show (s.ledger.reached ++ []).Sublist s.ledger.accepted
    rw [List.append_nil]
    exact (List.sublist_append_left _ _).trans h.sublist_accepted
  queued_eq := fun _ => rfl

end IsAccounted

/-! ## Flushing and closing -/

variable {size : Int} {s : Scene ρ} (sink : Sink ρ σ)

/-- Flushing is nothing but work. -/
theorem flush_eq_work (timeout : Option Span) (s : Scene ρ) (world : σ) :
    s.flush sink timeout world = s.work sink world := by
  simp only [flush, work, Dispatcher.flush]
  by_cases hrunning : s.dispatcher.isRunning
  · simp [hrunning]
  · have habsent := s.dispatcher.worker_of_not_isRunning hrunning
    simp [hrunning, Dispatcher.work, habsent]

/-- A dispatcher that was flushed in time has nothing left. -/
theorem IsAccounted.drained (h : s.IsAccounted size) (timeout : Option Span) (world : σ)
    (hdrained : (s.dispatcher.flush sink timeout world).1 = true) :
    (s.flush sink timeout world).dispatcher.queued = [] ∧
      (s.flush sink timeout world).dispatcher.atSink = [] := by
  simp only [flush, Dispatcher.flush] at hdrained ⊢
  by_cases hrunning : s.dispatcher.isRunning
  · simp only [hrunning, Bool.not_true, Bool.false_eq_true, if_false, Bool.and_eq_true] at hdrained ⊢
    exact (Dispatcher.isDrained_iff _).mp hdrained.2
  · simp only [hrunning, Bool.not_false, if_true]
    exact ⟨h.queued_eq hrunning, s.dispatcher.atSink_of_not_isRunning hrunning⟩

theorem IsAccounted.close (h : s.IsAccounted size) (world : σ) :
    (s.close sink world).IsAccounted size := by
  have hflushed : (s.flush sink (some s.dispatcher.shutdownTimeout) world).IsAccounted size := by
    rw [flush_eq_work]
    exact h.work sink world
  have hdrained := h.drained sink (some s.dispatcher.shutdownTimeout) world
  simp only [Scene.close, Dispatcher.close]
  by_cases hrunning : s.dispatcher.isRunning
  · simp only [hrunning, Bool.not_true, Bool.false_eq_true, if_false]
    by_cases htime : (s.dispatcher.flush sink (some s.dispatcher.shutdownTimeout) world).1
    · rw [if_pos htime]
      obtain ⟨hqueued, hsink⟩ := hdrained htime
      have hstopped := hflushed.stop
      rw [Ledger.giveUp_of_drained _ hqueued hsink] at hstopped
      exact hstopped
    · rw [if_neg htime]
      exact hflushed.stop
  · have habsent := s.dispatcher.worker_of_not_isRunning hrunning
    simp only [hrunning, Bool.not_false, if_true, Dispatcher.flush, Ledger.work, habsent]
    exact h

/-! ## Runs -/

/-- Whatever happens, the accounts stay in order. -/
theorem IsAccounted.after (h : s.IsAccounted size) (hsize : 1 ≤ size) (o : Occurrence ρ σ) :
    (s.after sink o).IsAccounted size := by
  cases o with
  | submit record => exact h.submit hsize record
  | submitOutside record => exact h.submitOutside hsize record
  | start => exact h.start
  | take => exact h.take
  | reply reply => exact h.reply reply
  | work world => exact h.work sink world
  | flush timeout world =>
      show (s.flush sink timeout world).IsAccounted size
      rw [flush_eq_work]
      exact h.work sink world
  | close world => exact h.close sink world

theorem IsAccounted.run (h : s.IsAccounted size) (hsize : 1 ≤ size)
    (occurrences : List (Occurrence ρ σ)) : (s.run sink occurrences).IsAccounted size := by
  induction occurrences generalizing s with
  | nil => exact h
  | cons o rest ih => exact ih (h.after sink hsize o)

/-- Records are lost only in a close that could not wait. -/
theorem lost_after (s : Scene ρ) (o : Occurrence ρ σ) :
    (s.after sink o).ledger.lost = s.ledger.lost + o.loss sink s.dispatcher := by
  cases o with
  | submit record => rfl
  | submitOutside record => rfl
  | start => rfl
  | take =>
      simp only [after, take]
      split <;> rfl
  | reply reply =>
      simp only [after, Scene.reply]
      split
      · cases reply <;> rfl
      · rfl
  | work world => exact Ledger.lost_work sink _ _ world
  | flush timeout world => exact Ledger.lost_work sink _ _ world
  | close world =>
      have hwork := s.ledger.lost_work sink s.dispatcher world
      simp only [after, close, Occurrence.loss]
      split
      · exact hwork
      · exact congrArg (· + _) hwork

/-- A new dispatcher. -/
def create (size : Int) (shutdownTimeout : Span) : Scene ρ :=
  ⟨{ capacity := .int size, shutdownTimeout := shutdownTimeout }, {}⟩

theorem isAccounted_create (hsize : 1 ≤ size) (shutdownTimeout : Span) :
    (create size shutdownTimeout : Scene ρ).IsAccounted size where
  capacity_eq := rfl
  submits_eq := rfl
  submitted_eq := rfl
  length_accepted := rfl
  pending_le := by
    show (0 : Int) ≤ size
    omega
  reached_eq := rfl
  sublist_accepted := .slnil
  queued_eq := fun _ => rfl

/-- **Conservation.** Whatever happens to a new dispatcher with room for at least one record, and
whatever the sink does: every record that was submitted is counted as accepted or as refused, and
every record that was accepted as written, failed, queued, at the sink or lost; the queue keeps its
limit; and the records reach the sink one at a time, in the order in which they were accepted and
each at most once. Records are lost only in a close that could not wait until the queue was drained,
and a flush that succeeds leaves none in the queue or at the sink. -/
theorem run_isAccounted (hsize : 1 ≤ size) (shutdownTimeout : Span)
    (occurrences : List (Occurrence ρ σ)) :
    let s := (create size shutdownTimeout : Scene ρ).run sink occurrences
    s.IsAccounted size ∧
      (∀ o, (s.after sink o).ledger.lost = s.ledger.lost + o.loss sink s.dispatcher) ∧
      ∀ timeout world, (s.dispatcher.flush sink timeout world).1 = true →
        (s.flush sink timeout world).dispatcher.queued = [] ∧
          (s.flush sink timeout world).dispatcher.atSink = [] := by
  intro s
  have haccounted := (isAccounted_create hsize shutdownTimeout).run sink hsize occurrences
  exact ⟨haccounted, s.lost_after sink, haccounted.drained sink⟩

/-- A sink that fails on records named `bad` and keeps those that are named `slow`. -/
def fussySink : Sink String Unit := fun record world =>
  (if record = "bad" then .failed "bad" else if record = "slow" then .held else .written, [], world)

/-- The time that a sink is given to finish. -/
def patience : Span := .seconds 5

/-- One record is refused, one written, one fails, one is at the sink and one queued at the close.
-/
theorem fussySink_isAccounted :
    let s := (create 2 patience).run fussySink [.submit "good", .submit "bad", .submit "more",
      .work (), .submit "slow", .take, .submitOutside "late", .flush (some patience) (), .close ()]
    s.IsAccounted 2 ∧ s.ledger.submits = 5 ∧ s.ledger.accepted = ["good", "bad", "slow", "late"] ∧
      s.ledger.reached = ["good", "bad", "slow"] ∧ s.ledger.lost = 2 :=
  ⟨(run_isAccounted fussySink (by decide) patience _).1, rfl, rfl, rfl, rfl⟩

end Scene

end Clearance
