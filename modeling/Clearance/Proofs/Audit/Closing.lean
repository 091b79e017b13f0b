/-
# What a close reports

A close waits until the queue is drained or the time for that has run out; it makes its report and
tells the worker to end, and when the worker has ended the queue goes. Others go on meanwhile: records
are submitted, the worker takes them, and the sink replies. So the steps of a close stand on a timeline
with everything else that happens to a dispatcher, in any order.

What is lost are the records that were accepted since the queue was made and that the sink has neither
written nor failed on. The report counts those that are in the queue when it is made. It does not count
the record that the sink holds then, and it cannot know of what comes after it: what is accepted
between the end of the wait and the end of the queue is lost as well, with a report or without one.

The steps allow more than a dispatcher does: a close may give up at any time, and may leave its worker
at any time after that. Left out are a close that is called off itself, a second close during the first
one, and the later life of a worker that is started between the end of the old worker and that of the
queue. Such a worker has no turn until the queue has gone, and none to work for then.
-/

import Clearance.Proofs.Audit.Accounts

namespace Clearance

variable {ρ σ : Type}

/-! ## The steps of a close -/

/-- The record that the sink holds is given up. -/
def Ledger.cutOff (l : Ledger ρ) (d : Dispatcher ρ) : Ledger ρ :=
  { l with left := l.left ++ d.atSink, lost := l.lost + d.atSink.length }

/-- What happens, one step at a time. -/
inductive Move (ρ : Type) where
  | submit (record : ρ)
  /-- A record is submitted where no worker can be started. -/
  | submitOutside (record : ρ)
  | start
  /-- The worker takes the next record from the queue and hands it to the sink. -/
  | take
  /-- The sink tells what it has done with the record that it holds. -/
  | reply (reply : SinkReply)
  /-- A close begins to wait. -/
  | beginClose
  /-- The wait ends because the queue is drained. -/
  | findDrained
  /-- The wait ends because the time for it has run out. -/
  | giveUp
  /-- The worker ends as it was told to. -/
  | endWorker
  /-- The queue goes, and the close is over. -/
  | endClose

namespace Scene

/-- What a step does that is none of a close. -/
def moved (s : Scene ρ) : Move ρ → Scene ρ
  | .submit record => s.submit record (s.dispatcher.submit record)
  | .submitOutside record =>
    s.submit record
      (if s.dispatcher.isRunning then s.dispatcher.submit record else s.dispatcher.refuse)
  | .start => ⟨s.dispatcher.start, s.ledger⟩
  | .take => s.take
  | .reply reply => s.reply reply
  | _ => s

/-- The worker ends. The record that the sink holds is cut off. -/
def stop (s : Scene ρ) : Scene ρ := ⟨s.dispatcher.stop, s.ledger.cutOff s.dispatcher⟩

/-- The queue goes, with everything in it. -/
def forget (s : Scene ρ) : Scene ρ := ⟨s.dispatcher.forget, s.ledger.giveUp s.dispatcher⟩

end Scene

/-- How far a close has come. Beside its report stands the scene in which its wait ended. -/
inductive Phase (ρ : Type) where
  | open_
  | draining
  /-- The worker was told to end. -/
  | stopping (report : Option Nat) (decided : Scene ρ)
  /-- The worker has ended. -/
  | stopped (report : Option Nat) (decided : Scene ρ)

/-- A dispatcher in the course of time: the last scene without a queue, the present one, how far a
close has come, and what the last close has said. -/
structure Timeline (ρ : Type) where
  before : Scene ρ
  now : Scene ρ
  phase : Phase ρ := .open_
  said : List TraceEntry := []

namespace Timeline

/-- The wait is over. What is to be said is said, and the worker is told to end. -/
def decide (c : Timeline ρ) (isDrained : Bool) : Timeline ρ :=
  let report := c.now.dispatcher.lossReport isDrained
  { c with
    phase := .stopping report c.now
    said := (report.map (Dispatcher.lossEntry c.now.dispatcher.shutdownTimeout)).toList }

/-- A step is taken. A step of a close that is not due changes nothing. -/
def after (c : Timeline ρ) (m : Move ρ) : Timeline ρ :=
  match m, c.phase with
  | .beginClose, .open_ =>
    { c with phase := if c.now.dispatcher.isRunning then .draining else .open_, said := [] }
  | .findDrained, .draining => if c.now.dispatcher.isDrained then c.decide true else c
  | .giveUp, .draining => c.decide false
  | .endWorker, .stopping report decided =>
    { c with now := c.now.stop, phase := .stopped report decided }
  | .endClose, .stopped .. => { before := c.now.forget, now := c.now.forget, said := c.said }
  | m, _ => { c with now := c.now.moved m }

/-- Steps are taken one after the other. -/
def run (c : Timeline ρ) (moves : List (Move ρ)) : Timeline ρ := moves.foldl after c

/-- A dispatcher starts without a queue. -/
def create (size : Int) (shutdownTimeout : Span) : Timeline ρ :=
  { before := .create size shutdownTimeout, now := .create size shutdownTimeout }

end Timeline

/-! ## What is unsettled -/

namespace Scene

/-- The number of records that were accepted since an earlier scene, less those that the sink has
written since and those that it has failed on. -/
def unsettledSince (s earlier : Scene ρ) : Int :=
  (s.ledger.accepted.length - earlier.ledger.accepted.length) -
    (s.dispatcher.written - earlier.dispatcher.written) -
    (s.dispatcher.failed - earlier.dispatcher.failed)

/-- The number of records that were accepted and neither written nor failed on. -/
def outstanding (s : Scene ρ) : Nat :=
  s.dispatcher.pending + s.dispatcher.atSink.length + s.ledger.lost

/-- Every record that was accepted is accounted for. -/
def IsBalanced (s : Scene ρ) : Prop :=
  s.ledger.accepted.length = s.dispatcher.written + s.dispatcher.failed + s.outstanding

/-- A worker has a queue to take records from. -/
def HasQueue (s : Scene ρ) : Prop := s.dispatcher.isRunning → s.dispatcher.queue.isSome

/-- Where there is no worker there is no record. -/
def IsQuiet (s : Scene ρ) : Prop := ¬s.dispatcher.isRunning → s.dispatcher.queued = []

theorem unsettledSince_eq {s earlier : Scene ρ} (h : s.IsBalanced) (hearlier : earlier.IsBalanced) :
    s.unsettledSince earlier = s.outstanding - earlier.outstanding := by
  rw [unsettledSince, h, hearlier]
  omega

/-- The counts of a later scene are no lower. -/
structure GrowsTo (s s' : Scene ρ) : Prop where
  accepted_le : s.ledger.accepted.length ≤ s'.ledger.accepted.length
  written_le : s.dispatcher.written ≤ s'.dispatcher.written
  failed_le : s.dispatcher.failed ≤ s'.dispatcher.failed
  lost_le : s.ledger.lost ≤ s'.ledger.lost

/-- What can come of a scene while nothing is lost. -/
structure LeadsTo (s s' : Scene ρ) : Prop where
  shutdownTimeout_eq : s'.dispatcher.shutdownTimeout = s.dispatcher.shutdownTimeout
  lost_eq : s'.ledger.lost = s.ledger.lost
  growsTo : s.GrowsTo s'
  isBalanced : s.IsBalanced → s'.IsBalanced
  hasQueue : s.HasQueue → s'.HasQueue
  isQuiet : s.IsQuiet → s'.IsQuiet

/-- Where no count has changed, none is lower. -/
theorem GrowsTo.of_eq {s s' : Scene ρ} (haccepted : s.ledger.accepted = s'.ledger.accepted)
    (hwritten : s.dispatcher.written = s'.dispatcher.written)
    (hfailed : s.dispatcher.failed = s'.dispatcher.failed)
    (hlost : s.ledger.lost = s'.ledger.lost) : s.GrowsTo s' :=
  ⟨Nat.le_of_eq (congrArg _ haccepted), Nat.le_of_eq hwritten, Nat.le_of_eq hfailed,
    Nat.le_of_eq hlost⟩

theorem GrowsTo.refl (s : Scene ρ) : s.GrowsTo s := .of_eq rfl rfl rfl rfl

theorem GrowsTo.trans {s s' s'' : Scene ρ} (h : s.GrowsTo s') (h' : s'.GrowsTo s'') :
    s.GrowsTo s'' where
  accepted_le := Nat.le_trans h.accepted_le h'.accepted_le
  written_le := Nat.le_trans h.written_le h'.written_le
  failed_le := Nat.le_trans h.failed_le h'.failed_le
  lost_le := Nat.le_trans h.lost_le h'.lost_le

theorem LeadsTo.refl (s : Scene ρ) : s.LeadsTo s := ⟨rfl, rfl, .refl s, id, id, id⟩

theorem LeadsTo.trans {s s' s'' : Scene ρ} (h : s.LeadsTo s') (h' : s'.LeadsTo s'') :
    s.LeadsTo s'' where
  shutdownTimeout_eq := h'.shutdownTimeout_eq.trans h.shutdownTimeout_eq
  lost_eq := h'.lost_eq.trans h.lost_eq
  growsTo := h.growsTo.trans h'.growsTo
  isBalanced := fun hs => h'.isBalanced (h.isBalanced hs)
  hasQueue := fun hs => h'.hasQueue (h.hasQueue hs)
  isQuiet := fun hs => h'.isQuiet (h.isQuiet hs)

theorem leadsTo_start (s : Scene ρ) : s.LeadsTo ⟨s.dispatcher.start, s.ledger⟩ := by
  rw [Dispatcher.start]
  by_cases hrunning : s.dispatcher.isRunning
  · rw [if_pos hrunning]
    exact .refl s
  · rw [if_neg hrunning]
    have habsent := s.dispatcher.atSink_of_not_isRunning hrunning
    refine ⟨rfl, rfl, .of_eq rfl rfl rfl rfl, ?_, fun _ _ => rfl, fun _ hidle => absurd rfl hidle⟩
    intro hbalanced
    rw [IsBalanced, outstanding, habsent] at hbalanced
    exact hbalanced

/-- A record that is accepted is queued. -/
theorem leadsTo_accept {s : Scene ρ} (hrunning : s.dispatcher.isRunning) (record : ρ) :
    s.LeadsTo ⟨{ s.dispatcher with
        queue := some (s.dispatcher.queued ++ [record])
        submitted := s.dispatcher.submitted + 1 }, s.ledger.submit record true⟩ where
  shutdownTimeout_eq := rfl
  lost_eq := rfl
  growsTo := { GrowsTo.refl s with accepted_le := (List.sublist_append_left _ [record]).length_le }
  isBalanced := by
    intro hbalanced
    simp only [IsBalanced, outstanding, Dispatcher.pending] at hbalanced
    show (s.ledger.accepted ++ [record]).length = s.dispatcher.written + s.dispatcher.failed +
      ((s.dispatcher.queued ++ [record]).length + s.dispatcher.atSink.length + s.ledger.lost)
    rw [List.length_append, List.length_append, hbalanced, List.length_singleton]
    omega
  hasQueue := fun _ _ => rfl
  isQuiet := fun _ hidle => absurd hrunning hidle

/-- A record that is refused changes no account. -/
theorem leadsTo_refuse (s : Scene ρ) (record : ρ) :
    s.LeadsTo ⟨{ s.dispatcher with dropped := s.dispatcher.dropped + 1 },
      s.ledger.submit record false⟩ :=
  ⟨rfl, rfl, .of_eq rfl rfl rfl rfl, id, id, id⟩

theorem leadsTo_submit (s : Scene ρ) (record : ρ) :
    s.LeadsTo (s.submit record (s.dispatcher.submit record)) := by
  have hstarted := s.leadsTo_start
  rw [Scene.submit, Dispatcher.submit]
  by_cases hfull : s.dispatcher.start.isFull
  · rw [if_pos hfull]
    exact hstarted.trans (leadsTo_refuse _ record)
  · rw [if_neg hfull]
    exact hstarted.trans (leadsTo_accept s.dispatcher.isRunning_start record)

/-- The next record goes from the queue to the sink. -/
theorem leadsTo_take (s : Scene ρ) : s.LeadsTo s.take := by
  rw [take]
  split
  case h_2 => exact .refl s
  case h_1 record rest hworker hqueued =>
    refine ⟨rfl, rfl, .of_eq rfl rfl rfl rfl, ?_, fun _ _ => rfl, fun _ hidle => absurd rfl hidle⟩
    intro hbalanced
    simp only [IsBalanced, outstanding, Dispatcher.pending, hqueued, Dispatcher.atSink, hworker,
      List.length_cons, List.length_nil] at hbalanced
    show s.ledger.accepted.length = s.dispatcher.written + s.dispatcher.failed +
      (rest.length + 1 + s.ledger.lost)
    omega

/-- The record at the sink is written or failed on, or stays there. -/
theorem leadsTo_reply (s : Scene ρ) (reply : SinkReply) : s.LeadsTo (s.reply reply) := by
  rw [Scene.reply]
  split
  case h_2 => exact .refl s
  case h_1 record hworker =>
    have hqueue : s.HasQueue → s.dispatcher.queue.isSome :=
      fun h => h (by rw [Dispatcher.isRunning, hworker])
    have hcount : s.IsBalanced → s.ledger.accepted.length = s.dispatcher.written +
        s.dispatcher.failed + (s.dispatcher.pending + 1 + s.ledger.lost) := by
      intro hbalanced
      rw [IsBalanced, outstanding, Dispatcher.atSink, hworker] at hbalanced
      exact hbalanced
    cases reply with
    | held =>
        refine ⟨rfl, rfl, .of_eq rfl rfl rfl rfl, hcount, fun h _ => hqueue h,
          fun _ hidle => absurd rfl hidle⟩
    | written =>
        refine ⟨rfl, rfl, { GrowsTo.refl s with written_le := Nat.le_succ _ }, ?_, fun h _ => hqueue h,
          fun _ hidle => absurd rfl hidle⟩
        intro hbalanced
        show s.ledger.accepted.length = s.dispatcher.written + 1 + s.dispatcher.failed +
          (s.dispatcher.pending + 0 + s.ledger.lost)
        rw [hcount hbalanced]
        omega
    | failed message =>
        refine ⟨rfl, rfl, { GrowsTo.refl s with failed_le := Nat.le_succ _ }, ?_, fun h _ => hqueue h,
          fun _ hidle => absurd rfl hidle⟩
        intro hbalanced
        show s.ledger.accepted.length = s.dispatcher.written + (s.dispatcher.failed + 1) +
          (s.dispatcher.pending + 0 + s.ledger.lost)
        rw [hcount hbalanced]
        omega

/-- A step that is none of a close loses nothing. -/
theorem leadsTo_moved (s : Scene ρ) (m : Move ρ) : s.LeadsTo (s.moved m) := by
  cases m with
  | submit record => exact s.leadsTo_submit record
  | submitOutside record =>
      simp only [moved]
      split
      · exact s.leadsTo_submit record
      · have hopen : s.LeadsTo ⟨s.dispatcher.open_, s.ledger⟩ :=
          ⟨rfl, rfl, .of_eq rfl rfl rfl rfl, id, fun _ _ => rfl, id⟩
        exact hopen.trans (leadsTo_refuse _ record)
  | start => exact s.leadsTo_start
  | take => exact s.leadsTo_take
  | reply reply => exact s.leadsTo_reply reply
  | _ => exact .refl s

/-! ### What has come since -/

theorem growsTo_stop (s : Scene ρ) : s.GrowsTo s.stop :=
  ⟨Nat.le_refl _, Nat.le_refl _, Nat.le_refl _, Nat.le_add_right _ _⟩

theorem IsBalanced.stop {s : Scene ρ} (h : s.IsBalanced) : s.stop.IsBalanced := by
  rw [IsBalanced, outstanding] at h
  show s.ledger.accepted.length = s.dispatcher.written + s.dispatcher.failed +
    (s.dispatcher.pending + 0 + (s.ledger.lost + s.dispatcher.atSink.length))
  omega

theorem IsBalanced.forget {s : Scene ρ} (h : s.IsBalanced) : s.forget.IsBalanced := by
  rw [IsBalanced, outstanding] at h
  show s.ledger.accepted.length = s.dispatcher.written + s.dispatcher.failed +
    (0 + 0 + (s.ledger.lost + (s.dispatcher.pending + s.dispatcher.atSink.length)))
  omega

end Scene

/-! ## What is known at a time -/

namespace Timeline

/-- What is known once the wait of a close is over: no record had been lost by then, the report is of
what was queued then, and it has been made. -/
structure HasDecided (timeout : Span) (c : Timeline ρ) (report : Option Nat) (decided : Scene ρ) :
    Prop where
  isBalanced : decided.IsBalanced
  lost_eq : decided.ledger.lost = c.before.ledger.lost
  isDrained : report = none → decided.dispatcher.isDrained
  pending_eq : ∀ n, report = some n → n = decided.dispatcher.pending
  growsTo : decided.GrowsTo c.now
  said_eq : c.said = (report.map (Dispatcher.lossEntry timeout)).toList

/-- What is known in each phase. -/
def IsIn (timeout : Span) (c : Timeline ρ) : Phase ρ → Prop
  | .open_ => c.now.ledger.lost = c.before.ledger.lost ∧ c.now.IsQuiet
  | .draining => c.now.ledger.lost = c.before.ledger.lost
  | .stopping report decided | .stopped report decided => c.HasDecided timeout report decided

/-- What is known in every phase: the accounts are in order, and there was no record when there was no
queue. -/
structure IsSound (timeout : Span) (c : Timeline ρ) : Prop where
  before_isBalanced : c.before.IsBalanced
  pending_eq : c.before.dispatcher.pending = 0
  atSink_eq : c.before.dispatcher.atSink = []
  shutdownTimeout_eq : c.now.dispatcher.shutdownTimeout = timeout
  isBalanced : c.now.IsBalanced
  hasQueue : c.now.HasQueue
  isIn : c.IsIn timeout c.phase

variable {timeout : Span} {c : Timeline ρ}

theorem HasDecided.mono {report : Option Nat} {decided s : Scene ρ} {phase : Phase ρ}
    (h : c.HasDecided timeout report decided) (hs : c.now.GrowsTo s) :
    { c with now := s, phase := phase }.HasDecided timeout report decided :=
  { h with growsTo := h.growsTo.trans hs }

theorem IsIn.moved {phase : Phase ρ} (h : c.IsIn timeout phase) (m : Move ρ) :
    { c with now := c.now.moved m }.IsIn timeout phase := by
  have hleads := c.now.leadsTo_moved m
  cases phase with
  | open_ => exact ⟨hleads.lost_eq.trans h.1, hleads.isQuiet h.2⟩
  | draining => exact hleads.lost_eq.trans h
  | stopping report decided => exact h.mono hleads.growsTo
  | stopped report decided => exact h.mono hleads.growsTo

namespace IsSound

theorem create (size : Int) (timeout : Span) :
    (create size timeout : Timeline ρ).IsSound timeout where
  before_isBalanced := rfl
  pending_eq := rfl
  atSink_eq := rfl
  shutdownTimeout_eq := rfl
  isBalanced := rfl
  hasQueue := by
    intro hrunning
    cases hrunning
  isIn := ⟨rfl, fun _ => rfl⟩

theorem moved (h : c.IsSound timeout) (m : Move ρ) :
    { c with now := c.now.moved m }.IsSound timeout where
  before_isBalanced := h.before_isBalanced
  pending_eq := h.pending_eq
  atSink_eq := h.atSink_eq
  shutdownTimeout_eq := (c.now.leadsTo_moved m).shutdownTimeout_eq.trans h.shutdownTimeout_eq
  isBalanced := (c.now.leadsTo_moved m).isBalanced h.isBalanced
  hasQueue := (c.now.leadsTo_moved m).hasQueue h.hasQueue
  isIn := h.isIn.moved m

theorem decide (h : c.IsSound timeout) (hphase : c.phase = .draining) (isDrained : Bool)
    (hdrained : isDrained → c.now.dispatcher.isDrained) : (c.decide isDrained).IsSound timeout := by
  have hlost := h.isIn
  rw [hphase] at hlost
  refine ⟨h.before_isBalanced, h.pending_eq, h.atSink_eq, h.shutdownTimeout_eq, h.isBalanced,
    h.hasQueue, h.isBalanced, hlost, ?_, ?_, .refl _, ?_⟩
  · intro hnone
    apply hdrained
    cases isDrained with
    | true => rfl
    | false => cases hnone
  · intro n hsome
    cases isDrained with
    | true => cases hsome
    | false => exact (Option.some.inj hsome).symm
  · show _ = (Option.map (Dispatcher.lossEntry timeout) _).toList
    rw [← h.shutdownTimeout_eq]
    rfl

/-- A step keeps what is known. -/
theorem after (h : c.IsSound timeout) (m : Move ρ) : (c.after m).IsSound timeout := by
  have hin := h.isIn
  unfold Timeline.after
  split
  case h_1 hphase =>
    rw [hphase] at hin
    refine { h with isIn := ?_ }
    show Timeline.IsIn timeout _ (if _ then _ else _)
    split
    · exact hin.1
    · exact hin
  case h_2 hphase =>
    split
    · exact h.decide hphase true fun _ => ‹_›
    · exact h
  case h_3 hphase => exact h.decide hphase false fun hne => nomatch hne
  case h_4 report decided hphase =>
    rw [hphase] at hin
    refine { h with isBalanced := h.isBalanced.stop, hasQueue := ?_, isIn := ?_ }
    · intro hrunning
      cases hrunning
    · exact hin.mono c.now.growsTo_stop
  case h_5 =>
    refine ⟨h.isBalanced.forget, rfl, rfl, h.shutdownTimeout_eq, h.isBalanced.forget, ?_, rfl,
      fun _ => rfl⟩
    intro hrunning
    cases hrunning
  case h_6 => exact h.moved _

theorem run (h : c.IsSound timeout) (moves : List (Move ρ)) : (c.run moves).IsSound timeout := by
  induction moves generalizing c with
  | nil => exact h
  | cons m rest ih => exact ih (h.after m)

/-- What was outstanding in a scene is unsettled since the queue was made, as long as nothing is lost.
-/
theorem unsettledSince_before (h : c.IsSound timeout) {s : Scene ρ} (hs : s.IsBalanced)
    (hlost : s.ledger.lost = c.before.ledger.lost) :
    s.unsettledSince c.before = s.dispatcher.pending + s.dispatcher.atSink.length := by
  rw [Scene.unsettledSince_eq hs h.before_isBalanced, Scene.outstanding, Scene.outstanding,
    h.pending_eq, h.atSink_eq, hlost]
  simp only [List.length_nil]
  omega

/-- Nothing is unsettled where there is no worker to stop. -/
theorem unsettledSince_of_not_isRunning (h : c.IsSound timeout) (hphase : c.phase = .open_)
    (hidle : ¬c.now.dispatcher.isRunning) : c.now.unsettledSince c.before = 0 := by
  have hin := h.isIn
  rw [hphase] at hin
  rw [h.unsettledSince_before h.isBalanced hin.1, Dispatcher.pending, hin.2 hidle,
    Dispatcher.atSink_of_not_isRunning _ hidle]
  rfl

end IsSound

theorem settle_of_taken (d : Dispatcher ρ) (record : ρ) (rest : List ρ) (worker : Worker ρ)
    (reply : SinkReply) :
    ({ d with queue := some rest, worker := worker }.settle record reply).1 =
      { (d.settle record reply).1 with queue := some rest } := by
  cases reply <;> rfl

theorem after_take (c : Timeline ρ) {d : Dispatcher ρ} (l : Ledger ρ) (record : ρ) (rest : List ρ)
    (hworker : d.worker = .waiting) :
    after { c with now := ⟨{ d with queue := some (record :: rest) }, l⟩ } .take =
      { c with now := ⟨{ d with queue := some rest, worker := .busy record }, l.reach record⟩ } := by
  show ({ c with now := Scene.take _ } : Timeline ρ) = _
  rw [Scene.take]
  simp only [hworker, Dispatcher.queued, Option.getD_some]

theorem after_reply (c : Timeline ρ) {record : ρ} (hworker : c.now.dispatcher.worker = .busy record)
    (reply : SinkReply) :
    c.after (.reply reply) = { c with
      now := ⟨(c.now.dispatcher.settle record reply).1, c.now.ledger.reply record reply⟩ } := by
  show ({ c with now := Scene.reply _ _ } : Timeline ρ) = _
  rw [Scene.reply]
  simp only [hworker]

/-- Handing on records is taking each of them and hearing of it from the sink. -/
theorem exists_run_drain (sink : Sink ρ σ) (c : Timeline ρ) {d : Dispatcher ρ} (l : Ledger ρ)
    (hworker : d.worker = .waiting) (world : σ) (records : List ρ) :
    ∃ moves, run { c with now := ⟨{ d with queue := some records }, l⟩ } moves =
      { c with now := ⟨(d.drain sink world records).1, l.drain sink world records⟩ } := by
  induction records generalizing d l world with
  | nil => exact ⟨[], rfl⟩
  | cons record rest ih =>
      simp only [Dispatcher.drain, Ledger.drain]
      rcases sink record world with ⟨reply, noted, world'⟩
      have htake := c.after_take l record rest hworker
      have hreply := after_reply
        { c with now := ⟨{ d with queue := some rest, worker := .busy record }, l.reach record⟩ }
        rfl reply
      rw [settle_of_taken] at hreply
      have hnext (hwaiting : (d.settle record reply).1.worker = .waiting) :
          ∃ moves, run { c with now := ⟨{ d with queue := some (record :: rest) }, l⟩ } moves =
            { c with now := ⟨((d.settle record reply).1.drain sink world' rest).1,
                ((l.reach record).reply record reply).drain sink world' rest⟩ } := by
        obtain ⟨moves, hmoves⟩ := ih ((l.reach record).reply record reply) hwaiting world'
        refine ⟨.take :: .reply reply :: moves, ?_⟩
        rw [run, List.foldl_cons, htake, List.foldl_cons, hreply]
        exact hmoves
      cases reply with
      | held =>
          refine ⟨[.take, .reply .held], ?_⟩
          rw [run, List.foldl_cons, htake, List.foldl_cons, hreply]
          rfl
      | written => exact hnext rfl
      | failed message => exact hnext rfl

theorem eq_of_isSome_queue {d : Dispatcher ρ} (h : d.queue.isSome) :
    d = { d with queue := some d.queued } := by
  obtain ⟨records, hqueue⟩ := Option.isSome_iff_exists.mp h
  rw [Dispatcher.queued, hqueue, Option.getD_some, ← hqueue]

/-- The worker works by taking records and hearing of them from the sink. -/
theorem exists_run_work (sink : Sink ρ σ) (c : Timeline ρ) (hqueue : c.now.HasQueue) (world : σ) :
    ∃ moves, c.run moves = { c with now := c.now.work sink world } := by
  obtain ⟨before, ⟨d, l⟩, phase, said⟩ := c
  cases hworker : d.worker with
  | absent =>
      refine ⟨[], ?_⟩
      simp only [Scene.work, Dispatcher.work, Ledger.work, hworker]
      rfl
  | waiting =>
      have hsome := eq_of_isSome_queue (hqueue (by rw [Dispatcher.isRunning, hworker]))
      obtain ⟨moves, hmoves⟩ :=
        exists_run_drain sink ⟨before, ⟨d, l⟩, phase, said⟩ l hworker world d.queued
      rw [← hsome] at hmoves
      refine ⟨moves, hmoves.trans ?_⟩
      simp only [Scene.work, Dispatcher.work, Ledger.work, hworker]
  | busy record =>
      have hsome := eq_of_isSome_queue (hqueue (by rw [Dispatcher.isRunning, hworker]))
      simp only [Scene.work, Dispatcher.work, Ledger.work, hworker, Dispatcher.drain]
      rcases sink record world with ⟨reply, noted, world'⟩
      have hsettled := settle_of_taken d record d.queued d.worker reply
      rw [← hsome] at hsettled
      have hreply := after_reply ⟨before, ⟨d, l⟩, phase, said⟩ hworker reply
      dsimp only at hreply
      rw [hsettled] at hreply
      have hnext (hwaiting : (d.settle record reply).1.worker = .waiting) :
          ∃ moves, run ⟨before, ⟨d, l⟩, phase, said⟩ moves =
            ⟨before, ⟨((d.settle record reply).1.drain sink world' d.queued).1,
              (l.reply record reply).drain sink world' d.queued⟩, phase, said⟩ := by
        obtain ⟨moves, hmoves⟩ := exists_run_drain sink ⟨before, ⟨d, l⟩, phase, said⟩
          (l.reply record reply) hwaiting world' d.queued
        refine ⟨.reply reply :: moves, ?_⟩
        rw [run, List.foldl_cons, hreply]
        exact hmoves
      cases reply with
      | held => exact ⟨[.reply .held], hreply⟩
      | written => exact hnext rfl
      | failed message => exact hnext rfl

/-- The end of the worker and then that of the queue give up what is left. -/
theorem forget_stop (s : Scene ρ) :
    s.stop.forget = ⟨s.dispatcher.stop.forget, s.ledger.giveUp s.dispatcher⟩ := by
  have hgone : s.stop.dispatcher.atSink = [] := rfl
  have hpending : s.stop.dispatcher.pending = s.dispatcher.pending := rfl
  rw [Scene.forget, Ledger.giveUp, hgone, hpending]
  simp only [Scene.stop, Ledger.cutOff, Ledger.giveUp, List.append_nil, List.length_nil,
    Nat.add_zero, Nat.add_assoc, Nat.add_comm s.dispatcher.atSink.length]

theorem close_of_not_isRunning (sink : Sink ρ σ) {s : Scene ρ} (h : ¬s.dispatcher.isRunning)
    (world : σ) : s.close sink world = s := by
  have habsent := s.dispatcher.worker_of_not_isRunning h
  simp [Scene.close, Dispatcher.close, Dispatcher.flush, Ledger.work, h, habsent]

/-- A close lets the worker work and ends it, and the queue with it. -/
theorem close_of_isRunning (sink : Sink ρ σ) {s : Scene ρ} (h : s.dispatcher.isRunning) (world : σ) :
    s.close sink world = (s.work sink world).stop.forget := by
  rw [forget_stop]
  simp only [Scene.close, Dispatcher.close, Dispatcher.flush, h, Bool.not_true, Bool.false_eq_true,
    if_false, Scene.work]
  split
  case isFalse => rfl
  case isTrue hdrained =>
    obtain ⟨hqueued, hsink⟩ :=
      (Dispatcher.isDrained_iff _).mp (Bool.and_eq_true_iff.mp hdrained).2
    rw [Ledger.giveUp_of_drained _ hqueued hsink]

/-- The wait of a close ends in one way or the other, and what follows is the same. -/
theorem run_of_decide {c : Timeline ρ} {m : Move ρ} {isDrained : Bool}
    (h : c.after m = c.decide isDrained) :
    c.run [m, .endWorker, .endClose] =
      { before := c.now.stop.forget
        now := c.now.stop.forget
        said := (c.decide isDrained).said } := by
  rw [run, List.foldl_cons, h]
  rfl

/-- A close that nothing interferes with takes these steps. -/
theorem exists_run_close (sink : Sink ρ σ) {c : Timeline ρ} (hphase : c.phase = .open_)
    (hqueue : c.now.HasQueue) (world : σ) :
    ∃ moves, let c' := c.run (.beginClose :: moves)
      c'.phase = .open_ ∧ c'.now = c.now.after sink (.close world) ∧
        (c.now.dispatcher.close sink world).2.2 =
          (c.now.dispatcher.flush sink (some c.now.dispatcher.shutdownTimeout) world).2.2.2 ++
            c'.said := by
  obtain ⟨before, s, phase, said⟩ := c
  cases hphase
  by_cases hrunning : s.dispatcher.isRunning
  · have hbegin : after ⟨before, s, .open_, said⟩ .beginClose = ⟨before, s, .draining, []⟩ := by
      simp only [after, hrunning, if_true]
    obtain ⟨moves, hmoves⟩ := exists_run_work sink ⟨before, s, .draining, []⟩ hqueue world
    have hclose : s.after sink (.close world) = (s.work sink world).stop.forget :=
      close_of_isRunning sink hrunning world
    simp only [hclose, Dispatcher.close, Dispatcher.flush, hrunning, Bool.not_true,
      Bool.false_eq_true, if_false]
    generalize hflag : (!(some s.dispatcher.shutdownTimeout).any (Span.isOver) &&
      (s.dispatcher.work sink world).1.isDrained) = isDrained
    have hwait : ∃ m, after ⟨before, s.work sink world, .draining, []⟩ m =
        decide ⟨before, s.work sink world, .draining, []⟩ isDrained := by
      cases isDrained with
      | true =>
          have hfound : (s.work sink world).dispatcher.isDrained := (Bool.and_eq_true_iff.mp hflag).2
          exact ⟨.findDrained, by simp only [after, hfound, if_true]⟩
      | false => exact ⟨.giveUp, rfl⟩
    obtain ⟨m, hm⟩ := hwait
    refine ⟨moves ++ [m, .endWorker, .endClose], ?_⟩
    have hrun : run ⟨before, s, .open_, said⟩ (.beginClose :: (moves ++ [m, .endWorker, .endClose])) =
        run ⟨before, s.work sink world, .draining, []⟩ [m, .endWorker, .endClose] := by
      rw [run, List.foldl_cons, hbegin, List.foldl_append]
      exact congrArg (List.foldl after · _) hmoves
    rw [hrun, run_of_decide hm]
    exact ⟨rfl, rfl, rfl⟩
  · refine ⟨[], ?_⟩
    have hclose : s.after sink (.close world) = s := close_of_not_isRunning sink hrunning world
    simp only [hclose, Dispatcher.close, Dispatcher.flush, hrunning, run, List.foldl_cons,
      List.foldl_nil, after]
    simp

end Timeline

/-! ### What it leaves behind -/

/-- The worker waits when nothing is left for it or when the sink holds a record. -/
theorem Dispatcher.isDrained_or_atSink_drain (sink : Sink ρ σ) (d : Dispatcher ρ) (world : σ)
    (records : List ρ) (h : d.worker = .waiting ∨ records ≠ []) :
    (d.drain sink world records).1.isDrained ∨ (d.drain sink world records).1.atSink.length = 1 := by
  induction records generalizing d world with
  | nil =>
      have hwaiting := h.resolve_right fun hne => hne rfl
      apply Or.inl
      apply (isDrained_iff _).mpr
      exact ⟨rfl, by rw [drain, atSink, hwaiting]⟩
  | cons record rest ih =>
      simp only [drain]
      rcases sink record world with ⟨reply, noted, world'⟩
      cases reply with
      | held => exact .inr rfl
      | written => exact ih (d.settle record .written).1 world' (.inl rfl)
      | failed message => exact ih (d.settle record (.failed message)).1 world' (.inl rfl)

theorem Dispatcher.isDrained_or_atSink_work (sink : Sink ρ σ) {d : Dispatcher ρ} (h : d.isRunning)
    (world : σ) : (d.work sink world).1.isDrained ∨ (d.work sink world).1.atSink.length = 1 := by
  rw [work]
  cases hworker : d.worker with
  | absent => simp [isRunning, hworker] at h
  | waiting => exact d.isDrained_or_atSink_drain sink world _ (.inl hworker)
  | busy record => exact d.isDrained_or_atSink_drain sink world _ (.inr (List.cons_ne_nil _ _))

namespace Timeline

/-- Where nothing interferes, a close leaves unsettled what was queued and what was at the sink when it
could not wait any longer, and nothing otherwise. If it had any time to wait, one record was at the
sink, so that its report is one short. -/
theorem unsettledSince_close {timeout : Span} {c : Timeline ρ} (h : c.IsSound timeout)
    (hphase : c.phase = .open_) (sink : Sink ρ σ) (world : σ) :
    let flushed := c.now.dispatcher.flush sink (some timeout) world
    (c.now.after sink (.close world)).unsettledSince c.before =
        (if flushed.1 then 0 else flushed.2.1.pending + flushed.2.1.atSink.length : Nat) ∧
      (¬timeout.isOver → flushed.1 = false → flushed.2.1.atSink.length = 1) := by
  intro flushed
  by_cases hrunning : c.now.dispatcher.isRunning
  · have hin := h.isIn
    rw [hphase] at hin
    have hflushed : flushed = (!timeout.isOver && (c.now.dispatcher.work sink world).1.isDrained,
        c.now.dispatcher.work sink world) := by
      simp [flushed, Dispatcher.flush, hrunning]
    have hclose : c.now.after sink (.close world) = (c.now.work sink world).stop.forget :=
      close_of_isRunning sink hrunning world
    -- The worker loses nothing, and the end of it and of the queue settles nothing.
    obtain ⟨moves, hmoves⟩ := c.exists_run_work sink h.hasQueue world
    have hworked := h.run moves
    rw [hmoves] at hworked
    have hlost : (c.now.work sink world).ledger.lost = c.before.ledger.lost :=
      (c.now.ledger.lost_work sink c.now.dispatcher world).trans hin.1
    have hleft := h.unsettledSince_before hworked.isBalanced hlost
    have hsettled : (c.now.after sink (.close world)).unsettledSince c.before =
        (c.now.work sink world).unsettledSince c.before := by
      rw [hclose]
      rfl
    rw [hsettled, hleft, hflushed]
    constructor
    · cases hdrained : !timeout.isOver && (c.now.dispatcher.work sink world).1.isDrained with
      | false => rfl
      | true =>
          obtain ⟨hqueued, hsink⟩ :=
            (Dispatcher.isDrained_iff _).mp (Bool.and_eq_true_iff.mp hdrained).2
          simp only [Scene.work, Dispatcher.pending, hqueued, hsink, if_true]
          rfl
    · intro htime hdrained
      apply (Dispatcher.isDrained_or_atSink_work sink hrunning world).resolve_left
      intro hdone
      simp [hdone, htime] at hdrained
  · have hflushed : flushed = (true, c.now.dispatcher, world, []) := by
      simp [flushed, Dispatcher.flush, hrunning]
    have hclose : c.now.after sink (.close world) = c.now := close_of_not_isRunning sink hrunning world
    rw [hclose, hflushed, h.unsettledSince_of_not_isRunning hphase hrunning]
    exact ⟨rfl, fun _ hne => Bool.noConfusion hne⟩

end Timeline

end Clearance
