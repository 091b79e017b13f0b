/-
# Processes

What an authorizer does, as data. A process is done, or it waits for the answer to a question and
goes on with the answer. All that lies outside of the authorizer is reached by questions: the clock,
the cache, the store, the audit, the log of security events and the trace. So a process can be
stopped between any two questions, and several can take turns.
-/

import Clearance.Cache.Attributes
import Clearance.Security.Event
import Clearance.Store.Call

namespace Clearance

/-- What a process can ask for. -/
inductive Question where
  | time
  | lookUp (key : CacheKey)
  | remember (key : CacheKey) (m : AttributeMap)
  | ask (call : StoreCall)
  /-- A call that is given up after a time. -/
  | askWithin (limit : Span) (call : StoreCall)
  | note (entries : List TraceEntry)
  | submit (record : Record)
  | announce (subject : Option String) (facts : DecisionFacts)
  | reject (policy : String) (problems : List String)

/-- What a question is answered by. Who announces a decision or rejects a policy is told what went wrong
with the log, if anything. -/
abbrev Question.Answer : Question → Type
  | time => Time.Moment
  | lookUp _ => Option AttributeMap
  | ask call => Except Fault call.Answer
  | askWithin _ call => Option (Except Fault call.Answer)
  | announce .. | reject .. => Option String
  | remember .. | note _ | submit _ => Unit

/-- A process with a result. -/
inductive Process (α : Type) where
  | done (a : α)
  | wait (question : Question) (next : question.Answer → Process α)

namespace Process

variable {α β : Type}

/-- Go on with the result of a process. -/
def bind : Process α → (α → Process β) → Process β
  | done a, f => f a
  | wait q next, f => wait q fun a => (next a).bind f

instance : Monad Process where
  pure := done
  bind := bind

/-- The process that asks one question. -/
def pose (q : Question) : Process q.Answer := wait q done

@[simp]
theorem pure_eq (a : α) : (pure a : Process α) = done a := rfl

@[simp]
theorem done_bind (a : α) (f : α → Process β) : (done a >>= f) = f a := rfl

@[simp]
theorem wait_bind (q : Question) (next : q.Answer → Process α) (f : α → Process β) :
    (wait q next >>= f) = wait q fun a => next a >>= f := rfl

/-- The result of a process that is done. -/
def result? : Process α → Option α
  | done a => some a
  | wait .. => none

/-- The question that a process waits on. -/
def question? : Process α → Option Question
  | done _ => none
  | wait q _ => some q

/-- The same process, but it ends without a result when a store call is not answered in time. -/
def within (limit : Span) : Process α → Process (Option α)
  | done a => done (some a)
  | wait (.ask call) next => wait (.askWithin limit call) fun
    | some answer => within limit (next answer)
    | none => done none
  | wait q next => wait q fun a => within limit (next a)

end Process

/-- A process that may end in a fault. -/
abbrev Attempt (α : Type) := ExceptT Fault Process α

namespace Attempt

/-- The attempt that asks one question. -/
def pose (q : Question) : Attempt q.Answer := ExceptT.lift (Process.pose q)

/-- The attempt that calls the store. -/
def call (c : StoreCall) : Attempt c.Answer := ExceptT.mk (Process.pose (.ask c))

/-- Leave an entry in the trace. -/
def note (entry : TraceEntry) : Attempt Unit := pose (.note [entry])

/-- The attempt that ends in given words if it ends in a fault from outside of the library. -/
def framed {α : Type} (frame : String → Failure) (a : Attempt α) : Attempt α :=
  ExceptT.mk do
    match ← a.run with
    | .error (.failure f) => return .error (.failure f)
    | .error fault => return .error (.failure (frame fault.message))
    | .ok value => return .ok value

end Attempt

end Clearance
