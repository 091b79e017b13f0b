/-
# Batches

One action on many resources. Each resource counts once, at its first place. They are worked through
in chunks of a limited width, and the requests of a chunk are under way together. When time runs out,
what is under way is dropped and what is left is not begun; both get the same result without a
decision.

How the requests of a chunk take turns, and when time runs out, is left open: a course says it for
each chunk, and the world around the batch says it for the rest.
-/

import Clearance.Authorization.Authorize
import Clearance.Process.Run

namespace Clearance

/-- Members of a list in chunks of a width, of which zero counts as one. -/
def chunks {α : Type} (width : Nat) : List α → List (List α)
  | [] => []
  | a :: rest => (a :: rest.take (width - 1)) :: chunks width (rest.drop (width - 1))
termination_by members => members.length
decreasing_by
  simp only [List.length_drop, List.length_cons]
  omega

/-- How the requests of a chunk come along: they take turns, and then either time runs out or each
goes on as far as it can. -/
structure Course where
  turns : List Nat := []
  isCut : Bool := false

/-- What goes on around a batch. -/
structure Pace (ω : Type) where
  /-- The course of each chunk by its number. -/
  course : Nat → Course := fun _ => {}
  hasDeadline : Bool := false
  /-- Whether the deadline has passed. -/
  isOver : ω → Bool := fun _ => false
  /-- The deadline passes. -/
  runOut : ω → ω := id
  /-- What else happens before the first request of a chunk gets its turn, and after the last one. -/
  meanwhile : ω → ω := id
  /-- What happens between two chunks. -/
  pause : ω → ω := id
  /-- A question is dropped. -/
  drop : Question → ω → ω := fun _ w => w

namespace Batch

variable {ω : Type}

/-- The request on one resource. -/
def request (subject action : Option String) (context : List (String × Value)) (resource : String) :
    Request where
  subject := subject
  action := action
  resource := some resource
  context := context

/-- What is done about a resource that time does not suffice for. -/
def late (subject action : Option String) (resource : String) : Process Result := do
  let result := Result.indeterminate Authorization.deadlineExceeded
  Authorization.announce (request subject action [] resource) result
  return result

/-- Let the requests of a chunk take their course. -/
def advance (h : Handler ω) (course : Course) (pool : List (Process Result)) (w : ω) :
    List (Process Result) × ω :=
  let (pool, w) := Process.follow h course.turns pool w
  if course.isCut then (pool, w) else Process.settle h pool w

/-- Drop the questions that processes wait on. -/
def dropAll (pace : Pace ω) (pool : List (Process Result)) (w : ω) : ω :=
  (pool.filterMap Process.question?).foldl (fun w q => pace.drop q w) w

/-- The processes with those that are not done replaced by ones of the same resources. -/
def replace (late : String → Process Result) (ids : List String) (pool : List (Process Result)) :
    List (Process Result) :=
  List.zipWith (fun id p => if p.result?.isSome then p else late id) ids pool

/-- The results of one chunk, or none if it is not done and there is no deadline. -/
def chunk (h : Handler ω) (pace : Pace ω) (course : Course) (start late : String → Process Result)
    (ids : List String) (w : ω) : Option (List Result) × ω :=
  if pace.isOver w then
    let (pool, w) := Process.settle h (ids.map late) w
    (pool.mapM Process.result?, w)
  else
    let (pool, w) := advance h course (ids.map start) (pace.meanwhile w)
    let w := pace.meanwhile w
    match pool.mapM Process.result? with
    | some results => (some results, w)
    | none =>
      let w := dropAll pace pool w
      if pace.hasDeadline then
        let (pool, w) := Process.settle h (replace late ids pool) (pace.runOut w)
        (pool.mapM Process.result?, w)
      else (none, w)

/-- The results of chunks in order, the first of which has a number. -/
def work (h : Handler ω) (pace : Pace ω) (start late : String → Process Result) :
    Nat → List (List String) → ω → Option (List (String × Result)) × ω
  | _, [], w => (some [], w)
  | n, ids :: rest, w =>
    let isOver := pace.isOver w
    match chunk h pace (pace.course n) start late ids w with
    | (none, w) => (none, w)
    | (some results, w) =>
      let w := if isOver || rest.isEmpty then w else pace.pause w
      let (more, w) := work h pace start late (n + 1) rest w
      (more.map (ids.zip results ++ ·), w)

end Batch

open Batch in
/-- Answer the requests of a subject for one action on many resources, in chunks of a width. The
results are those of the distinct resources in order; there are none if some request never ends and
no deadline ends the batch. -/
def authorizeMany {ω : Type} (h : Handler ω) (pace : Pace ω) (s : Settings) (width : Nat)
    (subject action : Option String) (resources : List String) (context : List (String × Value))
    (w : ω) : Option (List (String × Result)) × ω :=
  work h pace (fun id => authorize s (request subject action context id) none) (late subject action) 0
    (chunks width (Ordered.distinct resources)) w

end Clearance
