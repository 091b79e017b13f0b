/-
# Routes

The authorizer over the web. All paths stand below one that is chosen by whoever mounts the routes.
-/

import Clearance.Service.Basic
import Clearance.Version
import Clearance.Web.Body

namespace Clearance.Web

/-- What is sent back: a status and a document, null for none. -/
structure Response where
  status : Nat
  body : Value

/-- The endpoints. -/
inductive Endpoint where
  | performAction
  | read
  | write
  | delete
  | performActionOnResources
  | test
deriving DecidableEq

namespace Endpoint

/-- The path of an endpoint below the common one. -/
def path : Endpoint → String
  | performAction => "/canUserPerformAction"
  | read => "/canUserRead"
  | write => "/canUserWrite"
  | delete => "/canUserDelete"
  | performActionOnResources => "/canUserPerformActionOnResources"
  | test => "/test"

/-- The method that an endpoint is called by. -/
def method : Endpoint → String
  | test => "GET"
  | _ => "POST"

/-- The endpoints in the order in which they are tried. -/
def all : List Endpoint := [performAction, read, write, delete, performActionOnResources, test]

/-- The endpoint at a path. -/
def at? (mount path : String) : Option Endpoint := all.find? fun e => mount ++ e.path == path

end Endpoint

/-- An answer without a decision. -/
def refusal (status : Nat) (detail : String) : Response :=
  ⟨status, .ofFields [("detail", .text detail)]⟩

/-- The answer to a body that is not taken. -/
def refuseBody : BodyFault → Response
  | .problems list => ⟨422, .ofFields [("detail", .list (list.map Problem.toValue))]⟩
  | .unreadable => refusal 400 "There was an error parsing the body"

/-- The fields of a result. -/
def resultFields (r : Result) : Value :=
  .ofFields [("decision", .text r.decision.name), ("reason", .text r.reason),
    ("appliedPolicies", .list (r.applied.map .text))]

/-- The answer with one decision. -/
def decisionResponse (r : Result) : Response := ⟨200, .ofFields [("decision", resultFields r)]⟩

/-- The answer with a decision for each resource. -/
def decisionsResponse (results : List (String × Result)) : Response :=
  ⟨200, .ofFields [("decisions", .ofFields (results.map fun (id, r) => (id, resultFields r)))]⟩

/-- The answer of the endpoint that only shows that there is one. -/
def statusResponse : Response :=
  ⟨200, .ofFields [("message", .text "ABAC plugin is working!"), ("version", .text (version none))]⟩

variable {σ : Type}

/-- Answer a request that is read from a body. There is no answer if the decision never comes. The
request is taken to the authorizer first, and the audit goes on meanwhile. -/
def decide (s : Service σ) (request : Except BodyFault Request) (w : World σ) :
    Option Response × World σ :=
  match request with
  | .error fault => (some (refuseBody fault), w)
  | .ok r =>
    let (result, w) := s.authorize r none (w.serve s.store)
    (result.map decisionResponse, w)

/-- Answer a request on many resources. -/
def decideMany (s : Service σ) (request : Except BodyFault BatchRequest) (w : World σ) :
    Option Response × World σ :=
  match request with
  | .error fault => (some (refuseBody fault), w)
  | .ok r =>
    match s.authorizeMany (some r.subject) (some r.action) r.resources r.context none
        (w.serve s.store) with
    | (.ok results, w) => (results.map decisionsResponse, w)
    | (.error _, w) => (some (refusal 500 "Internal Server Error"), w)

/-- Answer at an endpoint. -/
def Endpoint.answer (e : Endpoint) (s : Service σ) (body : String) (w : World σ) :
    Option Response × World σ :=
  match e with
  | .performAction => decide s (readBody readActionRequest body) w
  | .read => decide s (readBody (readResourceRequest "read") body) w
  | .write => decide s (readBody (readResourceRequest "write") body) w
  | .delete => decide s (readBody (readResourceRequest "delete") body) w
  | .performActionOnResources => decideMany s (readBody readBatchRequest body) w
  | .test => (some statusResponse, w)

/-- A path without the slashes at its end. -/
def withoutSlash (path : String) : String :=
  String.ofList (path.toList.reverse.dropWhile (· == '/')).reverse

/-- Answer a request. A path with a slash too many is redirected. -/
def respond (s : Service σ) (mount method path body : String) (w : World σ) :
    Option Response × World σ :=
  match Endpoint.at? mount path with
  | some e =>
    if e.method == method then e.answer s body w
    else (some (refusal 405 "Method Not Allowed"), w)
  | none =>
    if path.endsWith "/" && (Endpoint.at? mount (withoutSlash path)).isSome then
      (some ⟨307, .null⟩, w)
    else (some (refusal 404 "Not Found"), w)

end Clearance.Web
