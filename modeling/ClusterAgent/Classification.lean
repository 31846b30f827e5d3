import ClusterAgent.Failure

/-!
Contract: the classification of failures of the cluster's interface.

A status decides the class if there is one, on the failure itself or on the
response it carries; otherwise the code of a network failure decides. A failure
that is classified already stays as it is. A failure that no code or status
tells apart is kept as a text, and one that has no text cannot be classified.

Owns: which class, code and message a failure gets.
Does not own: what happens after a failure.
-/

namespace ClusterAgent

namespace Members

/-- The object under a key; a list counts as one without members. -/
def object? (members : Members) (key : String) : Option Members :=
  match members.lookup key with
  | some (.object held) => some held
  | some (.list _) => some []
  | _ => none

def number? (members : Members) (key : String) : Option Number :=
  match members.lookup key with
  | some (.number number) => some number
  | _ => none

/-- The text under a key unless it is empty. -/
def nonempty? (members : Members) (key : String) : Option String :=
  (text? members key).filter (· ≠ "")

/-- The members under the given keys that are present, in the order of the keys. -/
def pick (members : Members) (keys : List String) : Members :=
  keys.filterMap fun key => (members.lookup key).map (key, ·)

end Members

namespace ApiError

/-- The class that a status stands for. -/
def ofStatus (status : Number) (message : String) (details : Value) : ApiError :=
  if status = .ofNat 401 then authentication message details
  else if status = .ofNat 403 then authorization message details
  else if status = .ofNat 404 then notFound message details
  else if status ∈ [500, 502, 503, 504].map Number.ofNat then unavailable message details
  else general message (some (.text "API_ERROR")) (some (.number status)) details

/-- The status of a failure: its own number, else that of the response it carries. -/
def status? (fields : Members) : Option Number :=
  (Members.number? fields "statusCode").or
    ((Members.object? fields "response").bind (Members.number? · "statusCode"))

/-- The codes of failures to reach a host. -/
def networkCodes : List String := ["ECONNREFUSED", "ENOTFOUND", "ETIMEDOUT"]

def statusMessage (status : Number) (fields body : Members) : String :=
  (((Members.nonempty? body "message").or (Members.nonempty? body "reason")).or
    (Members.nonempty? fields "message")).getD s!"HTTP {status.text}"

def unknown (message : String) (details : Members) : ApiError :=
  general message (some (.text "UNKNOWN_ERROR")) none (.object details)

def ofFailure (failure : Failure) : Except Undeclared ApiError :=
  match failure with
  | .api error => .ok error
  | failure =>
    match failure.fields? with
    | none => do return unknown (← requireText failure.plainText?) []
    | some fields =>
      match status? fields with
      | some status =>
        let body := (Members.object? fields "body").getD []
        .ok (ofStatus status (statusMessage status fields body)
          (.object (Members.pick body ["kind", "apiVersion", "reason", "code"])))
      | none =>
        let message := (Members.nonempty? fields "message").getD "Unknown error"
        match (Members.text? fields "code").filter (· ∈ networkCodes) with
        | some code => .ok (network message (.object [("code", .text code)]))
        | none => do
          return unknown message [("originalError", .text (← requireText failure.plainText?))]

end ApiError

end ClusterAgent
