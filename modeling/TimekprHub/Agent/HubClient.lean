import TimekprHub.Library.PyJson

namespace TimekprModel

universe u

inductive HttpOutcome
  | failed
  | replied (status : Nat) (body : List UInt8)

structure HubClient where
  token : Option String
  tokenFile : Option String

def noToken (token : Option String) : Bool := token.all fun text => text = ""

inductive PostError
  | network
  | loads (raised : LoadsError)

/-- How `HubClient.sync` ends. The last is an exception that `run_tick` does not catch. -/
inductive SyncEnd (F : Type)
  | answer (data : PyJson F)
  | revoked
  | unreachable
  | escaped (raised : PyException)

def succeeded (status : Nat) : Bool := 200 ≤ status && status < 300

def rejected (status : Nat) : Bool := status = 401 || status = 403

section Post

variable {F : Type} (loads : List UInt8 → Except LoadsError (PyJson F))

/-- urllib returns a 2xx reply, and raises any other as an HTTPError that is turned back into a reply. The
    two parse their bodies under different handlers. -/
def post : HttpOutcome → Except PostError (Nat × PyJson F)
  | .failed => .error .network
  | .replied status body =>
    match if body = [] then .ok (.dict []) else loads body with
    | .ok data => .ok (status, data)
    | .error raised =>
      if succeeded status then .error (if raised.isValueError then .network else .loads raised)
      else if raised = .jsonDecodeError then .ok (status, .dict [])
      else .error (.loads raised)

def judge : Except PostError (Nat × PyJson F) → SyncEnd F
  | .error .network => .unreachable
  | .error (.loads raised) => .escaped (.loads raised)
  | .ok (status, data) =>
    if rejected status then .revoked
    else if 400 ≤ status then .unreachable
    else .answer data

namespace HubClient

def hasFreshToken (client : HubClient) : Bool := !noToken client.tokenFile && client.tokenFile ≠ client.token

/-- After a 401 or 403 a fresh token is tried once. -/
def sync (client : HubClient) (first retry : HttpOutcome) : SyncEnd F :=
  if noToken client.token then .escaped .runtimeError
  else
    match post loads first with
    | .ok (status, data) =>
      if rejected status && client.hasFreshToken then judge (post loads retry)
      else judge (.ok (status, data))
    | .error raised => judge (.error raised)

end HubClient

end Post

end TimekprModel
