import FeatureFlags.Error
import FeatureFlags.Json.Reader
import FeatureFlags.Resource

/-!
# What a reply means

A reply is a response or a failure to get one.  A body that is no JSON is an error at any status;
then an error envelope counts at any status, then the status, and only then the shape of the body.
-/

set_option autoImplicit false

namespace FeatureFlags.Http

structure Response where
  status : Nat
  body : List UInt8

inductive Reply where
  | response (response : Response)
  | fault (fault : NetworkFault) (message : String)
  /-- The request was refused because of its address. -/
  | refused (message : String)

def envelope? (data : Value) : Option (List (String × Value)) :=
  (data.members?.bind (·.lookup "error")).bind Value.members?

def envelopeMessage (envelope : List (String × Value)) : String :=
  ((envelope.lookup "message").getD (.string "API error")).plain

namespace Response

def members (nesting : Nat) (resource : Resource) (response : Response) :
    Except Error (List (String × Value)) :=
  match Value.ofJson nesting response.body with
  | .error .malformed => .error (.parse (.notJson resource.context response.status))
  | .error .deepArray => .error (.foreign (.tooDeep .jsonArray))
  | .error .deepObject => .error (.foreign (.tooDeep .jsonObject))
  | .ok data =>
      match envelope? data with
      | some envelope =>
          .error (.api response.status (resource.context ++ ": " ++ envelopeMessage envelope)
            envelope)
      | none =>
          if 400 ≤ response.status then
            .error (.api response.status
              (resource.context ++ ": HTTP " ++ toString response.status) [])
          else
            match data.members? with
            | some members => .ok members
            | none => .error (.parse (.notObject resource.context data))

end Response

/-- The members that a reply brings, with the timeout in milliseconds that a failure may report. -/
def Reply.membersWithin (nesting : Nat) (resource : Resource) (timeout : Nat) :
    Reply → Except Error (List (String × Value))
  | .response given => given.members nesting resource
  | .fault cause message =>
      if cause.isTimeout then
        .error (.transport
          ("Request aborted due to timeout being reached (" ++ toString timeout ++ "ms)") true
          (some (.network cause)))
      else
        .error (.transport (resource.context ++ ": " ++ message) false (some (.network cause)))
  | .refused message => .error (.foreign (.invalidUrl message))

def Reply.members (resource : Resource) (timeout : Nat) (reply : Reply) :
    Except Error (List (String × Value)) :=
  reply.membersWithin Json.usualNesting resource timeout

end FeatureFlags.Http
