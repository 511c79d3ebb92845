import GroupSync.Response

/-!
# Failures of a synchronization

Every failure ends the run that it occurs in.  Rate limits are absorbed by the retries and
surface as a failed exchange only when the retries are used up.
-/

namespace GroupSync

/-- Why a synchronization failed. -/
inductive Failure where
  /-- No access token could be acquired. -/
  | auth (text : String)
  /-- The action endpoint answered with a failing status. -/
  | transport (status : Nat) (reason body : String) (request : AnsweredRequest)
  /-- A response could not be understood. -/
  | protocol (text : String)
  /-- A response was understood and reports failed commands. -/
  | domain (errors : List Issue) (request : Option AnsweredRequest)
  /-- An exchange failed before any status arrived. -/
  | network (text : String)
  /-- The configuration is missing or invalid. -/
  | config (text : String)
  /-- An unexpected local failure. -/
  | internal (text : String)
deriving DecidableEq

namespace Failure

/-- The label of a failure in log fields. -/
def kind : Failure → String
  | auth _ => "auth"
  | transport _ _ _ _ => "transport"
  | protocol _ => "protocol"
  | domain _ _ => "domain"
  | network _ => "network"
  | config _ => "config"
  | internal _ => "internal"

def status? : Failure → Option Nat
  | transport status _ _ _ => some status
  | _ => none

def message : Failure → String
  | auth text => "Authentication error: " ++ text
  | transport status reason body request =>
      "HTTP " ++ toString status ++ " " ++ reason ++ ", body: " ++ body ++ ", for request " ++
        request.render
  | protocol text => "Protocol error: " ++ text
  | domain errors request =>
      "Errors updating groups: [" ++ Issue.renderList errors ++ "] for request " ++
        AnsweredRequest.renderOption request
  | network text => "Network error: " ++ text
  | config text => "Configuration error: " ++ text
  | internal text => "Internal error: " ++ text

end Failure

end GroupSync
