import GroupSync.Failure

/-!
# What a response means

A response is refused if it reports errors, and accepted otherwise, with or without remarks.  Its
counters are not looked at: a response that counts failed commands but reports no error is
accepted.
-/

namespace GroupSync

/-- What a response means for the run. -/
inductive Outcome where
  /-- Every command was carried out. -/
  | accepted
  /-- Every command was carried out, and there are remarks. -/
  | acceptedWithRemarks (warnings : List Warning)
  /-- At least one command failed. -/
  | refused (errors : List Issue) (request : Option AnsweredRequest)
deriving DecidableEq

namespace Outcome

/-- Classify a response.  Errors win over remarks. -/
def ofResponse (response : Response) : Outcome :=
  if !response.errors.isEmpty then .refused response.errors response.request
  else if !response.warnings.isEmpty then .acceptedWithRemarks response.warnings
  else .accepted

def isRefused : Outcome → Bool
  | refused _ _ => true
  | _ => false

/-- The remarks of an accepted batch, or the failure that ends the run. -/
def toResult : Outcome → Except Failure (List Warning)
  | accepted => .ok []
  | acceptedWithRemarks warnings => .ok warnings
  | refused errors request => .error (.domain errors request)

theorem toResult_ofResponse (response : Response) :
    (ofResponse response).toResult =
      if response.errors = [] then .ok response.warnings
      else .error (.domain response.errors response.request) := by
  cases errors : response.errors with
  | cons error errors => simp [ofResponse, errors, toResult]
  | nil =>
      cases warnings : response.warnings with
      | nil => simp [ofResponse, errors, warnings, toResult]
      | cons warning warnings => simp [ofResponse, errors, warnings, toResult]

theorem errors_eq_nil_of_toResult_eq_ok {response : Response} {warnings : List Warning}
    (accepted : (ofResponse response).toResult = .ok warnings) : response.errors = [] := by
  by_cases clean : response.errors = []
  · exact clean
  · rw [toResult_ofResponse, if_neg clean] at accepted
    cases accepted

end Outcome

end GroupSync
