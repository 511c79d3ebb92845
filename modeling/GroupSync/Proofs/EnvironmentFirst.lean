import GroupSync.Config.Loading
import GroupSync.Proofs.Fallible

/-!
# When settings come from files

Settings come from a file whenever they cannot be taken from the environment, whatever the reason.
With all credentials in the environment there is still one reason left: a timeout that is no number.
This file says exactly when files decide, and that with such a timeout they always do.
-/

namespace GroupSync

open Fallible

/-- A variable that is unset or holds a number. -/
def Environment.HoldsNumber (environment : Environment) (name : String) : Prop :=
  ∀ text, environment.text? name = some text →
    ∃ number, Number.readUInt64 (Text.trimChars text.toList) = .ok number

namespace Config

/-- The variables that must be set if settings are to come from the environment. -/
def credentialVariables : List String :=
  ["UMSYNC_ORGANIZATION_ID", "UMSYNC_CLIENT_ID", "UMSYNC_CLIENT_SECRET"]

/-- The variables that must hold numbers if they are set. -/
def timeoutVariables : List String :=
  ["UMSYNC_CONNECT_TIMEOUT_MS", "UMSYNC_SOCKET_TIMEOUT_MS"]

variable {environment : Environment} {files : Files} {directories : Directories} {name : String}
  {standard : Nat} {failure : Failure}

theorem exists_requiredVariable_eq_ok_iff :
    (∃ text, requiredVariable environment name = .ok text) ↔
      (environment.text? name).isSome = true := by
  rw [requiredVariable]
  cases environment.text? name <;> simp

theorem exists_numberVariable_eq_ok_iff (standard : Nat) :
    (∃ number, numberVariable environment name standard = .ok number) ↔
      environment.HoldsNumber name := by
  rw [numberVariable, Environment.HoldsNumber]
  cases environment.text? name with
  | none => simp
  | some text => cases read : Number.readUInt64 (Text.trimChars text.toList) <;> simp [read]

/-- The environment gives settings exactly if all credentials are set and every timeout that is
set is a number. -/
theorem exists_ofEnvironment_eq_ok_iff :
    (∃ config, ofEnvironment environment = .ok config) ↔
      (∀ name ∈ credentialVariables, (environment.text? name).isSome = true) ∧
        ∀ name ∈ timeoutVariables, environment.HoldsNumber name := by
  have credentials : (∀ name ∈ credentialVariables, (environment.text? name).isSome = true) ↔
      (environment.text? "UMSYNC_ORGANIZATION_ID").isSome = true ∧
        (environment.text? "UMSYNC_CLIENT_ID").isSome = true ∧
        (environment.text? "UMSYNC_CLIENT_SECRET").isSome = true := by
    simp [credentialVariables]
  have timeouts : (∀ name ∈ timeoutVariables, environment.HoldsNumber name) ↔
      environment.HoldsNumber "UMSYNC_CONNECT_TIMEOUT_MS" ∧
        environment.HoldsNumber "UMSYNC_SOCKET_TIMEOUT_MS" := by
    simp [timeoutVariables]
  rw [credentials, timeouts,
    ← exists_numberVariable_eq_ok_iff standardConnectMilliseconds,
    ← exists_numberVariable_eq_ok_iff standardReadMilliseconds]
  simp only [← exists_requiredVariable_eq_ok_iff, ofEnvironment, bind_eq_ok_iff]
  constructor
  · rintro ⟨_, organization, first, client, second, secret, third, connect, fourth, read, fifth, -⟩
    exact ⟨⟨⟨_, first⟩, ⟨_, second⟩, ⟨_, third⟩⟩, ⟨_, fourth⟩, ⟨_, fifth⟩⟩
  · rintro ⟨⟨⟨_, first⟩, ⟨_, second⟩, ⟨_, third⟩⟩, ⟨_, fourth⟩, ⟨_, fifth⟩⟩
    exact ⟨_, _, first, _, second, _, third, _, fourth, _, fifth, rfl⟩

def numberRefusal (name : String) (fault : Number.IntegerFault) : String :=
  "Invalid " ++ name ++ ": " ++ fault.message

theorem numberVariable_eq_error
    (refused : numberVariable environment name standard = .error failure) :
    ∃ fault, failure = .config (numberRefusal name fault) := by
  rw [numberVariable] at refused
  split at refused
  · cases refused
  · split at refused
    · cases refused
    · cases refused
      exact ⟨_, rfl⟩

theorem requiredVariable_ne_error (failure : Failure)
    (given : (environment.text? name).isSome = true) :
    requiredVariable environment name ≠ .error failure := by
  obtain ⟨text, found⟩ := exists_requiredVariable_eq_ok_iff.mpr given
  simp [found]

/-- With all credentials in the environment, it can only be a timeout that is refused. -/
theorem ofEnvironment_eq_error
    (given : ∀ name ∈ credentialVariables, (environment.text? name).isSome = true)
    (refused : ofEnvironment environment = .error failure) :
    ∃ name ∈ timeoutVariables, ∃ fault, failure = .config (numberRefusal name fault) := by
  have organization := requiredVariable_ne_error failure
    (given "UMSYNC_ORGANIZATION_ID" (by simp [credentialVariables]))
  have client := requiredVariable_ne_error failure
    (given "UMSYNC_CLIENT_ID" (by simp [credentialVariables]))
  have secret := requiredVariable_ne_error failure
    (given "UMSYNC_CLIENT_SECRET" (by simp [credentialVariables]))
  simp only [ofEnvironment, bind_eq_error_iff, organization, client, secret, false_or] at refused
  obtain ⟨_, -, _, -, _, -, connect | ⟨_, -, read | ⟨_, -, ⟨⟩⟩⟩⟩ := refused
  · exact ⟨_, by simp [timeoutVariables], numberVariable_eq_error connect⟩
  · exact ⟨_, by simp [timeoutVariables], numberVariable_eq_error read⟩

/-- How the wording of a failure to load settings from files begins. -/
def fileWordings : List String :=
  ["No config file found", "Failed to read config file: ", "Invalid TOML format",
    "Invalid JSON format: ", "Unsupported config format: "]

def IsAboutFiles (failure : Failure) : Prop :=
  ∃ opening ∈ fileWordings, ∃ rest, failure = .config (opening ++ rest)

theorem isAboutFiles_of_ofText {text path : String}
    (refused : ofText text path = .error failure) : IsAboutFiles failure := by
  rw [ofText] at refused
  split at refused
  · rw [ofToml] at refused
    split at refused
    · cases refused
      exact ⟨"Invalid TOML format", by decide, "", rfl⟩
    · split at refused
      · cases refused
      · cases refused
        exact ⟨"Invalid TOML format", by decide, _, rfl⟩
  · split at refused
    · rw [ofJson] at refused
      split at refused
      · cases refused
      · cases refused
        exact ⟨"Invalid JSON format: ", by decide, _, rfl⟩
    · cases refused
      exact ⟨"Unsupported config format: ", by decide, _, rfl⟩

theorem isAboutFiles_of_ofUsualFile
    (refused : (ofUsualFile files directories).outcome = .error failure) :
    IsAboutFiles failure := by
  rw [ofUsualFile] at refused
  split at refused
  · rw [ofExistingFile] at refused
    dsimp only at refused
    split at refused
    · cases refused
      exact ⟨"Failed to read config file: ", by decide, _, rfl⟩
    · exact isAboutFiles_of_ofText refused
  · cases refused
    exact ⟨"No config file found", by decide, " in any of the standard locations", by decide⟩

theorem append_ne_append {first second : String} (count : Nat)
    (long : count ≤ first.toList.length) (otherLong : count ≤ second.toList.length)
    (differ : first.toList.take count ≠ second.toList.take count) (rest otherRest : String) :
    first ++ rest ≠ second ++ otherRest := by
  intro same
  apply differ
  have begun := congrArg (fun text => text.toList.take count) same
  simpa only [String.toList_append, List.take_append_of_le_length long,
    List.take_append_of_le_length otherLong] using begun

/-- No failure to load settings from files reads like the refusal of a timeout. -/
theorem not_isAboutFiles_numberRefusal (known : name ∈ timeoutVariables)
    (fault : Number.IntegerFault) : ¬ IsAboutFiles (.config (numberRefusal name fault)) := by
  rintro ⟨opening, listed, rest, same⟩
  have texts : "Invalid " ++ name ++ (": " ++ fault.message) = opening ++ rest := by
    rw [← String.append_assoc]
    exact Failure.config.inj same
  -- The first nine characters already tell the wordings apart.
  have differ : ∀ name ∈ timeoutVariables, ∀ opening ∈ fileWordings,
      9 ≤ ("Invalid " ++ name).toList.length ∧ 9 ≤ opening.toList.length ∧
        ("Invalid " ++ name).toList.take 9 ≠ opening.toList.take 9 := by
    decide
  obtain ⟨long, otherLong, differ⟩ := differ name known opening listed
  exact append_ne_append 9 long otherLong differ _ _ texts

theorem load_of_error (refused : ofEnvironment environment = .error failure) :
    load environment files directories = ofUsualFile files directories := by
  rw [load, refused]

/-- Settings from the environment do not depend on files, and what is recorded tells them from
settings that come from a file. -/
theorem load_of_ok {config : Config} (files : Files) (directories : Directories)
    (loaded : ofEnvironment environment = .ok config) :
    (load environment files directories).outcome = .ok config ∧
      (∀ otherFiles otherDirectories,
        load environment otherFiles otherDirectories = load environment files directories) ∧
      load environment files directories ≠ ofUsualFile files directories := by
  refine ⟨by rw [load, loaded], fun _ _ => by rw [load, load, loaded], ?_⟩
  intro same
  have events := congrArg Loading.events same
  rw [load, loaded, ofUsualFile] at events
  cases found : probe? files directories with
  | none => simp [found] at events
  | some candidate => simp [found, ofExistingFile] at events

/-- Files decide exactly if a credential is missing or a timeout is no number; otherwise they are
not even looked at.  With all credentials in the environment, loading gives what the environment
gives, its refusal included, exactly if no timeout is refused. -/
theorem load_consultsFiles_iff (environment : Environment) (files : Files)
    (directories : Directories) :
    let given := ∀ name ∈ credentialVariables, (environment.text? name).isSome = true
    let numbers := ∀ name ∈ timeoutVariables, environment.HoldsNumber name
    let loading := load environment files directories
    (loading = ofUsualFile files directories ↔ ¬ (given ∧ numbers)) ∧
    (given ∧ numbers → ∀ otherFiles otherDirectories,
      load environment otherFiles otherDirectories = loading) ∧
    (given → (loading.outcome = ofEnvironment environment ↔ numbers)) := by
  intro given numbers loading
  have usable_iff : (∃ config, ofEnvironment environment = .ok config) ↔ given ∧ numbers :=
    exists_ofEnvironment_eq_ok_iff
  cases taken : ofEnvironment environment with
  | ok config =>
      obtain ⟨outcome, unaffected, differs⟩ := load_of_ok files directories taken
      have usable := usable_iff.mp ⟨config, taken⟩
      refine ⟨?_, fun _ => unaffected, fun _ => ?_⟩
      · exact iff_of_false differs (not_not.mpr usable)
      · exact iff_of_true outcome usable.2
  | error failure =>
      have unusable : ¬ (given ∧ numbers) := by
        rw [← usable_iff, taken]
        simp
      have fromFile : loading = ofUsualFile files directories := load_of_error taken
      refine ⟨iff_of_true fromFile unusable, fun usable => absurd usable unusable, ?_⟩
      intro credentials
      refine iff_of_false ?_ fun holds => unusable ⟨credentials, holds⟩
      rw [fromFile]
      intro same
      obtain ⟨name, known, fault, rfl⟩ := ofEnvironment_eq_error credentials taken
      exact not_isAboutFiles_numberRefusal known fault (isAboutFiles_of_ofUsualFile same)

/-- All credentials are in the environment, and still the settings, with other credentials, are
those of a file, since a timeout is no number. -/
theorem load_replaces_credentials :
    let settings := [("UMSYNC_ORGANIZATION_ID", "ORG@AdobeOrg"), ("UMSYNC_CLIENT_ID", "client"),
      ("UMSYNC_CLIENT_SECRET", "secret"), ("UMSYNC_CONNECT_TIMEOUT_MS", "soon")]
    let environment : Environment :=
      ⟨settings.map fun setting => (setting.1, Text.utf8Bytes setting.2.toList)⟩
    let text := "\x7b\"organization_id\":\"OTHER@AdobeOrg\",\"client_id\":\"other\"," ++
      "\"client_secret\":\"hidden\"\x7d"
    let files : Files := ⟨[(["umsync.json"], .file (Text.utf8Bytes text.toList))]⟩
    (∀ name ∈ credentialVariables, (environment.text? name).isSome = true) ∧
      ofEnvironment environment = .error (.config (numberRefusal "UMSYNC_CONNECT_TIMEOUT_MS"
        .invalidDigit)) ∧
      (load environment files ⟨some "/work", none⟩).outcome =
        .ok (new "OTHER@AdobeOrg" "other" "hidden") := by
  decide +kernel

end Config

end GroupSync
