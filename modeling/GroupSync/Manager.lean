import GroupSync.ActionEndpoint
import GroupSync.Synchronization
import GroupSync.TokenSource

/-!
# Managing the groups of an organization

A manager joins a token source and an action endpoint that follow from one configuration, and
synchronizes groups through them.
-/

namespace GroupSync

/-- Synchronizes the groups of one organization. -/
structure Manager where
  tokens : TokenSource
  endpoint : ActionEndpoint
  profiles : NameSet
  organizationId : String
  testOnly : Bool

namespace Manager

/-- The name of the directory that is managed. -/
def label : String :=
  "Adobe IMS"

def logTarget : String :=
  "umsync_infra::umapi::management"

def readyEvent (config : Config) : LogEvent :=
  ⟨.info, logTarget, label ++ " group management ready",
    [("organization_id", .text config.organizationId), ("test_only", .boolean config.testOnly),
      ("product_profiles", .number config.productProfiles.length)]⟩

def updateEvent (manager : Manager) (groups : List Group) : LogEvent :=
  ⟨.info, logTarget, "Updating groups",
    [("label", .text label), ("organization_id", .text manager.organizationId),
      ("test_only", .boolean manager.testOnly), ("groups", .number groups.length)]⟩

def shutdownEvent (manager : Manager) : LogEvent :=
  ⟨.info, logTarget, label ++ " group management shut down",
    [("organization_id", .text manager.organizationId)]⟩

/-- The manager of a configuration, if its action URL can be built. -/
def ofConfig (client : Http.Client) (config : Config) : Except Failure Manager := do
  let endpoint ← ActionEndpoint.ofConfig client config
  return {
    tokens := .ofConfig client config
    endpoint := endpoint
    profiles := .ofList config.productProfiles
    organizationId := config.organizationId
    testOnly := config.testOnly }

def openWith (client : Http.Client) (config : Config) :
    Http.Session (Except Failure Manager) := do
  match ofConfig client config with
  | .error error => return .error error
  | .ok manager =>
      Http.Session.record (readyEvent config)
      return .ok manager

/-- Open a manager on a client of its own; the configuration must be valid. -/
def openValid (config : Config) : Http.Session (Except Failure Manager) := do
  match config.check with
  | .error error => return .error error
  | .ok _ => openWith (.new .standard) config

variable [Http.BodyDecoding]

/-- The ways in which a manager reaches the world. -/
def channels (manager : Manager) : Channels Http.Session where
  token := manager.tokens.acquire
  send := manager.endpoint.send
  record := Http.Session.record

def update (manager : Manager) (groups : List Group) :
    Http.Session (Except RunFailure Summary) := do
  Http.Session.record (manager.updateEvent groups)
  Synchronization.run manager.channels manager.profiles groups

def shutdown (manager : Manager) : Http.Session Unit :=
  Http.Session.record manager.shutdownEvent

end Manager

end GroupSync
