import ManifestOwnership.Interaction

/-! # Connecting to a cluster

A process inside a cluster connects by the configuration it finds there, and any other process by
the configuration of its user. A client is connected once and then kept.
-/

namespace ManifestOwnership.Cluster.Connection

/-- Where the configuration of a client comes from. -/
inductive Source where
  | inCluster
  | ofUser
  deriving DecidableEq, Inhabited

/-- A step of connecting. -/
inductive Request where
  | readConfiguration (source : Source)
  | openClient (source : Source)
  deriving DecidableEq

/-- Connects by the configuration of one source. -/
def connectBy (source : Source) : Interaction Request Unit Source := do
  let _ ← Interaction.ask (.readConfiguration source)
  let _ ← Interaction.ask (.openClient source)
  return source

/-- Connects from inside a cluster, or as a user if the process does not run inside one. -/
def connect : Interaction Request Unit Source := do
  match ← (connectBy .inCluster).attempt with
  | .ok source => return source
  | .error (.outsideCluster _) => connectBy .ofUser
  | .error fault => .fail fault

def client : Option Source → Interaction Request Unit Source
  | some source => .done source
  | none => connect

end ManifestOwnership.Cluster.Connection
