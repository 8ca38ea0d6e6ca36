import ManifestOwnership.Cluster.Request

/-! # A described cluster

A cluster given by description: the resources it serves, and the replies to come for reading,
creating and replacing. It answers lookups from the description and everything else from the
replies, one after the other.
-/

namespace ManifestOwnership.Cluster

/-- A resource that a cluster serves. -/
structure Served where
  apiVersion : Value
  kind : Value
  shortNames : List Value

namespace Served

def toValue (served : Served) : Value :=
  .object [("apiVersion", served.apiVersion), ("kind", served.kind)]

end Served

/-- A cluster given by description. -/
structure Directory where
  served : List Served
  /-- The fault of every lookup, if lookups fail. -/
  lookupFault : Option Fault
  gets : List (Except Fault Value)
  creates : List (Except Fault Value)
  replaces : List (Except Fault Value)
  /-- Whether a client has been connected, which the first lookup does. -/
  connected : Bool

namespace Directory

def single : List Served → Except Fault Value
  | [] => .error (.kindMissing "no matches")
  | [served] => .ok served.toValue
  | _ => .error (.kindAmbiguous "multiple matches")

/-- The reply to a lookup of the resources that satisfy a condition. -/
def lookUp (directory : Directory) (condition : Served → Bool) : Except Fault Value :=
  match directory.lookupFault with
  | some fault => .error fault
  | none => single (directory.served.filter condition)

/-- The first of the replies to come, and the others. -/
def next : List (Except Fault Value) → Except Fault Value × List (Except Fault Value)
  | [] => (.error .pastEnd, [])
  | reply :: rest => (reply, rest)

def answer (directory : Directory) : Request → Interaction.Answer Directory Value
  | .findKind apiVersion kind =>
    ⟨{ directory with connected := true }, directory.lookUp fun served =>
      served.apiVersion.equals apiVersion && served.kind.equals kind, []⟩
  | .findShortName apiVersion name =>
    ⟨{ directory with connected := true }, directory.lookUp fun served =>
      served.apiVersion.same apiVersion && served.shortNames.any (·.same name), []⟩
  | .get _ _ _ _ =>
    let (reply, rest) := next directory.gets
    ⟨{ directory with gets := rest }, reply, []⟩
  | .create _ _ _ _ =>
    let (reply, rest) := next directory.creates
    ⟨{ directory with creates := rest }, reply, []⟩
  | .replace _ _ _ _ _ =>
    let (reply, rest) := next directory.replaces
    ⟨{ directory with replaces := rest }, reply, []⟩

end Directory

end ManifestOwnership.Cluster
