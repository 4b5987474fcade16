import TokenNet.Node

namespace TokenNet

/-!
# Refusals of a network

A network refuses a call for a cause of its own, or because the node that the
call concerns refuses it.
-/

/-- Why a network refuses a call. -/
inductive NetworkError where
  /-- A name cannot be used for a node. -/
  | invalidName (name : String)
  /-- A node of this name exists. -/
  | duplicateNode (name : String)
  /-- No node of this name exists. -/
  | nodeNotFound (name : String)
  /-- A link would lead from a node to itself. -/
  | selfLink (name : String)
  /-- The link exists. -/
  | duplicateLink (source target : String)
  /-- Nodes and links cannot be added any more. -/
  | topologyFrozen
  /-- The snapshot was never started, or has been taken away. -/
  | unknownSnapshot (snapshot : SnapshotId)
  /-- The snapshot was given up before every node had reported. -/
  | snapshotAbandoned (snapshot : SnapshotId)
  /-- A node reports that is not expected to. -/
  | unexpectedReport (node : String) (snapshot : SnapshotId)
  /-- A node refuses. -/
  | node (name : String) (error : NodeError)
deriving DecidableEq, Repr

/-- The text of a refusal. -/
def NetworkError.message : NetworkError → String
  | invalidName name =>
      "Invalid config: node id " ++ Text.quote name ++
        " must be non-empty and contain no whitespace"
  | duplicateNode name => "Node " ++ name ++ " already exists"
  | nodeNotFound name => "Node " ++ name ++ " does not exist"
  | selfLink name => "Self link on node " ++ name ++ " is not allowed"
  | duplicateLink source target => "Link " ++ source ++ " -> " ++ target ++ " already exists"
  | topologyFrozen => "Topology is frozen once the simulation has started"
  | unknownSnapshot snapshot => "Unknown snapshot " ++ Text.decimalWord snapshot
  | snapshotAbandoned snapshot =>
      "Snapshot " ++ Text.decimalWord snapshot ++ " was abandoned before every node reported"
  | unexpectedReport sender snapshot =>
      "Node " ++ sender ++ " reported unexpected completion of snapshot " ++
        Text.decimalWord snapshot
  | node name error => "Node " ++ name ++ ": " ++ error.message

end TokenNet
