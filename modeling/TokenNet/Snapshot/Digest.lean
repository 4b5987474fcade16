import TokenNet.Digest.Sha256
import TokenNet.Form.Snapshot

namespace TokenNet
namespace Snapshot

/-!
# Digests of snapshots

The balances come in the order of the names, so a snapshot has one JSON text in one
line, and the digest is taken of that text.
-/

/-- The text of which the digest is taken. -/
def digestText (snapshot : Snapshot) : String := JsonForm.compact snapshot

/-- The digest of a snapshot. -/
def digest (snapshot : Snapshot) : String := Digest.sha256Hex snapshot.digestText

end Snapshot
end TokenNet
