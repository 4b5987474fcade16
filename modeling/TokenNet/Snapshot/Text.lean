import TokenNet.Snapshot.Basic

namespace TokenNet

/-!
# Texts of snapshots

Balances and transfers are listed one to a line, each line after an indent of
the caller's choice.  The fixture text is the form that can be read back: the
number, a line per balance, a line per transfer.
-/

/-- The text of a transfer. -/
def Transfer.text (transfer : Transfer) : String :=
  transfer.source ++ " -> " ++ transfer.target ++ ": token(" ++
    Text.decimalWord transfer.amount ++ ")"

namespace Snapshot

/-- The text of one balance; a single token is named in the singular. -/
def balanceText (node : String) (tokens : UInt64) : String :=
  node ++ ": " ++ Text.decimalWord tokens ++ if tokens = 1 then " token" else " tokens"

/-- Balances, one to a line. -/
def balancesText (indent : String) (balances : SortedMap String UInt64) : String :=
  "\n".intercalate (balances.toList.map fun entry => indent ++ balanceText entry.1 entry.2)

/-- Transfers, one to a line. -/
def transfersText (indent : String) (transfers : List Transfer) : String :=
  "\n".intercalate (transfers.map fun transfer => indent ++ transfer.text)

/-- The snapshot for a reader: a heading, the balances, and the transfers if
there are any. -/
def text (snapshot : Snapshot) : String :=
  "Snapshot " ++ Text.decimalWord snapshot.id ++ ":\n" ++
    balancesText "\t" snapshot.balances ++ "\n" ++
    if snapshot.messages.isEmpty then "" else transfersText "\t" snapshot.messages ++ "\n"

/-- The line of a balance in a fixture. -/
def balanceLine (node : String) (tokens : UInt64) : String :=
  node ++ " " ++ Text.decimalWord tokens ++ "\n"

/-- The line of a transfer in a fixture. -/
def transferLine (transfer : Transfer) : String :=
  transfer.source ++ " " ++ transfer.target ++ " token(" ++
    Text.decimalWord transfer.amount ++ ")\n"

/-- The snapshot as a fixture text. -/
def fixture (snapshot : Snapshot) : String :=
  Text.decimalWord snapshot.id ++ "\n" ++
    String.join (snapshot.balances.toList.map fun entry => balanceLine entry.1 entry.2) ++
    String.join (snapshot.messages.map transferLine)

end Snapshot

end TokenNet
