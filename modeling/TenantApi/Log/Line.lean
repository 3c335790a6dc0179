import TenantApi.Log.Pattern
import TenantApi.Log.Record

/-!
Lines of a log. A record may come with a pattern for its message and arguments for it; its time is
read before the pattern is filled in.
-/

namespace TenantApi.Log

inductive LineFault where
  | record (fault : Fault)
  | pattern (fault : PatternFault)
  deriving DecidableEq, Repr

def LineFault.message : LineFault → String
  | .record fault => fault.message
  | .pattern fault => fault.message

def line (style : Style) (requestId : String) (record : Record) (arguments : List Json) :
    Except LineFault LooseText := do
  let _ ← record.moment.mapError .record
  let message ← (format record.message arguments).mapError .pattern
  ({ record with message }.write style requestId).mapError .record

end TenantApi.Log
