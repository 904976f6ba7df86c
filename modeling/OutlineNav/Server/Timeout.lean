import OutlineNav.Decimal.Double
import OutlineNav.Language

/-!
# Timeouts

How long an answer of a server is waited for. The configured number of seconds is stretched for
languages whose servers need longer to get ready, doubled while a server opens a connection, and cut
to a tenth while it closes one. Seconds are binary64 numbers until they are rounded to nanoseconds.
-/

namespace OutlineNav.Server

/-- The kinds of requests with regard to their duration. -/
inductive Operation where
  | request
  | initialization
  | shutdown
  deriving DecidableEq, Repr

namespace Operation

def name : Operation → String
  | .request => "Request"
  | .initialization => "Initialization"
  | .shutdown => "Shutdown"

def ofMethod : String → Operation
  | "initialize" => .initialization
  | "shutdown" => .shutdown
  | _ => .request

def multiplier : Operation → Float
  | .request => 1.0
  | .initialization => 2.0
  | .shutdown => 0.1

end Operation

/-- How much longer the servers of a language take than others. -/
def languageMultiplier : Language → Float
  | .java | .kotlin => 4.0
  | .python | .typescript | .javascript => 2.5
  | .cpp | .csharp => 1.5
  | _ => 1.0

/-- A length of time in nanoseconds. -/
structure Duration where
  nanoseconds : Nat
  deriving DecidableEq, Repr

namespace Duration

def perSecond : Nat := 1000000000

def seconds (d : Duration) : Nat := d.nanoseconds / perSecond

/-- The nanoseconds beyond the whole seconds. -/
def fraction (d : Duration) : Nat := d.nanoseconds % perSecond

end Duration

/-- How long an answer to `method` is waited for, where `seconds` is the configured base. -/
def timeout (seconds : UInt64) (language : Language) (method : String) : Duration :=
  let multiplier := languageMultiplier language * (Operation.ofMethod method).multiplier
  ⟨(Double.ofFloat (seconds.toFloat * multiplier)).roundTo Duration.perSecond⟩

end OutlineNav.Server
