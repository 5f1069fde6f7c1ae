namespace ExchangeTap

/-- Failures of the broker connection, each with the reason that was given. -/
inductive BrokerError where
  | dial (reason : String)
  | connectionClosed (reason : String)
  | channelClosed (reason : String)
  | notFound (reason : String)
  | operation (reason : String)
  deriving DecidableEq, Repr

namespace BrokerError

def message : BrokerError → String
  | dial reason => "Dial failed: " ++ reason
  | connectionClosed reason => "Connection closed: " ++ reason
  | channelClosed reason => "Channel closed: " ++ reason
  | notFound reason => "Not found: " ++ reason
  | operation reason => "Operation failed: " ++ reason

/-- A fresh channel may cure the failure. -/
def isStaleChannel : BrokerError → Bool
  | channelClosed _ => true
  | _ => false

def isNotFound : BrokerError → Bool
  | notFound _ => true
  | _ => false

def isConnectionClosed : BrokerError → Bool
  | connectionClosed _ => true
  | _ => false

end BrokerError

inductive TapError where
  | notConnected
  | invalidBinding (spec : String)
  | setup (exchange : String) (cause : BrokerError)
  | consume (queue : String) (cause : BrokerError)
  | close (cause : BrokerError)
  | http (reason : String)
  | api (status : Nat) (path body : String)
  | invalidUri (reason : String)
  deriving DecidableEq, Repr

namespace TapError

def message : TapError → String
  | notConnected => "Not connected"
  | invalidBinding spec => "Invalid exchange binding specification: " ++ spec
  | setup exchange cause => s!"Tap setup failed for exchange '{exchange}': " ++ cause.message
  | consume queue cause => s!"Consuming queue '{queue}' failed: " ++ cause.message
  | close cause => "Close failed: " ++ cause.message
  | http reason => "HTTP error: " ++ reason
  | api status path body => s!"Management API returned {status} for {path}: {body}"
  | invalidUri reason => "Invalid URI: " ++ reason

/-- A failed setup is tried again, so it ends nothing. -/
def isTransient : TapError → Bool
  | setup _ _ => true
  | _ => false

def cause? : TapError → Option BrokerError
  | setup _ cause | consume _ cause | close cause => some cause
  | _ => none

end TapError

end ExchangeTap
