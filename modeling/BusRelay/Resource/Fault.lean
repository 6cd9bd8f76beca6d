import BusRelay.Text.Quoted
/-!
# Refused settings

Why a resource ID or another setting is refused before anything is received.
-/

namespace BusRelay

/-- What is wrong with the form of a resource ID. -/
inductive ResourceFault where
  | noLeadingSlash
  | emptySegment
  | segmentCount
  /-- Another word than the one that belongs at a position, counted from one. -/
  | keyword (expected : String) (position : Nat)
  deriving DecidableEq, Repr

def ResourceFault.message : ResourceFault → String
  | noLeadingSlash => "must start with '/'"
  | emptySegment => "contains an empty segment"
  | segmentCount => "unexpected number of segments"
  | keyword expected position => s!"expected {Quoted.quote expected} at segment {position}"

/-- Why a setting is refused. -/
inductive SettingFault where
  | malformedResource (id : String) (fault : ResourceFault)
  /-- A resource that messages cannot be received from. -/
  | unsupportedEntity (id : String)
  | unknownProcessor (name : String)
  | invalid (field reason : String)
  deriving DecidableEq, Repr

def SettingFault.message : SettingFault → String
  | malformedResource id fault => s!"invalid resource ID {Quoted.quote id}: {fault.message}"
  | unsupportedEntity id =>
    s!"resource ID {Quoted.quote id} does not refer to a Service Bus entity"
  | unknownProcessor name => s!"unsupported message processor {Quoted.quote name}"
  | invalid field reason => s!"invalid configuration value for {field}: {reason}"

end BusRelay
