import BusRelay.Resource.Fault
/-!
# Kinds of conversion

How events are made of messages is chosen by name.
-/

namespace BusRelay

/-- A way to make events of a message. -/
inductive Conversion where
  /-- The message becomes one event. -/
  | wrap
  /-- The body of the message holds the events. -/
  | unpack
  deriving DecidableEq, Repr, Inhabited

namespace Conversion

def name : Conversion → String
  | wrap => "default"
  | unpack => "eventgrid"

def ofName (name : String) : Except SettingFault Conversion :=
  if name = wrap.name then .ok wrap
  else if name = unpack.name then .ok unpack
  else .error (.unknownProcessor name)

end Conversion

end BusRelay
