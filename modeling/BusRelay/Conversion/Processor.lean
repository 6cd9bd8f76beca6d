import BusRelay.Conversion.Kind
import BusRelay.Conversion.Unpack
import BusRelay.Conversion.Wrap
import BusRelay.Handling.Fault
/-!
# Processors

What makes events of a message, or says why it cannot.
-/

namespace BusRelay

/-- Makes events of a message. -/
abbrev Processor := Message → Except ProcessingFault (List Event)

/-- The processor of a conversion, for events with this source. -/
def Conversion.processor (conversion : Conversion) (source : String) : Processor := fun m =>
  match conversion with
  | .wrap => .ok [Wrap.event source m]
  | .unpack => match Unpack.events source m with
    | .ok events => .ok events
    | .error fault => .error ⟨m.id, fault.message m.body⟩

end BusRelay
