import BusRelay.Text.Quoted
import BusRelay.Time.Duration
import BusRelay.Url.Parser
/-!
# Where events are sent

The URL of the sink, and how often and how patiently it is tried.
-/

namespace BusRelay

/-- How events are posted. -/
structure Posting where
  target : Url
  /-- How often an event is sent again. -/
  retries : Nat := 0
  timeout : Duration := .ofSeconds 30
  /-- The pause before an event is sent again; it doubles every time. -/
  pause : Duration := .ofMilliseconds 100

/-- A text that is no URL. -/
structure TargetFault where
  target : String
  fault : UrlFault

def TargetFault.message (f : TargetFault) : String :=
  s!"invalid sink URL {Quoted.quote f.target}: {f.fault.message}"

/-- Posting to the URL that a text is. -/
def Posting.ofTarget (target : String) : Except TargetFault Posting :=
  match Url.parse target with
  | .ok url => .ok { target := url }
  | .error fault => .error ⟨target, fault⟩

end BusRelay
