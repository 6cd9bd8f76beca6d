import BusRelay.Http.Uri
import BusRelay.Log.Filter
import BusRelay.Relay.VirtualTime
import BusRelay.Startup
/-!
# Sessions

What a program does from its start in an environment to its end: what it says on standard error, what
it logs, and the code it ends with. Once it listens it ends on a signal.
-/

namespace BusRelay

/-- Why a program ends before it can log. -/
inductive BootFault where
  | configuration (fault : LoadFault)
  | collector (fault : UriFault)

def BootFault.message : BootFault → String
  | configuration fault => "sbsource: loading configuration: " ++ fault.message
  | collector fault => "sbsource: initializing telemetry: " ++
      "Exporter otlp encountered the following error(s): invalid URI " ++ fault.message

/-- How a program has ended. -/
structure Exit where
  code : Nat
  /-- The lines on standard error. -/
  errors : List String
  records : List Log.Record

/-- A program that listens. -/
structure Listening where
  errors : List String
  records : List Log.Record
  filter : Log.Filter
  source : Source

/-- How far a program gets on its own. -/
inductive Session where
  | over (exit : Exit)
  | listening (l : Listening)

namespace Session

/-- The filter that the environment asks for, and what is said about it: the one of the log settings
if all of it can be read, else the one of the configuration. -/
def filter (env : Environment) (c : Configuration) : Log.Filter × List String :=
  match (env.text? "RUST_LOG").bind Log.Filter.read? with
  | some f => (f, [])
  | none => (.readSome c.logLevel, Log.Filter.notices c.logLevel)

/-- The code of a program that was refused something. -/
def failure : Nat := 1

/-- The code of a program that came down. -/
def crash : Nat := 101

def terminatedRecord (message : String) : Log.Record :=
  programRecord .error "source terminated" [("error", .text message)]

/-- Starts the source of a configuration. -/
def launch (c : Configuration) (f : Log.Filter) (notices : List String) : Session :=
  let launched := c.launch
  match launched.launch with
  | .refused fault =>
    .over ⟨failure, notices, f.passed (launched.records ++ [terminatedRecord fault.message])⟩
  | .crashed => .over ⟨crash, notices, f.passed launched.records⟩
  | .listening source => .listening ⟨notices, f.passed launched.records, f, source⟩

/-- Starts the program in an environment. -/
def start (env : Environment) : Session :=
  match Configuration.load env with
  | .error fault => .over ⟨failure, [BootFault.message (.configuration fault)], []⟩
  | .ok c =>
    let (f, notices) := filter env c
    match if c.exportsSpans then Uri.check c.collector else .ok () with
    | .error fault => .over ⟨failure, notices ++ [BootFault.message (.collector fault)], []⟩
    | .ok () => launch c f notices

end Session

/-! ## Without a network -/

/-- The tokens that there are at a second when no request reaches anyone. -/
def TokenSource.offline (second : Int) : TokenSource → Tokens Unit
  | ready token => fun _ _ => (.ok token, ())
  | key k => fun _ uri => (.ok (k.authorize uri second), ())
  | directory principal => fun _ _ =>
    let d : Directory := ⟨Directory.publicAuthority, principal⟩
    ((Directory.issued (Http.carryOut? Http.unreachable () d.request?).result).map
      fun issued => Directory.bearer issued.token, ())

namespace Source

/-- What the broker's answer comes to when no request reaches it. -/
def offlineReceipt (s : Source) (now : Instant) : Relay.Receipt :=
  let tokens := s.binding.tokens.offline now.seconds
  match (s.receiver.receive tokens Http.unreachable now ((), ())).result with
  | .error fault => .fault fault
  | .ok none => .nothing
  | .ok (some locked) =>
    .handout ⟨⟨locked.message,
      (s.receiver.complete tokens Http.unreachable locked.lock ((), ())).result⟩, some 0, false⟩

/-- The sink behind a peer. -/
def sink {σ : Type} (s : Source) (peer : Http.Peer σ) : Relay.TimedSink σ := fun state e =>
  let posted := Sender.send s.posting peer state e
  let paused := (posted.pauses.map Duration.milliseconds).foldr (· + ·) 0
  ({ delay := some paused, answer := some posted.answer }, posted.state)

/-- What the relay of the source works with. -/
def world {σ : Type} (s : Source) (peer : Http.Peer σ) : Relay.World σ :=
  { settings := s.settings
    processor := s.conversion.processor s.entity.raw
    sink := s.sink peer }

end Source

/-- A demand to end. -/
inductive Signal where
  | interrupt
  | terminate
  deriving DecidableEq, Repr

def Signal.record : Signal → Log.Record
  | interrupt => programRecord .info "Received shutdown signal"
  | terminate => programRecord .info "Received SIGTERM signal"

namespace Listening

/-- What is recorded of a relay that a signal may end. -/
def recordsOf {σ : Type} (l : Listening) (signal : Signal) (s : Relay.State σ) : List Log.Record :=
  let id? (handler : Nat) : Option MessageId := s.tasks[handler]?.map (·.handout.id)
  s.history.flatMap fun (_, happening) => match happening with
    | .cancelled => [signal.record]
    | happening => happening.records l.source.settings
      (fun handler result => [HandlingRecord.handled (id? handler) result])
      (fun handler => s!"task {handler} failed")

/-- The end of a program whose relay has ended. -/
def exit (l : Listening) (records : List Log.Record) : Relay.Outcome → Exit
  | .ok () =>
    ⟨0, l.errors, l.records ++ l.filter.passed
      (records ++ [programRecord .info "Service Bus source stopped"])⟩
  | .error fault =>
    ⟨Session.failure, l.errors, l.records ++ l.filter.passed (records ++ [Session.terminatedRecord
      (Relay.terminatedMessage fault ++ ": " ++ fault.message)])⟩

/-- The end of a program that gets a signal so many milliseconds after it began to listen, when no
request reaches anyone. -/
def stopOffline (l : Listening) (now : Instant) (signal : Signal) (after : Nat) : Exit :=
  let item : Relay.Item := { receipt := l.source.offlineReceipt now }
  let script : Relay.Script :=
    { items := List.replicate (after / max 1 l.source.settings.pause + 1) item
      hangs := true, cancelAt := some after }
  let final := Relay.runScript (l.source.world Http.unreachable) script ()
  let records := l.recordsOf signal final
  match final.phase with
  | .stopped outcome => l.exit records outcome
  | _ => ⟨Session.crash, l.errors, l.records ++ l.filter.passed records⟩

end Listening

end BusRelay
