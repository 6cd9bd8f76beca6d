import BusRelay.Proofs.Settings.Loading
import BusRelay.Session
/-!
# How a start ends

Entity, processor, sink and credentials of a configuration are looked at one after another, without a word to the
broker. The first of them that is not valid is why the start ends (`Refuses`); if all are, there is a source
(`Makes`). Only two numbers are not checked, and they bring the program down when they are too great for the
time that a client waits and for the permits of the relay (`Overruns`). Otherwise the source listens, so a start
ends in one of these ways (`launch_eq_iff`, `start_settles`).
-/

namespace BusRelay

@[simp] theorem Launched.launch_after (records : List Log.Record) (l : Launched) :
    (l.after records).launch = l.launch := rfl

namespace Configuration

variable {c : Configuration}

/-- The three parts that are looked at first are valid. -/
structure Parts (c : Configuration) (entity : Entity) (conversion : Conversion) (posting : Posting) : Prop where
  entity : Entity.parse c.entity = .ok entity
  processor : Conversion.ofName c.processor = .ok conversion
  sink : c.posting = .ok posting

/-- All parts are valid, and they make a source. -/
structure Makes (c : Configuration) (s : Source) : Prop where
  parts : c.Parts s.entity s.conversion s.posting
  credentials : Binding.bind s.entity c.credentials = .ok s.binding
  receiver : s.receiver =
    { endpoint := s.binding.endpoint, path := s.entity.path, timeout := .ofSeconds c.receiveTimeout }
  settings : s.settings = c.relay

/-- The first part that is not valid, and why. -/
inductive Refuses (c : Configuration) : StartupFault → Prop where
  | entity {fault : SettingFault} (bad : Entity.parse c.entity = .error fault) : Refuses c (.setting fault)
  | processor {entity : Entity} {fault : SettingFault} (first : Entity.parse c.entity = .ok entity)
      (bad : Conversion.ofName c.processor = .error fault) : Refuses c (.setting fault)
  | sink {entity : Entity} {conversion : Conversion} {fault : TargetFault}
      (first : Entity.parse c.entity = .ok entity) (second : Conversion.ofName c.processor = .ok conversion)
      (bad : c.posting = .error fault) : Refuses c (.target fault)
  | credentials {entity : Entity} {conversion : Conversion} {posting : Posting} {attempts : List Binding.Attempt}
      (parts : c.Parts entity conversion posting)
      (bad : Binding.bind entity c.credentials = .error attempts) : Refuses c (.access attempts)

/-- The first number of seconds that no time has. -/
def waitLimit : Nat := Nat.pow 2 64

/-- The first number of permits that there cannot be. -/
def crowdLimit : Nat := Nat.pow 2 61

/-- The client can wait for the broker as long as it is told to, and some time more. -/
def Waits (c : Configuration) : Prop := c.receiveTimeout + Receiver.margin.seconds < waitLimit

/-- There can be as many permits as the relay is told to have. -/
def Fits (c : Configuration) : Prop := c.concurrency < crowdLimit

/-- A number is too great, and nothing before it keeps it from being used. -/
inductive Overruns (c : Configuration) : Prop where
  | wait {entity : Entity} {conversion : Conversion} {posting : Posting}
      (parts : c.Parts entity conversion posting) (long : ¬ c.Waits)
  | crowd {s : Source} (makes : c.Makes s) (waits : c.Waits) (many : ¬ c.Fits)

/-! ## The two numbers -/

theorem requestTimeout?_isNone_iff : c.requestTimeout?.isNone = true ↔ ¬ c.Waits := by
  have sum : (Duration.ofSeconds c.receiveTimeout).nanoseconds + Receiver.margin.nanoseconds =
      (c.receiveTimeout + 10) * 1000000000 := by
    show c.receiveTimeout * 1000000000 + 10 * 1000000000 = _
    omega
  have most : Duration.max.nanoseconds = 18446744073709551616 * 1000000000 - 1 := by decide
  have limit : c.Waits ↔ c.receiveTimeout + 10 < 18446744073709551616 := Iff.rfl
  rw [requestTimeout?, Receiver.requestTimeout?, sum, most, limit]
  split <;> simp only [Option.isNone_some, Option.isNone_none, Bool.false_eq_true, true_iff, false_iff] <;> omega

theorem permits_le_iff : c.relay.permits ≤ Relay.maxPermits ↔ c.Fits := by
  have most : Relay.maxPermits = 2305843009213693951 := by decide
  have limit : c.Fits ↔ c.concurrency < 2305843009213693952 := Iff.rfl
  rw [most, limit]
  show max 1 c.concurrency ≤ _ ↔ _
  omega

/-! ## Launches -/

/-- How a configuration is launched. -/
inductive Launches (c : Configuration) : Launch → Prop where
  | refused {fault : StartupFault} (refuses : c.Refuses fault) (small : ¬ c.Overruns) : Launches c (.refused fault)
  | crashed (overruns : c.Overruns) : Launches c .crashed
  | listening {s : Source} (makes : c.Makes s) (waits : c.Waits) (fits : c.Fits) : Launches c (.listening s)

section

variable {entity : Entity} {conversion : Conversion} {posting : Posting}

theorem launch_parts (parts : c.Parts entity conversion posting) :
    c.launch.launch = (c.connect entity conversion posting).launch := by
  rw [launch, parts.entity]
  dsimp only
  rw [parts.processor]
  dsimp only
  rw [parts.sink, Launched.launch_after]

theorem connect_long (long : ¬ c.Waits) : (c.connect entity conversion posting).launch = .crashed := by
  rw [connect, if_pos (requestTimeout?_isNone_iff.2 long)]

/-- Once it is known how long the client waits, it depends on the credentials. -/
theorem connect_waits (waits : c.Waits) : (c.connect entity conversion posting).launch =
    match Binding.bind entity c.credentials with
    | .error attempts => .refused (.access attempts)
    | .ok binding =>
      if c.relay.permits ≤ Relay.maxPermits then
        .listening ⟨entity, conversion, posting, binding,
          { endpoint := binding.endpoint, path := entity.path, timeout := .ofSeconds c.receiveTimeout }, c.relay⟩
      else .crashed := by
  rw [connect, if_neg (mt requestTimeout?_isNone_iff.1 (not_not_intro waits))]
  dsimp only
  cases Binding.bind entity c.credentials with
  | error attempts => rfl
  | ok binding =>
    dsimp only
    split <;> rfl

theorem connect_error (waits : c.Waits) {attempts : List Binding.Attempt}
    (bad : Binding.bind entity c.credentials = .error attempts) :
    (c.connect entity conversion posting).launch = .refused (.access attempts) := by
  rw [connect_waits waits, bad]

theorem connect_fits (waits : c.Waits) (fits : c.Fits) {s : Source} (makes : c.Makes s) :
    (c.connect s.entity s.conversion s.posting).launch = .listening s := by
  rw [connect_waits waits, makes.credentials]
  dsimp only
  rw [if_pos (permits_le_iff.2 fits), ← makes.receiver, ← makes.settings]

theorem connect_many (waits : c.Waits) (many : ¬ c.Fits) {s : Source} (makes : c.Makes s) :
    (c.connect s.entity s.conversion s.posting).launch = .crashed := by
  rw [connect_waits waits, makes.credentials]
  dsimp only
  rw [if_neg (mt permits_le_iff.1 many)]

end

/-- A configuration is launched as it is said. -/
theorem Launches.launch {l : Launch} (launches : c.Launches l) : c.launch.launch = l := by
  cases launches with
  | refused refuses small =>
    cases refuses with
    | entity bad => rw [Configuration.launch, bad]
    | processor first bad =>
      rw [Configuration.launch, first]
      dsimp only
      rw [bad]
    | sink first second bad =>
      rw [Configuration.launch, first]
      dsimp only
      rw [second]
      dsimp only
      rw [bad, Launched.launch_after]
    | credentials parts bad =>
      rw [launch_parts parts]
      apply connect_error _ bad
      exact Classical.byContradiction fun long => small (.wait parts long)
  | crashed overruns =>
    cases overruns with
    | wait parts long => rw [launch_parts parts, connect_long long]
    | crowd makes waits many => rw [launch_parts makes.parts, connect_many waits many makes]
  | listening makes waits fits => rw [launch_parts makes.parts, connect_fits waits fits makes]

/-- Every configuration is launched in some way. -/
theorem exists_launches (c : Configuration) : ∃ l, c.Launches l := by
  by_cases overruns : c.Overruns
  · exact ⟨_, .crashed overruns⟩
  cases entity : Entity.parse c.entity with
  | error fault => exact ⟨_, .refused (.entity entity) overruns⟩
  | ok e =>
    cases processor : Conversion.ofName c.processor with
    | error fault => exact ⟨_, .refused (.processor entity processor) overruns⟩
    | ok conversion =>
      cases sink : c.posting with
      | error fault => exact ⟨_, .refused (.sink entity processor sink) overruns⟩
      | ok posting =>
        have parts : c.Parts e conversion posting := ⟨entity, processor, sink⟩
        cases bound : Binding.bind e c.credentials with
        | error attempts => exact ⟨_, .refused (.credentials parts bound) overruns⟩
        | ok binding =>
          let s : Source := ⟨e, conversion, posting, binding,
            { endpoint := binding.endpoint, path := e.path, timeout := .ofSeconds c.receiveTimeout }, c.relay⟩
          have makes : c.Makes s := ⟨parts, bound, rfl, rfl⟩
          have waits : c.Waits := Classical.byContradiction fun long => overruns (.wait parts long)
          have fits : c.Fits := Classical.byContradiction fun many => overruns (.crowd makes waits many)
          exact ⟨_, .listening makes waits fits⟩

/-- How a configuration is launched is all there is to a launch. -/
theorem launch_eq_iff {l : Launch} : c.launch.launch = l ↔ c.Launches l := by
  constructor
  · intro is
    obtain ⟨l', launches⟩ := c.exists_launches
    rw [← is, launches.launch]
    exact launches
  · exact Launches.launch

end Configuration

namespace Session

open Configuration.Sample (environment)

/-- Spans are not exported, or they can be. -/
def Exportable (c : Configuration) : Prop := c.exportsSpans = true → Uri.check c.collector = .ok ()

/-- How a program ends, or does not end, that has loaded a configuration. -/
inductive Settles (env : Environment) (c : Configuration) : Session → Prop where
  | unexported {exit : Exit} {fault : UriFault} (exports : c.exportsSpans = true)
      (bad : Uri.check c.collector = .error fault) (code : exit.code = failure)
      (said : exit.errors = (filter env c).2 ++ [BootFault.message (.collector fault)]) : Settles env c (.over exit)
  | refused {exit : Exit} {fault : StartupFault} (exportable : Exportable c) (refuses : c.Refuses fault)
      (small : ¬ c.Overruns) (code : exit.code = failure)
      (said : ∃ before, exit.records = (filter env c).1.passed (before ++ [terminatedRecord fault.message])) :
      Settles env c (.over exit)
  | crashed {exit : Exit} (exportable : Exportable c) (overruns : c.Overruns) (code : exit.code = crash) :
      Settles env c (.over exit)
  /-- The first move of the relay is that it listens. -/
  | listening {l : Listening} (exportable : Exportable c) (makes : c.Makes l.source) (waits : c.Waits) (fits : c.Fits)
      (listens : ∀ (σ : Type) (peer : Http.Peer σ) (state : σ),
        ∃ s, (Relay.State.initial state).step (l.source.world peer) .start = some s ∧
          s.phase = .joining ∧ s.history = [(0, .published .listening)]) : Settles env c (.listening l)

variable {env : Environment} {c : Configuration}

/-- With as many permits as there can be, the relay listens. -/
theorem start_listens {s : Source} (settings : s.settings = c.relay) (fits : c.Fits) {σ : Type}
    (peer : Http.Peer σ) (state : σ) : ∃ after, (Relay.State.initial state).step (s.world peer) .start = some after ∧
      after.phase = .joining ∧ after.history = [(0, .published .listening)] := by
  have enough : (s.world peer).settings.permits ≤ Relay.maxPermits := by
    show s.settings.permits ≤ _
    rw [settings]
    exact Configuration.permits_le_iff.2 fits
  refine ⟨_, if_pos enough, rfl, rfl⟩

theorem launch_settles (exportable : Exportable c) :
    Settles env c (launch c (filter env c).1 (filter env c).2) := by
  have launches : c.Launches c.launch.launch := Configuration.launch_eq_iff.1 rfl
  unfold launch
  dsimp only
  generalize c.launch.launch = l at launches
  cases launches with
  | refused refuses small => exact .refused exportable refuses small rfl ⟨_, rfl⟩
  | crashed overruns => exact .crashed exportable overruns rfl
  | listening makes waits fits =>
    exact .listening exportable makes waits fits fun σ peer state => start_listens makes.settings fits peer state

theorem settles_start (loaded : Configuration.load env = .ok c) : Settles env c (start env) := by
  rw [start, loaded]
  dsimp only
  cases exports : c.exportsSpans with
  | false =>
    rw [if_neg Bool.false_ne_true]
    apply launch_settles
    intro exported
    rw [exports] at exported
    cases exported
  | true =>
    rw [if_pos rfl]
    cases check : Uri.check c.collector with
    | error fault => exact .unexported exports check rfl rfl
    | ok _ => exact launch_settles fun _ => check

/-- A number overruns only when it is too great. -/
theorem not_overruns (waits : c.Waits) (fits : c.Fits) : ¬ c.Overruns := by
  intro overruns
  cases overruns with
  | wait parts long => exact long waits
  | crowd makes waits many => exact many fits

/-- **How a start ends.** A program that has loaded a configuration ends before it listens just for one of these
reasons: spans cannot be exported, a part of the configuration is refused, or a number is too great for what is made of
it. In the first two cases it ends as one that failed, and says why, in the last one it comes down. Else it
listens. So with numbers that are not too great, a program never comes down. -/
theorem start_settles (loaded : Configuration.load env = .ok c) : Settles env c (start env) ∧
    (Exportable c → ((∃ exit, start env = .over exit ∧ exit.code = crash) ↔ c.Overruns)) ∧
    (c.Waits → c.Fits → ∀ exit, start env = .over exit → exit.code = failure) := by
  have settles := settles_start loaded
  generalize start env = session at settles
  refine ⟨settles, fun exportable => ⟨?_, fun overruns => ?_⟩, ?_⟩
  · rintro ⟨exit, rfl, code⟩
    cases settles with
    | unexported exports bad failed =>
      rw [failed] at code
      cases code
    | refused exportable refuses small failed =>
      rw [failed] at code
      cases code
    | crashed exportable overruns => exact overruns
  · cases settles with
    | unexported exports bad =>
      rw [exportable exports] at bad
      cases bad
    | refused exportable refuses small => exact absurd overruns small
    | @crashed exit exportable overruns code => exact ⟨exit, rfl, code⟩
    | listening exportable makes waits fits => exact absurd overruns (not_overruns waits fits)
  · rintro waits fits exit rfl
    cases settles with
    | unexported exports bad code => exact code
    | refused exportable refuses small code => exact code
    | crashed exportable overruns => exact absurd overruns (not_overruns waits fits)

/-- Whether a program listens, or how it has ended. -/
def code? : Session → Option Nat
  | .over exit => some exit.code
  | .listening _ => none

/-- With a key and three repetitions, the program listens. -/
theorem start_settles_sample :
    ∃ c l, Configuration.load (environment "hunter2" "3") = .ok c ∧
      start (environment "hunter2" "3") = .listening l ∧ c.Makes l.source ∧ c.Waits ∧ c.Fits := by
  have ⟨made, listens⟩ : (Configuration.load (environment "hunter2" "3")).toOption.isSome = true ∧
      (start (environment "hunter2" "3")).code? = none := by
    decide +kernel
  obtain ⟨c, found⟩ := Option.isSome_iff_exists.1 made
  have loaded := toOption_eq_some.1 found
  obtain ⟨settles, -, -⟩ := start_settles loaded
  match session : start (environment "hunter2" "3") with
  | .over exit =>
    rw [session] at listens
    cases listens
  | .listening l =>
    rw [session] at settles
    cases settles with
    | listening exportable makes waits fits => exact ⟨c, l, loaded, rfl, makes, waits, fits⟩

namespace Great

/-- An environment that has the broker wait as long as can be. -/
def wait : Environment :=
  [("SERVICEBUS_ENTITY_RESOURCE_ID",
      "/subscriptions/s/resourceGroups/rg/providers/Microsoft.ServiceBus/namespaces/ns1/queues/q1"),
    ("K_SINK", "http://sink.default.svc"), ("SERVICEBUS_RECEIVE_TIMEOUT_SECS", "18446744073709551615")]

/-- An environment that has as many messages handled at a time as an integer can say. -/
def crowd : Environment :=
  environment "hunter2" "3" ++ [("SERVICEBUS_MAX_CONCURRENT_CALLS", "9223372036854775807")]

end Great

/-- A program that has loaded a configuration comes down because of a number that is too great. -/
theorem start_comes_down :
    ((Configuration.load Great.wait).toOption.map Configuration.receiveTimeout = some 18446744073709551615 ∧
      (start Great.wait).code? = some crash) ∧
    ((Configuration.load Great.crowd).toOption.map Configuration.concurrency = some 9223372036854775807 ∧
      (start Great.crowd).code? = some crash) := by
  decide +kernel

end Session

end BusRelay
