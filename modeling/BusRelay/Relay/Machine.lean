import BusRelay.Relay.Handler
/-!
# The machine

The relay as a machine that makes one move at a time. The moves of its loop and of its handlers may
come in any order in which they are possible, calls may take any time, and the relay can be cancelled
at any moment; so every run of the relay is a list of moves. The loop looks at cancellation before
anything else that it waits for.
-/

namespace BusRelay.Relay

/-- Where the loop stands. -/
inductive Phase where
  | idle
  /-- Before the handlers that have ended are joined. -/
  | joining
  /-- Waits for a permit. -/
  | acquiring
  /-- Has a permit and has not called the broker yet. -/
  | ready
  /-- Has a permit and waits for the broker. -/
  | receiving
  /-- Has a permit and waits for a time. -/
  | pausing (till : Nat)
  /-- Waits for the handlers that are left, until a time. -/
  | draining (deadline : Nat) (outcome : Outcome)
  /-- Waits for handlers to be aborted. -/
  | aborting (outcome : Outcome)
  | stopped (outcome : Outcome)
  /-- There cannot be so many permits. -/
  | crashed

/-- The number of permits that the loop has. -/
def Phase.held : Phase → Nat
  | ready | receiving | pausing _ => 1
  | _ => 0

/-- A handler and whether the loop has joined it. -/
structure Task where
  handout : Handout
  work : Work := .queued
  joined : Bool := false

/-- Whether a handler can still do something. -/
def Task.isLive (t : Task) : Bool := !t.work.isEnded

/-- Joined, if it has ended. -/
def Task.join (t : Task) : Task := { t with joined := t.joined || !t.isLive }

/-- The state of the machine. -/
structure State (σ : Type) where
  now : Nat := 0
  cancelled : Bool := false
  phase : Phase := .idle
  /-- The permits that nobody has. -/
  free : Nat := 0
  /-- A handler for every delivery so far. -/
  tasks : List Task := []
  sink : σ
  /-- Everything that has happened, with its time. -/
  history : List (Nat × Happening) := []

/-- Whom the relay works with, and how. -/
structure World (σ : Type) where
  settings : Settings := {}
  processor : Processor
  sink : TimedSink σ

/-- A move. -/
inductive Move where
  /-- The relay starts. -/
  | start
  /-- Someone cancels the relay. -/
  | cancel
  /-- The loop joins the handlers that have ended. -/
  | join
  | acquire
  | call
  /-- The broker answers; the relay may be cancelled just before. -/
  | receive (receipt : Receipt) (cancels : Bool)
  /-- A pause is over. -/
  | resume
  /-- The loop finds the relay cancelled. -/
  | interrupt
  /-- The time of the handlers that are left is up. -/
  | expire
  /-- A handler goes on. -/
  | proceed (handler : Nat)
  | abort (handler : Nat)
  /-- Time passes. -/
  | wait (till : Nat)

namespace State

variable {σ : Type}

/-- Adds to what has happened. -/
def add (s : State σ) (happenings : List Happening) : State σ :=
  { s with history := s.history ++ happenings.map (s.now, ·) }

/-- The handlers that are not joined, ended ones included. -/
def unjoined (s : State σ) : List Task := s.tasks.filter (!·.joined)

/-- The handlers that have not ended. -/
def live (s : State σ) : List Task := s.tasks.filter Task.isLive

/-- How a handler that was joined has ended. -/
def joinings (first : Nat) : List Task → List Happening
  | [] => []
  | t :: rest => match t.work with
    | .ended how =>
      if t.joined then joinings (first + 1) rest
      else .joined first how :: joinings (first + 1) rest
    | _ => joinings (first + 1) rest

/-- Joins the handlers that have ended. -/
def joinEnded (s : State σ) : State σ :=
  { s with tasks := s.tasks.map Task.join }.add (joinings 0 s.tasks)

/-- Ends the loop. Its permit comes back. -/
def leave (w : World σ) (outcome : Outcome) (s : State σ) : State σ :=
  let left := s.unjoined.length
  { s with
    phase := .draining (s.now + w.settings.drain) outcome
    free := s.free + s.phase.held }.add (if left = 0 then [] else [.waiting left])

/-- Stops, when nothing is left to join. -/
def stop (outcome : Outcome) (s : State σ) : State σ :=
  { s with phase := .stopped outcome }.add [.published .stopped]

/-- Goes back to the start of the loop. -/
def again (s : State σ) : State σ := { s with phase := .joining, free := s.free + s.phase.held }

/-- Changes a handler and takes its permit back if it has ended. -/
def setWork (s : State σ) (handler : Nat) (work : Work) : State σ :=
  { s with
    tasks := s.tasks.modify handler fun t => { t with work }
    free := s.free + if work.isEnded then 1 else 0 }

/-- What the broker's answer leads to. -/
def receive (w : World σ) (receipt : Receipt) (s : State σ) : State σ :=
  match receipt with
  | .nothing => s.again
  | .handout h => { s with phase := .joining, tasks := s.tasks ++ [{ handout := h }] }
  | .fault (.fatal reason) => s.leave w (.error (.fatal reason))
  | .fault (.transient _) => { s with phase := .pausing (s.now + w.settings.pause) }

/-- The state after a move, if the move is possible. -/
def step (w : World σ) (s : State σ) : Move → Option (State σ)
  | .start => match s.phase with
    | .idle =>
      let s := s.add [.published .listening]
      if w.settings.permits ≤ maxPermits then
        some { s with phase := .joining, free := w.settings.permits }
      else some { s with phase := .crashed }
    | _ => none
  | .cancel => some ({ s with cancelled := true }.add [.cancelled])
  | .join => match s.phase with
    | .joining => some { s.joinEnded with phase := .acquiring }
    | .draining _ outcome | .aborting outcome =>
      let s := s.joinEnded
      some (if s.unjoined.isEmpty then s.stop outcome else s)
    | _ => none
  | .acquire => match s.phase with
    | .acquiring =>
      if s.cancelled ∨ s.free = 0 then none
      else some { s with phase := .ready, free := s.free - 1 }
    | _ => none
  | .call => match s.phase with
    | .ready => if s.cancelled then none else some ({ s with phase := .receiving }.add [.called])
    | _ => none
  | .receive receipt cancels => match s.phase with
    | .receiving =>
      if s.cancelled then none
      else
        let s := if cancels then { s with cancelled := true }.add [.cancelled] else s
        some ((s.add [.received receipt]).receive w receipt)
    | _ => none
  | .resume => match s.phase with
    | .pausing till => if s.cancelled ∨ s.now < till then none else some s.again
    | _ => none
  | .interrupt => match s.phase with
    | .acquiring | .ready | .receiving | .pausing _ =>
      if s.cancelled then some (s.leave w (.ok ())) else none
    | _ => none
  | .expire => match s.phase with
    | .draining deadline outcome =>
      if s.now < deadline then none
      else
        let s := s.joinEnded
        let left := s.unjoined.length
        some (if left = 0 then s.stop outcome
          else { s with phase := .aborting outcome }.add [.gaveUp left])
    | _ => none
  | .proceed handler => match s.tasks[handler]? with
    | some t =>
      if t.work.isReady s.now then
        let after := Relay.proceed w.processor w.sink s.now t.handout s.sink t.work
        some (({ s with sink := after.sink }.setWork handler after.work).add
          (after.deeds.map (.did handler)))
      else none
    | none => none
  | .abort handler => match s.phase, s.tasks[handler]? with
    | .aborting _, some t =>
      if t.isLive then
        some ((s.setWork handler (.ended .aborted)).add [.did handler (.ended .aborted)])
      else none
    | _, _ => none
  | .wait till => if s.now ≤ till then some { s with now := till } else none

/-- The state after a list of moves, if all of them are possible. -/
def run (w : World σ) (s : State σ) : List Move → Option (State σ)
  | [] => some s
  | move :: rest => (s.step w move).bind fun s => s.run w rest

/-- The relay before it starts. -/
def initial (sink : σ) : State σ := { sink }

/-- The times at which something is due. -/
def dues (s : State σ) : List Nat :=
  (s.live.filterMap (·.work.due?)) ++
    match s.phase with
    | .pausing till => [till]
    | .draining deadline _ => [deadline]
    | _ => []

end State

end BusRelay.Relay
