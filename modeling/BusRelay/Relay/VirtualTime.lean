import BusRelay.Relay.Machine
/-!
# Runs in virtual time

One run of the machine against a broker that follows a script. What can go on does so at once, the
loop before the handlers and these in the order in which they were woken. When nothing can go on, the
clock jumps to the next time at which something is due. Every step is a move of the machine.
-/

namespace BusRelay.Relay

/-- What one call of the broker comes to. -/
structure Item where
  /-- How long it takes. -/
  delay : Nat := 0
  /-- Whether the relay is cancelled just before the answer. -/
  cancels : Bool := false
  receipt : Receipt := .nothing

/-- What the broker answers, call by call. -/
structure Script where
  items : List Item
  /-- After the last item the broker answers no more; otherwise it cancels the relay. -/
  hangs : Bool := false
  /-- When the relay is cancelled from outside. -/
  cancelAt : Option Nat := none

/-- Who is woken besides the loop. -/
inductive Sleeper where
  | loop
  | handler (number : Nat)
  | canceller

/-- A run and what it waits for. -/
structure Clockwork (σ : Type) where
  state : State σ
  /-- What is left of the script. -/
  items : List Item
  /-- The call that is under way, if it will be answered. -/
  pending : Option Item := none
  /-- When its answer comes. -/
  due : Nat := 0
  /-- Who waits for which time, in the order in which they began to. -/
  timers : List (Nat × Sleeper) := []
  /-- Who can go on, in the order in which they were woken. -/
  queue : List Sleeper := []

namespace Clockwork

variable {σ : Type}

/-- Wakes someone at a time, if it is still to come. -/
def sleep (c : Clockwork σ) (till : Nat) (sleeper : Sleeper) : Clockwork σ :=
  if c.state.now < till then { c with timers := c.timers ++ [(till, sleeper)] } else c

/-- Lets someone go on. -/
def wake (c : Clockwork σ) (sleepers : List Sleeper) : Clockwork σ :=
  { c with queue := c.queue ++ sleepers }

/-- The next move of the loop, if it can make one. -/
def loopMove? (c : Clockwork σ) : Option Move :=
  let s := c.state
  let unlessCancelled (ready : Bool) (move : Move) : Option Move :=
    if s.cancelled then some .interrupt else if ready then some move else none
  match s.phase with
  | .idle => some .start
  | .joining => some .join
  | .acquiring => unlessCancelled (s.free ≠ 0) .acquire
  | .ready => unlessCancelled true .call
  | .receiving => match c.pending with
    | some item => unlessCancelled (c.due ≤ s.now) (.receive item.receipt item.cancels)
    | none => unlessCancelled false .call
  | .pausing till => unlessCancelled (till ≤ s.now) .resume
  | .draining deadline _ =>
    if s.unjoined.isEmpty || s.unjoined.any (!·.isLive) then some .join
    else if deadline ≤ s.now then some .expire else none
  | .aborting _ => if s.unjoined.any (!·.isLive) then some .join else none
  | .stopped _ | .crashed => none

/-- The item that a call takes: the next one, or what comes after the last one. -/
def takeItem (script : Script) (c : Clockwork σ) : Clockwork σ :=
  match c.items with
  | item :: rest =>
    { c with items := rest, pending := some item, due := c.state.now + item.delay }
  | [] =>
    { c with pending := if script.hangs then none else some { cancels := true }, due := c.state.now }

/-- What a move of the loop begins to wait for, or wakes. -/
def afterLoopMove (script : Script) (c : Clockwork σ) : Move → Clockwork σ
  | .call =>
    let c := c.takeItem script
    c.sleep c.due .loop
  | .receive (.handout _) _ => c.wake [.handler (c.state.tasks.length - 1)]
  | _ => match c.state.phase with
    | .pausing till | .draining till _ => c.sleep till .loop
    | .aborting _ => c.wake ((List.range c.state.tasks.length).map .handler)
    | _ => c

/-- Lets the loop go on until it has to wait. -/
def pollLoop (w : World σ) (script : Script) : (fuel : Nat) → Clockwork σ → Clockwork σ
  | 0, c => c
  | fuel + 1, c => match c.loopMove? with
    | none => c
    | some move => match c.state.step w move with
      | none => c
      | some s => pollLoop w script fuel ({ c with state := s }.afterLoopMove script move)

/-- Lets a handler go on until it has to wait. -/
def pollHandler (w : World σ) (number : Nat) : (fuel : Nat) → Clockwork σ → Clockwork σ
  | 0, c => c
  | fuel + 1, c =>
    let move : Move := match c.state.phase with
      | .aborting _ => .abort number
      | _ => .proceed number
    match c.state.step w move with
    | some s => pollHandler w number fuel { c with state := s }
    | none => match c.state.tasks[number]?.bind (·.work.due?) with
      | some due => c.sleep due (.handler number)
      | none => c

/-- Lets someone other than the loop go on. -/
def poll (w : World σ) (script : Script) (fuel : Nat) (c : Clockwork σ) : Sleeper → Clockwork σ
  | .loop => c
  | .handler number => pollHandler w number fuel c
  | .canceller => match script.cancelAt with
    | none => c
    | some till =>
      if c.state.now < till then c.sleep till .canceller
      else match c.state.step w .cancel with
        | some s => { c with state := s }
        | none => c

/-- How many go on before the loop is looked at again. -/
def turnLength : Nat := 61

/-- The next time at which something is due. -/
def nextTime? (c : Clockwork σ) : Option Nat := (c.timers.map Prod.fst).min?

/-- Lets the time pass and wakes those who waited for it. -/
def tick (w : World σ) (till : Nat) (c : Clockwork σ) : Clockwork σ :=
  match c.state.step w (.wait till) with
  | none => c
  | some s =>
    let woken := c.timers.filter fun t => t.1 ≤ till
    { c with state := s, timers := c.timers.filter fun t => till < t.1 }.wake (woken.map Prod.snd)

/-- Whether the relay is at its end. -/
def isOver (c : Clockwork σ) : Bool :=
  match c.state.phase with
  | .stopped _ | .crashed => true
  | _ => false

/-- Goes on until the relay is at its end, or waits for nothing. -/
def turns (w : World σ) (script : Script) (perTurn : Nat) : (fuel : Nat) → Clockwork σ → Clockwork σ
  | 0, c => c
  | fuel + 1, c =>
    let c := pollLoop w script perTurn c
    if c.isOver then c
    else if c.queue.isEmpty then
      match c.nextTime? with
      | none => c
      | some till => turns w script perTurn fuel (c.tick w till)
    else
      let turn := c.queue.take turnLength
      let c := { c with queue := c.queue.drop turnLength }
      turns w script perTurn fuel (turn.foldl (poll w script perTurn) c)

end Clockwork

/-- A bound on the calls that the deliveries of a script lead to. -/
def callsOf (processor : Processor) (items : List Item) : Nat :=
  (items.map fun item => match item.receipt with
    | .handout h => match processor h.delivery.message with
      | .ok events => events.length + 4
      | .error _ => 4
    | _ => 1).foldr (· + ·) 0

/-- The run that follows a script. -/
def runScript {σ : Type} (w : World σ) (script : Script) (sink : σ) : State σ :=
  let calls := callsOf w.processor script.items + 4
  let start : State σ := State.initial sink
  let start := if script.cancelAt = some 0 then (start.step w .cancel).getD start else start
  let c : Clockwork σ :=
    { state := start, items := script.items
      queue := match script.cancelAt with
        | some (_ + 1) => [.canceller]
        | _ => [] }
  (c.turns w script (8 * calls) (8 * calls)).state

end BusRelay.Relay
