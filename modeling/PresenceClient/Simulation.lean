-- A simulation: a client on a clock that moves only when it is told to, with a link that
-- keeps a record of what it is handed. Each step is followed to its end and gives one entry.
import PresenceClient.Client.Step
import PresenceClient.Message.Wire

namespace PresenceClient

/-! ## The clock -/

namespace Client

/-- Fire the timers while one is due, for `limit` rounds at most; the rounds are counted. -/
def fireDue : (limit : Nat) → Client → Logged (Client × Nat)
  | 0, c => pure (c, 0)
  | limit + 1, c =>
    if c.nextDeadline.any fun due => decide (due ≤ c.clock) then do
      let c ← c.step .timers
      let (c, rounds) ← fireDue limit c
      pure (c, rounds + 1)
    else pure (c, 0)

/-- Move the clock to a point in time. The deadlines on the way are stopped at, `limit` of
them at most, and their timers fire; the stops are counted. -/
def advanceTo (target : Instant) : (limit : Nat) → Client → Logged (Client × Nat)
  | 0, c => do
    let c ← c.step (.clock target)
    pure (c, 0)
  | limit + 1, c => match c.nextDeadline with
    | some due =>
      if due ≤ target then do
        let c ← c.step (.clock due)
        let c ← c.step .timers
        let (c, stops) ← advanceTo target limit c
        pure (c, stops + 1)
      else do
        let c ← c.step (.clock target)
        pure (c, 0)
    | none => do
      let c ← c.step (.clock target)
      pure (c, 0)

end Client

/-! ## Simulations -/

structure Simulation where
  client : Client
  /-- Do the timers fire by themselves when they are due? -/
  isSelfDriven : Bool
  /-- Does anybody still hold the client? -/
  isHeld : Bool := true
  /-- The generations of the links that were opened, oldest first. -/
  links : List Nat := []
  /-- Does the link refuse what it is handed? -/
  isRefusing : Bool := false
  /-- The number of the next step, which is the ticket of what it asks. -/
  next : Ticket := 0
  /-- The operations that are not resolved and that their callers have not dropped. -/
  waiting : List Ticket := []
  /-- The listeners by the steps that registered them. -/
  listeners : Table Ticket ListenerId := ∅
  /-- Those whose receiver is there and has not heard the end. -/
  hearing : List Ticket := []

namespace Simulation

inductive Step where
  | command (command : Command)
  /-- A link reports something: the one of a number, or else the latest. -/
  | report (link : Option Nat) (event : LinkEvent)
  /-- A link reports a packed message. -/
  | receive (link : Option Nat) (bytes : List UInt8)
  | refuseSends (on : Bool)
  /-- The clock moves at once; then everything fires that is due. -/
  | jump (time : Duration)
  /-- The clock moves and stops at each deadline. -/
  | advance (time : Duration)
  /-- The clock moves to the next deadline. -/
  | fire
  | dropListener (registration : Ticket)
  | dropOperation (ticket : Ticket)
  | dropClient

/-- Is the one who asks told how it ends? -/
def isAnswered : Command → Bool
  | .queryConnection | .onConnection _ => true
  | .connect | .close | .offConnection _ => false
  | .channel _ command => match command with
    | .unsubscribe _ | .unsubscribeAction _ _ | .unsubscribeAll | .offState _ | .release => false
    | _ => true

/-- Does a step begin an operation that somebody waits for? -/
def Step.isAnswered : Step → Bool
  | .command asked => Simulation.isAnswered asked
  | _ => false

/-- What a step itself gives. -/
inductive Outcome where
  | nothing
  | flag (b : Bool)
  | count (n : Nat)
  | noLink
  | noTimer
  | failed (e : Error)
deriving DecidableEq, Repr

/-- What a listener has heard in a step. -/
structure Heard where
  registration : Ticket
  notices : List Notice
  /-- Has it heard that there will be no more? -/
  atEnd : Bool
deriving DecidableEq, Repr

/-- The record of one step. -/
structure Entry where
  outcome : Outcome
  /-- The operations that came to their end, by ticket. -/
  resolved : List (Ticket × Reply)
  heard : List Heard
  sent : List Message
  opened : List LinkParams
  /-- How often the link was closed. -/
  closes : Nat
deriving DecidableEq, Repr

/-! ## Steps -/

/-- Hand the client an input. -/
def feed (s : Simulation) (input : Input) : Logged Simulation := do
  let c ← s.client.step input
  pure { s with client := c }

/-- The most rounds of timers at one time. -/
def roundLimit : Nat := 100

/-- The most stops of the clock in one step. -/
def stopLimit : Nat := 200

/-- Fire what is due and count the rounds. -/
def fireDue (s : Simulation) : Logged (Simulation × Nat) := do
  let (c, rounds) ← s.client.fireDue roundLimit
  pure ({ s with client := c }, rounds)

/-- The generation of a link. -/
def link? (s : Simulation) (number : Option Nat) : Option Nat :=
  match number with
  | some n => s.links[n]?
  | none => s.links.getLast?

/-- A link reports something, which a client that is held takes. -/
def deliver (s : Simulation) (number : Option Nat) (event : LinkEvent) :
    Logged (Simulation × Outcome) :=
  match s.link? number with
  | none => pure (s, .noLink)
  | some generation =>
    if s.isHeld then do
      let s ← s.feed (.link generation event)
      pure (s, .flag true)
    else pure (s, .flag false)

/-- The callers that wait for members. They go when the client goes. -/
def membersAsked (s : Simulation) : List Ticket :=
  s.client.channels.values.flatMap fun ch => ch.pendingGets.map (·.ticket)

def dropListener (s : Simulation) (registration : Ticket) : Logged (Simulation × Outcome) :=
  match s.listeners.get? registration with
  | some id =>
    if s.hearing.contains registration then do
      let s ← s.feed (.dropListener id)
      pure ({ s with hearing := s.hearing.filter fun t => !decide (t = registration) }, .flag true)
    else pure (s, .flag false)
  | none => pure (s, .flag false)

def dropOperation (s : Simulation) (ticket : Ticket) : Simulation × Outcome :=
  ({ s with waiting := s.waiting.filter fun t => !decide (t = ticket) },
    .flag (s.waiting.contains ticket))

def dropClient (s : Simulation) : Logged Simulation := do
  let gone := s.membersAsked
  let s ← { s with waiting := s.waiting.filter fun t => !gone.contains t }.feed .shutdown
  pure { s with isHeld := false }

/-- What a step does, up to the timers that fire by themselves. -/
def perform (s : Simulation) (ticket : Ticket) : Step → Logged (Simulation × Outcome)
  | .command command => do
    let s ← if s.isHeld then s.feed (.command ticket command) else pure s
    pure (s, .nothing)
  | .report link event => s.deliver link event
  | .receive link bytes => match Message.decode bytes with
    | .ok m => s.deliver link (.message m)
    | .error e => pure (s, .failed e)
  | .refuseSends on => pure ({ s with isRefusing := on }, .nothing)
  | .jump time => do
    let s ← s.feed (.clock (s.client.clock + time))
    let (s, rounds) ← s.fireDue
    pure (s, if s.isSelfDriven then .nothing else .count rounds)
  | .advance time => do
    let (c, stops) ← s.client.advanceTo (s.client.clock + time) stopLimit
    pure ({ s with client := c }, .count stops)
  | .fire => match s.client.nextDeadline with
    | none => pure (s, .noTimer)
    | some due => do
      let moved := due - s.client.clock
      let s ← s.feed (.clock due)
      let s ← s.feed .timers
      pure (s, .count moved)
  | .dropListener registration => s.dropListener registration
  | .dropOperation ticket => pure (s.dropOperation ticket)
  | .dropClient => do
    let s ← s.dropClient
    pure (s, .nothing)

/-- Let the timers fire by themselves. -/
def settle (s : Simulation) : Logged Simulation :=
  if s.isSelfDriven && s.isHeld then do
    let (s, _) ← s.fireDue
    pure s
  else pure s

/-! ## Entries -/

/-- The operations that some effects resolve, among those that are waited for. -/
def resolvedBy (waiting : List Ticket) (log : List Effect) : List (Ticket × Reply) :=
  let all := log.filterMap fun
    | .resolve ticket reply => if waiting.contains ticket then some (ticket, reply) else none
    | _ => none
  all.mergeSort fun a b => decide (a.1 ≤ b.1)

/-- What some effects tell a listener. -/
def noticesFor (id : ListenerId) (log : List Effect) : List Notice :=
  log.filterMap fun
    | .notify listener notice => if listener = id then some notice else none
    | _ => none

def sentBy (log : List Effect) : List Message :=
  log.filterMap fun
    | .send m _ => some m
    | _ => none

def openedBy (log : List Effect) : List (Nat × LinkParams) :=
  log.filterMap fun
    | .openLink generation params => some (generation, params)
    | _ => none

def closesIn (log : List Effect) : Nat := log.countP (· matches .closeLink)

/-- Take note of the registrations that were confirmed. -/
def noteListeners (s : Simulation) (resolved : List (Ticket × Reply)) : Simulation :=
  resolved.foldl
    (fun s (ticket, reply) => match reply with
      | .listener id =>
        { s with listeners := s.listeners.put ticket id, hearing := s.hearing ++ [ticket] }
      | _ => s)
    s

/-- What a listener has heard, with the end if the client holds it no more. -/
def heardBy (s : Simulation) (log : List Effect) (registration : Ticket) : Option Heard :=
  (s.listeners.get? registration).map fun id =>
    { registration := registration
      notices := noticesFor id log
      atEnd := !s.isHeld || !s.client.holdsListener id }

/-- Enter what was done and bring the books up to date. -/
def enter (s : Simulation) (outcome : Outcome) (log : List Effect) : Simulation × Entry :=
  let resolved := resolvedBy s.waiting log
  let s := s.noteListeners resolved
  let heard := s.hearing.filterMap (s.heardBy log)
  let ended := (heard.filter (·.atEnd)).map (·.registration)
  let opened := openedBy log
  ({ s with
      links := s.links ++ opened.map (·.1)
      waiting := s.waiting.filter fun t => !(resolved.map (·.1)).contains t
      hearing := s.hearing.filter fun t => !ended.contains t },
    { outcome := outcome
      resolved := resolved
      heard := heard.filter fun h => !h.notices.isEmpty || h.atEnd
      sent := if s.isRefusing then [] else sentBy log
      opened := opened.map (·.2)
      closes := closesIn log })

/-! ## Runs -/

/-- One step. What it asks is waited for under the number of the step. -/
def step (s : Simulation) (move : Step) : Simulation × Entry :=
  let ticket := s.next
  let asked := if move.isAnswered && s.isHeld then [ticket] else []
  let s := { s with next := ticket + 1, waiting := s.waiting ++ asked }
  let done : Logged (Simulation × Outcome) := do
    let (s, outcome) ← s.perform ticket move
    let s ← s.settle
    pure (s, outcome)
  done.value.1.enter done.value.2 done.log

/-- A fresh client, which connects if its options say so. -/
def start (options : Options) (jitterWords : List UInt64) (isSelfDriven : Bool) :
    Simulation × Entry :=
  let s : Simulation := { client := Client.fresh options jitterWords, isSelfDriven := isSelfDriven }
  let begun : Logged Simulation := do
    let s ← if options.autoConnect then s.feed (.command s.next .connect) else pure s
    settle { s with next := s.next + 1 }
  begun.value.enter .nothing begun.log

/-- Steps in turn, with what is seen after each of them. -/
def run (s : Simulation) (moves : List Step) : List (Entry × Simulation) :=
  match moves with
  | [] => []
  | move :: rest =>
    let (s, entry) := s.step move
    (entry, s) :: run s rest

end Simulation

end PresenceClient
