-- What a step of the client posts. Only a greeting on a new link sends what was sent before; in
-- all other steps the serials go on where they were, and what is sent of a channel fits the
-- state in which the step leaves it.
import PresenceClient.Proofs.ClientPostings
import PresenceClient.Proofs.WaitingLaws

namespace PresenceClient.Client

open Channel (Core Sheds)
open Logged (tell)

variable {asked : String → PendingGet → Prop} {extra may : Effect → Prop} {c : Client}
  {r : Logged Client} {name : String} {ch : Channel}

/-! ## Publishing, asking and listening -/

theorem utters_sendForAck (h : c.Kept asked) (hup : c.isConnected = true)
    (hs : (c.core name).state = .attached) {m : Message} (hm : m.PublishesOn name)
    (hch : (c.channel? name).isSome = true) (responder : Responder) :
    Utters asked extra name c (c.sendForAck m responder) := by
  have hy := yields_sendForAck (c := c) hm.2 responder
  refine posts_sendForAck h hm hch responder fun m' hm' =>
    .inr (.publish (hy.steady.trans hup) ?_ hm')
  rw [hy.core]
  exact hs

theorem utters_queueMessage (h : c.Kept asked)
    (hnews : c.connection.state = .initialized → ∀ e : Effect, e.IsNews → extra e) {m : Message}
    (hm : m.PublishesOn name) (ticket : Ticket) :
    Utters asked extra name c (c.queueMessage name m ticket) := by
  have hqueued : ∀ q ∈ ((c.channelOrNew name).queue.enqueue m (.caller ticket)).entries,
      q ∈ (c.core name).queue ∨ q.message.PublishesOn name := by
    intro q hq
    rcases List.mem_append.mp hq with hq | hq
    · exact .inl hq
    · cases List.mem_singleton.mp hq
      exact .inr hm
  refine queueMessage_cases (fun _ => ?attaches) fun _ _ _ => ?waits
  all_goals
    refine utters_set { c.channelOrNew name with
      queue := (c.channelOrNew name).queue.enqueue m (.caller ticket) } h hqueued
      (fun g hg => .inl hg) fun hk => ?_
  case attaches => exact utters_attachChannel hk hnews []
  case waits => exact utters_of_posts (posts_pure hk)

theorem utters_publish (h : c.Kept asked)
    (hnews : c.connection.state = .initialized → ∀ e : Effect, e.IsNews → extra e)
    (action : Presence.Action) (clientId : Option String) (data : Payload) (ticket : Ticket) :
    Utters asked extra name c (c.publish name action clientId data ticket) := by
  have hm : ∀ id, (Message.publish name action id data).PublishesOn name := fun _ => ⟨rfl, rfl⟩
  have hcore := core_ensureChannel c name name
  refine publish_cases (fun _ => ?anonymous) (fun _ _ => ?refused) (fun id _ _ hs hup => ?sent)
    fun id _ _ _ _ _ => ?queued
  case anonymous => exact utters_plain (plain_singleton trivial) (utters_of_posts (posts_pure h))
  case refused =>
    exact utters_ensure h fun hk =>
      utters_plain (plain_singleton trivial) (utters_of_posts (posts_pure hk))
  case sent =>
    exact utters_ensure h fun hk =>
      utters_sendForAck hk hup (by rw [hcore]; exact hs) (hm id) (by simp) (.caller ticket)
  case queued => exact utters_ensure h fun hk => utters_queueMessage hk hnews (hm id) ticket

/-- A caller who asks for members may wait. -/
theorem utters_parkGet {query : MemberQuery} {ticket : Ticket} (h : c.Kept asked)
    (hasked : asked name ⟨query, ticket⟩)
    (hr : (c.parkGet name query ticket).Kept asked →
      Utters asked extra name (c.parkGet name query ticket) r) : Utters asked extra name c r := by
  refine utters_set { c.channelOrNew name with
    pendingGets := (c.channelOrNew name).pendingGets ++ [⟨query, ticket⟩] } h
    (fun _ hq => .inl hq) (fun g hg => ?_) hr
  rcases List.mem_append.mp hg with hg | hg
  · exact .inl hg
  · cases List.mem_singleton.mp hg
    exact .inr hasked

/-- A caller who asks for members may have them at once. -/
theorem utters_answerNow {query : MemberQuery} {ticket : Ticket} (h : c.Kept asked)
    (hasked : asked name ⟨query, ticket⟩) (hs : Serves (c.channelOrNew name) query) :
    Utters asked extra name c (do
      answer ticket (.members ((c.channelOrNew name).roster.select query))
      pure c) := by
  refine posts_first (fun e he => ?_) rfl (posts_pure h)
  cases List.mem_singleton.mp he
  exact .inr (.inr (Speaks.members (g := ⟨query, ticket⟩) hasked hs))

theorem utters_getMembers (h : c.Kept asked)
    (hnews : c.connection.state = .initialized → ∀ e : Effect, e.IsNews → extra e)
    (query : MemberQuery) (ticket : Ticket) (hasked : asked name ⟨query, ticket⟩) :
    Utters asked extra name c (c.getMembers name query ticket) := by
  have hsame := channelOrNew_ensureChannel c name name
  have hnow : Serves (c.channelOrNew name) query → Utters asked extra name c (do
      answer ticket (.members ((c.channelOrNew name).roster.select query))
      pure (c.ensureChannel name)) := by
    refine fun hserves => utters_ensure h fun hk => ?_
    have hanswer : Utters asked extra name (c.ensureChannel name) _ :=
      utters_answerNow hk hasked (by rw [hsame]; exact hserves)
    rwa [hsame] at hanswer
  have hpark : ∀ {r}, (((c.ensureChannel name).parkGet name query ticket).Kept asked →
      Utters asked extra name ((c.ensureChannel name).parkGet name query ticket) r) →
        Utters asked extra name c r := fun hr =>
    utters_ensure h fun hk => utters_parkGet hk hasked hr
  refine getMembers_cases (fun _ _ => ?refused) (fun hs => hnow ?served)
    (fun _ => hpark fun hk => utters_of_posts (posts_pure hk)) (fun _ _ _ => ?declined)
    fun _ _ => hpark fun hk => utters_attachChannel hk hnews []
  case refused =>
    exact utters_ensure h fun hk =>
      utters_plain (plain_singleton trivial) (utters_of_posts (posts_pure hk))
  case served =>
    unfold Serves
    rcases hs with ⟨hs, hwait⟩ | ⟨hs, hready⟩
    · rw [if_neg (Bool.eq_false_iff.mp hwait)]
      exact .inr hs
    · split
      · rename_i hwait
        exact ⟨hs, by simpa [hwait, Roster.isComplete] using hready⟩
      · exact .inl hs
  case declined =>
    exact hpark fun hk =>
      utters_of_posts (posts_onChannel hk fun ch _ => Channel.sheds_failGets ch _)

/-- Whoever listens to a channel says nothing there. -/
theorem posts_listen (h : c.Kept asked) (hch : ch.core = c.core name) :
    Posts asked may c (pure (c.setChannel name ch)) :=
  posts_put h (congrArg Core.queue hch) (congrArg Core.pendingGets hch)

theorem posts_register (ch : Channel) (h : c.Kept asked) (hch : ch.core = c.core name)
    (ticket : Ticket) :
    Posts asked may c (do
      answer ticket (.listener c.nextListener)
      pure (c.setChannel name ch).takeListenerId) := by
  have hset : Posts asked may c (pure (c.setChannel name ch)) := posts_listen h hch
  exact posts_plain (plain_singleton trivial)
    (posts_of_plain (kept_same hset.kept rfl (List.Sublist.refl _)) plain_nil rfl id
      (List.Sublist.refl _))

theorem posts_addPresenceListener (h : c.Kept asked) (filter : Option Presence.Action)
    (ticket : Ticket) : Posts asked may c (c.addPresenceListener name filter ticket) :=
  posts_register { c.channelOrNew name with
    presenceListeners := (c.channelOrNew name).presenceListeners.on c.nextListener filter } h
    rfl ticket

theorem roster_addPresenceListener (filter : Option Presence.Action) (ticket : Ticket) :
    ((c.addPresenceListener name filter ticket).value.channelOrNew name).roster =
      (c.channelOrNew name).roster := by
  show ((c.setChannel name _).channelOrNew name).roster = _
  rw [channelOrNew_setChannel_self]

theorem utters_subscribe (h : c.Kept asked)
    (hnews : c.connection.state = .initialized → ∀ e : Effect, e.IsNews → extra e)
    (filter : Option Presence.Action) (ticket : Ticket) :
    Utters asked extra name c (c.subscribe name filter ticket) := by
  refine subscribe_cases (fun _ _ => ?refused) (fun _ _ => ?attaches) fun _ _ _ => ?listens
  all_goals refine utters_ensure h fun hk => ?_
  case refused => exact utters_plain (plain_singleton trivial) (utters_of_posts (posts_pure hk))
  case attaches =>
    exact utters_followed (utters_attachChannel hk hnews [])
      (fun hk => posts_addPresenceListener hk filter ticket)
      (yields_addPresenceListener filter ticket).core (roster_addPresenceListener filter ticket) rfl
  case listens => exact utters_of_posts (posts_addPresenceListener hk filter ticket)

/-! ## The connection goes down -/

theorem posts_setTimer (timer : Option (Alarm Connection.Timer)) (h : c.Kept asked)
    (hr : (c.setTimer timer).Kept asked → Posts asked may (c.setTimer timer) r) :
    Posts asked may c r := posts_from (c.setTimer timer) rfl rfl rfl id h hr

theorem posts_loseLink (h : c.Kept asked) : Posts asked may c c.loseLink :=
  posts_bind (posts_dropLink h) fun hk => posts_same hk rfl rfl rfl id

section Down

variable (hnews : ∀ e : Effect, e.IsNews → may e)

include hnews

/-- The connection goes to a state in which nothing is acknowledged, and the channels follow. -/
theorem posts_goDown {f : Client → String → Logged Client} (h : c.Kept asked)
    {next : Connection.State} (hnext : next ≠ .connected) (reason : Option ErrorInfo)
    (retryIn : Option Duration) (g : Client → Connection)
    (hg : ∀ d, (g d).nextSerial = d.connection.nextSerial ∧ (g d).state = d.connection.state)
    (e : ErrorInfo) (names : List String)
    (hf : ∀ c name, c.Kept asked → Posts asked may c (f c name)) :
    Posts asked may c (do
      let c ← c.become next reason retryIn
      let c ← { c with connection := g c }.failPending e
      c.forNames names f) := by
  refine posts_bind (posts_become h hnews next (absurd · hnext) reason retryIn) fun h1 => ?_
  generalize (c.become next reason retryIn).value = d at h1
  have hup : ({ d with connection := g d } : Client).isConnected = true → d.isConnected = true :=
    fun hu => isConnected_iff.mpr ((hg d).2.symm.trans (isConnected_iff.mp hu))
  refine posts_from { d with connection := g d } rfl rfl (hg d).1 hup h1 fun h2 => ?_
  exact posts_bind (posts_failPending h2 e) fun h3 => posts_forNames hf names h3

theorem posts_enterSuspended (h : c.Kept asked) : Posts asked may c c.enterSuspended :=
  enterSuspended_cases
    (fun _ => posts_goDown hnews h (by simp) _ _ (fun d => (d.setTimer (some (Alarm.after d.clock
      c.options.timing.suspendedRetry .retry))).connection) (fun _ => ⟨rfl, rfl⟩) _ _
      fun _ _ hk => posts_suspendUnder hk _)
    fun _ => posts_pure h

theorem posts_failConnection (h : c.Kept asked) (e : ErrorInfo) :
    Posts asked may c (c.failConnection e) :=
  failConnection_cases
    (fun _ => posts_bind (posts_dropLink h) fun hk => posts_goDown hnews hk (by simp) _ _
      (fun d => d.connection.endSession) (fun _ => ⟨rfl, rfl⟩) _ _
      fun _ _ hk => posts_failUnder hk e)
    fun _ => posts_dropLink h

theorem posts_finishClose (h : c.Kept asked) : Posts asked may c c.finishClose :=
  finishClose_cases
    (fun _ => posts_bind (posts_dropLink h) fun hk => posts_goDown hnews hk (by simp) _ _
      (fun d => { d.connection.endSession with retryAttempts := 0 }) (fun _ => ⟨rfl, rfl⟩) _ _
      fun _ _ hk => posts_onChannel hk fun ch _ => Channel.sheds_detachOnClose ch _)
    fun _ => posts_dropLink h

theorem posts_enterDisconnected (h : c.Kept asked) (e : ErrorInfo) :
    Posts asked may c (c.enterDisconnected e) := by
  refine posts_from c.takeWord.2 rfl rfl rfl id h fun hk => ?_
  refine enterDisconnected_cases (fun _ _ => ?keeps) (fun _ _ => ?drops) fun _ => posts_pure hk
  all_goals refine posts_bind (posts_become hk hnews .disconnected nofun _ _) fun hk => ?_
  case keeps => exact posts_same hk rfl rfl rfl id
  case drops =>
    exact posts_setTimer _ hk fun hk => posts_forNames (fun _ _ hk => posts_failQueue hk e) _ hk

theorem posts_handleLoss (h : c.Kept asked) (e : ErrorInfo) :
    Posts asked may c (c.handleLoss e) :=
  handleLoss_cases
    (fun _ => posts_bind (posts_loseLink h) fun hk => posts_enterSuspended hnews hk)
    fun _ => posts_bind (posts_loseLink h) fun hk => posts_enterDisconnected hnews hk e

theorem posts_onDisconnected (h : c.Kept asked) (e : Option ErrorInfo) :
    Posts asked may c (c.onDisconnected e) :=
  onDisconnected_cases (fun _ _ => posts_handleLoss hnews h _)
    fun _ _ _ => posts_failConnection hnews h _

theorem posts_onLinkEnded (h : c.Kept asked) (e : Option ErrorInfo) :
    Posts asked may c (c.onLinkEnded e) :=
  onLinkEnded_cases (fun _ _ => posts_handleLoss hnews h _) (fun _ => posts_finishClose hnews h)
    fun _ _ _ => posts_pure h

theorem posts_onConnectionTimer (h : c.Kept asked) (kind : Connection.Timer) :
    Posts asked may c (c.onConnectionTimer kind) :=
  posts_setTimer none h fun hk =>
    onConnectionTimer_cases (fun _ _ => posts_handleLoss hnews hk _)
      (fun _ => posts_startConnecting hk hnews) fun _ => posts_finishClose hnews hk

theorem posts_fireConnectionTimer (h : c.Kept asked) (now : Instant) :
    Posts asked may c (c.fireConnectionTimer now) :=
  fireConnectionTimer_cases (fun _ _ _ => posts_onConnectionTimer hnews h _) fun _ => posts_pure h

/-- Only a close over a live link says so to the server. -/
theorem posts_close (h : c.Kept asked)
    (hmay : c.isConnected = true → may (.send Message.close .notice)) :
    Posts asked may c c.close := by
  refine close_cases (fun _ => posts_pure h) (fun hs => ?asks) fun _ _ _ =>
    posts_finishClose hnews h
  refine posts_bind (posts_become h hnews .closing nofun _ _) fun hk => ?_
  refine posts_first (fun e he => ?_) rfl (posts_same hk rfl rfl rfl id)
  cases List.mem_singleton.mp he
  exact .inr (hmay (isConnected_iff.mpr hs))

end Down

theorem posts_shutdown (h : c.Kept asked)
    (hmay : c.isConnected = true → may (.send Message.close .notice)) :
    Posts asked may c c.shutdown := by
  have hend : Posts asked may c (do
      let c ← c.failPending Cause.clientDropped.info
      c.forNames c.channels.keys fun c name => c.onChannel name fun ch =>
        ch.failWaiters Cause.clientDropped.info) :=
    posts_bind (posts_failPending h _) fun hk => posts_forNames
      (fun c name hk => posts_onChannel hk fun ch _ => Channel.sheds_failWaiters ch _) _ hk
  refine shutdown_cases fun farewell hsaid => ?_
  rcases hsaid with rfl | ⟨rfl, hup⟩
  · exact posts_plain plain_nil (posts_plain (plain_singleton trivial) hend)
  · refine posts_first (fun e he => ?_) rfl (posts_plain (plain_singleton trivial) hend)
    cases List.mem_singleton.mp he
    exact .inr (hmay hup)

/-! ## Each channel in turn -/

/-- A client that goes through its channels says of each what it would say of that one. -/
theorem posts_visit {f : Client → String → Logged Client} {names : List String}
    (hnodup : names.Nodup) (h : c.Kept asked)
    (hf : ∀ d name, name ∈ names → d.channel? name = c.channel? name →
      d.isConnected = c.isConnected → d.Kept asked →
        Alone name d (f d name) ∧ Utters asked (fun _ => False) name d (f d name)) :
    Posts asked (fun e => ∃ name, Speaks asked name (c.forNames names f).value e) c
        (c.forNames names f) ∧
      (c.forNames names f).value.isConnected = c.isConnected ∧
      ∀ other, other ∉ names → (c.forNames names f).value.channel? other = c.channel? other := by
  induction names generalizing c with
  | nil => exact ⟨posts_pure h, rfl, fun _ _ => rfl⟩
  | cons first rest ih =>
    obtain ⟨hfirst, hrest⟩ := List.nodup_cons.mp hnodup
    obtain ⟨halone, hsaid⟩ := hf c first List.mem_cons_self rfl rfl h
    have hne : ∀ name ∈ rest, name ≠ first := fun name hn he => hfirst (he ▸ hn)
    obtain ⟨hlast, hup, hothers⟩ := ih hrest hsaid.kept fun d name hn hd hu =>
      hf d name (List.mem_cons_of_mem _ hn) (hd.trans (halone.others name (hne name hn)))
        (hu.trans halone.steady)
    refine ⟨posts_bind (posts_mono hsaid fun e he => ⟨first, ?_⟩) fun _ => hlast,
      hup.trans halone.steady, fun other hn => ?_⟩
    · have hsame := hothers first hfirst
      exact speaks_congr (he.resolve_left id) (core_congr hsame)
        (congrArg Channel.roster (channelOrNew_congr hsame)) hup
    · obtain ⟨hother, hn⟩ : other ≠ first ∧ other ∉ rest := by simpa using hn
      exact (hothers other hn).trans (halone.others other hother)

/-! ## A link comes up, a timer comes to its time -/

theorem utters_attachAnew (h : c.Kept asked) (hch : c.channel? name = some ch)
    (hup : c.isConnected = true) : Utters asked extra name c (do
      let c ← c.onChannel name fun ch => ch.become .attaching none false
      c.sendAttach name) := by
  have hy := yields_onChannel (f := fun ch => ch.become .attaching none false) hch (by simp)
  refine utters_then (posts_onChannel h fun ch _ => Channel.sheds_become ch _ _ _) fun hk =>
    utters_sendAttach hk (hy.steady.trans hup) ?_
  rw [hy.core, (Channel.become_spec _ _ _ _).1, Core.become_attaching]

theorem utters_onLinkUp (resumed : Bool) (h : c.Kept asked) (hup : c.isConnected = true) :
    Utters asked extra name c (c.onLinkUp resumed name) := by
  have hstate : ∀ {ch}, c.channel? name = some ch → (c.core name).state = ch.state :=
    fun hch => congrArg Core.state (core_of_some hch)
  refine onLinkUp_cases (fun _ => utters_of_posts (posts_pure h))
    (fun ch hch hs => utters_sendAttach h hup ((hstate hch).trans hs))
    (fun ch hch hs => utters_sendDetach h hup ((hstate hch).trans hs))
    (fun ch asks hch hs _ hasks => ?goesOn) fun ch hch _ => utters_attachAnew h hch hup
  have hs' : (c.core name).state = .attached := (hstate hch).trans hs
  have hy := yields_flushQueue hup hs' (h.addressed name)
  rcases hasks with ⟨rfl, -⟩ | ⟨cursor, hsync, -, rfl⟩
  · exact utters_plain plain_nil (utters_flushQueue h hup hs')
  · refine posts_first (fun e he => ?_) rfl (utters_flushQueue h hup hs')
    cases List.mem_singleton.mp he
    refine .inr (.inr (.sync (hy.steady.trans hup) ?_ ?_))
    · rw [Logged.value_bind, hy.core]
      exact hs'
    · rw [Logged.value_bind, hy.core, core_of_some hch]
      simpa [Roster.isSyncing, Channel.core] using hsync

theorem utters_onChannelTimer (h : c.Kept asked) :
    Utters asked extra name c (c.onChannelTimer name) := by
  have hset : ∀ {ch : Channel} {r}, c.channel? name = some ch →
      ((c.setChannel name { ch with timer := none }).Kept asked →
        Utters asked extra name (c.setChannel name { ch with timer := none }) r) →
          Utters asked extra name c r := by
    intro ch r hch hr
    have hcore := core_of_some hch
    refine utters_set { ch with timer := none } h (fun q hq => .inl ?_) (fun g hg => .inl ?_) hr
    · rw [hcore]
      exact hq
    · rw [hcore]
      exact hg
  refine onChannelTimer_cases (fun _ => utters_of_posts (posts_pure h))
    (fun _ _ hch _ _ => hset hch fun hk => utters_of_posts (posts_suspendChannel hk _ true))
    (fun _ _ hch _ _ _ => hset hch fun hk => ?detach)
    (fun _ _ hch _ _ _ hup => hset hch fun hk => ?reattach)
    fun _ _ hch _ _ => hset hch fun hk => utters_of_posts (posts_pure hk)
  case detach =>
    exact utters_of_posts (posts_onChannel hk fun ch _ => Channel.sheds_detachTimedOut ch)
  case reattach =>
    refine utters_attachChannel hk (fun hinit => ?_) []
    exact absurd ((isConnected_iff.mp hup).symm.trans hinit) (by simp)

/-! ## Steps -/

/-- What a step from `c` to `d` may have said. -/
inductive Uttered (asked : String → PendingGet → Prop) (c : Client) (i : Input) (d : Client) :
    Effect → Prop
  | news {e : Effect} (h : e.IsNews) : Uttered asked c i d e
  | speaks {name : String} {e : Effect} (h : Speaks asked name d e) : Uttered asked c i d e
  | released {ticket : Ticket} {name : String}
      (hi : i = .command ticket (.channel name .release)) (hup : c.isConnected = true)
      (hlast : d.isConnected = true)
      (hs : (c.core name).state = .attached ∨ (c.core name).state = .attaching) :
      Uttered asked c i d (.send (Message.detach name) .notice)
  | closed {ticket : Ticket} (hi : i = .command ticket .close) (hup : c.isConnected = true) :
      Uttered asked c i d (.send Message.close .notice)
  | ended (hi : i = .shutdown) (hup : c.isConnected = true) :
      Uttered asked c i d (.send Message.close .notice)

theorem Utters.uttered {i : Input} {b : Client} (h : Utters asked Effect.IsNews name c r) :
    Posts asked (Uttered asked b i r.value) c r := by
  refine posts_mono h fun e he => ?_
  rcases he with he | he
  · exact .news he
  · exact .speaks he

section Step

variable {i : Input} {d : Client}

theorem posts_channelCommand (h : c.Kept asked) (ticket : Ticket) (command : ChannelCommand)
    (hasked : ∀ query, command = .get query → asked name ⟨query, ticket⟩) :
    Posts asked (Uttered asked c (.command ticket (.channel name command))
      (c.channelCommand name ticket command).value) c (c.channelCommand name ticket command) := by
  have hnews : c.connection.state = .initialized → ∀ e : Effect, e.IsNews → e.IsNews :=
    fun _ _ he => he
  cases command with
  | attach => exact (utters_attachChannel h hnews _).uttered
  | detach => exact (utters_detachChannel h _).uttered
  | publish action clientId data =>
    exact (utters_publish h hnews action clientId data ticket).uttered
  | get query => exact (utters_getMembers h hnews query ticket (hasked query rfl)).uttered
  | subscribe action => exact (utters_subscribe h hnews action ticket).uttered
  | release =>
    have hsteady : (c.releaseChannel name).value.isConnected = c.isConnected :=
      turnOn_releaseChannel.steady
    exact posts_releaseChannel h fun hup hs => .released rfl hup (hsteady.trans hup) hs
  | unsubscribe id => exact posts_listen h rfl
  | unsubscribeAction action id => exact posts_listen h rfl
  | unsubscribeAll => exact posts_listen h rfl
  | offState id => exact posts_listen h rfl
  | onState filter =>
    exact posts_register { c.channelOrNew name with
      stateListeners := (c.channelOrNew name).stateListeners.on c.nextListener filter } h rfl ticket
  | syncComplete => exact posts_plain (plain_singleton trivial) (posts_listen h rfl)
  | state => exact posts_plain (plain_singleton trivial) (posts_listen h rfl)
  | errorReason => exact posts_plain (plain_singleton trivial) (posts_listen h rfl)
  | queuedCount => exact posts_plain (plain_singleton trivial) (posts_listen h rfl)
  | listenerCount filter => exact posts_plain (plain_singleton trivial) (posts_listen h rfl)

theorem posts_command (h : c.Kept asked) (ticket : Ticket) (command : Command)
    (hasked : ∀ name query, command = .channel name (.get query) → asked name ⟨query, ticket⟩) :
    Posts asked (Uttered asked c (.command ticket command) (c.command ticket command).value) c
      (c.command ticket command) := by
  cases command with
  | connect => exact posts_connect h fun e he => .news he
  | close => exact posts_close (fun e he => .news he) h fun hup => .closed rfl hup
  | queryConnection => exact posts_plain (plain_singleton trivial) (posts_pure h)
  | onConnection filter =>
    exact posts_plain (plain_singleton trivial) (posts_same h rfl rfl rfl id)
  | offConnection id => exact posts_same h rfl rfl rfl fun hu => hu
  | channel name command =>
    exact posts_channelCommand h ticket command fun query hq => hasked name query (hq ▸ rfl)

/-- What a message says of the channel that it names. -/
theorem posts_addressed {m : Message} {f : Logged Client} (h : c.Kept asked)
    (hnone : m.channel = none → f = pure c)
    (hsome : ∀ name, m.channel = some name → Utters asked Effect.IsNews name c f) :
    Posts asked (Uttered asked d i f.value) c f := by
  cases hm : m.channel with
  | none =>
    rw [hnone hm]
    exact posts_pure h
  | some name => exact (hsome name hm).uttered

theorem nextSerial_resetIdleTimer :
    c.resetIdleTimer.connection.nextSerial = c.connection.nextSerial :=
  resetIdleTimer_cases (fun _ => rfl) fun _ => rfl

theorem posts_resetIdleTimer (h : c.Kept asked) : Posts asked may c (pure c.resetIdleTimer) := by
  obtain ⟨hch, hp, hup⟩ := resetIdleTimer_same c
  exact posts_same h hch hp nextSerial_resetIdleTimer (hup ▸ id)

/-- On a live link a greeting only brings news of the session. -/
theorem posts_onConnected (h : c.Kept asked) (hnews : ∀ e : Effect, e.IsNews → may e)
    (hs : c.connection.state ≠ .connecting) (m : Message) :
    Posts asked may c (c.onConnected m) := by
  refine onConnected_cases (fun hs' => ?live) (fun hs' => absurd hs' hs) fun _ _ => posts_pure h
  refine posts_from (c.greeted m) rfl rfl rfl id h fun hk => ?_
  exact posts_bind (posts_become hk hnews .connected (fun _ => isConnected_iff.mpr hs') _ _)
    posts_resetIdleTimer

theorem posts_onError (h : c.Kept asked) (hnews : ∀ e : Effect, e.IsNews → may e) (m : Message) :
    Posts asked may c (c.onError m) :=
  onError_cases (fun _ _ => posts_failChannel h _) fun _ => posts_failConnection hnews h _

theorem posts_onMessage (h : c.Kept asked) (m : Message)
    (hgreet : Message.Action.ofCode? m.action = some .connected →
      c.connection.state ≠ .connecting) :
    Posts asked (Uttered asked d i (c.onMessage m).value) c (c.onMessage m) := by
  have hnews : ∀ {b : Client} (e : Effect), e.IsNews → Uttered asked d i b e := fun _ he => .news he
  have hstate : c.resetIdleTimer.connection.state = c.connection.state :=
    resetIdleTimer_cases (fun _ => rfl) fun _ => rfl
  obtain ⟨hch, hp, hup⟩ := resetIdleTimer_same c
  refine posts_from c.resetIdleTimer hch hp nextSerial_resetIdleTimer (hup ▸ id) h fun hk => ?_
  rw [← hstate] at hgreet
  exact onMessage_cases (fun ha => posts_onConnected hk hnews (hgreet ha) m)
    (fun _ => posts_onDisconnected hnews hk m.error) (fun _ => posts_finishClose hnews hk)
    (fun _ => posts_onError hk hnews m) (fun _ => posts_settle hk _ nofun)
    (fun _ => posts_settle hk _ nofun)
    (fun _ => posts_addressed hk onAttached_of_none fun name hm => utters_onAttached hk hm)
    (fun _ => posts_addressed hk onDetached_of_none fun name hm => utters_onDetached hk hm)
    (fun _ => posts_addressed hk onSync_of_none fun name hm => utters_onSync hk hm)
    (fun _ => posts_onPresence hk m) fun _ => posts_pure hk

theorem kept_dropListener (h : c.Kept asked) (id : ListenerId) :
    (c.dropListener id).Kept asked := by
  refine ⟨fun name => ?_, fun e he => ?_, fun name => ?_⟩
  · rw [core_dropListener]
    exact h.queued name
  · obtain ⟨name, hm, hsome⟩ := h.homed e he
    have hget : (c.dropListener id).channel? name = (c.channel? name).map (unheard id) :=
      Entries.get?_map name (unheard id) c.channels.entries
    refine ⟨name, hm, ?_⟩
    rw [hget, Option.isSome_map]
    exact hsome
  · rw [core_dropListener]
    exact h.waiting name

theorem posts_fireTimers (hs : Sound c) (h : c.Kept asked) :
    Posts asked (Uttered asked d i (c.fireTimers c.clock).value) c (c.fireTimers c.clock) := by
  have hearly : Sound (c.fireConnectionTimer c.clock).value := sound_early hs .timers
  refine posts_bind (posts_fireConnectionTimer (fun e he => .news he) h c.clock) fun hk => ?_
  have hvalue : (c.fireTimers c.clock).value = ((c.fireConnectionTimer c.clock).value.forNames
      ((c.fireConnectionTimer c.clock).value.dueChannels c.clock) onChannelTimer).value := rfl
  rw [hvalue]
  generalize (c.fireConnectionTimer c.clock).value = b at hearly hk
  refine posts_mono (posts_visit (nodup_dueChannels hearly.ordered c.clock) hk
    fun a name hn ha hup hka => ⟨hearly.alone_onChannelTimer a name hn ha hup,
      utters_onChannelTimer hka⟩).1 fun e ⟨name, hsaid⟩ => .speaks hsaid

/-- Does the server greet the client on a new link? -/
def Greets (c : Client) (i : Input) (m : Message) : Prop :=
  i = .link c.connection.generation (.message m) ∧
    Message.Action.ofCode? m.action = some .connected ∧ c.connection.state = .connecting

/-- A step that is no greeting on a new link. -/
theorem posts_step (hs : Sound c) (h : c.Kept asked)
    (hasked : ∀ ticket name query, i = .command ticket (.channel name (.get query)) →
      asked name ⟨query, ticket⟩) (hgreet : ∀ m, ¬c.Greets i m) :
    Posts asked (Uttered asked c i (c.step i).value) c (c.step i) := by
  cases i with
  | command ticket command =>
    exact posts_command h ticket command fun name query hq => hasked ticket name query (hq ▸ rfl)
  | link generation event =>
    refine step_link_cases (fun m hg he => ?message) (fun error _ _ => ?ended) fun _ =>
      posts_pure h
    case message => exact posts_onMessage h m fun ha hs => hgreet m ⟨by rw [hg, he], ha, hs⟩
    case ended => exact posts_onLinkEnded (fun e he => .news he) h error
  | clock now => exact posts_same h rfl rfl rfl id
  | timers => exact posts_fireTimers hs h
  | dropListener id =>
    exact posts_of_plain (kept_dropListener h id) plain_nil rfl (fun hu => hu) (List.Sublist.refl _)
  | shutdown => exact posts_shutdown h fun hup => .ended rfl hup

end Step

end PresenceClient.Client
