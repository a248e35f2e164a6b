-- The books of what is done on one channel: what a function parks on the channel or takes
-- from it, it is handed, answers, or sends.
import PresenceClient.Proofs.TicketBooks

namespace PresenceClient.Client

open Logged (tell)

variable {c : Client}

/-! ## Sending and connecting -/

theorem balances_become (h : c.channels.Ordered) (next : Connection.State)
    (reason : Option ErrorInfo) (retryIn : Option Duration) :
    Balances [] c (c.become next reason retryIn) := by
  refine become_cases (fun _ => ?_) fun _ => balances_pure h
  exact balances_quiet (answered_publish _ _ _) (balances_same h rfl rfl)

theorem balances_dropLink (h : c.channels.Ordered) : Balances [] c c.dropLink :=
  balances_tell (a := []) rfl (balances_same h rfl rfl)

/-- A message that is sent parks its ticket until it is acknowledged. -/
theorem balances_sendForAck (h : c.channels.Ordered) (m : Message) (r : Responder) :
    Balances r.tickets c (c.sendForAck m r) := by
  refine ⟨h, fun t => ?_⟩
  simp only [sendForAck, Logged.log_bind, Logged.log_tell, Logged.log_pure, Logged.value_bind,
    Logged.value_pure, load, pendingTickets, Pending.push, List.flatMap_append,
    List.flatMap_singleton, List.count_append]
  have hsent : answered [Effect.send { m with msgSerial := some c.connection.nextSerial }
      (.first r)] = [] := rfl
  simp only [hsent, List.append_nil, List.count_nil]
  omega

theorem balances_sendQueue (es : List Queued) (h : c.channels.Ordered) :
    Balances (queueTickets es) c (es.foldlM (fun c e => c.sendForAck e.message e.responder) c) := by
  induction es generalizing c with
  | nil => exact balances_pure h
  | cons e rest ih => exact balances_bind (balances_sendForAck h _ _) ih

theorem balances_startConnecting (h : c.channels.Ordered) : Balances [] c c.startConnecting := by
  refine startConnecting_cases (fun _ => ?_) fun _ => balances_pure h
  apply balances_then (balances_become h _ _ _)
  intro c1 h1
  apply balances_then (balances_dropLink h1)
  intro c2 h2
  exact balances_tell (a := []) rfl (balances_same h2 rfl rfl)

theorem balances_connect (h : c.channels.Ordered) : Balances [] c c.connect :=
  connect_cases (fun _ => balances_pure h) fun _ _ _ => balances_startConnecting h

/-! ## Attaching and detaching -/

variable (name : String)

theorem balances_sendAttach (h : c.channels.Ordered) : Balances [] c (c.sendAttach name) :=
  sendAttach_cases (fun _ => balances_pure h) fun _ hch =>
    balances_quiet rfl (balances_put h (channelOrNew_of_some hch) rfl)

theorem balances_sendDetach (h : c.channels.Ordered) : Balances [] c (c.sendDetach name) :=
  sendDetach_cases (fun _ => balances_pure h) fun _ hch =>
    balances_quiet rfl (balances_put h (channelOrNew_of_some hch) rfl)

/-- What leaves the queue awaits an acknowledgement from then on. -/
theorem balances_flushQueue (h : c.channels.Ordered) : Balances [] c (c.flushQueue name) := by
  refine flushQueue_cases (fun _ => balances_pure h) fun ch hch _ _ => ?_
  refine balances_set h (channelOrNew_of_some hch) (fun t => ?_)
    (balances_sendQueue ch.queue.entries)
  simp only [Channel.Core.count_parked, Channel.core, queueTickets_nil, List.count_nil]
  omega

theorem balances_beginAttach {ch : Channel} (h : c.channels.Ordered)
    (hch : c.channelOrNew name = ch) (waiters : List Responder) :
    Balances (ticketsOf waiters) c (c.beginAttach name ch waiters) := by
  have hcount : ∀ t, (answered (toAttaching waiters ch).log).count t +
      (toAttaching waiters ch).value.core.parked.count t =
        (ticketsOf waiters).count t + ch.core.parked.count t := by
    intro t
    simp only [Channel.toAttaching_spec, Channel.Core.count_parked, ticketsOf_append,
      ticketsOf_nil, List.count_append, List.count_nil]
    omega
  rw [← List.append_nil (ticketsOf waiters)]
  exact beginAttach_cases
    (fun _ => balances_channel h hch hcount (balances_sendAttach name))
    (fun _ => balances_channel h hch hcount balances_connect)
    fun _ _ => balances_channel h hch hcount balances_pure

theorem balances_attachChannel (h : c.channels.Ordered) (waiters : List Responder) :
    Balances (ticketsOf waiters) c (c.attachChannel name waiters) := by
  have hch := channelOrNew_ensureChannel c name name
  have hnow : ∀ {es}, answered es = ticketsOf waiters →
      Balances (ticketsOf waiters) c (tell es >>= fun _ => pure (c.ensureChannel name)) := by
    intro es hes
    rw [← List.append_nil (ticketsOf waiters)]
    exact balances_tell hes (balances_ensure name h balances_pure)
  refine attachChannel_cases (fun _ => hnow (answered_succeedEach waiters)) (fun _ => ?joins)
    (fun _ _ => hnow (answered_failEach waiters _)) fun _ _ _ => ?begins
  case joins =>
    refine balances_ensure name h fun ho => ?_
    refine balances_set ho hch (fun t => ?_) balances_pure
    simp only [Channel.core_awaitAttach, Channel.Core.count_parked, ticketsOf_append,
      List.count_append, List.count_nil]
    omega
  case begins => exact balances_ensure name h fun ho => balances_beginAttach name ho hch waiters

theorem count_enterDetached (ch : Channel) (reason : Option ErrorInfo) (e : ErrorInfo)
    (t : Ticket) : (answered (ch.enterDetached reason e).log).count t +
      (ch.enterDetached reason e).value.core.parked.count t = ch.core.parked.count t := by
  have hnone : ch.core.detached.parked = [] := rfl
  simp only [Channel.enterDetached_spec, hnone, Channel.Core.count_parked, ticketsOf_nil,
    List.count_append, List.count_nil]
  omega

/-- A channel that is detached at once answers all who waited, one more among them. -/
theorem balances_detachAtOnce {ch : Channel} (h : c.channels.Ordered)
    (hch : c.channel? name = some ch) (waiter : Responder) :
    Balances waiter.tickets c (c.onChannel name fun ch =>
      (ch.awaitDetach waiter).enterDetached none Cause.channelDetached.info) := by
  rw [onChannel_of_some hch, ← List.append_nil waiter.tickets]
  refine balances_channel h (channelOrNew_of_some hch) (fun t => ?_) balances_pure
  rw [count_enterDetached]
  simp only [Channel.core_awaitDetach, Channel.Core.count_parked, ticketsOf_append,
    ticketsOf_singleton, List.count_append]
  omega

theorem balances_detachChannel (h : c.channels.Ordered) (waiter : Responder) :
    Balances waiter.tickets c (c.detachChannel name waiter) := by
  have hsome := channel?_ensureChannel c name
  have hch := channelOrNew_of_some hsome
  have hnow : ∀ reply, Balances waiter.tickets c
      (tell (waiter.resolve reply) >>= fun _ => pure (c.ensureChannel name)) := by
    intro reply
    rw [← List.append_nil waiter.tickets]
    exact balances_tell (answered_resolve waiter _) (balances_ensure name h balances_pure)
  refine detachChannel_cases (fun _ => hnow _) (fun _ => hnow _) (fun _ => ?joins)
    (fun _ => ?atOnce) fun _ _ => ?asks
  all_goals refine balances_ensure name h fun ho => ?_
  case joins =>
    refine balances_set ho hch (fun t => ?_) balances_pure
    simp only [Channel.core_awaitDetach, Channel.Core.count_parked, ticketsOf_append,
      ticketsOf_singleton, List.count_append, List.count_nil]
    omega
  case atOnce => exact balances_detachAtOnce name ho hsome waiter
  case asks =>
    rw [← List.append_nil waiter.tickets]
    refine balances_channel ho hch (fun t => ?_) (balances_sendDetach name)
    simp only [Channel.toDetaching_spec, Channel.Core.parked_become, Channel.Core.count_parked,
      ticketsOf_append, ticketsOf_singleton, ticketsOf_nil, List.count_append, List.count_nil]
    omega

/-! ## Acknowledging, releasing, failing -/

theorem count_settle (p : Pending) (test : Unacked → Bool) (reply : Reply) (t : Ticket) :
    (answered (p.settle test reply).log).count t +
      (pendingTickets (p.settle test reply).value).count t = (pendingTickets p).count t := by
  unfold Pending.settle Pending.picked Pending.without pendingTickets
  simp only [answered_resolveEach]
  induction p.entries with
  | nil => rfl
  | cons e rest ih =>
    by_cases hp : test e = true
    all_goals
      simp only [hp, List.filter_cons, Bool.not_true, Bool.not_false, Bool.false_eq_true,
        if_true, if_false, List.flatMap_cons, List.count_append] at ih ⊢
      omega

/-- Pending messages that are settled answer those who waited for them. -/
theorem balances_settle (h : c.channels.Ordered) (test : Unacked → Bool) (reply : Reply) :
    Balances [] c (do
      let pending ← c.pending.settle test reply
      pure { c with pending := pending }) := by
  refine ⟨h, fun t => ?_⟩
  have hs := count_settle c.pending test reply t
  simp only [Logged.log_bind, Logged.value_bind, Logged.log_pure, Logged.value_pure,
    List.append_nil, load, List.count_nil]
  omega

theorem balances_failPendingOf (h : c.channels.Ordered) (e : ErrorInfo) :
    Balances [] c (c.failPendingOf name e) := balances_settle h _ _

theorem balances_failPending (h : c.channels.Ordered) (e : ErrorInfo) :
    Balances [] c (c.failPending e) := balances_settle h _ _

theorem balances_releaseChannel (h : c.channels.Ordered) :
    Balances [] c (c.releaseChannel name) := by
  refine releaseChannel_cases (fun _ => balances_pure h) fun ch farewell hch hsaid => ?_
  have hquiet : answered farewell.log = [] := by
    rcases hsaid with rfl | ⟨rfl, -⟩
    all_goals rfl
  refine balances_erase h hch (Channel.failWaiters_spec ch _).2.1 fun ho => ?_
  exact balances_then (balances_failPendingOf name ho _) fun c' ho' =>
    balances_quiet hquiet (balances_pure ho')

theorem balances_failChannel (h : c.channels.Ordered) (e : ErrorInfo) :
    Balances [] c (c.failChannel name e) := by
  refine failChannel_cases (fun _ => balances_pure h) fun ch hch _ => ?_
  refine balances_channel (a := []) h (channelOrNew_of_some hch) (fun t => ?_)
    fun ho => balances_failPendingOf name ho e
  simp only [Channel.toFailed_spec, Channel.Core.count_parked, Channel.Core.cleared,
    ticketsOf_nil, queueTickets_nil, getTickets_nil, List.count_nil]
  omega

theorem balances_suspendChannel (h : c.channels.Ordered) (reason : ErrorInfo) (retry : Bool) :
    Balances [] c (c.suspendChannel name reason retry) := by
  rw [suspendChannel_eq]
  refine balances_onChannel h fun t => ?_
  refine suspendedChannel_cases (fun _ => ?suspends) fun _ => Nat.zero_add _
  simp only [Channel.toSuspended_spec, Channel.Core.count_parked, Channel.Core.cleared,
    ticketsOf_nil, queueTickets_nil, getTickets_nil, List.count_nil]
  omega

/-! ## What the server says of a channel -/

theorem count_getTickets_filter (gets : List PendingGet) (test : PendingGet → Bool) (t : Ticket) :
    (getTickets (gets.filter test)).count t +
      (getTickets (gets.filter (!test ·))).count t = (getTickets gets).count t := by
  unfold getTickets
  induction gets with
  | nil => rfl
  | cons g rest ih =>
    by_cases hg : test g = true
    all_goals
      simp only [hg, List.filter_cons, Bool.not_true, Bool.not_false, Bool.false_eq_true,
        if_true, if_false, List.map_cons, List.count_cons] at ih ⊢
      omega

theorem count_attachedChannel (m : Message) (ch : Channel) (t : Ticket) :
    (answered (attachedChannel m ch).log).count t +
      (attachedChannel m ch).value.core.parked.count t = ch.core.parked.count t := by
  have hgets := count_getTickets_filter ch.core.pendingGets (·.query.waitForSync) t
  simp only [Channel.attachedChannel_spec, Channel.Core.attachedTickets, Channel.Core.attached,
    Channel.Core.count_parked, Channel.Core.become_fields, List.count_append, ticketsOf_nil,
    List.count_nil]
  split
  · omega
  · simp only [getTickets_nil, List.count_nil]
    omega

theorem balances_reenter (ps : List Presence) (h : c.channels.Ordered) :
    Balances [] c (ps.foldlM (reenter name) c) := by
  induction ps generalizing c with
  | nil => exact balances_pure h
  | cons p rest ih =>
    have h1 : Balances [] c (reenter name c p) :=
      balances_sendForAck h _ (.reentry name p.clientId)
    exact balances_then h1 fun c' ho => ih ho

theorem balances_onAttached (h : c.channels.Ordered) (m : Message) :
    Balances [] c (c.onAttached m) := by
  have hcount : ∀ (ch : Channel) t, (answered (attachedChannel m ch).log).count t +
      (attachedChannel m ch).value.core.parked.count t =
        ([] : List Ticket).count t + ch.core.parked.count t := fun ch t => by
    rw [count_attachedChannel m ch t, List.count_nil, Nat.zero_add]
  refine onAttached_cases (fun _ => balances_pure h) (fun name ch _ hch _ _ => ?live)
    fun name ch _ hch _ _ => ?down
  all_goals refine balances_channel (a := []) h (channelOrNew_of_some hch) (hcount ch) fun ho => ?_
  case live => exact balances_then (balances_reenter name _ ho) fun c' => balances_flushQueue name
  case down => exact balances_pure ho

theorem balances_reattach {ch : Channel} (h : c.channels.Ordered)
    (hch : c.channel? name = some ch) (e : Option ErrorInfo) :
    Balances [] c (c.reattach name ch e) := by
  have hcount : ∀ t, (answered (toAttachingAgain c.clock e ch).log).count t +
      (toAttachingAgain c.clock e ch).value.core.parked.count t =
        ([] : List Ticket).count t + ch.core.parked.count t := by
    intro t
    simp only [Channel.toAttachingAgain_spec, Channel.Core.count_parked, List.count_nil]
  have hu := channelOrNew_of_some hch
  exact reattach_cases (balances_suspendChannel name h _ _)
    (fun _ => balances_channel (a := []) h hu hcount (balances_sendAttach name))
    fun _ => balances_channel (a := []) h hu hcount balances_pure

theorem balances_onDetached (h : c.channels.Ordered) (m : Message) :
    Balances [] c (c.onDetached m) :=
  onDetached_cases (fun _ => balances_pure h)
    (fun _ _ _ _ _ => balances_onChannel h fun t => count_enterDetached _ _ _ t)
    (fun name _ _ hch _ => balances_reattach name h hch _)
    fun name _ _ _ _ _ _ _ => balances_failChannel name h _

theorem balances_onLinkUp (resumed : Bool) (h : c.channels.Ordered) :
    Balances [] c (c.onLinkUp resumed name) := by
  refine onLinkUp_cases (fun _ => balances_pure h) (fun _ _ _ => balances_sendAttach name h)
    (fun _ _ _ => balances_sendDetach name h) (fun ch asks _ _ _ hasks => ?goesOn)
    fun _ _ _ => ?anew
  case goesOn =>
    have hquiet : answered asks.log = [] := by
      rcases hasks with ⟨rfl, -⟩ | ⟨_, _, _, rfl⟩
      all_goals rfl
    exact balances_quiet hquiet (balances_flushQueue name h)
  case anew =>
    refine balances_then (balances_onChannel h fun t => ?_) fun c' => balances_sendAttach name
    simp only [Channel.become_spec, Channel.Core.parked_become, List.count_nil, Nat.zero_add]

theorem balances_onChannelTimer (h : c.channels.Ordered) :
    Balances [] c (c.onChannelTimer name) := by
  have hset : ∀ {ch : Channel} {r : Logged Client}, c.channel? name = some ch →
      ((c.setChannel name { ch with timer := none }).channels.Ordered →
        Balances [] (c.setChannel name { ch with timer := none }) r) → Balances [] c r :=
    fun {ch r} hch => balances_set h (channelOrNew_of_some hch) fun _ => rfl
  refine onChannelTimer_cases (fun _ => balances_pure h)
    (fun _ _ hch _ _ => hset hch fun ho => balances_suspendChannel name ho _ _)
    (fun _ _ hch _ _ _ => hset hch fun ho => ?detach)
    (fun _ _ hch _ _ _ _ => hset hch fun ho => balances_attachChannel name ho [])
    fun _ _ hch _ _ => hset hch balances_pure
  refine balances_onChannel ho fun t => ?_
  simp only [Channel.detachTimedOut_spec, Channel.Core.count_parked, Channel.Core.become_fields,
    ticketsOf_nil, List.count_nil]
  omega

/-! ## Presence and listeners -/

/-- What changes a channel but not its core keeps the books. -/
theorem balances_listen {v : Channel} (h : c.channels.Ordered)
    (hv : v.core = (c.channelOrNew name).core) : Balances [] c (pure (c.setChannel name v)) :=
  balances_put h rfl (congrArg Channel.Core.parked hv)

/-- Who is answered at once has handed in a ticket. -/
theorem balances_answer {f : Unit → Logged Client} (ticket : Ticket) (reply : Reply)
    (hr : Balances [] c (f ())) : Balances [ticket] c (answer ticket reply >>= f) :=
  balances_tell (a := [ticket]) rfl hr

theorem balances_queueMessage (h : c.channels.Ordered) (m : Message) (ticket : Ticket) :
    Balances [ticket] c (c.queueMessage name m ticket) := by
  have hone : queueTickets [⟨m, .caller ticket⟩] = [ticket] := rfl
  have hcount : ∀ t, ({ c.channelOrNew name with
      queue := (c.channelOrNew name).queue.enqueue m (.caller ticket) } : Channel).core.parked.count t +
        ([] : List Ticket).count t = (c.channelOrNew name).core.parked.count t + [ticket].count t := by
    intro t
    simp only [Channel.core_enqueue, Channel.Core.count_parked, queueTickets_append, hone,
      List.count_append, List.count_nil]
    omega
  exact queueMessage_cases
    (fun _ => balances_set h rfl hcount fun ho => balances_attachChannel name ho [])
    fun _ _ _ => balances_set h rfl hcount balances_pure

theorem balances_publish (h : c.channels.Ordered) (action : Presence.Action)
    (clientId : Option String) (data : Payload) (ticket : Ticket) :
    Balances [ticket] c (c.publish name action clientId data ticket) :=
  publish_cases (fun _ => balances_answer ticket _ (balances_pure h))
    (fun _ _ => balances_answer ticket _ (balances_ensure name h balances_pure))
    (fun _ _ _ _ _ => balances_ensure name h fun ho => balances_sendForAck ho _ (.caller ticket))
    fun _ _ _ _ _ _ => balances_ensure name h fun ho => balances_queueMessage name ho _ ticket

/-- A caller that waits for members is parked. -/
theorem balances_parkGet {r : Logged Client} (query : MemberQuery) (ticket : Ticket)
    (h : c.channels.Ordered)
    (hr : (c.parkGet name query ticket).channels.Ordered →
      Balances [] (c.parkGet name query ticket) r) : Balances [ticket] c r := by
  refine balances_set h rfl (fun t => ?_) hr
  have hone : ∀ g : PendingGet, getTickets [g] = [g.ticket] := fun _ => rfl
  simp only [Channel.core_parkGet, Channel.Core.count_parked, getTickets_append, hone,
    List.count_append, List.count_nil]
  omega

theorem balances_failGets (h : c.channels.Ordered) (e : ErrorInfo) :
    Balances [] c (c.onChannel name fun ch => ch.failGets e) := by
  apply balances_onChannel h
  intro t
  simp only [Channel.failGets_spec, Channel.Core.count_parked, getTickets_nil, List.count_nil]
  omega

theorem balances_getMembers (h : c.channels.Ordered) (query : MemberQuery) (ticket : Ticket) :
    Balances [ticket] c (c.getMembers name query ticket) := by
  have hanswer : ∀ reply, Balances [ticket] c
      (answer ticket reply >>= fun _ => pure (c.ensureChannel name)) := fun reply =>
    balances_answer ticket reply (balances_ensure name h balances_pure)
  have hpark : ∀ {r : Logged Client}, _ → Balances [ticket] c r := fun {r} hr =>
    balances_ensure name h fun ho => balances_parkGet name query ticket ho hr
  exact getMembers_cases (fun _ _ => hanswer _) (fun _ => hanswer _)
    (fun _ => hpark balances_pure) (fun _ _ _ => hpark fun hp => balances_failGets name hp _)
    fun _ _ => hpark fun hp => balances_attachChannel name hp []

/-- A registration is answered with its id. -/
theorem balances_register {v : Channel} (h : c.channels.Ordered) (ticket : Ticket) (reply : Reply)
    (hv : v.core = (c.channelOrNew name).core) :
    Balances [ticket] c (do
      answer ticket reply
      pure (c.setChannel name v).takeListenerId) :=
  balances_answer ticket reply
    (balances_set (a := []) (b := []) h rfl (fun t => by rw [hv]) fun ho =>
      balances_same ho rfl rfl)

theorem balances_addPresenceListener (h : c.channels.Ordered) (filter : Option Presence.Action)
    (ticket : Ticket) : Balances [ticket] c (c.addPresenceListener name filter ticket) :=
  balances_register name h ticket _ rfl

theorem balances_subscribe (h : c.channels.Ordered) (filter : Option Presence.Action)
    (ticket : Ticket) : Balances [ticket] c (c.subscribe name filter ticket) :=
  subscribe_cases
    (fun _ _ => balances_answer ticket _ (balances_ensure name h balances_pure))
    (fun _ _ => balances_ensure name h fun ho =>
      balances_then (balances_attachChannel name ho []) fun _ ho' =>
        balances_addPresenceListener name ho' filter ticket)
    fun _ _ _ => balances_ensure name h fun ho =>
      balances_addPresenceListener name ho filter ticket

theorem balances_onPresence (h : c.channels.Ordered) (m : Message) :
    Balances [] c (c.onPresence m) := by
  refine onPresence_cases (fun _ => balances_pure h) fun name _ => ?_
  refine balances_onChannel h fun t => ?_
  obtain ⟨hcore, hanswered, _⟩ := Channel.foldlM_spec (c.channelOrNew name) c.takeLive
    (fun ch p => Channel.takeLive_spec ch c p) (Presence.arrivals m)
  rw [hcore, hanswered, List.count_nil, Nat.zero_add]

theorem balances_onSync (h : c.channels.Ordered) (m : Message) : Balances [] c (c.onSync m) := by
  refine onSync_cases (fun _ => balances_pure h) fun name _ => ?_
  refine balances_onChannel h fun t => ?_
  refine syncedChannel_cases (fun _ => ?taken) fun _ => Nat.zero_add _
  simp only [Channel.takePage_spec, Channel.Core.paged]
  split
  · simp only [Channel.Core.count_parked, getTickets_nil, List.count_nil]
    omega
  · simp only [Channel.Core.count_parked, List.count_nil]
    omega

end PresenceClient.Client
