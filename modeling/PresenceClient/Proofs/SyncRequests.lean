-- Requests for the rest of a sync. Only a link that comes up in a session that is resumed sends
-- them, as it visits the channels: one for each attached channel with a sync that has brought a
-- page, before anything that is queued there.
import PresenceClient.Proofs.ConnectionSteps
import PresenceClient.Proofs.Greetings

namespace PresenceClient

open Logged (tell)

/-! ## Requests in a log -/

/-- The request for the rest of a sync that an effect sends. -/
def Effect.syncRequest : Effect → Option Message
  | .send m _ => if m.action = Message.Action.sync.code then some m else none
  | _ => none

/-- The requests for the rest of a sync that some effects send, in order. -/
def syncRequests (log : List Effect) : List Message := log.filterMap Effect.syncRequest

section Requests

variable {log : List Effect} {e : Effect}

theorem syncRequests_append (a b : List Effect) :
    syncRequests (a ++ b) = syncRequests a ++ syncRequests b := List.filterMap_append

theorem syncRequests_eq_nil (h : ∀ e ∈ log, e.syncRequest = none) : syncRequests log = [] :=
  List.filterMap_eq_nil_iff.mpr h

theorem syncRequest_of_plain (h : e.IsPlain) : e.syncRequest = none := by
  unfold Effect.IsPlain at h
  unfold Effect.syncRequest
  split
  · exact h.elim
  · rfl

theorem syncRequest_of_news (h : e.IsNews) : e.syncRequest = none := by
  unfold Effect.IsNews at h
  unfold Effect.syncRequest
  split
  · exact h.elim
  · rfl

/-- Whoever publishes does not ask for the rest of a sync. -/
theorem syncRequest_of_publishesOn {m : Message} {name : String} (h : m.PublishesOn name)
    (purpose : Purpose) : (Effect.send m purpose).syncRequest = none :=
  if_neg (by rw [h.1]; decide)

theorem Plain.syncRequests (h : Plain log) : syncRequests log = [] :=
  syncRequests_eq_nil fun e he => syncRequest_of_plain (h e he)

theorem syncRequests_bind {α β : Type} {x : Logged α} {f : α → Logged β}
    (hx : syncRequests x.log = []) (hf : syncRequests (f x.value).log = []) :
    syncRequests (x >>= f).log = [] := by
  rw [Logged.log_bind, syncRequests_append, hx, hf, List.append_nil]

end Requests

/-- A channel by itself asks for nothing. -/
theorem Channel.Sheds.syncRequests {ch : Channel} {x : Logged Channel}
    (h : Sheds (fun e => e.syncRequest = none) ch x) : syncRequests x.log = [] :=
  syncRequests_eq_nil fun e he => (h.within e he).elim syncRequest_of_plain id

namespace Client

open Channel (Sheds)

variable {asked : String → PendingGet → Prop} {c : Client} {r : Logged Client} {name : String}
  {ch : Channel}

theorem Posts.syncRequests (h : Posts asked (fun e => e.syncRequest = none) c r) :
    syncRequests r.log = [] :=
  syncRequests_eq_nil fun e he => (h.within e he).elim syncRequest_of_plain id

/-! ## What asks for nothing -/

section Nothing

theorem syncRequests_onChannel {f : Channel → Logged Channel}
    (hf : ∀ ch, Sheds (fun e => e.syncRequest = none) ch (f ch)) :
    syncRequests (c.onChannel name f).log = [] :=
  onChannel_cases (fun _ => rfl) fun ch _ => syncRequests_bind (hf ch).syncRequests rfl

theorem syncRequests_forNames {f : Client → String → Logged Client}
    (hf : ∀ d name, syncRequests (f d name).log = []) (names : List String) :
    syncRequests (c.forNames names f).log = [] := by
  unfold forNames
  induction names generalizing c with
  | nil => rfl
  | cons name rest ih => exact syncRequests_bind (hf c name) ih

theorem syncRequests_become (next : Connection.State) (reason : Option ErrorInfo)
    (retryIn : Option Duration) : syncRequests (c.become next reason retryIn).log = [] :=
  syncRequests_eq_nil fun e he => syncRequest_of_news (news_become next reason retryIn e he)

theorem syncRequests_startConnecting : syncRequests c.startConnecting.log = [] :=
  startConnecting_cases (fun _ => syncRequests_bind (syncRequests_become _ _ _) rfl) fun _ => rfl

theorem syncRequests_connect : syncRequests c.connect.log = [] :=
  connect_cases (fun _ => rfl) fun _ _ _ => syncRequests_startConnecting

theorem syncRequests_sendAttach : syncRequests (c.sendAttach name).log = [] :=
  sendAttach_cases (fun _ => rfl) fun _ _ => rfl

theorem syncRequests_sendDetach : syncRequests (c.sendDetach name).log = [] :=
  sendDetach_cases (fun _ => rfl) fun _ _ => rfl

theorem syncRequests_beginAttach (waiters : List Responder) :
    syncRequests (c.beginAttach name ch waiters).log = [] := by
  have hquiet := (Channel.sheds_toAttaching ch waiters).syncRequests
  exact beginAttach_cases (fun _ => syncRequests_bind hquiet syncRequests_sendAttach)
    (fun _ => syncRequests_bind hquiet syncRequests_connect)
    fun _ _ => syncRequests_bind hquiet rfl

theorem syncRequests_attachChannel (waiters : List Responder) :
    syncRequests (c.attachChannel name waiters).log = [] :=
  attachChannel_cases (fun _ => syncRequests_bind (plain_succeedEach waiters).syncRequests rfl)
    (fun _ => rfl) (fun _ _ => syncRequests_bind (plain_failEach waiters _).syncRequests rfl)
    fun _ _ _ => syncRequests_beginAttach waiters

theorem syncRequests_detachAtOnce (waiter : Responder) :
    syncRequests (c.onChannel name fun ch =>
      (ch.awaitDetach waiter).enterDetached none Cause.channelDetached.info).log = [] :=
  syncRequests_onChannel fun ch =>
    Channel.sheds_from (Channel.sheds_enterDetached (ch.awaitDetach waiter) none _) rfl rfl

theorem syncRequests_detachChannel (waiter : Responder) :
    syncRequests (c.detachChannel name waiter).log = [] := by
  refine detachChannel_cases (fun _ => ?idle) (fun _ => ?failed) (fun _ => rfl)
    (fun _ => syncRequests_detachAtOnce waiter) fun _ _ => ?asks
  case idle => cases waiter <;> rfl
  case failed => cases waiter <;> rfl
  case asks =>
    exact syncRequests_bind (Channel.sheds_toDetaching _ waiter).syncRequests
      syncRequests_sendDetach

theorem syncRequests_queueMessage (m : Message) (ticket : Ticket) :
    syncRequests (c.queueMessage name m ticket).log = [] :=
  queueMessage_cases (fun _ => syncRequests_attachChannel []) fun _ _ _ => rfl

theorem syncRequests_publish (action : Presence.Action) (clientId : Option String)
    (data : Payload) (ticket : Ticket) :
    syncRequests (c.publish name action clientId data ticket).log = [] :=
  publish_cases (fun _ => rfl) (fun _ _ => rfl) (fun _ _ _ _ _ => rfl)
    fun _ _ _ _ _ _ => syncRequests_queueMessage _ ticket

theorem syncRequests_getMembers (query : MemberQuery) (ticket : Ticket) :
    syncRequests (c.getMembers name query ticket).log = [] :=
  getMembers_cases (fun _ _ => rfl) (fun _ => rfl) (fun _ => rfl)
    (fun _ _ _ => syncRequests_onChannel fun ch => Channel.sheds_failGets ch _)
    fun _ _ => syncRequests_attachChannel []

theorem syncRequests_subscribe (filter : Option Presence.Action) (ticket : Ticket) :
    syncRequests (c.subscribe name filter ticket).log = [] :=
  subscribe_cases (fun _ _ => rfl)
    (fun _ _ => syncRequests_bind (syncRequests_attachChannel []) rfl) fun _ _ _ => rfl

theorem syncRequests_failPendingOf (e : ErrorInfo) :
    syncRequests (c.failPendingOf name e).log = [] := by
  have hplain : Plain (c.pending.failChannel name e).log := plain_resolveEach _ _ nofun
  exact syncRequests_bind hplain.syncRequests rfl

theorem syncRequests_releaseChannel : syncRequests (c.releaseChannel name).log = [] := by
  refine releaseChannel_cases (fun _ => rfl) fun _ farewell _ hsaid => ?_
  refine syncRequests_bind (Channel.sheds_failWaiters _ _).syncRequests ?_
  refine syncRequests_bind (syncRequests_failPendingOf _) ?_
  rcases hsaid with rfl | ⟨rfl, -⟩ <;> rfl

theorem syncRequests_channelCommand (ticket : Ticket) (command : ChannelCommand) :
    syncRequests (c.channelCommand name ticket command).log = [] := by
  cases command with
  | attach => exact syncRequests_attachChannel _
  | detach => exact syncRequests_detachChannel _
  | publish action clientId data => exact syncRequests_publish action clientId data ticket
  | get query => exact syncRequests_getMembers query ticket
  | subscribe filter => exact syncRequests_subscribe filter ticket
  | release => exact syncRequests_releaseChannel
  | _ => rfl

theorem syncRequests_suspendChannel (reason : ErrorInfo) (retry : Bool) :
    syncRequests (c.suspendChannel name reason retry).log = [] := by
  rw [suspendChannel_eq]
  exact syncRequests_onChannel fun ch => Channel.sheds_suspendedChannel ch reason _

theorem syncRequests_onChannelTimer : syncRequests (c.onChannelTimer name).log = [] :=
  onChannelTimer_cases (fun _ => rfl) (fun _ _ _ _ _ => syncRequests_suspendChannel _ true)
    (fun _ _ _ _ _ _ => syncRequests_onChannel Channel.sheds_detachTimedOut)
    (fun _ _ _ _ _ _ _ => syncRequests_attachChannel []) fun _ _ _ _ _ => rfl

theorem syncRequests_reattach (e : Option ErrorInfo) :
    syncRequests (c.reattach name ch e).log = [] := by
  have hquiet := (Channel.sheds_toAttachingAgain ch c.clock e).syncRequests
  exact reattach_cases (syncRequests_suspendChannel _ true)
    (fun _ => syncRequests_bind hquiet syncRequests_sendAttach)
    fun _ => syncRequests_bind hquiet rfl

theorem syncRequests_failChannel (e : ErrorInfo) :
    syncRequests (c.failChannel name e).log = [] :=
  failChannel_cases (fun _ => rfl) fun ch _ _ =>
    syncRequests_bind (Channel.sheds_toFailed ch e).syncRequests (syncRequests_failPendingOf e)

theorem syncRequests_onDetached (m : Message) : syncRequests (c.onDetached m).log = [] :=
  onDetached_cases (fun _ => rfl)
    (fun _ _ _ _ _ => syncRequests_onChannel fun ch => Channel.sheds_enterDetached ch _ _)
    (fun _ _ _ _ _ => syncRequests_reattach _)
    fun _ _ _ _ _ _ _ _ => syncRequests_failChannel _

theorem syncRequests_onPresence (m : Message) : syncRequests (c.onPresence m).log = [] :=
  onPresence_cases (fun _ => rfl) fun _ _ => syncRequests_onChannel fun _ =>
    Channel.sheds_foldlM (fun ch p => Channel.sheds_takeLive ch c p) _

theorem syncRequests_onSync (m : Message) : syncRequests (c.onSync m).log = [] :=
  onSync_cases (fun _ => rfl) fun _ _ => syncRequests_onChannel fun ch =>
    syncedChannel_cases (fun _ => Channel.sheds_takePage ch m fun _ _ _ => rfl) fun _ =>
      Channel.sheds_pure

/-- Whom an attach enters again and what is queued is presence. -/
theorem syncRequests_onAttached (h : c.Kept asked) (m : Message) :
    syncRequests (c.onAttached m).log = [] := by
  have hposts : Posts asked (fun e => e.syncRequest = none) c (c.onAttached m) := by
    refine onAttached_cases (fun _ => posts_pure h) (fun name ch _ hch _ _ => ?live)
      fun name ch _ hch _ _ => ?down
    all_goals
      refine posts_channel h (core_of_some hch)
        (Channel.sheds_attachedChannel ch m fun _ _ _ => rfl) fun hk => ?_
    case live =>
      have hmay : ∀ (m : Message) (responder : Responder), m.PublishesOn name →
          (Effect.send m (.first responder)).syncRequest = none :=
        fun m responder hm => syncRequest_of_publishesOn hm _
      exact posts_bind (posts_reenter _ hk (by simp) hmay) fun hk =>
        posts_flushQueue hk fun _ _ => hmay
    case down => exact posts_pure hk
  exact hposts.syncRequests

/-- A message that does not greet on a new link. -/
theorem syncRequests_onMessage (h : c.Kept asked) {m : Message}
    (hgreet : Message.Action.ofCode? m.action = some .connected →
      c.connection.state ≠ .connecting) : syncRequests (c.onMessage m).log = [] := by
  obtain ⟨hch, hp, hup⟩ := resetIdleTimer_same c
  have hk : c.resetIdleTimer.Kept asked := kept_same h hch (hp ▸ List.Sublist.refl _)
  rw [← state_resetIdleTimer] at hgreet
  refine onMessage_cases (fun ha => ?connected)
    (fun _ => (posts_onDisconnected (fun _ => syncRequest_of_news) hk m.error).syncRequests)
    (fun _ => (posts_finishClose (fun _ => syncRequest_of_news) hk).syncRequests) (fun _ => ?error)
    (fun _ => ?ack) (fun _ => ?nack) (fun _ => syncRequests_onAttached hk m)
    (fun _ => syncRequests_onDetached m) (fun _ => syncRequests_onSync m)
    (fun _ => syncRequests_onPresence m) fun _ => rfl
  case connected =>
    exact (posts_onConnected hk (fun _ => syncRequest_of_news) (hgreet ha) m).syncRequests
  case error =>
    exact onError_cases (fun _ _ => syncRequests_failChannel _) fun _ =>
      (posts_failConnection (fun _ => syncRequest_of_news) hk _).syncRequests
  case ack => exact (posts_settle hk _ (nofun : ∀ ps, Reply.done ≠ .members ps)).syncRequests
  case nack => exact (posts_settle hk _ (nofun : ∀ ps, Reply.failed _ ≠ .members ps)).syncRequests

theorem syncRequests_command (h : c.Kept asked) (ticket : Ticket) (command : Command) :
    syncRequests (c.command ticket command).log = [] := by
  cases command with
  | connect => exact syncRequests_connect
  | close => exact (posts_close (fun _ => syncRequest_of_news) h fun _ => rfl).syncRequests
  | channel name command => exact syncRequests_channelCommand ticket command
  | _ => rfl

/-- A step that does not greet on a new link. -/
theorem syncRequests_step (h : c.Kept asked) {i : Input} (hgreet : ∀ m, ¬c.Greets i m) :
    syncRequests (c.step i).log = [] := by
  cases i with
  | command ticket command => exact syncRequests_command h ticket command
  | link generation event =>
    refine step_link_cases (fun m hg he => ?message)
      (fun error _ _ => (posts_onLinkEnded (fun _ => syncRequest_of_news) h error).syncRequests)
      fun _ => rfl
    case message =>
      subst he
      exact syncRequests_onMessage h fun ha hs => hgreet m ⟨by rw [hg], ha, hs⟩
  | timers =>
    refine syncRequests_bind ?_ (syncRequests_forNames (fun _ _ => syncRequests_onChannelTimer) _)
    exact (posts_fireConnectionTimer (fun _ => syncRequest_of_news) h c.clock).syncRequests
  | shutdown =>
    have hposts : Posts asked (fun e => e.syncRequest = none) c c.shutdown :=
      posts_shutdown h fun _ => rfl
    exact hposts.syncRequests
  | _ => rfl

end Nothing

/-! ## A link comes up -/

end Client

/-- The request for the rest of the sync that is under way on an attached channel, once a page
has said where to go on. -/
def Channel.restRequest (ch : Channel) (name : String) : Option Message :=
  if ch.state = .attached ∧ ch.roster.isSyncing = true then
    ch.roster.cursor.map (Message.sync name)
  else none

/-- The request is about the channel. -/
theorem Channel.channel_restRequest {ch : Channel} {name : String} {request : Message}
    (h : ch.restRequest name = some request) : request.channel = some name := by
  unfold restRequest at h
  split at h
  · obtain ⟨cursor, -, rfl⟩ := Option.map_eq_some_iff.mp h
    rfl
  · cases h

/-- No request for the rest of a sync comes after anything that is published on the channel for
the first time. -/
def RequestsFirst (log : List Effect) : Prop :=
  log.Pairwise fun earlier later => ∀ m responder request,
    earlier = .send m (.first responder) → later.syncRequest = some request →
      request.channel ≠ m.channel

section Order

variable {log a b : List Effect}

theorem requestsFirst_of_nil (h : syncRequests log = []) : RequestsFirst log :=
  List.pairwise_of_forall_mem_list fun _ _ later hlater _ _ _ _ hr =>
    nomatch (List.filterMap_eq_nil_iff.mp h later hlater).symm.trans hr

theorem requestsFirst_append (ha : RequestsFirst a) (hb : RequestsFirst b)
    (hab : ∀ m responder, .send m (.first responder) ∈ a → ∀ request ∈ syncRequests b,
      request.channel ≠ m.channel) : RequestsFirst (a ++ b) := by
  refine List.pairwise_append.mpr ⟨ha, hb, fun earlier hearlier later hlater m responder request
    he hr => ?_⟩
  refine hab m responder (he ▸ hearlier) request ?_
  exact List.mem_filterMap.mpr ⟨later, hlater, hr⟩

end Order

namespace Client

section LinkUp

variable {asked : String → PendingGet → Prop} {c : Client} {i : Input} {m : Message}
  {name : String}

theorem syncRequests_attachAnew : syncRequests (do
    let c ← c.onChannel name fun ch => ch.become .attaching none false
    c.sendAttach name : Logged Client).log = [] :=
  syncRequests_bind (syncRequests_onChannel fun ch => Channel.sheds_become ch _ _ _)
    syncRequests_sendAttach

/-- Where the session is a new one, each attach starts anew. -/
theorem syncRequests_onLinkUp_anew (c : Client) (name : String) :
    syncRequests (c.onLinkUp false name).log = [] :=
  onLinkUp_cases (fun _ => rfl) (fun _ _ _ => syncRequests_sendAttach)
    (fun _ _ _ => syncRequests_sendDetach) (fun _ _ _ _ hresumed _ => nomatch hresumed)
    fun _ _ _ => syncRequests_attachAnew

theorem syncRequests_flushQueue (h : c.Kept asked) (name : String) :
    syncRequests (c.flushQueue name).log = [] := by
  have hposts : Posts asked (fun e => e.syncRequest = none) c (c.flushQueue name) :=
    posts_flushQueue h fun _ _ m responder hm => syncRequest_of_publishesOn hm _
  exact hposts.syncRequests

/-- Where the session is resumed, an attached channel asks for the rest of its sync, and then
sends what is queued. -/
theorem syncRequests_onLinkUp (h : c.Kept asked) (name : String) :
    syncRequests (c.onLinkUp true name).log =
        ((c.channelOrNew name).restRequest name).toList ∧
      RequestsFirst (c.onLinkUp true name).log := by
  have hflush := syncRequests_flushQueue h name
  have hnone : ∀ {r : Logged Client}, syncRequests r.log = [] →
      (c.channelOrNew name).state ≠ .attached →
        syncRequests r.log = ((c.channelOrNew name).restRequest name).toList ∧
          RequestsFirst r.log := fun hr hs => by
    refine ⟨?_, requestsFirst_of_nil hr⟩
    rw [hr, Channel.restRequest, if_neg fun hattached => hs hattached.1]
    rfl
  have hused : ∀ {ch : Channel} {s : Channel.State}, c.channel? name = some ch → ch.state = s →
      s ≠ .attached → (c.channelOrNew name).state ≠ .attached := fun hch hs hne => by
    rw [channelOrNew_of_some hch, hs]
    exact hne
  refine onLinkUp_cases (fun hidle => hnone rfl ?idle)
    (fun ch hch hs => hnone syncRequests_sendAttach (hused hch hs (by decide)))
    (fun ch hch hs => hnone syncRequests_sendDetach (hused hch hs (by decide)))
    (fun ch asks hch hs _ hasks => ?goesOn) fun ch hch hs => ?anew
  case idle =>
    cases hch : c.channel? name with
    | none =>
      rw [channelOrNew, hch]
      simp
    | some ch => rcases hidle ch hch with hs | hs | hs <;> exact hused hch hs (by decide)
  case goesOn =>
    rw [channelOrNew_of_some hch, Channel.restRequest]
    rcases hasks with ⟨rfl, hnocursor⟩ | ⟨cursor, hsyncing, hcursor, rfl⟩
    · have hrequest : (if ch.state = .attached ∧ ch.roster.isSyncing = true then
          ch.roster.cursor.map (Message.sync name) else none) = none := by
        split
        · rename_i hlive
          rw [hnocursor hlive.2]
          rfl
        · rfl
      rw [hrequest]
      exact ⟨hflush, requestsFirst_of_nil hflush⟩
    · rw [if_pos ⟨hs, hsyncing⟩, hcursor, Logged.log_bind, syncRequests_append, hflush]
      refine ⟨rfl, requestsFirst_append (List.pairwise_singleton _ _)
        (requestsFirst_of_nil hflush) fun m responder hsent => ?_⟩
      cases List.mem_singleton.mp hsent
  case anew =>
    rcases hs with ⟨-, hresumed⟩ | hs
    · cases hresumed
    · exact hnone syncRequests_attachAnew (hused hch hs (by decide))

/-- Each channel that is visited asks once for what it asks for. -/
theorem syncRequests_visits {names : List String} (hnodup : names.Nodup) (h : c.Kept asked)
    (hup : c.isConnected = true) :
    let visits := c.forNames names (onLinkUp true)
    (syncRequests visits.log = names.filterMap fun name =>
      (c.channelOrNew name).restRequest name) ∧ RequestsFirst visits.log := by
  induction names generalizing c with
  | nil => exact ⟨rfl, List.Pairwise.nil⟩
  | cons first rest ih =>
    obtain ⟨hfirst, hrest⟩ := List.nodup_cons.mp hnodup
    have halone := (turnOn_onLinkUp true hup (h.addressed first)).toAlone
    have hsaid : Utters asked (fun _ => False) first c (c.onLinkUp true first) :=
      utters_onLinkUp true h hup
    obtain ⟨hrequest, hone⟩ := syncRequests_onLinkUp h first
    obtain ⟨hothers, hall⟩ := ih hrest hsaid.kept (halone.steady.trans hup)
    have hsame : (rest.filterMap fun name => ((c.onLinkUp true first).value.channelOrNew
        name).restRequest name) = rest.filterMap fun name =>
          (c.channelOrNew name).restRequest name := by
      refine List.filterMap_congr fun name hmem => ?_
      rw [channelOrNew_congr (halone.others name fun he => hfirst (he ▸ hmem))]
    rw [hsame] at hothers
    have hcons : c.forNames (first :: rest) (onLinkUp true) =
      c.onLinkUp true first >>= fun d => d.forNames rest (onLinkUp true) := rfl
    dsimp only
    rw [hcons, Logged.log_bind, syncRequests_append, hrequest, hothers]
    refine ⟨?_, requestsFirst_append hone hall fun m responder hsent request hr => ?_⟩
    · rw [List.filterMap_cons]
      cases (c.channelOrNew first).restRequest first <;> rfl
    · rw [hothers] at hr
      obtain ⟨name, hmem, hr⟩ := List.mem_filterMap.mp hr
      have hm : m.channel = some first := by
        rcases hsaid.within _ hsent with hplain | hfalse | hspeaks
        · exact hplain.elim
        · exact hfalse.elim
        · exact hspeaks.attached_of_first.2
      rw [hm, Channel.channel_restRequest hr]
      exact fun he => hfirst (Option.some.inj he ▸ hmem)

/-- On a greeting, the client asks for the rest of each sync that was under way if it resumes the
session, and asks for nothing otherwise. -/
theorem syncRequests_greeting (hs : Sound c) (h : c.Kept asked) (hg : c.Greets i m) :
    (syncRequests (c.step i).log = if c.resumes m then c.channels.keys.filterMap fun name =>
      (c.channelOrNew name).restRequest name else []) ∧ RequestsFirst (c.step i).log := by
  obtain ⟨news, up, hgreeted⟩ := greeted_visits hs h hg
  have hk : up.Kept asked := kept_resent h hgreeted.channels hgreeted.pending
  have hnews : syncRequests (news ++ up.pending.entries.map Unacked.again) = [] := by
    refine syncRequests_eq_nil fun e he => ?_
    rcases List.mem_append.mp he with he | he
    · exact syncRequest_of_news (hgreeted.news e he)
    · obtain ⟨u, hu, rfl⟩ := List.mem_map.mp he
      obtain ⟨name, hm, -⟩ := hk.homed u hu
      exact syncRequest_of_publishesOn hm _
  have hsent : ∀ m responder, .send m (.first responder) ∉
      news ++ up.pending.entries.map Unacked.again := by
    intro m responder he
    rcases List.mem_append.mp he with he | he
    · exact hgreeted.news _ he
    · obtain ⟨u, -, hu⟩ := List.mem_map.mp he
      cases hu
  have hvisits : (syncRequests (up.forNames up.channels.keys (onLinkUp (c.resumes m))).log =
      if c.resumes m then c.channels.keys.filterMap fun name =>
        (c.channelOrNew name).restRequest name else []) ∧
      RequestsFirst (up.forNames up.channels.keys (onLinkUp (c.resumes m))).log := by
    cases c.resumes m with
    | true =>
      have hnodup : up.channels.keys.Nodup := Table.keys_nodup (hgreeted.channels ▸ hs.ordered)
      obtain ⟨hrequests, hfirst⟩ := syncRequests_visits hnodup hk hgreeted.connected
      refine ⟨hrequests.trans ?_, hfirst⟩
      rw [if_pos rfl, hgreeted.channels]
      refine List.filterMap_congr fun name _ => ?_
      rw [channelOrNew_congr (channel?_of_channels hgreeted.channels name)]
    | false =>
      have hnone := syncRequests_forNames (c := up) syncRequests_onLinkUp_anew up.channels.keys
      exact ⟨hnone, requestsFirst_of_nil hnone⟩
  rw [hgreeted.log, syncRequests_append, hnews, List.nil_append]
  exact ⟨hvisits.1, requestsFirst_append (requestsFirst_of_nil hnews) hvisits.2
    fun m responder he => absurd he (hsent m responder)⟩

/-- Does an input bring up a new link in the session that the client had? -/
def Resumes (c : Client) (i : Input) : Prop := ∃ m, c.Greets i m ∧ c.resumes m = true

/-- Only where the session is resumed does a step ask for the rest of a sync. -/
theorem syncRequests_of_step (hs : Sound c) (h : c.Kept asked) (i : Input) :
    (c.Resumes i → syncRequests (c.step i).log = c.channels.keys.filterMap fun name =>
        (c.channelOrNew name).restRequest name) ∧
      (¬c.Resumes i → syncRequests (c.step i).log = []) ∧ RequestsFirst (c.step i).log := by
  by_cases hgreets : ∃ m, c.Greets i m
  · obtain ⟨m, hg⟩ := hgreets
    obtain ⟨hrequests, hfirst⟩ := syncRequests_greeting hs h hg
    refine ⟨fun ⟨m', hg', hresumes⟩ => ?_, fun hno => ?_, hfirst⟩
    · cases hg.1.symm.trans hg'.1
      rw [hrequests, if_pos hresumes]
    · rw [hrequests, if_neg fun hresumes => hno ⟨m, hg, hresumes⟩]
  · have hnone := syncRequests_step h fun m hg => hgreets ⟨m, hg⟩
    exact ⟨fun ⟨m, hg, _⟩ => absurd ⟨m, hg⟩ hgreets, fun _ => hnone, requestsFirst_of_nil hnone⟩

end LinkUp

end Client

end PresenceClient
