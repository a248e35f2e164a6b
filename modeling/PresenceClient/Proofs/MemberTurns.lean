-- The turns of a channel when a caller publishes, asks for members or listens there, and when
-- the server reports members.
import PresenceClient.Proofs.ClientTurns

namespace PresenceClient.Client

open Channel (Core Cue Turn)
open Logged (tell)

variable {name : String} {up : Bool} {c : Client} {r : Logged Client} {cue : Cue}
  {s : List Ticket} {k : Core}

/-! ## Publishing and asking -/

theorem attachRefusal_of_takesOperations (h : c.takesOperations = true) :
    c.attachRefusal = none := by
  unfold takesOperations at h
  unfold attachRefusal
  cases hs : c.connection.state with
  | connecting => rfl
  | connected => rfl
  | disconnected => rfl
  | _ => simp [hs] at h

/-- A channel that an operation attaches is not attached, nor about to be. -/
theorem not_attached_of_unused {s : Channel.State}
    (hs : s = .initialized ∨ s = .detached ∨ s = .detaching) : s ≠ .attaching ∧ s ≠ .attached := by
  rcases hs with rfl | rfl | rfl <;> simp

theorem turnOn_queueMessage {m : Message} (hm : m.channel = some name)
    (htakes : c.takesOperations = true)
    (hs : (c.core name).state ≠ .failed ∧ (c.core name).state ≠ .suspended)
    (hlater : (c.core name).state = .attached → c.isConnected = false) (ticket : Ticket) :
    TurnOn name c.isConnected (.submit ticket) c (c.queueMessage name m ticket) := by
  have hcore : (c.setChannel name { c.channelOrNew name with
      queue := (c.channelOrNew name).queue.enqueue m (.caller ticket) }).core name =
        { c.core name with queue := (c.core name).queue ++ [⟨m, .caller ticket⟩] } :=
    core_setChannel_self c name _
  refine queueMessage_cases (fun hunused => ?attaches) fun h1 h2 h3 => ?waits
  case attaches =>
    have h := yields_attachChannel (c := c.setChannel name { c.channelOrNew name
      with queue := (c.channelOrNew name).queue.enqueue m (.caller ticket) })
      (attachRefusal_of_takesOperations htakes)
      (by rw [hcore]; exact not_attached_of_unused hunused) []
    rw [hcore] at h
    exact (yields_set h).turnOn (.publishFirst hm hunused)
  case waits =>
    apply yields_put.turnOn
    have hstate : (c.core name).state = .attaching ∨
        (c.core name).state = .attached ∧ c.isConnected = false := by
      cases h : (c.core name).state with
      | attaching => exact .inl rfl
      | attached => exact .inr ⟨rfl, hlater h⟩
      | initialized => exact absurd h h1
      | detached => exact absurd h h2
      | detaching => exact absurd h h3
      | failed => exact absurd h hs.1
      | suspended => exact absurd h hs.2
    exact .publishLater hm hstate

/-- A caller publishes on the channel. -/
theorem turnOn_publish (action : Presence.Action) (clientId : Option String) (data : Payload)
    (ticket : Ticket) : TurnOn name c.isConnected (.submit ticket) c
      (c.publish name action clientId data ticket) := by
  have hsubmit : Cue.submit ticket ≠ .attached ∧ Cue.submit ticket ≠ .giveUp := by simp
  have hcore := core_ensureChannel c name name
  refine publish_cases (fun _ => ?anonymous) (fun _ _ => ?refused) (fun id _ _ hs hup => ?sent)
    fun id _ htakes h1 h2 hlater => ?queued
  case anonymous =>
    exact (yields_quiet (x := refuse ticket .missingClientId) (fun _ => rfl) yields_pure).idle
      hsubmit fun hup => hup
  case refused => exact (yields_told fun _ => rfl).idle hsubmit fun hup => hup
  case sent =>
    refine turnOn_ensure ((yields_sendForAck rfl (.caller ticket)).turnOn ?_)
    rw [hcore, show (c.ensureChannel name).isConnected = true from hup, hup]
    exact .publishNow hs
  case queued =>
    refine turnOn_ensure (turnOn_queueMessage (c := c.ensureChannel name) rfl htakes ?_ ?_ ticket)
    · rw [hcore]
      exact ⟨h1, h2⟩
    · rw [hcore]
      exact fun hs => Bool.eq_false_iff.mpr fun hup => hlater ⟨hs, hup⟩

section Gets

variable (query : MemberQuery) (ticket : Ticket)

theorem channel?_parkGet : ((c.ensureChannel name).parkGet name query ticket).channel? name =
    some { c.channelOrNew name with
      pendingGets := (c.channelOrNew name).pendingGets ++ [⟨query, ticket⟩] } := by
  unfold parkGet
  rw [channelOrNew_ensureChannel, channel?_setChannel_self]

/-- A caller who waits for members is added to the channel. -/
theorem core_parkGet : ((c.ensureChannel name).parkGet name query ticket).core name =
    { c.core name with pendingGets := (c.core name).pendingGets ++ [⟨query, ticket⟩] } :=
  core_of_some (channel?_parkGet query ticket)

/-- Parking a caller touches no other channel. -/
theorem yields_parkGet (h : Yields name ((c.ensureChannel name).parkGet name query ticket) r s k) :
    Yields name c r s k := yields_set (yields_set h)

theorem turnOn_parkGet (hs : (c.core name).state = .attaching ∨ (c.core name).state = .attached) :
    TurnOn name c.isConnected .other c
      (pure ((c.ensureChannel name).parkGet name query ticket)) := by
  apply (yields_parkGet query ticket yields_pure).turnOn
  rw [core_parkGet]
  exact .parkGet ⟨query, ticket⟩ hs

/-- With no attach to wait for, all who wait for members are told. -/
theorem turnOn_refuseGet (e : ErrorInfo) : TurnOn name c.isConnected .other c
    (((c.ensureChannel name).parkGet name query ticket).onChannel name fun ch =>
      ch.failGets e) := by
  have hfound := @channel?_parkGet name c query ticket
  have h := yields_onChannel (f := fun ch => ch.failGets e) hfound (Channel.failGets_spec _ e).2.2
  rw [(Channel.failGets_spec _ e).1, ← core_of_some hfound, core_parkGet] at h
  exact (yields_parkGet query ticket h).turnOn .failGets

theorem turnOn_attachForGet
    (hs : (c.core name).state ≠ .attaching ∧ (c.core name).state ≠ .attached)
    (hr : ((c.ensureChannel name).parkGet name query ticket).attachRefusal = none) :
    TurnOn name c.isConnected .other c
      (((c.ensureChannel name).parkGet name query ticket).attachChannel name []) := by
  have hcore := @core_parkGet name c query ticket
  have hup : ((c.ensureChannel name).parkGet name query ticket).isConnected = c.isConnected := rfl
  have h := yields_attachChannel hr (by rw [hcore]; exact hs) []
  rw [hcore, hup] at h
  exact (yields_parkGet query ticket h).turnOn (.begun [] [⟨query, ticket⟩] hs)

/-- A caller asks for the members of the channel. -/
theorem turnOn_getMembers : TurnOn name c.isConnected .other c
    (c.getMembers name query ticket) := by
  have htold : ∀ reply, TurnOn name c.isConnected .other c (do
      answer ticket reply
      pure (c.ensureChannel name)) := fun _ => (yields_told fun _ => rfl).idle idle_other id
  refine getMembers_cases (fun _ _ => htold _) (fun _ => htold _) (fun hs => ?parked)
    (fun error _ _ => turnOn_refuseGet query ticket error) fun hs hr => ?attaches
  case parked => exact turnOn_parkGet query ticket (hs.imp_right And.left)
  case attaches => exact turnOn_attachForGet query ticket (not_attached_of_unused hs) hr

end Gets

/-! ## Listening, and what the server reports -/

/-- A listener comes or goes. -/
theorem yields_listen {ch : Channel} {d : Client}
    (hd : d.channels = (c.setChannel name ch).channels)
    (hup : d.isConnected = c.isConnected) (hcore : ch.core = c.core name) :
    Yields name c (pure d) [] (c.core name) := by
  have h : Yields name (c.setChannel name ch) (pure d) _ _ := yields_same hd hup
  rw [core_setChannel_self, hcore] at h
  exact yields_set h

theorem turnOn_setListeners {f : Channel → Channel} (hf : ∀ ch, (f ch).core = ch.core) :
    TurnOn name c.isConnected .other c (pure (c.setListeners name f)) :=
  (yields_listen (d := c.setListeners name f) rfl rfl (hf _)).idle idle_other id

theorem turnOn_onChannelState (filter : Option Channel.State) (ticket : Ticket) :
    TurnOn name c.isConnected .other c (c.onChannelState name filter ticket) := by
  have hy := yields_listen (c := c) (d := (c.setListeners name fun ch => { ch with
    stateListeners := ch.stateListeners.on c.nextListener filter }).takeListenerId) rfl rfl rfl
  exact (yields_quiet (x := answer ticket (.listener c.nextListener)) (fun _ => rfl) hy).idle
    idle_other id

theorem yields_addPresenceListener (filter : Option Presence.Action) (ticket : Ticket) :
    Yields name c (c.addPresenceListener name filter ticket) [] (c.core name) :=
  yields_quiet (x := answer ticket (.listener c.nextListener)) (fun _ => rfl)
    (yields_listen rfl rfl rfl)

theorem turnOn_subscribe (filter : Option Presence.Action) (ticket : Ticket) :
    TurnOn name c.isConnected .other c (c.subscribe name filter ticket) := by
  have hcore := core_ensureChannel c name name
  have hadd : TurnOn name c.isConnected .other c
      ((c.ensureChannel name).addPresenceListener name filter ticket) :=
    turnOn_ensure ((yields_addPresenceListener filter ticket).idle idle_other id)
  refine subscribe_cases (fun _ _ => (yields_told fun _ => rfl).idle idle_other id)
    (fun hs hr => ?attaches) fun _ _ _ => hadd
  have hs' : (c.core name).state ≠ .attaching ∧ (c.core name).state ≠ .attached :=
    not_attached_of_unused (hs.imp_right .inl)
  apply turnOn_ensure
  have h1 := yields_attachChannel (c := c.ensureChannel name) hr (by rw [hcore]; exact hs') []
  have h2 : Yields name ((c.ensureChannel name).attachChannel name []).value _ _ _ :=
    yields_addPresenceListener filter ticket
  rw [h1.core] at h2
  exact (yields_bind h1 h2).turnOn (turn_begun [] (by rw [hcore]; exact hs'))

theorem turnOn_onPresence (m : Message) (hm : m.channel = some name) :
    TurnOn name c.isConnected .other c (c.onPresence m) := by
  have hspec := fun ch => Channel.foldlM_spec ch c.takeLive
    (fun ch p => Channel.takeLive_spec ch c p) (Presence.arrivals m)
  rw [onPresence_of_some hm]
  apply turnOn_onChannel id (fun ch => (hspec ch).2.2)
  intro ch
  rw [(hspec ch).1]
  exact .idle idle_other .inl

theorem turnOn_onSync (m : Message) (hm : m.channel = some name) :
    TurnOn name c.isConnected .other c (c.onSync m) := by
  rw [onSync_of_some hm]
  refine turnOn_onChannel id (fun ch other => ?_) fun ch => ?_
  · exact syncedChannel_cases (fun _ => (ch.takePage_spec m).2.2 other) fun _ => rfl
  · refine syncedChannel_cases (fun hs => ?_) fun _ => .idle idle_other .inl
    rw [(ch.takePage_spec m).1]
    exact .paged _ hs

end PresenceClient.Client
