-- The law of refusals. Where what is asked of a channel is refused at once, the caller is told so
-- and nothing else happens. One refusal is not so modest: a get on a channel that is being
-- detached takes along all who wait for members there.
import PresenceClient.Proofs.FailureLaws
import PresenceClient.Proofs.QueueLaws

namespace PresenceClient

theorem mem_answered {ticket : Ticket} {reply : Reply} {log : List Effect}
    (h : .resolve ticket reply ∈ log) : ticket ∈ answered log :=
  List.mem_flatMap.mpr ⟨_, h, List.mem_singleton.mpr rfl⟩

/-- A channel that is detached at once has done what those who wait for it want. -/
theorem Channel.done_enterDetached {ch : Channel} {ticket : Ticket}
    (h : .caller ticket ∈ ch.detachWaiters) (reason : Option ErrorInfo) (e : ErrorInfo) :
    .resolve ticket .done ∈ (ch.enterDetached reason e).log := by
  let next := ({ ch with timer := none }.become .detached reason false).value
  have hkept : next.detachWaiters = ch.detachWaiters := by
    have hcore := ({ ch with timer := none }.become_spec .detached reason false).1
    exact (congrArg Core.detachWaiters hcore).trans (Core.become_fields _ _).2.2.1
  have hwaits : .caller ticket ∈ next.detachWaiters := by
    rw [hkept]
    exact h
  refine List.mem_append_right _ (List.mem_append_left _ (List.mem_append_left _ ?_))
  exact List.mem_flatMap.mpr ⟨.caller ticket, hwaits, List.mem_singleton.mpr rfl⟩

namespace Client

variable {c d : Client} {r : Logged Client} {name : String} {ticket : Ticket} {e : Error}

/-! ## Answered once -/

/-- A ticket is answered or still parked, once at most. -/
def Once (ticket : Ticket) (r : Logged Client) : Prop :=
  (answered r.log).count ticket + r.value.parked.count ticket ≤ 1

/-- A ticket that is handed in once, and is new to the client. -/
theorem Balances.once {given : List Ticket} (h : Balances given c r)
    (hgiven : given.count ticket ≤ 1) (hnew : ticket ∉ c.parked) : Once ticket r := by
  have hcount := h.count ticket
  rw [← count_parked, ← count_parked, List.count_eq_zero.mpr hnew] at hcount
  unfold Once
  omega

/-- Nobody who is not parked is answered without having asked. -/
theorem Balances.unanswered (h : Balances [] c r) (hnew : ticket ∉ c.parked) {reply : Reply} :
    .resolve ticket reply ∉ r.log := by
  intro hmem
  have hcount := h.count ticket
  have hanswered := List.count_pos_iff.mpr (mem_answered hmem)
  rw [← count_parked, ← count_parked, List.count_eq_zero.mpr hnew, List.count_nil] at hcount
  omega

/-- What is still parked is not answered yet. -/
theorem Once.unanswered (h : Once ticket r) (hparked : ticket ∈ r.value.parked) {reply : Reply} :
    .resolve ticket reply ∉ r.log := by
  intro hmem
  have hanswered := List.count_pos_iff.mpr (mem_answered hmem)
  have hwaits := List.count_pos_iff.mpr hparked
  unfold Once at h
  omega

/-- There is one answer. -/
theorem Once.reply_eq (h : Once ticket r) {a b : Reply} (ha : .resolve ticket a ∈ r.log)
    (hb : .resolve ticket b ∈ r.log) : a = b := by
  by_contra hne
  obtain ⟨before, after, hlog⟩ := List.append_of_mem ha
  have hother : .resolve ticket b ∈ before ++ after := by
    rw [hlog] at hb
    simpa [Ne.symm hne] using hb
  have hcount := List.count_pos_iff.mpr (mem_answered hother)
  have hself : (answered (.resolve ticket a :: after)).count ticket =
      (answered after).count ticket + 1 := List.count_cons_self
  unfold Once at h
  rw [hlog, answered_append, List.count_append, hself] at h
  rw [answered_append, List.count_append] at hcount
  omega

/-! ## Refusals that do nothing else -/

/-- The caller is told of the error, and nothing else happens: all is as it was, or there is a
new channel that nobody has used. -/
structure Declines (name : String) (ticket : Ticket) (e : Error) (c : Client)
    (r : Logged Client) : Prop where
  log : r.log = [.resolve ticket (.failed e)]
  value : r.value = c ∨ c.channel? name = none ∧ r.value = c.setChannel name {}

/-- If the caller is told of an error, nothing else happens. -/
def IsModest (name : String) (ticket : Ticket) (c : Client) (r : Logged Client) : Prop :=
  Once ticket r → ∀ e, .resolve ticket (.failed e) ∈ r.log → Declines name ticket e c r

theorem setChannel_setChannel (c : Client) (name : String) (u v : Channel) :
    (c.setChannel name u).setChannel name v = c.setChannel name v := by
  simp [setChannel]

theorem setChannel_of_some (h : c.channels.Ordered) {ch : Channel}
    (hch : c.channel? name = some ch) : c.setChannel name ch = c :=
  congrArg (fun channels => { c with channels := channels }) (Table.put_of_get? h hch)

/-- To have a channel of the name is to have it already, or to have a new one. -/
theorem ensureChannel_cases (h : c.channels.Ordered) (name : String) :
    c.ensureChannel name = c ∨
      c.channel? name = none ∧ c.ensureChannel name = c.setChannel name {} := by
  unfold ensureChannel
  cases hch : c.channel? name with
  | none => exact .inr ⟨rfl, by rw [channelOrNew, hch]; rfl⟩
  | some ch => exact .inl (by rw [channelOrNew_of_some hch, setChannel_of_some h hch])

section Rules

theorem isModest_silent (h : ∀ e, .resolve ticket (.failed e) ∉ r.log) :
    IsModest name ticket c r := fun _ e he => absurd he (h e)

theorem isModest_parked (h : ticket ∈ r.value.parked) : IsModest name ticket c r :=
  fun honce _ he => absurd he (honce.unanswered h)

/-- Who gets another answer is told of no error. -/
theorem isModest_told (reply : Reply) (hreply : ∀ e, reply ≠ .failed e)
    (h : .resolve ticket reply ∈ r.log) : IsModest name ticket c r :=
  fun honce e he => absurd (honce.reply_eq h he) (hreply e)

/-- The answer is all there is. -/
theorem isModest_answer (h : d = c ∨ c.channel? name = none ∧ d = c.setChannel name {})
    (reply : Reply) : IsModest name ticket c ⟨d, [.resolve ticket reply]⟩ := by
  intro _ e he
  cases List.mem_singleton.mp he
  exact ⟨rfl, h⟩

end Rules

/-! ## Who is parked -/

/-- What is queued is parked. -/
theorem mem_parked_queueMessage (m : Message) :
    ticket ∈ (c.queueMessage name m ticket).value.parked := by
  have hqueued : Holds name (c.setChannel name { c.channelOrNew name with
      queue := (c.channelOrNew name).queue.enqueue m (.caller ticket) })
        (c.queueMessage name m ticket) :=
    queueMessage_cases (fun _ => holds_attachChannel []) fun _ _ _ => holds_pure
  unfold Holds at hqueued
  rw [channelOrNew_setChannel_self] at hqueued
  exact mem_parked (q := ⟨m, .caller ticket⟩)
    (hqueued.subset (List.mem_append_right _ (List.mem_singleton.mpr rfl))) rfl

/-- Who asks for members where an attach can begin waits for it. -/
theorem mem_parked_attachForGet {query : MemberQuery}
    (hs : (c.core name).state ≠ .attaching ∧ (c.core name).state ≠ .attached)
    (hr : ((c.ensureChannel name).parkGet name query ticket).attachRefusal = none) :
    ticket ∈ (((c.ensureChannel name).parkGet name query ticket).attachChannel name
      []).value.parked := by
  have hcore := @core_parkGet name c query ticket
  have hyields := yields_attachChannel hr (by rw [hcore]; exact hs) []
  refine mem_parked_of_core name ?_
  rw [hyields.core, hcore]
  simp [Channel.Core.parked, Channel.Core.begun, getTickets]

/-- With no attach to wait for, all who wait for members are told, the new one last. -/
theorem refuseGet_eq (query : MemberQuery) (e : ErrorInfo) :
    (((c.ensureChannel name).parkGet name query ticket).onChannel name fun ch => ch.failGets e) =
      ⟨c.setChannel name { c.channelOrNew name with pendingGets := [] },
        ((c.channelOrNew name).pendingGets.map fun g =>
          Channel.answerGet g (.failed (.service e))) ++
            [.resolve ticket (.failed (.service e))]⟩ := by
  rw [onChannel_of_some (channel?_parkGet query ticket)]
  refine Logged.ext ?_ ?_
  · simp [parkGet, ensureChannel, setChannel_setChannel, Channel.failGets]
  · simp [Channel.failGets, Channel.answerGet]

/-! ## Commands -/

section Commands

variable (hordered : c.channels.Ordered)

include hordered

theorem isModest_attachChannel :
    IsModest name ticket c (c.attachChannel name [.caller ticket]) := by
  by_cases hs : c.attachRefusal = none ∧
      (c.core name).state ≠ .attaching ∧ (c.core name).state ≠ .attached
  · have hyields := yields_attachChannel hs.1 hs.2 [.caller ticket]
    refine isModest_parked (mem_parked_of_core name ?_)
    rw [hyields.core]
    simp [Channel.Core.parked, Channel.Core.begun, Responder.tickets]
  · have hensure := ensureChannel_cases hordered name
    exact attachChannel_cases (fun _ => isModest_answer hensure .done)
      (fun _ => isModest_silent fun _ => List.not_mem_nil) (fun _ _ => isModest_answer hensure _)
      fun h1 h2 hr => absurd ⟨hr, h2, h1⟩ hs

theorem isModest_detachChannel :
    IsModest name ticket c (c.detachChannel name (.caller ticket)) := by
  have hensure := ensureChannel_cases hordered name
  refine detachChannel_cases (fun _ => isModest_answer hensure .done)
    (fun _ => isModest_answer hensure _) (fun _ => isModest_silent fun _ => List.not_mem_nil)
    (fun _ => ?atOnce) fun _ hs => ?asks
  case atOnce =>
    refine isModest_told .done nofun ?_
    rw [onChannel_of_some (channel?_ensureChannel c name)]
    exact List.mem_append_left _ (Channel.done_enterDetached
      (List.mem_append_right _ (List.mem_singleton.mpr rfl)) none _)
  case asks =>
    have hcan : (c.channelOrNew name).state.canBecome .detaching = true := (canBecome_of_live hs).1
    have hyields : Yields name (c.ensureChannel name) _ _ _ :=
      yields_beginDetach (.caller ticket) hcan
    refine isModest_parked (mem_parked_of_core name ?_)
    rw [hyields.core]
    simp [Channel.Core.parked, Channel.Core.detachBegun, Responder.tickets]

theorem isModest_publish (action : Presence.Action) (clientId : Option String) (data : Payload) :
    IsModest name ticket c (c.publish name action clientId data ticket) := by
  have hensure := ensureChannel_cases hordered name
  exact publish_cases (fun _ => isModest_answer (.inl rfl) _) (fun _ _ => isModest_answer hensure _)
    (fun _ _ _ _ _ => isModest_silent fun _ he => nomatch List.mem_singleton.mp he)
    fun _ _ _ _ _ _ => isModest_parked (mem_parked_queueMessage _)

theorem isModest_subscribe (filter : Option Presence.Action) :
    IsModest name ticket c (c.subscribe name filter ticket) := by
  have hensure := ensureChannel_cases hordered name
  have hadd : ∀ d : Client, IsModest name ticket c (d.addPresenceListener name filter ticket) :=
    fun d => isModest_told (.listener d.nextListener) nofun List.mem_cons_self
  have hfirst : ∀ d : Client, IsModest name ticket c (d.attachChannel name [] >>= fun d =>
      d.addPresenceListener name filter ticket) := fun d =>
    isModest_told (.listener (d.attachChannel name []).value.nextListener) nofun
      (List.mem_append_right _ List.mem_cons_self)
  exact subscribe_cases (fun _ _ => isModest_answer hensure _) (fun _ _ => hfirst _)
    fun _ _ _ => hadd _

/-- Where nobody else waits for members, a get that is refused does nothing else. -/
theorem isModest_getMembers {query : MemberQuery}
    (hnone : (c.channelOrNew name).state = .initialized ∨ (c.channelOrNew name).state = .detached ∨
      (c.channelOrNew name).state = .detaching → (c.channelOrNew name).pendingGets = []) :
    IsModest name ticket c (c.getMembers name query ticket) := by
  have hensure := ensureChannel_cases hordered name
  have hrefused : ∀ e, (c.channelOrNew name).pendingGets = [] → IsModest name ticket c
      (((c.ensureChannel name).parkGet name query ticket).onChannel name fun ch =>
        ch.failGets e) := by
    intro e hgets
    have hsame : { c.channelOrNew name with pendingGets := [] } = c.channelOrNew name :=
      congrArg (fun gets => { c.channelOrNew name with pendingGets := gets }) hgets.symm
    rw [refuseGet_eq, hsame, hgets]
    exact isModest_answer hensure _
  have hunused : (c.channelOrNew name).state = .initialized ∨
      (c.channelOrNew name).state = .detached ∨ (c.channelOrNew name).state = .detaching →
        (c.core name).state ≠ .attaching ∧ (c.core name).state ≠ .attached := by
    rintro (hs | hs | hs) <;> simp [core, Channel.core, hs]
  exact getMembers_cases (fun _ _ => isModest_answer hensure _)
    (fun _ => isModest_answer hensure _) (fun _ => isModest_silent fun _ => List.not_mem_nil)
    (fun e hs _ => hrefused e (hnone hs))
    fun hs hr => isModest_parked (mem_parked_attachForGet (hunused hs) hr)

end Commands

/-! ## A get that takes others along -/

/-- A command asks for the members of a channel that is being detached, and others wait for
them there. -/
def JoinsGets (c : Client) (name : String) (command : ChannelCommand) : Prop :=
  (∃ query, command = .get query) ∧ (c.channelOrNew name).state = .detaching ∧
    (c.channelOrNew name).pendingGets ≠ []

/-- All who wait for the members of the channel are told of the error, the caller last, and
nothing else happens. -/
structure FailsGets (name : String) (ticket : Ticket) (e : Error) (c : Client)
    (r : Logged Client) : Prop where
  log : r.log = ((c.channelOrNew name).pendingGets.map fun g => Channel.answerGet g (.failed e)) ++
    [.resolve ticket (.failed e)]
  value : r.value = c.setChannel name { c.channelOrNew name with pendingGets := [] }

theorem failsGets_getMembers {query : MemberQuery} (hs : (c.channelOrNew name).state = .detaching)
    (honce : Once ticket (c.getMembers name query ticket))
    (he : .resolve ticket (.failed e) ∈ (c.getMembers name query ticket).log) :
    FailsGets name ticket e c (c.getMembers name query ticket) := by
  have hunused : (c.core name).state ≠ .attaching ∧ (c.core name).state ≠ .attached := by
    simp [core, Channel.core, hs]
  revert honce he
  refine getMembers_cases (fun _ hno => ?_) (fun hno => ?_) (fun hno => ?_)
    (fun error _ _ _ he => ?declined) fun _ hr honce he => ?attaches
  case declined =>
    rw [refuseGet_eq] at he ⊢
    have herror : e = .service error := by
      rcases List.mem_append.mp he with hmem | hmem
      · obtain ⟨g, -, hg⟩ := List.mem_map.mp hmem
        cases hg
        rfl
      · cases List.mem_singleton.mp hmem
        rfl
    rw [herror]
    exact ⟨rfl, rfl⟩
  case attaches => exact absurd he (honce.unanswered (mem_parked_attachForGet hunused hr))
  -- While the channel is being detached, a get is declined or begins an attach.
  all_goals simp [hs] at hno

/-- Where others are told as well, that is not all that happens. -/
theorem FailsGets.not_declines (h : FailsGets name ticket e c r)
    (hgets : (c.channelOrNew name).pendingGets ≠ []) : ¬Declines name ticket e c r := by
  intro hdeclines
  have hlength := congrArg List.length (h.log.symm.trans hdeclines.log)
  exact hgets (by simpa using hlength)

/-! ## The law -/

theorem isModest_channelCommand (h : Sound c) (hnew : ticket ∉ c.parked)
    {command : ChannelCommand} (hjoins : ¬JoinsGets c name command) :
    IsModest name ticket c (c.channelCommand name ticket command) := by
  have hordered := h.ordered
  have hask : ∀ question : Channel → Reply, IsModest name ticket c (c.ask name ticket question) :=
    fun _ => isModest_answer (ensureChannel_cases hordered name) _
  have hset : ∀ f : Channel → Channel, IsModest name ticket c (pure (c.setListeners name f)) :=
    fun _ => isModest_silent fun _ => List.not_mem_nil
  cases command with
  | attach => exact isModest_attachChannel hordered
  | detach => exact isModest_detachChannel hordered
  | publish action clientId data => exact isModest_publish hordered action clientId data
  | subscribe filter => exact isModest_subscribe hordered filter
  | get query =>
    refine isModest_getMembers hordered fun hs => by_contra fun hgets => ?_
    have hfits : (c.channelOrNew name).core.Fits c.isConnected := h.fits name
    have hwaits := (unwedged_of_fits hfits).pendingGets hgets
    rcases hs with hs | hs | hs
    · simp [hs] at hwaits
    · simp [hs] at hwaits
    · exact hjoins ⟨⟨query, rfl⟩, hs, hgets⟩
  | release =>
    exact isModest_silent fun _ => (balances_releaseChannel name hordered).unanswered hnew
  | onState filter =>
    exact isModest_told (.listener c.nextListener) nofun List.mem_cons_self
  | unsubscribe id => exact hset _
  | unsubscribeAction action id => exact hset _
  | unsubscribeAll => exact hset _
  | offState id => exact hset _
  | _ => exact hask _

/-- Wherever a run has brought the client, a command on a channel that is answered with an error
at once does nothing but to tell its caller, exactly if it joins no other gets on a channel that
is being detached. If it does, all of those fail with it, and nothing else happens. -/
theorem a_refusal_changes_nothing_unless_it_joins_other_gets (options : Options)
    (words : List UInt64) (inputs : List Input) (name : String) (ticket : Ticket)
    (command : ChannelCommand) (e : Error)
    (hnew : ticket ∉ ((fresh options words).run inputs).value.parked)
    (hrefused : .resolve ticket (.failed e) ∈ (((fresh options words).run inputs).value.step
      (.command ticket (.channel name command))).log) :
    let c := ((fresh options words).run inputs).value
    let r := c.step (.command ticket (.channel name command))
    (Declines name ticket e c r ↔ ¬JoinsGets c name command) ∧
      (JoinsGets c name command → FailsGets name ticket e c r) := by
  intro c r
  have hsound : Sound c := sound_run (sound_fresh options words) inputs
  have honce : Once ticket r := by
    refine (balances_step hsound.ordered (.command ticket (.channel name command))).once ?_ hnew
    simp only [Input.tickets]
    split <;> simp
  have hjoined : JoinsGets c name command → FailsGets name ticket e c r := by
    rintro ⟨⟨query, rfl⟩, hs, -⟩
    exact failsGets_getMembers hs honce hrefused
  refine ⟨⟨fun hdeclines hjoins => ?_, fun hjoins => ?_⟩, hjoined⟩
  · exact (hjoined hjoins).not_declines hjoins.2.2 hdeclines
  · exact isModest_channelCommand hsound hnew hjoins honce e hrefused

/-- Callers wait in the room and in the hall, and the client is closing. -/
def closingRooms : List Input := busyRooms ++ [.command 5 .close]

/-- Another caller asks who is in the lobby and is refused: there is a lobby then, and all who wait
still do. -/
theorem a_closing_client_has_no_members_for_the_lobby :
    let c := ((fresh keyOptions []).run closingRooms).value
    c.parked = [1, 2, 4] ∧ c.channel? "lobby" = none ∧
      Declines "lobby" 6 (.service (Cause.connectionState .closing).info) c
        (c.step (.command 6 (.channel "lobby" (.get {})))) := by
  intro c
  have hnew : 6 ∉ c.parked := by decide +kernel
  have hrefused : .resolve 6 (.failed (.service (Cause.connectionState .closing).info)) ∈
      (c.step (.command 6 (.channel "lobby" (.get {})))).log := by decide +kernel
  have hunused : (c.channelOrNew "lobby").state ≠ .detaching := by decide +kernel
  have hlaw := a_refusal_changes_nothing_unless_it_joins_other_gets keyOptions [] closingRooms
    "lobby" 6 (.get {}) _ hnew hrefused
  exact ⟨by decide +kernel, by decide +kernel, hlaw.1.mpr fun hjoins => hunused hjoins.2.1⟩

/-- A caller waits for the members of the room, which is being detached when the client closes. A
second one asks for them and is refused, and the first one, whom nobody has refused, fails with
it. -/
theorem a_refused_get_fails_the_get_before_it :
    let c := ((fresh keyOptions []).run (greeting ++ [.command 1 (.channel "room" (.get {})),
      .command 2 (.channel "room" .detach), .command 3 .close])).value
    let r := c.step (.command 4 (.channel "room" (.get {})))
    let refused : Reply := .failed (.service (Cause.connectionState .closing).info)
    c.connection.state = .closing ∧ (c.channelOrNew "room").state = .detaching ∧
      (c.channelOrNew "room").pendingGets = [⟨{}, 1⟩] ∧ 4 ∉ c.parked ∧
      r.log = [.resolve 1 refused, .resolve 4 refused] ∧
      (r.value.channelOrNew "room").pendingGets = [] ∧
      ∀ e, ¬Declines "room" 4 e c r := by
  intro c r refused
  have hlog : r.log = [.resolve 1 refused, .resolve 4 refused] := by decide +kernel
  refine ⟨by decide +kernel, by decide +kernel, by decide +kernel, by decide +kernel, hlog,
    by decide +kernel, fun e hdeclines => ?_⟩
  have hone := congrArg List.length (hlog.symm.trans hdeclines.log)
  cases hone

end Client

end PresenceClient
