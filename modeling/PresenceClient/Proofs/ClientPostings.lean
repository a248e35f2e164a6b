-- What the client posts when it works on one channel. All that it sends there fits the state in
-- which it leaves the channel, and is sent on a live link.
import PresenceClient.Proofs.Postings

namespace PresenceClient

open Logged (tell)

/-- The message publishes presence on a channel. -/
def Message.PublishesOn (m : Message) (name : String) : Prop :=
  m.action = Message.Action.presence.code ∧ m.channel = some name

namespace Client

open Channel (Core Sheds)

/-- What is queued on a channel is presence of that channel, what is filed is presence of a
channel that is there, and whoever waits for members has asked for them. -/
structure Kept (asked : String → PendingGet → Prop) (c : Client) : Prop where
  queued : ∀ name, ∀ q ∈ (c.core name).queue, q.message.PublishesOn name
  homed : ∀ e ∈ c.pending.entries,
    ∃ name, e.message.PublishesOn name ∧ (c.channel? name).isSome = true
  waiting : ∀ name, ∀ g ∈ (c.core name).pendingGets, asked name g

/-- What `r` makes of `c`: all is kept, what is not plain is among the given effects, the
serials are used up in order, what is filed then was filed before or is sent now, and no link
comes up. -/
structure Posts (asked : String → PendingGet → Prop) (may : Effect → Prop) (c : Client)
    (r : Logged Client) : Prop where
  kept : r.value.Kept asked
  within : ∀ e ∈ r.log, e.IsPlain ∨ may e
  counted : Counts c.connection.nextSerial (serials r.log) r.value.connection.nextSerial
  numbered : (filed r.log).map (·.serial) = serials r.log
  pending : r.value.pending.entries.Sublist (c.pending.entries ++ filed r.log)
  steady : r.value.isConnected = true → c.isConnected = true

section Rules

variable {asked : String → PendingGet → Prop} {may : Effect → Prop} {c d : Client}
  {r : Logged Client} {name : String} {ch : Channel}

/-! ## What is kept -/

theorem kept_same (h : c.Kept asked) (hch : d.channels = c.channels)
    (hp : d.pending.entries.Sublist c.pending.entries) : d.Kept asked := by
  have hcore : ∀ name, d.core name = c.core name := core_of_channels hch
  refine ⟨fun name => hcore name ▸ h.queued name, fun e he => ?_, fun name =>
    hcore name ▸ h.waiting name⟩
  obtain ⟨name, hm, hsome⟩ := h.homed e (hp.subset he)
  exact ⟨name, hm, by rw [channel?_of_channels hch]; exact hsome⟩

/-- A channel is changed: what is queued there and who waits there was there before, or may be
there. -/
theorem kept_set (h : c.Kept asked)
    (hq : ∀ q ∈ ch.queue.entries, q ∈ (c.core name).queue ∨ q.message.PublishesOn name)
    (hg : ∀ g ∈ ch.pendingGets, g ∈ (c.core name).pendingGets ∨ asked name g) :
    (c.setChannel name ch).Kept asked := by
  have hself : (c.setChannel name ch).core name = ch.core := core_setChannel_self c name ch
  have hother : ∀ other, other ≠ name → (c.setChannel name ch).core other = c.core other :=
    fun other hne => core_congr (channel?_setChannel_ne c name ch hne)
  refine ⟨fun other q hmem => ?_, fun e he => ?_, fun other g hmem => ?_⟩
  · by_cases hne : other = name
    · subst hne
      rw [hself] at hmem
      exact (hq q hmem).elim (h.queued other q) id
    · rw [hother other hne] at hmem
      exact h.queued other q hmem
  · obtain ⟨home, hm, hsome⟩ := h.homed e he
    refine ⟨home, hm, ?_⟩
    by_cases hne : home = name
    · rw [hne, channel?_setChannel_self]
      rfl
    · rw [channel?_setChannel_ne c name ch hne]
      exact hsome
  · by_cases hne : other = name
    · subst hne
      rw [hself] at hmem
      exact (hg g hmem).elim (h.waiting other g) id
    · rw [hother other hne] at hmem
      exact h.waiting other g hmem

/-! ## How postings are put together -/

theorem posts_bind {x : Logged Client} {f : Client → Logged Client} (h1 : Posts asked may c x)
    (h2 : x.value.Kept asked → Posts asked may x.value (f x.value)) :
    Posts asked may c (x >>= f) := by
  have h2 := h2 h1.kept
  refine ⟨h2.kept, fun e he => ?_, ?_, ?_, ?_, fun hu => h1.steady (h2.steady hu)⟩
  · rcases List.mem_append.mp he with he | he
    · exact h1.within e he
    · exact h2.within e he
  · rw [Logged.log_bind, serials_append]
    exact counts_append h1.counted h2.counted
  · rw [Logged.log_bind, filed_append, List.map_append, h1.numbered, h2.numbered, serials_append]
  · rw [Logged.log_bind, filed_append, ← List.append_assoc]
    exact h2.pending.trans (h1.pending.append (List.Sublist.refl _))

theorem posts_mono {may' : Effect → Prop} (h : Posts asked may c r) (hmay : ∀ e, may e → may' e) :
    Posts asked may' c r :=
  ⟨h.kept, fun e he => (h.within e he).imp_right (hmay e), h.counted, h.numbered, h.pending,
    h.steady⟩

/-- Only channels, what is filed and the next serial matter. -/
theorem posts_from (d : Client) (hch : d.channels = c.channels) (hp : d.pending = c.pending)
    (hn : d.connection.nextSerial = c.connection.nextSerial)
    (hup : d.isConnected = true → c.isConnected = true) (h : c.Kept asked)
    (hr : d.Kept asked → Posts asked may d r) : Posts asked may c r := by
  have hr := hr (kept_same h hch (hp ▸ List.Sublist.refl _))
  exact ⟨hr.kept, hr.within, hn ▸ hr.counted, hr.numbered, hp ▸ hr.pending, fun hu =>
    hup (hr.steady hu)⟩

/-- Nothing is sent, and nothing more is filed than before. -/
theorem posts_of_plain (h : r.value.Kept asked) (hr : Plain r.log)
    (hn : r.value.connection.nextSerial = c.connection.nextSerial)
    (hup : r.value.isConnected = true → c.isConnected = true)
    (hp : r.value.pending.entries.Sublist c.pending.entries) : Posts asked may c r := by
  have hserials := hr.serials
  refine ⟨h, fun e he => .inl (hr e he), ?_, ?_, hp.trans (List.sublist_append_left _ _), hup⟩
  · rw [hserials, hn]
    exact counts_nil _
  · rw [hserials, filed_eq_nil hserials]
    rfl

theorem posts_pure (h : c.Kept asked) : Posts asked may c (pure c) :=
  posts_of_plain h plain_nil rfl id (List.Sublist.refl _)

theorem posts_same (h : c.Kept asked) (hch : d.channels = c.channels) (hp : d.pending = c.pending)
    (hn : d.connection.nextSerial = c.connection.nextSerial)
    (hup : d.isConnected = true → c.isConnected = true) : Posts asked may c (pure d) :=
  posts_from d hch hp hn hup h posts_pure

/-- Effects without a serial may come first. -/
theorem posts_first {α : Type} {x : Logged α} {f : α → Logged Client}
    (hx : ∀ e ∈ x.log, e.IsPlain ∨ may e) (hs : serials x.log = [])
    (h : Posts asked may c (f x.value)) : Posts asked may c (x >>= f) := by
  refine ⟨h.kept, fun e he => ?_, ?_, ?_, ?_, h.steady⟩
  · rcases List.mem_append.mp he with he | he
    · exact hx e he
    · exact h.within e he
  · rw [Logged.log_bind, serials_append, hs]
    exact h.counted
  · rw [Logged.log_bind, filed_append, filed_eq_nil hs, serials_append, hs]
    exact h.numbered
  · rw [Logged.log_bind, filed_append, filed_eq_nil hs]
    exact h.pending

theorem posts_plain {α : Type} {x : Logged α} {f : α → Logged Client} (hx : Plain x.log)
    (h : Posts asked may c (f x.value)) : Posts asked may c (x >>= f) :=
  posts_first (fun e he => .inl (hx e he)) hx.serials h

theorem posts_set (ch : Channel) (h : c.Kept asked)
    (hq : ∀ q ∈ ch.queue.entries, q ∈ (c.core name).queue ∨ q.message.PublishesOn name)
    (hg : ∀ g ∈ ch.pendingGets, g ∈ (c.core name).pendingGets ∨ asked name g)
    (hr : (c.setChannel name ch).Kept asked → Posts asked may (c.setChannel name ch) r) :
    Posts asked may c r := by
  have hr := hr (kept_set h hq hg)
  exact ⟨hr.kept, hr.within, hr.counted, hr.numbered, hr.pending, hr.steady⟩

theorem posts_ensure (h : c.Kept asked)
    (hr : (c.ensureChannel name).Kept asked → Posts asked may (c.ensureChannel name) r) :
    Posts asked may c r := posts_set _ h (fun _ hq => .inl hq) (fun _ hg => .inl hg) hr

/-- A channel is changed, but not what is queued or who waits for members there. -/
theorem posts_put (h : c.Kept asked) (hq : ch.queue.entries = (c.core name).queue)
    (hg : ch.pendingGets = (c.core name).pendingGets) :
    Posts asked may c (pure (c.setChannel name ch)) :=
  posts_set _ h (fun _ hm => .inl (hq ▸ hm)) (fun _ hm => .inl (hg ▸ hm)) posts_pure

/-- What the channel does by itself comes first. -/
theorem posts_channel {x : Logged Channel} {f : Channel → Logged Client} (h : c.Kept asked)
    (hcore : c.core name = ch.core) (hx : Sheds may ch x)
    (hf : (c.setChannel name x.value).Kept asked →
      Posts asked may (c.setChannel name x.value) (f x.value)) : Posts asked may c (x >>= f) := by
  refine posts_first hx.within hx.silent
    (posts_set _ h (fun q hq => .inl ?_) (fun g hg => .inl ?_) hf)
  · rw [hcore]
    exact hx.queue q hq
  · rw [hcore]
    exact hx.gets g hg

theorem posts_onChannel {f : Channel → Logged Channel} (h : c.Kept asked)
    (hf : ∀ ch, c.channel? name = some ch → Sheds may ch (f ch)) :
    Posts asked may c (c.onChannel name f) :=
  onChannel_cases (fun _ => posts_pure h) fun ch hch =>
    posts_channel h (core_of_some hch) (hf ch hch) posts_pure

theorem posts_forNames {f : Client → String → Logged Client}
    (hf : ∀ c name, c.Kept asked → Posts asked may c (f c name)) (names : List String)
    (h : c.Kept asked) : Posts asked may c (c.forNames names f) := by
  unfold forNames
  induction names generalizing c with
  | nil => exact posts_pure h
  | cons name rest ih => exact posts_bind (hf c name h) ih

/-- What is settled is filed no longer. -/
theorem posts_settle (h : c.Kept asked) (test : Unacked → Bool) {reply : Reply}
    (hreply : ∀ ps, reply ≠ .members ps) : Posts asked may c (do
      let pending ← c.pending.settle test reply
      pure { c with pending := pending }) := by
  have hplain : Plain (c.pending.settle test reply).log := plain_resolveEach _ _ hreply
  have hleft : (c.pending.settle test reply).value.entries.Sublist c.pending.entries :=
    List.filter_sublist
  exact posts_of_plain (kept_same h rfl hleft) (plain_append hplain plain_nil) rfl id hleft

theorem posts_failPending (h : c.Kept asked) (e : ErrorInfo) :
    Posts asked may c (c.failPending e) := posts_settle h _ nofun

theorem posts_failPendingOf (h : c.Kept asked) (e : ErrorInfo) :
    Posts asked may c (c.failPendingOf name e) := posts_settle h _ nofun

/-- A message of a channel that is there is sent under the next serial, and filed. -/
theorem posts_sendForAck (h : c.Kept asked) {m : Message} (hm : m.PublishesOn name)
    (hch : (c.channel? name).isSome = true) (responder : Responder)
    (hmay : ∀ m' : Message, m'.PublishesOn name → may (.send m' (.first responder))) :
    Posts asked may c (c.sendForAck m responder) := by
  refine ⟨⟨h.queued, fun e he => ?_, h.waiting⟩, fun e he => ?_, counts_one _, rfl,
    List.Sublist.refl _, id⟩
  · rcases List.mem_append.mp he with he | he
    · exact h.homed e he
    · cases List.mem_singleton.mp he
      exact ⟨name, hm, hch⟩
  · cases List.mem_singleton.mp he
    exact .inr (hmay _ hm)

theorem posts_sendQueue (es : List Queued) (h : c.Kept asked)
    (hes : ∀ q ∈ es, q.message.PublishesOn name) (hch : (c.channel? name).isSome = true)
    (hmay : ∀ (m : Message) (responder : Responder), m.PublishesOn name →
      may (.send m (.first responder))) :
    Posts asked may c (es.foldlM (fun c e => c.sendForAck e.message e.responder) c) := by
  induction es generalizing c with
  | nil => exact posts_pure h
  | cons e rest ih =>
    have hfirst : Posts asked may c (c.sendForAck e.message e.responder) :=
      posts_sendForAck h (hes e List.mem_cons_self) hch e.responder fun m => hmay m _
    exact posts_bind hfirst fun hk =>
      ih (c := (c.sendForAck e.message e.responder).value) hk
        (fun q hq => hes q (List.mem_cons_of_mem _ hq)) hch

end Rules

/-! ## What may be said of a channel -/

/-- Is a channel ready to answer a query? -/
def Serves (ch : Channel) (q : MemberQuery) : Prop :=
  if q.waitForSync then ch.state = .attached ∧ ch.roster.sync = .complete
  else ch.state = .attached ∨ ch.state = .suspended

/-- What a client that has done its work may have said of the channel `name`. -/
inductive Speaks (asked : String → PendingGet → Prop) (name : String) (d : Client) : Effect → Prop
  | attach {serial : Option String} (hup : d.isConnected = true)
      (hs : (d.core name).state = .attaching) :
      Speaks asked name d (.send (Message.attach name none serial) .notice)
  | detach (hup : d.isConnected = true) (hs : (d.core name).state = .detaching) :
      Speaks asked name d (.send (Message.detach name) .notice)
  | sync {cursor : String} (hup : d.isConnected = true) (hs : (d.core name).state = .attached)
      (hsync : (d.core name).sync = .inProgress) :
      Speaks asked name d (.send (Message.sync name cursor) .notice)
  | publish {m : Message} {responder : Responder} (hup : d.isConnected = true)
      (hs : (d.core name).state = .attached) (hm : m.PublishesOn name) :
      Speaks asked name d (.send m (.first responder))
  | members {g : PendingGet} (hg : asked name g) (hs : Serves (d.channelOrNew name) g.query) :
      Speaks asked name d
        (.resolve g.ticket (.members ((d.channelOrNew name).roster.select g.query)))

theorem speaks_members {asked : String → PendingGet → Prop} {name : String} {d : Client}
    {roster : Roster} {g : PendingGet} (hg : asked name g)
    (hr : (d.channelOrNew name).roster = roster) (hs : Serves (d.channelOrNew name) g.query) :
    Speaks asked name d (.resolve g.ticket (.members (roster.select g.query))) := by
  rw [← hr]
  exact .members hg hs

/-- What is sent for the first time goes to the channel, which is attached. -/
theorem Speaks.attached_of_first {asked : String → PendingGet → Prop} {name : String} {d : Client}
    {m : Message} {responder : Responder} (h : Speaks asked name d (.send m (.first responder))) :
    (d.core name).state = .attached ∧ m.channel = some name := by
  cases h with
  | publish hup hs hm => exact ⟨hs, hm.2⟩

/-- What is said of a channel depends on its core and its members, and on whether the link is
live. -/
theorem speaks_congr {asked : String → PendingGet → Prop} {name : String} {c d : Client}
    {e : Effect} (h : Speaks asked name c e) (hcore : d.core name = c.core name)
    (hroster : (d.channelOrNew name).roster = (c.channelOrNew name).roster)
    (hup : d.isConnected = c.isConnected) : Speaks asked name d e := by
  cases h with
  | attach hu hs => exact .attach (hup.trans hu) (hcore ▸ hs)
  | detach hu hs => exact .detach (hup.trans hu) (hcore ▸ hs)
  | sync hu hs hsync => exact .sync (hup.trans hu) (hcore ▸ hs) (hcore ▸ hsync)
  | publish hu hs hm => exact .publish (hup.trans hu) (hcore ▸ hs) hm
  | members hg hs =>
    have hstate : (d.channelOrNew name).state = (c.channelOrNew name).state :=
      congrArg Core.state hcore
    refine speaks_members hg hroster ?_
    unfold Serves at hs ⊢
    rwa [hstate, hroster]

/-- What `r` makes of `c` on the channel `name`: apart from the effects given as `extra`, all
that is said of the channel fits the client that is left. -/
def Utters (asked : String → PendingGet → Prop) (extra : Effect → Prop) (name : String)
    (c : Client) (r : Logged Client) : Prop :=
  Posts asked (fun e => extra e ∨ Speaks asked name r.value e) c r

section Channels

variable {asked : String → PendingGet → Prop} {extra may : Effect → Prop} {c : Client}
  {r : Logged Client} {name : String} {ch : Channel}

/-- Nothing is said of the channel. -/
theorem utters_of_posts (h : Posts asked extra c r) : Utters asked extra name c r :=
  posts_mono h fun _ he => .inl he

theorem utters_then {x : Logged Client} {f : Client → Logged Client} (h1 : Posts asked extra c x)
    (h2 : x.value.Kept asked → Utters asked extra name x.value (f x.value)) :
    Utters asked extra name c (x >>= f) := posts_bind (posts_mono h1 fun _ he => .inl he) h2

/-- What comes after leaves the channel as it was said to be. -/
theorem utters_followed {x : Logged Client} {f : Client → Logged Client}
    (h1 : Utters asked extra name c x)
    (h2 : x.value.Kept asked → Posts asked extra x.value (f x.value))
    (hcore : (f x.value).value.core name = x.value.core name)
    (hroster : ((f x.value).value.channelOrNew name).roster = (x.value.channelOrNew name).roster)
    (hup : (f x.value).value.isConnected = x.value.isConnected) :
    Utters asked extra name c (x >>= f) := by
  refine posts_bind (posts_mono h1 fun e he => ?_) fun hk => posts_mono (h2 hk) fun _ he => .inl he
  exact he.imp_right fun hs => speaks_congr hs hcore hroster hup

theorem utters_plain {α : Type} {x : Logged α} {f : α → Logged Client} (hx : Plain x.log)
    (h : Utters asked extra name c (f x.value)) : Utters asked extra name c (x >>= f) :=
  posts_plain hx h

theorem utters_set (ch : Channel) (h : c.Kept asked)
    (hq : ∀ q ∈ ch.queue.entries, q ∈ (c.core name).queue ∨ q.message.PublishesOn name)
    (hg : ∀ g ∈ ch.pendingGets, g ∈ (c.core name).pendingGets ∨ asked name g)
    (hr : (c.setChannel name ch).Kept asked →
      Utters asked extra name (c.setChannel name ch) r) : Utters asked extra name c r :=
  posts_set _ h hq hg hr

theorem utters_ensure (h : c.Kept asked)
    (hr : (c.ensureChannel name).Kept asked → Utters asked extra name (c.ensureChannel name) r) :
    Utters asked extra name c r := posts_ensure h hr

theorem utters_channel {x : Logged Channel} {f : Channel → Logged Client} (h : c.Kept asked)
    (hcore : c.core name = ch.core)
    (hx : Sheds (fun e => extra e ∨ Speaks asked name (f x.value).value e) ch x)
    (hf : (c.setChannel name x.value).Kept asked →
      Utters asked extra name (c.setChannel name x.value) (f x.value)) :
    Utters asked extra name c (x >>= f) := posts_channel h hcore hx hf

/-! ## Sending -/

theorem utters_sendAttach (h : c.Kept asked) (hup : c.isConnected = true)
    (hs : (c.core name).state = .attaching) : Utters asked extra name c (c.sendAttach name) := by
  refine sendAttach_cases (fun _ => posts_pure h) fun ch hch => ?_
  have hcore := core_of_some hch
  rw [hcore] at hs
  refine posts_first (fun e he => ?_) rfl (posts_put h (hcore ▸ rfl) (hcore ▸ rfl))
  cases List.mem_singleton.mp he
  exact .inr (.inr (.attach hup ((congrArg Core.state (core_setChannel_self c name _)).trans hs)))

theorem utters_sendDetach (h : c.Kept asked) (hup : c.isConnected = true)
    (hs : (c.core name).state = .detaching) : Utters asked extra name c (c.sendDetach name) := by
  refine sendDetach_cases (fun _ => posts_pure h) fun ch hch => ?_
  have hcore := core_of_some hch
  rw [hcore] at hs
  refine posts_first (fun e he => ?_) rfl (posts_put h (hcore ▸ rfl) (hcore ▸ rfl))
  cases List.mem_singleton.mp he
  exact .inr (.inr (.detach hup ((congrArg Core.state (core_setChannel_self c name _)).trans hs)))

/-- What is queued is published on the attached channel. -/
theorem posts_flushQueue (h : c.Kept asked)
    (hmay : c.isConnected = true → (c.core name).state = .attached →
      ∀ (m : Message) (responder : Responder), m.PublishesOn name →
        may (.send m (.first responder))) : Posts asked may c (c.flushQueue name) := by
  refine flushQueue_cases (fun _ => posts_pure h) fun ch hch hup hs => ?_
  have hcore := core_of_some hch
  refine posts_set _ h (fun _ hq => absurd hq List.not_mem_nil) (fun g hg => .inl ?_) fun hk =>
    posts_sendQueue ch.queue.entries hk ?_ (by simp) (hmay hup (by rw [hcore]; exact hs))
  · rw [hcore]
    exact hg
  · have hq := h.queued name
    rw [hcore] at hq
    exact hq

theorem Kept.addressed (h : c.Kept asked) (name : String) : (c.core name).Addressed name :=
  fun q hq => (h.queued name q hq).2

theorem utters_flushQueue (h : c.Kept asked) (hup : c.isConnected = true)
    (hs : (c.core name).state = .attached) : Utters asked extra name c (c.flushQueue name) := by
  have hy := yields_flushQueue hup hs (h.addressed name)
  refine posts_flushQueue h fun _ _ m responder hm => .inr (.publish (hy.steady.trans hup) ?_ hm)
  rw [hy.core]
  exact hs

/-! ## Connecting -/

theorem serials_publish {κ : Type} [DecidableEq κ] (r : Listener.Registry κ) (kind : κ)
    (n : Notice) : serials (r.publish kind n).log = [] := by
  refine List.flatMap_eq_nil_iff.mpr fun e he => ?_
  obtain ⟨id, rfl⟩ := mem_publish he
  rfl

/-- The state of the connection is news. -/
theorem posts_become (h : c.Kept asked) (hnews : ∀ e : Effect, e.IsNews → may e)
    (next : Connection.State) (hnext : next = .connected → c.isConnected = true)
    (reason : Option ErrorInfo) (retryIn : Option Duration) :
    Posts asked may c (c.become next reason retryIn) := by
  refine become_cases (fun _ => ?goes) fun _ => posts_pure h
  refine posts_first (fun e he => ?_) (serials_publish _ _ _)
    (posts_same h rfl rfl rfl fun hu => hnext (isConnected_iff.mp hu))
  obtain ⟨id, rfl⟩ := mem_publish he
  exact .inr (hnews _ trivial)

theorem posts_dropLink (h : c.Kept asked) : Posts asked may c c.dropLink :=
  posts_plain (plain_singleton trivial) (posts_same h rfl rfl rfl id)

theorem posts_startConnecting (h : c.Kept asked) (hnews : ∀ e : Effect, e.IsNews → may e) :
    Posts asked may c c.startConnecting := by
  refine startConnecting_cases (fun _ => ?opens) fun _ => posts_pure h
  refine posts_bind (posts_become h hnews .connecting nofun _ _) fun h =>
    posts_bind (posts_dropLink h) fun h => ?_
  exact posts_plain (plain_singleton trivial) (posts_same h rfl rfl rfl id)

theorem posts_connect (h : c.Kept asked) (hnews : ∀ e : Effect, e.IsNews → may e) :
    Posts asked may c c.connect :=
  connect_cases (fun _ => posts_pure h) fun _ _ _ => posts_startConnecting h hnews

/-! ## Attaching and detaching -/

/-- The first attach connects, and on a live link the server is asked. -/
theorem utters_beginAttach (h : c.Kept asked) (hch : c.channel? name = some ch)
    (hnews : c.connection.state = .initialized → ∀ e : Effect, e.IsNews → extra e)
    (waiters : List Responder) : Utters asked extra name c (c.beginAttach name ch waiters) := by
  have hx : ∀ {may : Effect → Prop}, Sheds may ch (toAttaching waiters ch) :=
    Channel.sheds_toAttaching ch waiters
  have hs : (toAttaching waiters ch).value.core.state = .attaching := by
    rw [(ch.toAttaching_spec waiters).1]
  have hcore := core_setChannel_self c name (toAttaching waiters ch).value
  refine beginAttach_cases (fun hup => ?live) (fun hinit => ?first) fun _ _ => ?down
  all_goals refine utters_channel h (core_of_some hch) hx fun hk => ?_
  case live => exact utters_sendAttach hk (isConnected_iff.mpr hup) (by rw [hcore]; exact hs)
  case first => exact utters_of_posts (posts_connect hk (hnews hinit))
  case down => exact utters_of_posts (posts_pure hk)

theorem utters_attachChannel (h : c.Kept asked)
    (hnews : c.connection.state = .initialized → ∀ e : Effect, e.IsNews → extra e)
    (waiters : List Responder) : Utters asked extra name c (c.attachChannel name waiters) := by
  have hcore := core_ensureChannel c name name
  have hpure : (c.ensureChannel name).Kept asked → Utters asked extra name (c.ensureChannel name)
      (pure (c.ensureChannel name)) := fun hk => utters_of_posts (posts_pure hk)
  refine attachChannel_cases (fun _ => ?done) (fun _ => ?joins) (fun error _ => ?refused)
    fun _ _ _ => ?begins
  all_goals refine utters_ensure h fun hk => ?_
  case done => exact utters_plain (plain_succeedEach waiters) (hpure hk)
  case joins => exact utters_of_posts (posts_put hk (hcore ▸ rfl) (hcore ▸ rfl))
  case refused => exact utters_plain (plain_failEach waiters _) (hpure hk)
  case begins => exact utters_beginAttach hk (channel?_ensureChannel c name) hnews waiters

theorem posts_detachAtOnce (h : c.Kept asked) (waiter : Responder) :
    Posts asked may c (c.onChannel name fun ch =>
      (ch.awaitDetach waiter).enterDetached none Cause.channelDetached.info) :=
  posts_onChannel h fun _ _ => Channel.sheds_from (Channel.sheds_enterDetached _ _ _) rfl rfl

theorem utters_detachChannel (h : c.Kept asked) (waiter : Responder) :
    Utters asked extra name c (c.detachChannel name waiter) := by
  have hcore := core_ensureChannel c name name
  have htold : ∀ {reply}, (∀ ps, reply ≠ Reply.members ps) → Utters asked extra name c
      (tell (waiter.resolve reply) >>= fun _ => pure (c.ensureChannel name)) := fun hreply =>
    utters_ensure h fun hk =>
      utters_plain (plain_resolve waiter hreply) (utters_of_posts (posts_pure hk))
  refine detachChannel_cases (fun _ => htold nofun) (fun _ => htold nofun) (fun _ => ?joins)
    (fun _ => ?atOnce) fun hup hs => ?asks
  all_goals refine utters_ensure h fun hk => ?_
  case joins => exact utters_of_posts (posts_put hk (hcore ▸ rfl) (hcore ▸ rfl))
  case atOnce => exact utters_of_posts (posts_detachAtOnce hk waiter)
  case asks =>
    refine utters_channel hk hcore (Channel.sheds_toDetaching _ waiter) fun hk => ?_
    refine utters_sendDetach hk hup ?_
    rw [core_setChannel_self, (Channel.toDetaching_spec _ waiter).1]
    exact congrArg Core.state (Core.become_of_canBecome (canBecome_of_live hs).1)

/-- With a channel goes all that is filed for it. -/
theorem kept_erase (h : c.Kept asked) (e : ErrorInfo) :
    ({ c with channels := c.channels.erase name }.failPendingOf name e).value.Kept asked := by
  have hgone : ∀ d : Client, d.channels = c.channels.erase name → d.core name = {} := fun d hd =>
    core_of_none (by rw [channel?, hd]; exact Table.get?_erase_self c.channels name)
  have hother : ∀ d : Client, d.channels = c.channels.erase name → ∀ other, other ≠ name →
      d.channel? other = c.channel? other := fun d hd other hne => by
    rw [channel?, hd]
    exact Table.get?_erase_ne c.channels hne
  generalize hx : ({ c with channels := c.channels.erase name }.failPendingOf name e).value = d
  have hch : d.channels = c.channels.erase name := by rw [← hx]; rfl
  have hp : d.pending = c.pending.without (Pending.onChannel name) := by rw [← hx]; rfl
  refine ⟨fun other q hq => ?_, fun u hu => ?_, fun other g hg => ?_⟩
  · by_cases hne : other = name
    · rw [hne, hgone d hch] at hq
      exact absurd hq List.not_mem_nil
    · rw [core_congr (hother d hch other hne)] at hq
      exact h.queued other q hq
  · rw [hp] at hu
    obtain ⟨hmem, haway⟩ := List.mem_filter.mp hu
    obtain ⟨home, hm, hsome⟩ := h.homed u hmem
    refine ⟨home, hm, ?_⟩
    rw [hother d hch home]
    · exact hsome
    · intro he
      simp [Pending.onChannel, hm.2, he] at haway
  · by_cases hne : other = name
    · rw [hne, hgone d hch] at hg
      exact absurd hg List.not_mem_nil
    · rw [core_congr (hother d hch other hne)] at hg
      exact h.waiting other g hg

theorem posts_releaseChannel (h : c.Kept asked)
    (hmay : c.isConnected = true →
      ((c.core name).state = .attached ∨ (c.core name).state = .attaching) →
        may (.send (Message.detach name) .notice)) :
    Posts asked may c (c.releaseChannel name) := by
  refine releaseChannel_cases (fun _ => posts_pure h) fun ch farewell hch hsaid => ?_
  rw [core_of_some hch] at hmay
  have hplain : Plain (c.pending.failChannel name Cause.channelReleased.info).log :=
    plain_resolveEach _ _ nofun
  have hfail : Posts asked may c ({ c with channels := c.channels.erase name }.failPendingOf name
      Cause.channelReleased.info) :=
    posts_of_plain (kept_erase h _) (plain_append hplain plain_nil) rfl id List.filter_sublist
  have hx : Sheds may ch (ch.failWaiters Cause.channelReleased.info) :=
    Channel.sheds_failWaiters ch _
  refine posts_first hx.within hx.silent (posts_bind hfail fun hk => ?_)
  rcases hsaid with rfl | ⟨rfl, hup, hs⟩
  · exact posts_pure hk
  · refine posts_first (fun e he => ?_) rfl (posts_pure hk)
    cases List.mem_singleton.mp he
    exact .inr (hmay hup hs)

/-! ## Failing and suspending -/

theorem posts_failChannel (h : c.Kept asked) (e : ErrorInfo) :
    Posts asked may c (c.failChannel name e) :=
  failChannel_cases (fun _ => posts_pure h) fun _ hch _ =>
    posts_channel h (core_of_some hch) (Channel.sheds_toFailed _ e) fun hk =>
      posts_failPendingOf hk e

theorem posts_suspendChannel (h : c.Kept asked) (reason : ErrorInfo) (retry : Bool) :
    Posts asked may c (c.suspendChannel name reason retry) :=
  posts_onChannel h fun ch _ => Channel.sheds_suspendedChannel ch reason (c.retryAlarm retry)

theorem posts_failQueue (h : c.Kept asked) (e : ErrorInfo) :
    Posts asked may c (c.onChannel name fun ch => ch.failQueue e) :=
  posts_onChannel h fun ch _ => Channel.sheds_failQueue ch e

theorem posts_suspendUnder (h : c.Kept asked) (e : ErrorInfo) :
    Posts asked may c (suspendUnder e c name) :=
  suspendUnder_cases (fun _ => posts_pure h) (fun _ _ _ => posts_suspendChannel h e false)
    fun _ _ _ _ => posts_failQueue h e

theorem posts_failUnder (h : c.Kept asked) (e : ErrorInfo) :
    Posts asked may c (failUnder e c name) :=
  failUnder_cases (fun _ => posts_pure h) (fun _ _ _ => posts_failChannel h e)
    fun _ _ _ _ _ _ => posts_failQueue h e

/-! ## What the server says -/

theorem channels_sendQueue (es : List Queued) :
    (es.foldlM (fun (c : Client) e => c.sendForAck e.message e.responder) c).value.channels =
      c.channels := by
  induction es generalizing c with
  | nil => rfl
  | cons e rest ih => exact ih (c := (c.sendForAck e.message e.responder).value)

theorem channels_reenter (ps : List Presence) :
    (ps.foldlM (reenter name) c).value.channels = c.channels := by
  induction ps generalizing c with
  | nil => rfl
  | cons p rest ih => exact ih (c := (reenter name c p).value)

/-- What is queued goes out, and all else on the channel is as it was. -/
theorem channelOrNew_flushQueue (c : Client) (name : String) : ∃ queue,
    (c.flushQueue name).value.channelOrNew name = { c.channelOrNew name with queue := queue } := by
  refine flushQueue_cases (fun _ => ⟨_, rfl⟩) fun ch hch _ _ => ⟨{}, ?_⟩
  have hsame := channel?_of_channels
    (channels_sendQueue (c := c.setChannel name { ch with queue := {} }) ch.queue.entries) name
  rw [channelOrNew_congr hsame, channelOrNew_setChannel_self, channelOrNew_of_some hch]

/-- What an attach sets going leaves all of the channel but its queue. -/
theorem channelOrNew_attached (c : Client) (name : String) (mine : List Presence) : ∃ queue,
    (mine.foldlM (reenter name) c >>= fun c => c.flushQueue name).value.channelOrNew name =
      { c.channelOrNew name with queue := queue } := by
  obtain ⟨queue, hq⟩ := channelOrNew_flushQueue (mine.foldlM (reenter name) c).value name
  have hsame : (mine.foldlM (reenter name) c).value.channel? name = c.channel? name :=
    channel?_of_channels (channels_reenter mine) name
  refine ⟨queue, ?_⟩
  rw [Logged.value_bind, hq, channelOrNew_congr hsame]

theorem posts_reenter (ps : List Presence) (h : c.Kept asked)
    (hch : (c.channel? name).isSome = true)
    (hmay : ∀ (m : Message) (responder : Responder), m.PublishesOn name →
      may (.send m (.first responder))) :
    Posts asked may c (ps.foldlM (reenter name) c) := by
  induction ps generalizing c with
  | nil => exact posts_pure h
  | cons p rest ih =>
    have hfirst : Posts asked may c (reenter name c p) :=
      posts_sendForAck h ⟨rfl, rfl⟩ hch _ fun m => hmay m _
    exact posts_bind hfirst fun hk => ih (c := (reenter name c p).value) hk hch

/-- On a live link the members that are its own enter again, and what is queued goes out. -/
theorem utters_attached (h : c.Kept asked) (hup : c.isConnected = true)
    (hs : (c.core name).state = .attached) (hch : (c.channel? name).isSome = true)
    (mine : List Presence) : Utters asked extra name c
      (mine.foldlM (reenter name) c >>= fun c => c.flushQueue name) := by
  have hmine : Yields name c (mine.foldlM (reenter name) c) [] (c.core name) :=
    yields_reenter mine
  have hposts : ∀ {may : Effect → Prop}, (∀ (m : Message) (responder : Responder),
      m.PublishesOn name → may (.send m (.first responder))) →
        Posts asked may c (mine.foldlM (reenter name) c) := posts_reenter mine h hch
  generalize mine.foldlM (reenter name) c = x at hmine hposts
  have hall : Posts asked (fun _ => True) c x := hposts fun _ _ _ => trivial
  have hkept : x.value.Kept asked := hall.kept
  have hflush := yields_flushQueue (hmine.steady.trans hup) (by rw [hmine.core]; exact hs)
    (hkept.addressed name)
  have hlive : (x.value.flushQueue name).value.isConnected = true :=
    hflush.steady.trans (hmine.steady.trans hup)
  have hstate : ((x.value.flushQueue name).value.core name).state = .attached := by
    rw [hflush.core, hmine.core]
    exact hs
  have hmay : ∀ (m : Message) (responder : Responder), m.PublishesOn name →
      extra (.send m (.first responder)) ∨
        Speaks asked name (x.value.flushQueue name).value (.send m (.first responder)) :=
    fun m responder hm => .inr (.publish hlive hstate hm)
  exact posts_bind (hposts hmay) fun hk => posts_flushQueue hk fun _ _ => hmay

/-- Whoever is answered when the channel is attached is answered as it is left. -/
theorem speaks_attached {d : Client} {queue : Queue} {m : Message} {g : PendingGet}
    (hg : asked name g) (ha : acceptsAttached ch = true)
    (hlast : d.channelOrNew name = { (attachedChannel m ch).value with queue := queue })
    (hwait : m.has .hasPresence = true → g.query.waitForSync = false) :
    Speaks asked name d ((attachedChannel m ch).value.answerNow g) := by
  have hcore := core_attachedChannel ha m
  have hr : (d.channelOrNew name).roster = (attachedChannel m ch).value.roster := by rw [hlast]
  have hs : (d.channelOrNew name).state = .attached := by
    rw [hlast]
    exact congrArg Core.state hcore
  refine speaks_members hg hr ?_
  unfold Serves
  rw [hr]
  split
  · rename_i hasked
    have hp : m.has .hasPresence = false := Bool.eq_false_iff.mpr fun hp =>
      Bool.false_ne_true ((hwait hp).symm.trans hasked)
    have hsync := congrArg Core.sync hcore
    exact ⟨hs, by simpa [Core.served, hp, Channel.core] using hsync⟩
  · exact .inl hs

theorem utters_onAttached (h : c.Kept asked) {m : Message} (hm : m.channel = some name) :
    Utters asked extra name c (c.onAttached m) := by
  have hasked : ∀ ch, c.channel? name = some ch → ∀ g ∈ ch.pendingGets, asked name g :=
    fun ch hch g hg => h.waiting name g (by rw [core_of_some hch]; exact hg)
  have hself := fun ch => channelOrNew_setChannel_self c name (attachedChannel m ch).value
  refine onAttached_cases (fun _ => utters_of_posts (posts_pure h))
    (fun name' ch hm' hch ha hup => ?live) fun name' ch hm' hch ha _ => ?down
  case live =>
    cases hm.symm.trans hm'
    refine utters_channel h (core_of_some hch) (Channel.sheds_attachedChannel ch m ?_) fun hk => ?_
    · intro g hg hwait
      obtain ⟨queue, hlast⟩ := channelOrNew_attached
        (c.setChannel name (attachedChannel m ch).value) name
        (if m.has .resumed then [] else (attachedChannel m ch).value.roster.ownMembers)
      rw [hself] at hlast
      exact .inr (speaks_attached (hasked ch hch g hg) ha hlast hwait)
    · refine utters_attached hk hup ?_ (by simp) _
      rw [core_setChannel_self, core_attachedChannel ha]
      rfl
  case down =>
    cases hm.symm.trans hm'
    refine utters_channel h (core_of_some hch) (Channel.sheds_attachedChannel ch m ?_) fun hk =>
      utters_of_posts (posts_pure hk)
    exact fun g hg hwait => .inr (speaks_attached (hasked ch hch g hg) ha (hself ch) hwait)

theorem utters_reattach (h : c.Kept asked) (hch : c.channel? name = some ch)
    (e : Option ErrorInfo) : Utters asked extra name c (c.reattach name ch e) := by
  refine reattach_cases (utters_of_posts (posts_suspendChannel h _ _)) (fun hup => ?live)
    fun _ => ?down
  all_goals
    refine utters_channel h (core_of_some hch) (Channel.sheds_toAttachingAgain _ _ e) fun hk => ?_
  case live =>
    refine utters_sendAttach hk hup ?_
    rw [core_setChannel_self, (ch.toAttachingAgain_spec _ e).1]
  case down => exact utters_of_posts (posts_pure hk)

theorem utters_onDetached (h : c.Kept asked) {m : Message} (hm : m.channel = some name) :
    Utters asked extra name c (c.onDetached m) := by
  refine onDetached_cases (fun _ => utters_of_posts (posts_pure h)) (fun _ _ _ _ _ => ?awaited)
    (fun name' ch hm' hch _ => ?again) fun _ _ _ _ _ _ _ _ => ?fatal
  case awaited =>
    exact utters_of_posts (posts_onChannel h fun ch _ => Channel.sheds_enterDetached ch _ _)
  case again =>
    cases hm.symm.trans hm'
    exact utters_reattach h hch _
  case fatal => exact utters_of_posts (posts_failChannel h _)

theorem posts_onPresence (h : c.Kept asked) (m : Message) :
    Posts asked may c (c.onPresence m) :=
  onPresence_cases (fun _ => posts_pure h) fun _ _ => posts_onChannel h fun _ _ =>
    Channel.sheds_foldlM (fun ch p => Channel.sheds_takeLive ch c p) _

theorem utters_onSync (h : c.Kept asked) {m : Message} (hm : m.channel = some name) :
    Utters asked extra name c (c.onSync m) := by
  rw [onSync_of_some hm]
  refine onChannel_cases (fun _ => utters_of_posts (posts_pure h)) fun ch hch => ?_
  refine utters_channel h (core_of_some hch) ?_ fun hk => utters_of_posts (posts_pure hk)
  refine syncedChannel_cases (fun hs => ?taken) fun _ => Channel.sheds_pure
  refine Channel.sheds_takePage ch m fun g hg hlast => .inr ?_
  have hspec := (Channel.takePage_spec ch m).1
  rw [hlast] at hspec
  have hstate : (takePage m ch).value.state = .attached := (congrArg Core.state hspec).trans hs
  have hsync : (takePage m ch).value.roster.sync = .complete := congrArg Core.sync hspec
  have hself := channelOrNew_setChannel_self c name (takePage m ch).value
  refine speaks_members (h.waiting name g (by rw [core_of_some hch]; exact hg))
    (congrArg Channel.roster hself) ?_
  rw [Logged.value_pure, hself]
  unfold Serves
  split
  · exact ⟨hstate, hsync⟩
  · exact .inl hstate

end Channels

end Client

end PresenceClient
