-- What is done on one channel leaves all others alone, and what is done on the connection
-- leaves all channels alone. So a client that goes through its channels does to each of
-- them what it would do to that one.
import PresenceClient.Proofs.ChannelTurns
import PresenceClient.Proofs.ConnectionCases
import PresenceClient.Proofs.TableOrder

namespace PresenceClient.Client

open Logged (tell)

/-! ## On the connection -/

/-- The channels are left alone, and no operation is sent for the first time. -/
structure Apart (c : Client) (r : Logged Client) : Prop where
  channels : r.value.channels = c.channels
  silent : ∀ name, firstSent name r.log = []

section Apart

variable {c : Client}

theorem apart_same {d : Client} (h : d.channels = c.channels) : Apart c (pure d) :=
  ⟨h, fun _ => rfl⟩

theorem apart_pure : Apart c (pure c) := apart_same rfl

theorem apart_from {d : Client} {r : Logged Client} (hd : d.channels = c.channels)
    (h : Apart d r) : Apart c r := ⟨h.channels.trans hd, h.silent⟩

theorem apart_bind {x : Logged Client} {f : Client → Logged Client} (h1 : Apart c x)
    (h2 : ∀ d, Apart d (f d)) : Apart c (x >>= f) := by
  refine ⟨(h2 _).channels.trans h1.channels, fun name => ?_⟩
  rw [Logged.log_bind, firstSent_append, h1.silent, (h2 _).silent, List.nil_append]

theorem apart_quiet {α : Type} {x : Logged α} {f : α → Logged Client}
    (hx : ∀ name, firstSent name x.log = []) (h : Apart c (f x.value)) : Apart c (x >>= f) := by
  refine ⟨h.channels, fun name => ?_⟩
  rw [Logged.log_bind, firstSent_append, hx, h.silent, List.nil_append]

theorem apart_become (next : Connection.State) (reason : Option ErrorInfo)
    (retryIn : Option Duration) : Apart c (c.become next reason retryIn) :=
  become_cases
    (fun _ => apart_quiet (fun name => firstSent_publish name _ _ _) (apart_same rfl))
    fun _ => apart_pure

theorem apart_dropLink : Apart c c.dropLink := apart_quiet (fun _ => rfl) (apart_same rfl)

theorem apart_settle (test : Unacked → Bool) (reply : Reply) : Apart c (do
    let pending ← c.pending.settle test reply
    pure { c with pending := pending }) :=
  apart_quiet (fun name => firstSent_resolveEach name _ _ _) (apart_same rfl)

theorem apart_startConnecting : Apart c c.startConnecting := by
  refine startConnecting_cases (fun _ => ?opens) fun _ => apart_pure
  exact apart_bind (apart_become _ _ _) fun d => apart_bind apart_dropLink fun e =>
    apart_quiet (fun _ => rfl) (apart_same rfl)

theorem apart_connect : Apart c c.connect :=
  connect_cases (fun _ => apart_pure) fun _ _ _ => apart_startConnecting

theorem apart_resendPending (resumed : Bool) : Apart c (c.resendPending resumed) := by
  have hall : ∀ (es : List Unacked) (d : Client), Apart d (es.foldlM (resend resumed) d) := by
    intro es
    induction es with
    | nil => exact fun d => apart_pure
    | cons e rest ih =>
      exact fun d => apart_bind (apart_quiet (fun _ => rfl) (apart_same rfl)) ih
  have h := hall c.pending.entries { c with pending := {} }
  exact ⟨h.channels, h.silent⟩

/-! ## The state of the connection -/

/-- Where there is a way, the connection goes it. -/
theorem state_become (next : Connection.State) (reason : Option ErrorInfo)
    (retryIn : Option Duration) : (c.become next reason retryIn).value.connection.state =
      if c.connection.state.canBecome next then next else c.connection.state := by
  refine become_cases (fun h => ?_) fun h => ?_
  · exact (if_pos h).symm
  · exact (if_neg (Bool.eq_false_iff.mp h)).symm

theorem isConnected_become {next : Connection.State} (h : next ≠ .connected)
    (reason : Option ErrorInfo) (retryIn : Option Duration)
    (hup : (c.become next reason retryIn).value.isConnected = true) : c.isConnected = true := by
  unfold isConnected Connection.isConnected at *
  rw [state_become] at hup
  split at hup
  · exact absurd (by simpa using hup) h
  · exact hup

theorem isConnected_resendPending (resumed : Bool) :
    (c.resendPending resumed).value.isConnected = c.isConnected := by
  have hall : ∀ (es : List Unacked) (d : Client),
      (es.foldlM (resend resumed) d).value.isConnected = d.isConnected := by
    intro es
    induction es with
    | nil => exact fun d => rfl
    | cons e rest ih =>
      intro d
      have hone : (resend resumed d e).value.isConnected = d.isConnected := by
        unfold resend
        cases resumed <;> rfl
      rw [List.foldlM_cons, Logged.value_bind, ih, hone]
  exact hall c.pending.entries { c with pending := {} }

/-- A link that is up is not opened again. -/
theorem isConnected_startConnecting : c.startConnecting.value.isConnected = c.isConnected := by
  refine startConnecting_cases (fun h => ?_) fun _ => ?_
  · have hdown : c.isConnected = false := by
      unfold isConnected Connection.isConnected
      cases hs : c.connection.state with
      | connected => simp [hs, Connection.State.canBecome] at h
      | _ => rfl
    have hstate := state_become (c := c) .connecting none none
    rw [if_pos h] at hstate
    rw [hdown]
    unfold isConnected Connection.isConnected
    simp only [Logged.value_bind, Logged.value_pure, setTimer, dropLink, hstate]
    rfl
  · rfl

theorem isConnected_connect : c.connect.value.isConnected = c.isConnected :=
  connect_cases (fun _ => rfl) fun _ _ _ => isConnected_startConnecting

end Apart

/-! ## On one channel -/

/-- Only the channel `name` is touched, and the connection stays up or down. -/
structure Alone (name : String) (c : Client) (r : Logged Client) : Prop where
  others : ∀ other, other ≠ name → r.value.channel? other = c.channel? other
  silent : ∀ other, other ≠ name → firstSent other r.log = []
  steady : r.value.isConnected = c.isConnected

/-- Only the channel `name` is touched; it is left with the core `k`, after `sent` was
sent there for the first time. -/
structure Yields (name : String) (c : Client) (r : Logged Client) (sent : List Ticket)
    (k : Channel.Core) : Prop extends Alone name c r where
  core : r.value.core name = k
  sent : firstSent name r.log = sent

section Yields

variable {name : String} {c : Client} {s s' : List Ticket} {k k' : Channel.Core}

theorem Apart.yields {r : Logged Client} (h : Apart c r)
    (hup : r.value.isConnected = c.isConnected) : Yields name c r [] (c.core name) := by
  have hch : ∀ other, r.value.channel? other = c.channel? other :=
    channel?_of_channels h.channels
  exact ⟨⟨fun other _ => hch other, fun other _ => h.silent other, hup⟩, core_congr (hch name),
    h.silent name⟩

theorem yields_same {d : Client} (hd : d.channels = c.channels)
    (hup : d.isConnected = c.isConnected) : Yields name c (pure d) [] (c.core name) :=
  (apart_same hd).yields hup

theorem yields_pure : Yields name c (pure c) [] (c.core name) := yields_same rfl rfl

theorem yields_bind {x : Logged Client} {f : Client → Logged Client} (h1 : Yields name c x s k)
    (h2 : Yields name x.value (f x.value) s' k') : Yields name c (x >>= f) (s ++ s') k' := by
  refine ⟨⟨fun other hne => ?_, fun other hne => ?_, h2.steady.trans h1.steady⟩, h2.core, ?_⟩
  · exact (h2.others other hne).trans (h1.others other hne)
  · rw [Logged.log_bind, firstSent_append, h1.silent other hne, h2.silent other hne,
      List.nil_append]
  · rw [Logged.log_bind, firstSent_append, h1.sent, h2.sent]

theorem yields_set {ch : Channel} {r : Logged Client}
    (h : Yields name (c.setChannel name ch) r s k) : Yields name c r s k := by
  refine ⟨⟨fun other hne => ?_, h.silent, h.steady⟩, h.core, h.sent⟩
  rw [h.others other hne, channel?_setChannel_ne c name ch hne]

theorem yields_kept {ch : Channel} :
    Yields name (c.setChannel name ch) (pure (c.setChannel name ch)) [] ch.core := by
  have h : Yields name (c.setChannel name ch) _ _ _ := yields_pure
  rwa [core_setChannel_self] at h

theorem yields_put {ch : Channel} : Yields name c (pure (c.setChannel name ch)) [] ch.core :=
  yields_set yields_kept

theorem yields_erase {r : Logged Client}
    (h : Yields name { c with channels := c.channels.erase name } r s k) : Yields name c r s k := by
  refine ⟨⟨fun other hne => ?_, h.silent, h.steady⟩, h.core, h.sent⟩
  rw [h.others other hne]
  exact Table.get?_erase_ne c.channels hne

/-- Effects that send no operation may come first. -/
theorem yields_quiet {α : Type} {x : Logged α} {f : α → Logged Client}
    (hx : ∀ other, firstSent other x.log = []) (h : Yields name c (f x.value) s k) :
    Yields name c (x >>= f) s k := by
  refine ⟨⟨h.others, fun other hne => ?_, h.steady⟩, h.core, ?_⟩
  · rw [Logged.log_bind, firstSent_append, hx, h.silent other hne, List.nil_append]
  · rw [Logged.log_bind, firstSent_append, hx, h.sent, List.nil_append]

/-- A turn of the channel itself comes first. -/
theorem yields_channel {x : Logged Channel} {f : Channel → Logged Client}
    (hx : ∀ other, firstSent other x.log = [])
    (h : Yields name (c.setChannel name x.value) (f x.value) s k) : Yields name c (x >>= f) s k :=
  yields_quiet hx (yields_set h)

theorem yields_onChannel {ch : Channel} {f : Channel → Logged Channel}
    (hch : c.channel? name = some ch) (hf : ∀ other, firstSent other (f ch).log = []) :
    Yields name c (c.onChannel name f) [] (f ch).value.core := by
  rw [onChannel_of_some hch]
  exact yields_quiet hf yields_put

/-! ## Sending and connecting -/

theorem yields_sendForAck {m : Message} (hm : m.channel = some name) (r : Responder) :
    Yields name c (c.sendForAck m r) r.tickets (c.core name) := by
  have hfirst : ∀ other, firstSent other (c.sendForAck m r).log =
      if m.channel = some other then r.tickets else [] := fun other => List.append_nil _
  refine ⟨⟨fun other _ => rfl, fun other hne => ?_, rfl⟩, rfl, ?_⟩
  · rw [hfirst, hm, if_neg]
    intro he
    exact hne (Option.some.inj he).symm
  · rw [hfirst, if_pos hm]

theorem yields_sendQueue (es : List Queued) (h : ∀ q ∈ es, q.message.channel = some name) :
    Yields name c (es.foldlM (fun c e => c.sendForAck e.message e.responder) c)
      (queueTickets es) (c.core name) := by
  induction es generalizing c with
  | nil => exact yields_pure
  | cons e rest ih =>
    have h1 := yields_sendForAck (c := c) (h e List.mem_cons_self) e.responder
    have h2 := ih (c := (c.sendForAck e.message e.responder).value)
      fun q hq => h q (List.mem_cons_of_mem _ hq)
    exact yields_bind h1 h2

/-- What is queued goes out on an attached channel of a live link. -/
theorem yields_flushQueue (hup : c.isConnected = true) (hs : (c.core name).state = .attached)
    (ha : (c.core name).Addressed name) : Yields name c (c.flushQueue name)
      (queueTickets (c.core name).queue) { c.core name with queue := [] } := by
  refine flushQueue_cases (fun hkept => ?kept) fun ch hch _ _ => ?sent
  case kept =>
    cases hch : c.channel? name with
    | none =>
      rw [core_of_none hch] at hs
      cases hs
    | some ch =>
      rw [core_of_some hch] at hs
      exact absurd hs (hkept ch hch hup)
  case sent =>
    rw [core_of_some hch] at ha ⊢
    have h := yields_sendQueue (c := c.setChannel name { ch with queue := {} }) ch.queue.entries ha
    rw [core_setChannel_self] at h
    exact yields_set h

theorem yields_sendAttach {ch : Channel} (hch : c.channel? name = some ch) :
    Yields name c (c.sendAttach name) [] { ch.core with timer := some .attachTimeout } := by
  rw [sendAttach_of_some hch]
  exact yields_quiet (fun _ => rfl) yields_put

theorem yields_sendDetach {ch : Channel} (hch : c.channel? name = some ch) :
    Yields name c (c.sendDetach name) [] { ch.core with timer := some .detachTimeout } := by
  rw [sendDetach_of_some hch]
  exact yields_quiet (fun _ => rfl) yields_put

end Yields

/-! ## On each channel in turn -/

/-- A client that goes through its channels does to each what it would do to that one:
the channel and the state of the connection are as they were before. -/
theorem forNames_visits {f : Client → String → Logged Client} {names : List String}
    (hnodup : names.Nodup) (c : Client)
    (hf : ∀ d name, name ∈ names → d.channel? name = c.channel? name →
      d.isConnected = c.isConnected → Alone name d (f d name)) :
    (c.forNames names f).value.isConnected = c.isConnected ∧
      ∀ name, (name ∉ names ∧ (c.forNames names f).value.channel? name = c.channel? name ∧
          firstSent name (c.forNames names f).log = []) ∨
        (name ∈ names ∧ ∃ d, d.channel? name = c.channel? name ∧ d.isConnected = c.isConnected ∧
          (c.forNames names f).value.channel? name = (f d name).value.channel? name ∧
          firstSent name (c.forNames names f).log = firstSent name (f d name).log) := by
  unfold forNames
  induction names generalizing c with
  | nil => exact ⟨rfl, fun name => .inl ⟨List.not_mem_nil, rfl, rfl⟩⟩
  | cons first rest ih =>
    obtain ⟨hfirst, hrest⟩ := List.nodup_cons.mp hnodup
    have h1 := hf c first List.mem_cons_self rfl rfl
    have hne : ∀ name ∈ rest, name ≠ first := fun name hn he => hfirst (he ▸ hn)
    obtain ⟨hup, hall⟩ := ih hrest (f c first).value fun d name hn hd hu =>
      hf d name (List.mem_cons_of_mem _ hn) (hd.trans (h1.others name (hne name hn)))
        (hu.trans h1.steady)
    simp only [List.foldlM_cons, Logged.value_bind, Logged.log_bind, firstSent_append]
    refine ⟨hup.trans h1.steady, fun name => ?_⟩
    rcases hall name with ⟨hn, hch, hlog⟩ | ⟨hn, d, hd, hu, hch, hlog⟩
    · by_cases he : name = first
      · subst he
        exact .inr ⟨List.mem_cons_self, c, rfl, rfl, hch, by rw [hlog, List.append_nil]⟩
      · refine .inl ⟨by simp [he, hn], hch.trans (h1.others name he), ?_⟩
        rw [hlog, h1.silent name he, List.nil_append]
    · have he := hne name hn
      refine .inr ⟨List.mem_cons_of_mem _ hn, d, hd.trans (h1.others name he), hu.trans h1.steady,
        hch, ?_⟩
      rw [hlog, h1.silent name he, List.nil_append]

end PresenceClient.Client
