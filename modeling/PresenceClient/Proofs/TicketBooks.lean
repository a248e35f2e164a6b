-- The books of the client: every ticket that was handed in is answered or parked. Each
-- step changes the two sides alike, so the books are kept over every run: no operation is
-- lost, and none is answered twice. The end answers all that is still parked.
import PresenceClient.Simulation
import PresenceClient.Proofs.ChannelCore
import PresenceClient.Proofs.ConnectionCases
import PresenceClient.Proofs.TableOrder

namespace PresenceClient

open Logged (tell)

/-! ## What is parked, and what was handed in -/

/-- The tickets of the messages that await an acknowledgement. -/
def pendingTickets (p : Pending) : List Ticket := p.entries.flatMap fun e => e.responder.tickets

/-- All parked tickets: in the queue of a channel, with those who wait for an attach, for a
detach or for members on it, or with a message that awaits an acknowledgement. -/
def Client.parked (c : Client) : List Ticket :=
  c.channels.values.flatMap (fun ch => ch.core.parked) ++ pendingTickets c.pending

/-- The ticket of an input that begins an operation. -/
def Input.tickets : Input → List Ticket
  | .command ticket asked => if Simulation.isAnswered asked then [ticket] else []
  | _ => []

/-- The tickets of all operations that some inputs begin. -/
def handed (inputs : List Input) : List Ticket := inputs.flatMap Input.tickets

namespace Client

/-- How often a ticket is parked. -/
def load (c : Client) (t : Ticket) : Nat :=
  c.channels.weight (fun ch => ch.core.parked.count t) + (pendingTickets c.pending).count t

theorem count_parked (c : Client) (t : Ticket) : c.parked.count t = c.load t := by
  unfold parked load Table.weight Table.values
  rw [List.count_append, Entries.count_flatMap]

/-- Whoever waits on a channel is parked with the client. -/
theorem mem_parked_of_core {c : Client} {t : Ticket} (name : String)
    (h : t ∈ (c.core name).parked) : t ∈ c.parked := by
  cases hch : c.channel? name with
  | none =>
    rw [core_of_none hch] at h
    exact absurd h List.not_mem_nil
  | some ch =>
    rw [core_of_some hch] at h
    have hmem : ch ∈ c.channels.values :=
      List.mem_map.mpr ⟨(name, ch), Entries.mem_of_get? hch, rfl⟩
    exact List.mem_append_left _ (List.mem_flatMap.mpr ⟨ch, hmem, h⟩)

/-- The books of `c` and of what `r` makes of it agree, when `given` is handed in between. -/
structure Balances (given : List Ticket) (c : Client) (r : Logged Client) : Prop where
  ordered : r.value.channels.Ordered
  count : ∀ t, (answered r.log).count t + r.value.load t = given.count t + c.load t

/-! ## How books are put together -/

section Rules

variable {a b : List Ticket} {c : Client}

theorem balances_bind {x : Logged Client} {f : Client → Logged Client} (h1 : Balances a c x)
    (h2 : x.value.channels.Ordered → Balances b x.value (f x.value)) :
    Balances (a ++ b) c (x >>= f) := by
  have h2 := h2 h1.ordered
  refine ⟨h2.ordered, fun t => ?_⟩
  have := h1.count t
  have := h2.count t
  simp only [Logged.log_bind, Logged.value_bind, answered_append, List.count_append]
  omega

/-- Nothing is handed in on the way. -/
theorem balances_then {x : Logged Client} {f : Client → Logged Client} (h1 : Balances [] c x)
    (h2 : ∀ c', c'.channels.Ordered → Balances b c' (f c')) : Balances b c (x >>= f) :=
  balances_bind h1 (h2 x.value)

/-- Only channels and pending messages matter. -/
theorem balances_from (d : Client) {r : Logged Client} (hc : d.channels = c.channels)
    (hp : d.pending = c.pending) (h : c.channels.Ordered)
    (hr : d.channels.Ordered → Balances a d r) : Balances a c r := by
  have hr := hr (hc ▸ h)
  refine ⟨hr.ordered, fun t => ?_⟩
  have := hr.count t
  simp only [load, hc, hp] at this ⊢
  exact this

theorem balances_setTimer (timer : Option (Alarm Connection.Timer)) {r : Logged Client}
    (h : c.channels.Ordered)
    (hr : (c.setTimer timer).channels.Ordered → Balances a (c.setTimer timer) r) :
    Balances a c r := balances_from (c.setTimer timer) rfl rfl h hr

theorem balances_same (h : c.channels.Ordered) {c' : Client} (hc : c'.channels = c.channels)
    (hp : c'.pending = c.pending) : Balances [] c (pure c') := by
  refine ⟨hc ▸ h, fun t => ?_⟩
  simp only [Logged.log_pure, Logged.value_pure, load, hc, hp, answered_nil]

theorem balances_pure (h : c.channels.Ordered) : Balances [] c (pure c) :=
  balances_same h rfl rfl

/-- What is answered at once was handed in before. -/
theorem balances_tell {es : List Effect} {f : Unit → Logged Client} (he : answered es = a)
    (h : Balances b c (f ())) : Balances (a ++ b) c (tell es >>= f) := by
  refine ⟨h.ordered, fun t => ?_⟩
  have := h.count t
  simp only [Logged.log_bind, Logged.value_bind, Logged.log_tell, Logged.value_tell,
    answered_append, he, List.count_append]
  omega

/-- Some effects that answer nobody come first. -/
theorem balances_quiet {α : Type} {x : Logged α} {f : α → Logged Client}
    (he : answered x.log = []) (h : Balances b c (f x.value)) : Balances b c (x >>= f) := by
  refine ⟨h.ordered, fun t => ?_⟩
  have := h.count t
  simpa only [Logged.log_bind, Logged.value_bind, answered_append, he, List.nil_append] using this

/-- The load of a client changes with one channel by what is parked on that channel. -/
theorem load_setChannel (h : c.channels.Ordered) (name : String) (ch : Channel) (t : Ticket) :
    (c.setChannel name ch).load t + (c.channelOrNew name).core.parked.count t =
      c.load t + ch.core.parked.count t := by
  have hw := Table.weight_put h (fun ch => ch.core.parked.count t) name ch
  have hu : ((c.channels.get? name).map fun ch => ch.core.parked.count t).getD 0 =
      (c.channelOrNew name).core.parked.count t := by
    unfold channelOrNew channel?
    rcases c.channels.get? name with _ | ch' <;> rfl
  unfold load setChannel
  simp only
  omega

/-- A channel is changed: what it parks more is handed in, what it parks less is handed on. -/
theorem balances_set {name : String} {u v : Channel} {r : Logged Client}
    (h : c.channels.Ordered) (hu : c.channelOrNew name = u)
    (hx : ∀ t, v.core.parked.count t + a.count t = u.core.parked.count t + b.count t)
    (hr : (c.setChannel name v).channels.Ordered → Balances a (c.setChannel name v) r) :
    Balances b c r := by
  have hr := hr (Table.ordered_put h name v)
  refine ⟨hr.ordered, fun t => ?_⟩
  have h1 := hx t
  have h2 := hr.count t
  have h3 := load_setChannel h name v t
  rw [hu] at h3
  omega

/-- A channel is changed, and nothing that it parks. -/
theorem balances_put {name : String} {u v : Channel} (h : c.channels.Ordered)
    (hu : c.channelOrNew name = u) (hx : v.core.parked = u.core.parked) :
    Balances [] c (pure (c.setChannel name v)) :=
  balances_set h hu (fun t => by rw [hx]) balances_pure

theorem balances_ensure (name : String) {r : Logged Client} (h : c.channels.Ordered)
    (hr : (c.ensureChannel name).channels.Ordered → Balances a (c.ensureChannel name) r) :
    Balances a c r := balances_set h rfl (fun _ => rfl) hr

/-- A turn of one channel comes first, and the books of that channel agree. -/
theorem balances_channel {name : String} {u : Channel} {x : Logged Channel}
    {f : Channel → Logged Client} (h : c.channels.Ordered) (hu : c.channelOrNew name = u)
    (hx : ∀ t, (answered x.log).count t + x.value.core.parked.count t =
      a.count t + u.core.parked.count t)
    (hf : (c.setChannel name x.value).channels.Ordered →
      Balances b (c.setChannel name x.value) (f x.value)) : Balances (a ++ b) c (x >>= f) := by
  have hb := hf (Table.ordered_put h name _)
  refine ⟨hb.ordered, fun t => ?_⟩
  have h1 := hx t
  have h2 := hb.count t
  have h3 := load_setChannel h name x.value t
  rw [hu] at h3
  simp only [Logged.log_bind, Logged.value_bind, answered_append, List.count_append]
  omega

/-- A channel is dropped, and everything that it parks is answered before. -/
theorem balances_erase {name : String} {ch : Channel} {x : Logged Channel}
    {f : Channel → Logged Client} (h : c.channels.Ordered) (hch : c.channel? name = some ch)
    (hx : answered x.log = ch.core.parked)
    (hf : (c.channels.erase name).Ordered →
      Balances b { c with channels := c.channels.erase name } (f x.value)) :
    Balances b c (x >>= f) := by
  have hb := hf (Table.ordered_erase h name)
  refine ⟨hb.ordered, fun t => ?_⟩
  have h1 := hb.count t
  have h2 := Table.weight_erase h (fun ch => ch.core.parked.count t) name
  have hget : c.channels.get? name = some ch := hch
  simp only [hget, Option.map_some, Option.getD_some] at h2
  simp only [load] at h1
  simp only [Logged.log_bind, Logged.value_bind, answered_append, List.count_append, hx, load]
  omega

theorem balances_onChannel {name : String} {f : Channel → Logged Channel}
    (h : c.channels.Ordered)
    (hf : ∀ t, (answered (f (c.channelOrNew name)).log).count t +
      (f (c.channelOrNew name)).value.core.parked.count t =
        (c.channelOrNew name).core.parked.count t) : Balances [] c (c.onChannel name f) := by
  refine onChannel_cases (fun _ => balances_pure h) fun ch hch => ?_
  rw [channelOrNew_of_some hch] at hf
  exact balances_channel (a := []) h (channelOrNew_of_some hch) (by simpa using hf) balances_pure

theorem balances_forNames {f : Client → String → Logged Client}
    (hf : ∀ c name, c.channels.Ordered → Balances [] c (f c name)) (names : List String)
    (h : c.channels.Ordered) : Balances [] c (c.forNames names f) := by
  unfold forNames
  induction names generalizing c with
  | nil => exact balances_pure h
  | cons name rest ih => exact balances_then (hf c name h) fun c' ho => ih ho

end Rules

end Client

end PresenceClient
