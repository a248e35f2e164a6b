-- The law of the tickets: over every run, each operation is answered once or parked in one
-- place, and the end of the client answers all that is parked.
import PresenceClient.Proofs.ClientTurns
import PresenceClient.Proofs.StepBooks

namespace PresenceClient.Client

theorem balances_run {c : Client} (h : c.channels.Ordered) (inputs : List Input) :
    Balances (handed inputs) c (c.run inputs) := by
  induction inputs generalizing c with
  | nil => exact balances_pure h
  | cons i rest ih => exact balances_bind (balances_step h i) ih

theorem balances_perm {given : List Ticket} {c : Client} {r : Logged Client}
    (h : Balances given c r) : (answered r.log ++ r.value.parked).Perm (given ++ c.parked) := by
  rw [List.perm_iff_count]
  intro t
  rw [List.count_append, List.count_append, count_parked, count_parked]
  exact h.count t

/-! ## The end -/

theorem pending_forNames {f : Client → String → Logged Client}
    (hf : ∀ d name, (f d name).value.pending = d.pending) (names : List String) (c : Client) :
    (c.forNames names f).value.pending = c.pending := by
  unfold forNames
  induction names generalizing c with
  | nil => rfl
  | cons name rest ih => exact (ih (f c name).value).trans (hf c name)

theorem pending_onChannel (c : Client) (name : String) (f : Channel → Logged Channel) :
    (c.onChannel name f).value.pending = c.pending :=
  onChannel_cases (fun _ => rfl) fun _ _ => rfl

/-- Where no channel and no message parks anything, nothing is parked. -/
theorem parked_nil {c : Client} (h : c.channels.Ordered)
    (hch : ∀ name ch, c.channel? name = some ch → ch.core.parked = [])
    (hp : c.pending.entries = []) : c.parked = [] := by
  have hvalues : ∀ ch ∈ c.channels.values, ch.core.parked = [] := by
    intro ch hmem
    obtain ⟨⟨name, ch'⟩, he, rfl⟩ := List.mem_map.mp hmem
    exact hch name ch' (Entries.get?_of_mem h he)
  unfold parked pendingTickets
  rw [hp, List.flatMap_eq_nil_iff.mpr hvalues]
  rfl

/-- Nobody waits for a client that has come to its end. -/
theorem parked_shutdown {c : Client} (h : c.channels.Ordered) :
    c.shutdown.value.parked = [] := by
  let e := Cause.clientDropped.info
  let fail (d : Client) (name : String) : Logged Client :=
    d.onChannel name fun ch => ch.failWaiters e
  let c1 := (c.failPending e).value
  have hvalue : c.shutdown.value = (c1.forNames c.channels.keys fail).value :=
    shutdown_cases fun _ _ => rfl
  have hpending : c1.pending.entries = [] := by simp [c1, failPending, Pending.failAll,
    Pending.settle, Pending.without]
  refine parked_nil (balances_shutdown h).ordered (fun name ch hch => ?_) ?_
  · rw [hvalue] at hch
    obtain ⟨-, hall⟩ := forNames_visits (Table.keys_nodup h) c1 (f := fail) fun d name _ _ _ =>
      (turnOn_failWaiters id e).toAlone
    rcases hall name with ⟨hn, hkept, -⟩ | ⟨-, d, -, -, hone, -⟩
    · rw [hkept] at hch
      exact absurd (Table.mem_keys_of_get? hch) hn
    · rw [hone] at hch
      change (d.onChannel name fun ch => ch.failWaiters e).value.channel? name = some ch at hch
      revert hch
      refine onChannel_cases (fun hnone hch => nomatch hnone.symm.trans hch) fun ch' _ hch => ?_
      have hset : some (ch'.failWaiters e).value = some ch :=
        (channel?_setChannel_self d name _).symm.trans hch
      rw [← Option.some.inj hset, (ch'.failWaiters_spec e).1]
      rfl
  · rw [hvalue, pending_forNames (fun d name => pending_onChannel d name _)]
    exact hpending

/-! ## The laws -/

/-- After every run, the operations that were handed in are those that are answered and
those that are parked, each as often as it was handed in: none is lost, and none is answered
twice or parked in two places. The end answers exactly what is parked. -/
theorem every_operation_is_answered_once_or_parked_once (options : Options)
    (words : List UInt64) (inputs : List Input) :
    let r := (fresh options words).run inputs
    (answered r.log ++ r.value.parked).Perm (handed inputs) ∧
      (answered (r.value.step .shutdown).log).Perm r.value.parked ∧
      (r.value.step .shutdown).value.parked = [] := by
  intro r
  have hrun : Balances (handed inputs) (fresh options words) r :=
    balances_run Table.ordered_empty inputs
  have hend : Balances [] r.value r.value.shutdown := balances_shutdown hrun.ordered
  have hempty := parked_shutdown hrun.ordered
  refine ⟨?_, ?_, hempty⟩
  · have hbooks := balances_perm hrun
    rwa [show (fresh options words).parked = [] from rfl, List.append_nil] at hbooks
  · have hbooks := balances_perm hend
    rwa [hempty, List.append_nil, List.nil_append] at hbooks

end PresenceClient.Client
