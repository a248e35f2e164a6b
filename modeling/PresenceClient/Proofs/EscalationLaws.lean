-- The laws of losses. Wherever a run has brought the connection, its timer is that of its state,
-- and what it counts and keeps is right for the state. Each loss of the link leaves it waiting for
-- the next attempt, while the losses are few and the first one is not long ago, or else suspended,
-- and from there it comes back only by being up, closed or failed. A session that was closed costs
-- the next one no attempts; one that has failed does. The losses are counted in 32 bits, so what is
-- said of their number holds until the count starts over.
import PresenceClient.Proofs.LossBooks

namespace PresenceClient

open Connection (Cue Turn)

namespace Connection

/-- An outage is over in this state: the link is up, or none is asked for. -/
def State.endsOutage : State → Bool
  | .connected | .closed | .failed => true
  | _ => false

theorem State.of_isOver {s : State} : s.isOver = true → s = .closed ∨ s = .failed := by
  cases s <;> decide

/-! ## Hope -/

/-- One loss more, and there is no hope. -/
def Doomed (timing : Timing) (now : Instant) (k : Connection) : Prop :=
  timing.maxAttempts ≤ k.retryAttempts ∨ k.stateTtl ≤ now.elapsed (k.disconnectedAt.getD now)

section Hope

variable {timing : Timing} {now later : Instant} {cue : Cue} {k k' : Connection} {opens : List Nat}

/-- There is hope after a loss while the losses are few and the first one is not long ago. -/
theorem hopeful_iff : (k.lost now).isHopeless timing now = false ↔
    k.retryAttempts + 1 ≤ timing.maxAttempts ∧
      now.elapsed (k.disconnectedAt.getD now) < k.stateTtl := by
  rw [isHopeless, Bool.or_eq_false_iff, decide_eq_false_iff_not, UInt32.not_lt]
  refine and_congr Iff.rfl ?_
  show decide (k.stateTtl ≤ now.elapsed (k.disconnectedAt.getD now)) = false ↔ _
  rw [decide_eq_false_iff_not, Nat.not_le]

theorem hopeless_iff : (k.lost now).isHopeless timing now = true ↔
    timing.maxAttempts < k.retryAttempts + 1 ∨
      k.stateTtl ≤ now.elapsed (k.disconnectedAt.getD now) := by
  rw [← Bool.not_eq_false, hopeful_iff, not_and_or, UInt32.not_le, Nat.not_lt]

/-- Without hope the next loss is the end of it, unless the count of losses starts over. -/
theorem Doomed.hopeless (h : k.Doomed timing now) (hn : k.retryAttempts ≤ k.retryAttempts + 1) :
    (k.lost now).isHopeless timing now = true := by
  have hmore : k.retryAttempts < k.retryAttempts + 1 := by
    rw [UInt32.lt_iff_toNat_lt]
    rw [UInt32.le_iff_toNat_le] at hn
    have hlt := k.retryAttempts.toNat_lt
    rw [UInt32.toNat_add, UInt32.toNat_one] at hn ⊢
    omega
  exact hopeless_iff.mpr (h.imp_left fun hmany => UInt32.lt_of_le_of_lt hmany hmore)

theorem doomed_of_hopeless (h : (k.lost now).isHopeless timing now = true) :
    (k.lost now).Doomed timing now :=
  (hopeless_iff.mp h).imp_left UInt32.le_of_lt

theorem elapsed_mono (hle : now ≤ later) (since : Instant) :
    now.elapsed since ≤ later.elapsed since := Nat.sub_le_sub_right hle since

/-- What is without hope stays so as time goes by and losses add up. -/
theorem Doomed.mono (h : k.Doomed timing now) (hle : now ≤ later)
    (hn : k.retryAttempts ≤ k'.retryAttempts) (httl : k'.stateTtl = k.stateTtl)
    (hat : k'.disconnectedAt = k.disconnectedAt ∨
      k'.disconnectedAt = some (k.disconnectedAt.getD now)) : k'.Doomed timing later := by
  rcases h with hmany | hlate
  · exact .inl (UInt32.le_trans hmany hn)
  · refine .inr (httl ▸ hlate.trans ?_)
    rcases hat with hat | hat <;> rw [hat]
    · cases k.disconnectedAt with
      | none => exact Nat.le_of_eq ((Nat.sub_self now).trans (Nat.sub_self later).symm)
      | some lost => exact elapsed_mono hle lost
    · exact elapsed_mono hle _

theorem Doomed.stirred (h : k.Doomed timing now) : (k.stirred timing now).Doomed timing now := by
  obtain ⟨timer, htimer⟩ : ∃ timer, k.stirred timing now = { k with timer := timer } := stirred_eq
  rw [htimer]
  exact h

/-- A loss that is only counted gives no hope, unless the count starts over. -/
theorem Doomed.lost (h : k.Doomed timing now) (hn : k.retryAttempts ≤ (k.lost now).retryAttempts) :
    (k.lost now).Doomed timing now :=
  h.mono (Nat.le_refl _) hn rfl (.inr rfl)

/-- A connection is suspended when there is no hope, and none comes while it stays suspended. -/
theorem doomed_of_suspended (h : Turn timing now cue k opens k')
    (hk : k.state = .suspended → k.Doomed timing now)
    (hn : k.state = .suspended → k.retryAttempts ≤ k'.retryAttempts)
    (hs' : k'.state = .suspended) : k'.Doomed timing now := by
  obtain ⟨hstate, -⟩ := stirred_fields k timing now
  cases h with
  | rest => exact hk hs'
  | stirred => exact (hk (hstate ▸ hs')).stirred
  | suspended hcue hs hhope =>
    have hdoomed : (k.lost now).Doomed timing now := doomed_of_hopeless hhope
    exact hdoomed
  | lossRefused hs => exact (hk hs').lost (hn hs')
  | failRefused hs => exact hk hs'
  | closeRefused hs => exact (hk (hstate ▸ hs')).stirred
  | _ => cases hs'

/-- Without hope, a connection is suspended again after each attempt, until the outage is over. -/
theorem suspended_turn (h : Turn timing now cue k opens k') (hk : k.Doomed timing now)
    (hn : k.retryAttempts ≤ k'.retryAttempts) (hs : k.state = .suspended ∨ k.state = .connecting)
    (hout : k'.state.endsOutage = false) :
    k'.Doomed timing now ∧ (k'.state = .suspended ∨ k'.state = .connecting) := by
  obtain ⟨hstate, -⟩ := stirred_fields k timing now
  cases h with
  | rest => exact ⟨hk, hs⟩
  | stirred => exact ⟨hk.stirred, hstate ▸ hs⟩
  | opened hcue hcan => exact ⟨hk, .inr rfl⟩
  | disconnected reason word hcue hcan hhope => exact nomatch hhope.symm.trans (hk.hopeless hn)
  | suspended hcue hcan hhope =>
    have hdoomed : (k.lost now).Doomed timing now := doomed_of_hopeless hhope
    exact ⟨hdoomed, .inl rfl⟩
  | lossRefused hrefused => exact ⟨hk.lost hn, hs⟩
  | failRefused hrefused => exact ⟨hk, hs⟩
  | closing hup =>
    rw [hup] at hs
    rcases hs with hs | hs <;> cases hs
  | closeRefused hrefused => exact ⟨hk.stirred, hstate ▸ hs⟩
  | greeted m hup =>
    have hstate : (k.greeted timing now m).state = .connected := (stirred_fields _ timing now).1
    rw [hstate] at hout
    cases hout
  | _ => cases hout

/-- Only what is up starts to close. -/
theorem ne_closing_of_turn (h : Turn timing now cue k opens k') (hup : k.state ≠ .connected)
    (hs : k.state ≠ .closing) : k'.state ≠ .closing := by
  obtain ⟨hstate, -⟩ := stirred_fields k timing now
  cases h with
  | rest => exact hs
  | stirred => exact hstate ▸ hs
  | greeted m hcan =>
    have hstate : (k.greeted timing now m).state = .connected := (stirred_fields _ timing now).1
    exact fun hc => nomatch hc.symm.trans hstate
  | lossRefused hrefused => exact hs
  | failRefused hrefused => exact hs
  | closing hc => exact absurd hc hup
  | closeRefused hrefused => exact hstate ▸ hs
  | _ => exact nofun

end Hope

end Connection

namespace Client

/-! ## The books are right -/

/-- Wherever a run has brought the connection, the timer that runs is the one that its state
waits for, and its counts and what it keeps of the session are right for its state. While it is
disconnected, its 32 bits count the losses since it was last up or closed, of which there are
some. -/
theorem the_connection_is_never_wedged (options : Options) (words : List UInt64)
    (inputs : List Input) (h : HearsOwnLinks options words inputs) :
    let k := ((fresh options words).run inputs).value.connection
    let losses := (lossBookOf options words inputs).count
    k.Settled options.timing.maxAttempts ∧ (k.state = .disconnected →
      0 < losses ∧ k.retryAttempts = .ofNat losses ∧ (losses < 2 ^ 32 → 1 ≤ k.retryAttempts)) := by
  intro k losses
  have htallies := tallies_run h
  refine ⟨Connection.settled_of_session (settled_run h), fun hs => ?_⟩
  have hdown : 0 < losses := htallies.down (congrArg Connection.State.isDown hs)
  have hcount : k.retryAttempts = .ofNat losses :=
    (htallies.of_not_closing fun hc => nomatch hc.symm.trans hs).2
  refine ⟨hdown, hcount, fun hfew => ?_⟩
  rw [hcount]
  exact (UInt32.ofNat_le_iff_le (by decide) hfew).mpr hdown

theorem hearsOwnLinks_lostLink :
    HearsOwnLinks keyOptions [] (greeting ++ [.link 1 (.ended none)]) :=
  hearsOwnLinks_greeting fun generation event hmem => by
    cases List.mem_singleton.mp hmem
    rfl

/-- The loss is on the account, and the next attempt is waited for. -/
theorem a_lost_connection_is_not_wedged :
    let inputs := greeting ++ [.link 1 (.ended none)]
    let k := ((fresh keyOptions []).run inputs).value.connection
    HearsOwnLinks keyOptions [] inputs ∧ k.state = .disconnected ∧ k.Settled 40 ∧
      1 ≤ k.retryAttempts := by
  intro inputs k
  obtain ⟨hsettled, hcounted⟩ := the_connection_is_never_wedged keyOptions [] inputs
    hearsOwnLinks_lostLink
  have hone : (lossBookOf keyOptions [] inputs).count = 1 := rfl
  exact ⟨hearsOwnLinks_lostLink, rfl, hsettled, (hcounted rfl).2.2 (by rw [hone]; decide)⟩

/-! ## Outages -/

section Outages

variable {c : Client} {options : Options} {words : List UInt64} {inputs later : List Input}

theorem clock_step (ht : c.connection.Timed) (i : Input) : c.clock ≤ (c.step i).value.clock := by
  rcases outcome_step ht i with (⟨⟨links, k, hleads, -⟩, -⟩ | ⟨name, k, hmeets, -⟩) | ⟨now, rfl⟩
  · exact Nat.le_of_eq hleads.clock.symm
  · exact Nat.le_of_eq hmeets.clock.symm
  · exact Nat.le_max_left _ _

/-- Until the outage is over, no loss is taken back. -/
theorem count_le_lossStep {b : LossBook} {i : Input}
    (hout : (c.step i).value.connection.state.endsOutage = false) :
    b.count ≤ (c.lossStep b i).count := by
  have hnoted : b.count ≤ (if c.loses i then b.noted c.clock else b).count := by
    split
    · exact Nat.le_succ b.count
    · exact Nat.le_refl b.count
  unfold lossStep LossBook.found
  split
  · rename_i hs
    rw [hs] at hout
    cases hout
  · rename_i hs
    rw [hs] at hout
    cases hout
  · exact hnoted
  · exact hnoted

/-- As long as the losses are fewer than the connection can count, its count does not fall before
the outage is over. -/
theorem attempts_le_step {i : Input} (h : HearsOwnLinks options words (inputs ++ [i]))
    (hfew : (lossBookOf options words (inputs ++ [i])).count < 2 ^ 32) :
    let c := ((fresh options words).run inputs).value
    let d := (c.step i).value
    c.connection.state ≠ .closing → d.connection.state ≠ .closing →
      d.connection.state.endsOutage = false →
        c.connection.retryAttempts ≤ d.connection.retryAttempts := by
  intro c d hs hs' hout
  have hbefore := (tallies_run h.before).of_not_closing hs
  have hafter := tallies_run h
  simp only [run_snoc, Logged.value_bind] at hafter
  have hle : (lossBookOf options words inputs).count ≤
      (lossBookOf options words (inputs ++ [i])).count := by
    rw [lossBookOf_snoc]
    exact count_le_lossStep hout
  have hmono : UInt32.ofNat (lossBookOf options words inputs).count ≤
      .ofNat (lossBookOf options words (inputs ++ [i])).count :=
    (UInt32.ofNat_le_iff_le (Nat.lt_of_le_of_lt hle hfew) hfew).mpr hle
  rwa [← hbefore.2, ← (hafter.of_not_closing hs').2] at hmono

/-- Before the outage is over, the losses of a run are no fewer than before its last step. -/
theorem count_le_snoc (options : Options) (words : List UInt64) (inputs : List Input) (i : Input)
    (hout : (((fresh options words).run inputs).value.step i).value.connection.state.endsOutage =
      false) :
    (lossBookOf options words inputs).count ≤ (lossBookOf options words (inputs ++ [i])).count := by
  rw [lossBookOf_snoc]
  exact count_le_lossStep hout

/-- Wherever a connection is suspended, there is no hope. -/
theorem doomed_run (h : HearsOwnLinks options words inputs)
    (hfew : (lossBookOf options words inputs).count < 2 ^ 32) :
    let c := ((fresh options words).run inputs).value
    c.connection.state = .suspended → c.session.Doomed c.options.timing c.clock := by
  induction inputs using List.reverseRecOn with
  | nil => exact fun hs => nomatch hs
  | append_singleton first i ih =>
    have ht := (timed_run options words first).2
    have hn := attempts_le_step h hfew
    have hle := count_le_snoc options words first i
    simp only [run_snoc, Logged.value_bind]
    intro hs
    have hout : (((fresh options words).run first).value.step i).value.connection.state.endsOutage =
        false := by
      rw [hs]
      rfl
    have hbefore := ih h.before (Nat.lt_of_le_of_lt (hle hout) hfew)
    generalize ((fresh options words).run first).value = c at ht hn hs hout hbefore
    obtain ⟨ho, hturn⟩ := step_turn ht i
    have hdoomed := Connection.doomed_of_suspended hturn hbefore
      (fun hs₀ => hn (fun hc => nomatch hc.symm.trans hs₀)
        (fun hc => nomatch hc.symm.trans hs) hout) hs
    rw [ho]
    exact hdoomed.mono (clock_step ht i) (UInt32.le_refl _) rfl (.inl rfl)

/-- Until the outage is over, a suspended connection is suspended or tries again. -/
theorem suspended_run (h : HearsOwnLinks options words (inputs ++ later))
    (hfew : (lossBookOf options words (inputs ++ later)).count < 2 ^ 32)
    (hs : ((fresh options words).run inputs).value.connection.state = .suspended)
    (hout : ∀ before, before <+: later →
      ((fresh options words).run (inputs ++ before)).value.connection.state.endsOutage = false) :
    let c := ((fresh options words).run (inputs ++ later)).value
    c.session.Doomed c.options.timing c.clock ∧
      (c.connection.state = .suspended ∨ c.connection.state = .connecting) := by
  induction later using List.reverseRecOn with
  | nil =>
    rw [List.append_nil] at h hfew ⊢
    exact ⟨doomed_run h hfew hs, .inl hs⟩
  | append_singleton first i ih =>
    have hlast := hout _ (List.prefix_refl _)
    rw [← List.append_assoc] at h hfew hlast ⊢
    have ht := (timed_run options words (inputs ++ first)).2
    have hn := attempts_le_step h hfew
    have hle := count_le_snoc options words (inputs ++ first) i
    simp only [run_snoc, Logged.value_bind] at hlast ⊢
    obtain ⟨hdoomed, hs⟩ := ih h.before (Nat.lt_of_le_of_lt (hle hlast) hfew)
      fun before hp => hout before (hp.trans (List.prefix_append _ _))
    generalize ((fresh options words).run (inputs ++ first)).value = c at ht hn hlast hdoomed hs
    obtain ⟨ho, hturn⟩ := step_turn ht i
    have hopen : c.connection.state ≠ .connected ∧ c.connection.state ≠ .closing := by
      rcases hs with hs | hs <;> rw [hs] <;> exact ⟨nofun, nofun⟩
    have hopen' : (c.step i).value.session.state ≠ .closing :=
      Connection.ne_closing_of_turn hturn hopen.1 hopen.2
    have hattempts := hn hopen.2 hopen' hlast
    obtain ⟨hdoomed', hs'⟩ := Connection.suspended_turn hturn hdoomed hattempts hs hlast
    rw [ho]
    exact ⟨hdoomed'.mono (clock_step ht i) (UInt32.le_refl _) rfl (.inl rfl), hs'⟩

/-- What a loss does to a client, told by what its connection has counted. -/
theorem step_of_loses {i : Input} (h : c.loses i = true) :
    (c.step i).value.connection.retryAttempts = c.connection.retryAttempts + 1 ∧
      (c.step i).value.connection.state =
        if c.connection.retryAttempts + 1 ≤ c.options.timing.maxAttempts ∧
            c.clock.elapsed (c.connection.disconnectedAt.getD c.clock) < c.connection.stateTtl
        then .disconnected else .suspended := by
  obtain ⟨reason, hsession⟩ := session_of_loses h
  have hcount := (Connection.fallen_fields c.session c.options.timing c.clock reason
    c.takeWord.1).2.1
  rw [← hsession] at hcount
  refine ⟨hcount, ?_⟩
  rw [state_of_session hsession, Connection.fallen]
  split
  · rename_i hhope
    refine (if_neg fun hfew => ?_).symm
    exact nomatch hhope.symm.trans (Connection.hopeful_iff.mpr hfew)
  · rename_i hhope
    exact (if_pos (Connection.hopeful_iff.mp (eq_false_of_ne_true hhope))).symm

end Outages

/-- A loss of the link is counted, and it leaves the connection disconnected if that is not one loss
too many and the first one is not too long ago, and suspended if it is. Once it is suspended it does
not become disconnected any more, until it is up, closed or failed, unless there are more losses
than 32 bits can count. -/
theorem an_outage_escalates_in_time_and_for_good (options : Options) (words : List UInt64)
    (inputs : List Input) (h : HearsOwnLinks options words inputs) :
    let c := ((fresh options words).run inputs).value
    let book := lossBookOf options words inputs
    (∀ i, c.loses i = true →
      c.connection.retryAttempts = .ofNat book.count ∧
        (c.step i).value.connection.retryAttempts = c.connection.retryAttempts + 1 ∧
        (c.step i).value.connection.state =
          if c.connection.retryAttempts + 1 ≤ options.timing.maxAttempts ∧
              c.clock.elapsed (book.first.getD c.clock) < c.connection.stateTtl
          then .disconnected else .suspended) ∧
      (c.connection.state = .suspended → ∀ later,
        HearsOwnLinks options words (inputs ++ later) →
        (lossBookOf options words (inputs ++ later)).count < 2 ^ 32 →
        (∀ before, before <+: later →
          (c.run before).value.connection.state.endsOutage = false) →
        (c.run later).value.connection.state ≠ .disconnected) := by
  intro c book
  refine ⟨fun i hi => ?_, fun hs later hown hfew hout hdown => ?_⟩
  · obtain ⟨hcount, hstate⟩ := step_of_loses hi
    have hs : c.session.state.canBeLost = true := (Bool.and_eq_true_iff.mp hi).1
    obtain ⟨hfirst, hn⟩ :=
      (tallies_run h).of_not_closing (Connection.State.ne_closing_of_canBeLost hs)
    rw [show c.connection.disconnectedAt = book.first from hfirst,
      show c.options = options from (timed_run options words inputs).1] at hstate
    exact ⟨hn, hcount, hstate⟩
  · have hrun (before : List Input) : (c.run before).value =
        ((fresh options words).run (inputs ++ before)).value := by
      rw [run_append, Logged.value_bind]
    simp only [hrun] at hout hdown
    obtain ⟨-, hs'⟩ := suspended_run hown hfew hs hout
    rw [hdown] at hs'
    rcases hs' with hs' | hs' <;> cases hs'

/-- One attempt may fail. -/
def hastyOptions : Options := { keyOptions with timing := { maxAttempts := 1 } }

/-- The first attempt has failed, and the client tries again. -/
def secondAttempt : List Input :=
  [.command 0 .connect, .link 1 (.ended none), .command 1 .connect]

theorem hearsOwnLinks_secondAttempt : HearsOwnLinks hastyOptions [] secondAttempt := by
  have hnone : HearsOwnLinks hastyOptions [] [] := fun first _ _ hp => by simp at hp
  have hasked : HearsOwnLinks hastyOptions [] ([] ++ [.command 0 .connect]) :=
    hearsOwnLinks_snoc hnone fun _ _ he => nomatch he
  have hopened : opened ((fresh hastyOptions []).run [.command 0 .connect]).log = [1] := rfl
  have hlost : HearsOwnLinks hastyOptions [] [.command 0 .connect, .link 1 (.ended none)] := by
    refine hearsOwnLinks_snoc hasked fun _ _ he => ?_
    cases he
    exact hopened ▸ List.mem_singleton.mpr rfl
  exact hearsOwnLinks_snoc hlost fun _ _ he => nomatch he

/-- The two links that were opened may report what they will. -/
theorem hearsOwnLinks_afterwards {later : List Input}
    (h : ∀ generation event, .link generation event ∈ later → generation ∈ [1, 3]) :
    HearsOwnLinks hastyOptions [] (secondAttempt ++ later) := by
  have hopened : opened ((fresh hastyOptions []).run secondAttempt).log = [1, 3] := rfl
  exact hearsOwnLinks_append hearsOwnLinks_secondAttempt fun generation event hmem =>
    hopened ▸ h generation event hmem

/-- The second failure is one too many, and the third changes nothing. -/
theorem a_hasty_client_is_suspended_after_two_failures :
    let lost : Input := .link 3 (.ended none)
    let later : List Input := [.command 2 .connect, .link 5 (.ended none)]
    let c := ((fresh hastyOptions []).run secondAttempt).value
    let d := ((fresh hastyOptions []).run (secondAttempt ++ [lost])).value
    HearsOwnLinks hastyOptions [] (secondAttempt ++ [lost] ++ later) ∧ c.loses lost = true ∧
      (c.step lost).value.connection.state = .suspended ∧
      (d.run later).value.connection.state ≠ .disconnected := by
  intro lost later c d
  have hown : HearsOwnLinks hastyOptions [] (secondAttempt ++ [lost]) :=
    hearsOwnLinks_afterwards fun generation event hmem => by
      have hlink : generation = 3 := (Input.link.inj (List.mem_singleton.mp hmem)).1
      rw [hlink]
      decide
  have hasked : HearsOwnLinks hastyOptions [] (secondAttempt ++ [lost] ++ [.command 2 .connect]) :=
    hearsOwnLinks_snoc hown fun _ _ he => nomatch he
  have hopened : opened ((fresh hastyOptions []).run (secondAttempt ++ [lost] ++
      [.command 2 .connect])).log = [1, 3, 5] := rfl
  have hlater : HearsOwnLinks hastyOptions [] (secondAttempt ++ [lost] ++ later) :=
    hearsOwnLinks_snoc (i := .link 5 (.ended none)) hasked fun _ _ he => by
      cases he
      rw [hopened]
      decide
  have hescalates := (an_outage_escalates_in_time_and_for_good hastyOptions [] secondAttempt
    hown.before).1 lost rfl
  have hmany : ¬(c.connection.retryAttempts + 1 ≤ hastyOptions.timing.maxAttempts) := by
    decide +kernel
  refine ⟨hlater, rfl, ?_, ?_⟩
  · rw [hescalates.2.2]
    exact if_neg fun h => hmany h.1
  · have hthree : (lossBookOf hastyOptions [] (secondAttempt ++ [lost] ++ later)).count = 3 := rfl
    refine (an_outage_escalates_in_time_and_for_good hastyOptions [] (secondAttempt ++ [lost])
      hown).2 rfl later hlater (by rw [hthree]; decide) fun before hp => ?_
    simp only [later, List.prefix_cons_iff, List.prefix_nil] at hp
    rcases hp with rfl | ⟨_, rfl, rfl | ⟨_, rfl, rfl⟩⟩ <;> rfl

/-! ## The losses of the next session -/

/-- A loss counts as the attempt of a number: the counter says so, the wait for the next attempt
is the one of that number, and the connection is suspended only if so many attempts are too many
or no session lasts at all. -/
structure CountsAs (attempt : UInt32) (c d : Client) : Prop where
  counter : d.connection.retryAttempts = attempt
  down : d.connection.state = .disconnected ∨ d.connection.state = .suspended
  suspended : d.connection.state = .suspended ↔
    c.options.timing.maxAttempts < attempt ∨ c.connection.stateTtl = 0
  wait : d.connection.state = .disconnected → d.connection.timer = some (Alarm.after c.clock
    (Backoff.delay c.options.timing.disconnectedRetry attempt c.takeWord.1) .retry)

/-- A first loss counts as the attempt that follows those counted before. -/
theorem countsAs_of_loses {c : Client} {i : Input} (h : c.loses i = true)
    (hfirst : c.connection.disconnectedAt = none) :
    CountsAs (c.connection.retryAttempts + 1) c (c.step i).value := by
  obtain ⟨reason, hsession⟩ := session_of_loses h
  obtain ⟨hcounter, hstate⟩ := step_of_loses h
  have helapsed : c.clock.elapsed (c.connection.disconnectedAt.getD c.clock) = 0 := by
    rw [hfirst]
    exact Nat.sub_self c.clock
  rw [helapsed] at hstate
  refine ⟨hcounter, ?_, ?_, fun hdown => ?_⟩
  · rw [hstate]
    split
    · exact .inl rfl
    · exact .inr rfl
  · rw [hstate]
    by_cases hhope : c.connection.retryAttempts + 1 ≤ c.options.timing.maxAttempts ∧
        0 < c.connection.stateTtl
    · rw [if_pos hhope]
      refine ⟨nofun, fun hnone => ?_⟩
      rcases hnone with hmany | hnone
      · exact absurd hhope.1 (UInt32.not_le.mpr hmany)
      · exact absurd hhope.2 (Nat.not_lt_of_le (Nat.le_of_eq hnone))
    · rw [if_neg hhope]
      refine ⟨fun _ => ?_, fun _ => rfl⟩
      rcases not_and_or.mp hhope with hmany | hnone
      · exact .inl (UInt32.not_le.mp hmany)
      · exact .inr (Nat.eq_zero_of_not_pos hnone)
  · have htimer : (c.step i).value.session.timer = (c.session.fallen c.options.timing c.clock
        reason c.takeWord.1).timer := congrArg Connection.timer hsession
    rw [state_of_session hsession] at hdown
    refine htimer.trans ?_
    unfold Connection.fallen at hdown ⊢
    split at hdown
    · cases hdown
    · rename_i hhope
      rw [if_neg hhope]
      rfl

/-- As long as the link is not lost, the book notes no loss. -/
theorem lossBook_of_none {c : Client} {b : LossBook} {later : List Input} (hb : b.first = none)
    (h : ∀ before i rest, later = before ++ i :: rest →
      (c.run before).value.loses i = false) :
    (c.lossBook b later).first = none ∧ (c.lossBook b later).count ≤ b.count := by
  induction later generalizing c b with
  | nil => exact ⟨hb, Nat.le_refl _⟩
  | cons i rest ih =>
    have hnone : c.loses i = false := h [] i rest rfl
    have hstep : (c.lossStep b i).first = none ∧ (c.lossStep b i).count ≤ b.count := by
      rw [lossStep, hnone]
      unfold LossBook.found
      split
      · exact ⟨rfl, Nat.zero_le _⟩
      · exact ⟨rfl, Nat.zero_le _⟩
      · exact ⟨rfl, Nat.le_refl _⟩
      · exact ⟨hb, Nat.le_refl _⟩
    obtain ⟨hfirst, hcount⟩ := ih hstep.1 fun before j others he =>
      h (i :: before) j others (by rw [he]; rfl)
    exact ⟨hfirst, hcount.trans hstep.2⟩

/-- The first loss of a session counts as the first attempt, if the last session was closed. If it
has failed, its losses still count, unless the connection was up or closed in the meantime. The
count has 32 bits, so `2 ^ 32` losses are as good as none. -/
theorem a_session_counts_on_from_one_that_failed (options : Options) (words : List UInt64)
    (first : List Input) (ticket : Ticket) (later : List Input) (i : Input)
    (h : HearsOwnLinks options words (first ++ .command ticket .connect :: later))
    (hover : ((fresh options words).run first).value.connection.state.isOver = true)
    (hnone : ∀ before j rest, later = before ++ j :: rest → ((fresh options words).run
      (first ++ .command ticket .connect :: before)).value.loses j = false)
    (hloss : ((fresh options words).run
      (first ++ .command ticket .connect :: later)).value.loses i = true) :
    let inputs := first ++ .command ticket .connect :: later
    let c := ((fresh options words).run inputs).value
    let earlier := (lossBookOf options words inputs).count
    CountsAs (.ofNat (earlier + 1)) c (c.step i).value ∧
      (CountsAs 1 c (c.step i).value ↔ 2 ^ 32 ∣ earlier) ∧
      (((fresh options words).run first).value.connection.state = .closed → earlier = 0) := by
  intro inputs c earlier
  have hfirst := tallies_run h.before
  have hcounts := tallies_run h
  have hbook : lossBookOf options words inputs =
      ((fresh options words).run first).value.lossBook (lossBookOf options words first)
        (.command ticket .connect :: later) := lossBook_append _ _ _ _
  have hclosed : ((fresh options words).run first).value.session.state = .closed →
      lossBookOf options words first = {} := fun hs => hfirst.cleared (.inr hs)
  have hforgot : (lossBookOf options words first).first = none := by
    rcases Connection.State.of_isOver hover with hs | hs
    · rw [hclosed hs]
    · exact hfirst.failed hs
  have hspared (before : List Input) (j : Input) (rest : List Input)
      (he : .command ticket .connect :: later = before ++ j :: rest) :
      (((fresh options words).run first).value.run before).value.loses j = false := by
    cases before with
    | nil =>
      cases he
      exact Bool.and_false _
    | cons one others =>
      cases he
      have hlater := hnone others j rest rfl
      rwa [run_append, Logged.value_bind] at hlater
  obtain ⟨hnever, hcount⟩ := lossBook_of_none hforgot hspared
  rw [← hbook] at hnever hcount
  have hs : c.session.state.canBeLost = true := (Bool.and_eq_true_iff.mp hloss).1
  obtain ⟨hat, hn⟩ := hcounts.of_not_closing (Connection.State.ne_closing_of_canBeLost hs)
  have hcounted : CountsAs (c.connection.retryAttempts + 1) c (c.step i).value :=
    countsAs_of_loses hloss (hat.trans hnever)
  have hnext : c.connection.retryAttempts + 1 = .ofNat (earlier + 1) := by
    rw [show c.connection.retryAttempts = .ofNat earlier from hn]
    exact (UInt32.ofNat_add earlier 1).symm
  have hone_iff : UInt32.ofNat (earlier + 1) = 1 ↔ 2 ^ 32 ∣ earlier := by
    rw [UInt32.ofNat_eq_iff_mod_eq_toNat, UInt32.toNat_one]
    omega
  rw [hnext] at hcounted
  refine ⟨hcounted, ⟨fun hone => ?_, fun hwhole => ?_⟩, fun hs => ?_⟩
  · exact hone_iff.mp (hcounted.counter.symm.trans hone.counter)
  · rwa [hone_iff.mpr hwhole] at hcounted
  · rw [hclosed hs] at hcount
    exact Nat.le_zero.mp hcount

/-- A client that was closed between its failures has the attempts of a new one. -/
theorem a_closed_client_tries_as_a_new_one :
    let inputs := secondAttempt ++ [.command 2 .close] ++ [.command 3 .connect]
    let c := ((fresh hastyOptions []).run inputs).value
    let lost : Input := .link 5 (.ended none)
    HearsOwnLinks hastyOptions [] inputs ∧ c.loses lost = true ∧
      CountsAs 1 c (c.step lost).value := by
  intro inputs c lost
  have hown : HearsOwnLinks hastyOptions [] inputs := by
    rw [show inputs = secondAttempt ++ [.command 2 .close, .command 3 .connect] from rfl]
    exact hearsOwnLinks_afterwards fun generation event hmem => by simp at hmem
  obtain ⟨-, hfirst, hclosed⟩ := a_session_counts_on_from_one_that_failed hastyOptions []
    (secondAttempt ++ [.command 2 .close]) 3 [] lost hown rfl
    (fun before j rest he => by simp at he) rfl
  exact ⟨hown, rfl, hfirst.mpr (by rw [hclosed rfl]; exact Nat.dvd_zero _)⟩

/-- The second attempt is refused for good. -/
def failedAttempts : List Input := secondAttempt ++
  [.link 3 (.message { action := Message.Action.error.code, error := some unauthorized })]

/-- The loss before the failure takes the one attempt of the next session. -/
theorem a_failure_takes_an_attempt_of_the_next_session :
    let inputs := failedAttempts ++ [.command 2 .connect]
    let c := ((fresh hastyOptions []).run inputs).value
    let lost : Input := .link 5 (.ended none)
    HearsOwnLinks hastyOptions [] inputs ∧
      ((fresh hastyOptions []).run failedAttempts).value.connection.state = .failed ∧
      c.loses lost = true ∧ hastyOptions.timing.maxAttempts ≠ 0 ∧ c.connection.stateTtl ≠ 0 ∧
      (c.step lost).value.connection.retryAttempts = 2 ∧
      (c.step lost).value.connection.state = .suspended ∧ ¬CountsAs 1 c (c.step lost).value := by
  intro inputs c lost
  have hown : HearsOwnLinks hastyOptions [] inputs := by
    rw [show inputs = secondAttempt ++ [.link 3 (.message
      { action := Message.Action.error.code, error := some unauthorized }),
      .command 2 .connect] from rfl]
    exact hearsOwnLinks_afterwards fun generation event hmem => by
      simp only [List.mem_cons, Input.link.injEq, reduceCtorEq, List.not_mem_nil, or_false] at hmem
      rw [hmem.1]
      decide
  have htwo : (c.step lost).value.connection.retryAttempts = 2 := rfl
  exact ⟨hown, rfl, rfl, by decide, by decide +kernel, htwo, rfl, fun hone =>
    absurd (htwo.symm.trans hone.counter) (by decide)⟩

end Client

end PresenceClient
