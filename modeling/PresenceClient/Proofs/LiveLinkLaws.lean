-- The law of live links. A live connection has a link that it listens to, unless the server has
-- said over that link that the session ends, in a state that has no way there: then the link is
-- given up, and the connection stays as if it were live.
import PresenceClient.Proofs.FailureLaws
import PresenceClient.Proofs.LinkLaws

namespace PresenceClient

open Connection (Cue Turn)

namespace Connection

/-! ## Live states -/

namespace State

variable {s : State}

/-- Every live connection can fail. -/
theorem canBecome_failed_of_isLive : s.isLive = true → s.canBecome .failed = true := by
  cases s <;> decide

/-- A live connection that can be lost for a short time can be lost for long, and no other. -/
theorem canBecome_suspended_of_isLive :
    s.isLive = true → s.canBecome .suspended = s.canBecome .disconnected := by
  cases s <;> decide

theorem of_canBecome_disconnected :
    s.canBecome .disconnected = true → s = .connecting ∨ s = .connected := by
  cases s <;> decide

end State

variable {timing : Timing} {now : Instant} {cue : Cue} {k k' : Connection} {opens : List Nat}

/-- A turn that leaves the connection live keeps its link, or opens one, or has given up the link
and left the state as it was. -/
theorem live_of_turn (h : Turn timing now cue k opens k') (hlive : k'.state.isLive = true) :
    (k'.generation = k.generation ∧ k.state.isLive = true) ∨
      (opens = [k.generation + 1] ∧ k'.generation = k.generation + 1) ∨
      (cue = .heard ∧ k'.generation = k.generation + 1 ∧ k.state.isLive = true) := by
  obtain ⟨hstate, -, -, -, -, hgeneration⟩ := stirred_fields k timing now
  cases h with
  | rest => exact .inl ⟨rfl, hlive⟩
  | stirred => exact .inl ⟨hgeneration, hstate ▸ hlive⟩
  | opened hcue hs => exact .inr (.inl ⟨rfl, rfl⟩)
  | greeted m hs =>
    refine .inl ⟨(stirred_fields _ timing now).2.2.2.2.2, ?_⟩
    rcases hs with hs | hs <;> rw [hs] <;> rfl
  | closing hs => exact .inl ⟨rfl, by rw [hs]; rfl⟩
  | lossRefused hs => exact .inr (.inr ⟨rfl, rfl, hlive⟩)
  | failRefused hs => exact .inr (.inr ⟨rfl, rfl, hlive⟩)
  | closeRefused hs =>
    exact .inr (.inr ⟨rfl, congrArg (· + 1) hgeneration, hstate ▸ hlive⟩)
  | _ => cases hlive

end Connection

/-- The state that a message is to bring the connection to, if it ends the session. -/
def Message.endsIn (m : Message) : Option Connection.State :=
  if m.fatalError.isSome then some .failed
  else match Message.Action.ofCode? m.action with
    | some .closed => some .closed
    | some .disconnected => some .disconnected
    | _ => none

namespace Client

variable {c : Client} {i : Input} {m : Message} {r : Logged Client} {links : List Nat}
  {k : Connection} {next : Connection.State}

/-! ## What ends a session -/

theorem Leads.generation (h : Leads c r links k) :
    r.value.connection.generation = k.generation := by
  rw [← h.session]
  rfl

theorem generation_onConnected (c : Client) (m : Message) :
    (c.onConnected m).value.connection.generation = c.connection.generation := by
  by_cases hs : c.connection.state = .connecting ∨ c.connection.state = .connected
  · rw [(leads_greet m hs).generation]
    exact (Connection.stirred_fields _ _ _).2.2.2.2.2
  · exact onConnected_cases (fun hup => absurd (.inr hup) hs) (fun hup => absurd (.inl hup) hs)
      fun _ _ => rfl

/-- A message that does not end the session leaves the link alone. -/
theorem generation_onMessage (h : m.endsIn = none) :
    (c.onMessage m).value.connection.generation = c.connection.generation := by
  rw [← generation_resetIdleTimer (c := c)]
  have hfatal : m.fatalError = none := by
    unfold Message.endsIn at h
    split at h
    · cases h
    · simpa using ‹¬m.fatalError.isSome = true›
  have haction : Message.Action.ofCode? m.action ≠ some .closed ∧
      Message.Action.ofCode? m.action ≠ some .disconnected := by
    simp only [Message.endsIn, hfatal] at h
    constructor <;> intro ha <;> simp [ha] at h
  refine onMessage_cases (fun _ => generation_onConnected _ m) (fun ha => absurd ha haction.2)
    (fun ha => absurd ha haction.1) (fun ha => ?error) (fun _ => rfl) (fun _ => rfl)
    (fun _ => ?attached) (fun _ => (rests_onDetached m).generation) (fun _ => ?sync)
    (fun _ => ?presence) fun _ => rfl
  case error =>
    exact onError_cases (fun _ _ => (rests_failChannel _).generation) fun hm => by
      simp [Message.fatalError, ha, hm] at hfatal
  case attached =>
    have hsame : (c.resetIdleTimer.onAttached m).value.session.generation =
        c.resetIdleTimer.session.generation := by rw [session_onAttached]
    exact hsame
  case sync =>
    exact onSync_cases (fun _ => rfl) fun _ _ =>
      congrArg Connection.generation (connection_onChannel _ _ _)
  case presence =>
    exact onPresence_cases (fun _ => rfl) fun _ _ =>
      congrArg Connection.generation (connection_onChannel _ _ _)

theorem state_finishClose (h : c.connection.state.canBecome .closed = true) :
    c.finishClose.value.connection.state = .closed :=
  state_of_session (leads_finishClose h).session

/-- A link that is lost while it is in use takes the connection down. -/
theorem down_of_handleLoss
    (h : c.connection.state = .connecting ∨ c.connection.state = .connected) (e : ErrorInfo) :
    (c.handleLoss e).value.connection.state.isLive = false := by
  have hcan : c.connection.state.canBecome .disconnected = true ∧
      c.connection.state.canBecome .suspended = true := by
    rcases h with h | h <;> rw [h] <;> exact ⟨rfl, rfl⟩
  cases hhope : (c.session.lost c.clock).isHopeless c.options.timing c.clock with
  | true =>
    rw [state_of_session (leads_handleLoss_hopeless e hhope hcan.2).session]
    rfl
  | false =>
    obtain ⟨word, hleads⟩ := leads_handleLoss_hopeful e hhope hcan.1
    rw [state_of_session hleads.session]
    rfl

/-- The end of its link takes a connection down. -/
theorem down_of_onLinkEnded (c : Client) (error : Option ErrorInfo) :
    (c.onLinkEnded error).value.connection.state.isLive = false := by
  refine onLinkEnded_cases (fun _ hs => down_of_handleLoss hs _) (fun hs => ?closes)
    fun h1 h2 h3 => ?ignored
  case closes =>
    rw [state_finishClose (by rw [hs]; rfl)]
    rfl
  case ignored =>
    show c.connection.state.isLive = false
    cases hs : c.connection.state with
    | connecting => exact absurd hs h1
    | connected => exact absurd hs h2
    | closing => exact absurd hs h3
    | _ => rfl

/-- What a message does that ends the session: the connection fails, or it is closed, or the link
counts as lost. -/
theorem onMessage_of_endsIn (h : m.endsIn = some next) (c : Client) :
    (next = .failed ∧ ∃ e, c.onMessage m = c.resetIdleTimer.failConnection e) ∨
      (next = .closed ∧ c.onMessage m = c.resetIdleTimer.finishClose) ∨
      (next = .disconnected ∧ ∃ e, c.onMessage m = c.resetIdleTimer.handleLoss e) := by
  unfold Message.endsIn at h
  split at h
  · rename_i hsome
    cases h
    obtain ⟨error, hfatal⟩ := Option.isSome_iff_exists.mp hsome
    exact .inl ⟨rfl, error, onMessage_of_fatalError hfatal⟩
  · rename_i hnone
    have hfatal : m.fatalError = none := by simpa using hnone
    split at h
    · rename_i ha
      cases h
      exact .inr (.inl ⟨rfl, onMessage_of_closed ha⟩)
    · rename_i ha
      cases h
      refine .inr (.inr ⟨rfl, ?_⟩)
      rw [onMessage_of_disconnected ha]
      simp only [Message.fatalError, ha, Option.filter_eq_none_iff] at hfatal
      refine onDisconnected_cases (fun reason _ => ⟨reason, rfl⟩) fun reason he hno => ?_
      have hretries : reason.isRetriable = true := by simpa using hfatal reason he
      exact absurd (hno.symm.trans hretries) Bool.false_ne_true
    · cases h

/-- A message that may end the session takes the connection down. -/
theorem down_of_onMessage (h : m.endsIn = some next)
    (hcan : c.connection.state.canBecome next = true) :
    (c.onMessage m).value.connection.state.isLive = false := by
  rw [← state_resetIdleTimer] at hcan
  rcases onMessage_of_endsIn h c with ⟨rfl, e, heq⟩ | ⟨rfl, heq⟩ | ⟨rfl, e, heq⟩ <;> rw [heq]
  · rw [state_of_session (leads_failConnection hcan e).session]
    rfl
  · rw [state_finishClose hcan]
    rfl
  · exact down_of_handleLoss (Connection.State.of_canBecome_disconnected hcan) e

/-- A connection that has no way to where a message ends the session gives up its link, and stays
in its state. -/
theorem stuck_of_onMessage (h : m.endsIn = some next) (hlive : c.connection.state.isLive = true)
    (hcan : c.connection.state.canBecome next = false) :
    (c.onMessage m).value.connection.state = c.connection.state ∧
      (c.onMessage m).value.connection.generation = c.connection.generation + 1 ∧
      opened (c.onMessage m).log = [] := by
  have hdrop : ∀ {d : Client} {r : Logged Client} {k : Connection}, Leads d r [] k →
      k.state = d.connection.state → k.generation = d.connection.generation + 1 →
      r.value.connection.state = d.connection.state ∧
        r.value.connection.generation = d.connection.generation + 1 ∧ opened r.log = [] :=
    fun h hs hg => ⟨(state_of_session h.session).trans hs, h.generation.trans hg, h.opened⟩
  rw [← state_resetIdleTimer (c := c)] at hlive hcan ⊢
  rw [← generation_resetIdleTimer (c := c)]
  rcases onMessage_of_endsIn h c with ⟨rfl, e, heq⟩ | ⟨rfl, heq⟩ | ⟨rfl, e, heq⟩ <;> rw [heq]
  · have hfails := Connection.State.canBecome_failed_of_isLive hlive
    exact absurd (hcan.symm.trans hfails) Bool.false_ne_true
  · exact hdrop (leads_finishClose_refused hcan) rfl rfl
  · have hsuspended : c.resetIdleTimer.connection.state.canBecome .suspended = false :=
      (Connection.State.canBecome_suspended_of_isLive hlive).trans hcan
    exact hdrop (leads_handleLoss_refused e hcan fun _ => hsuspended) rfl rfl

/-! ## Live connections -/

/-- Over its link, a live connection hears a message that ends the session, and it has no way to
the state that the message is to bring it to. -/
def Refuses (c : Client) (i : Input) : Prop :=
  ∃ m next, i = .link c.connection.generation (.message m) ∧ m.endsIn = some next ∧
    c.connection.state.isLive = true ∧ c.connection.state.canBecome next = false

/-- The link is the one that was opened last, and it was not closed since. What it reports is
heard: the greeting, the answer to a close, and its end. -/
structure ListensTo (r : Logged Client) (link : Nat) : Prop where
  last : (relinked r.log).getLast? = some (some link)
  current : r.value.connection.generation = link
  greeted : r.value.connection.state = .connecting → ∀ m,
    Message.Action.ofCode? m.action = some .connected →
      (r.value.step (.link link (.message m))).value.connection.state = .connected
  closed : r.value.connection.state = .closing → ∀ m,
    Message.Action.ofCode? m.action = some .closed →
      (r.value.step (.link link (.message m))).value.connection.state = .closed
  ended : ∀ error, (r.value.step (.link link (.ended error))).value.connection.state.isLive = false

/-- If the connection is live, it listens to a link. -/
def Attends (r : Logged Client) : Prop :=
  r.value.connection.state.isLive = true → ∃ link, ListensTo r link

theorem listensTo_of_last
    (h : (relinked r.log).getLast? = some (some r.value.connection.generation)) :
    ListensTo r r.value.connection.generation := by
  refine ⟨h, rfl, fun hs m ha => ?_, fun hs m ha => ?_, fun error => ?_⟩
  · have hs' : r.value.resetIdleTimer.connection.state = .connecting :=
      state_resetIdleTimer.trans hs
    rw [step_of_link, onMessage_of_connected ha,
      state_of_session (leads_greet m (.inl hs')).session]
    exact (Connection.stirred_fields _ _ _).1
  · rw [step_of_link, onMessage_of_closed ha]
    refine state_finishClose ?_
    rw [state_resetIdleTimer, hs]
    rfl
  · rw [step_of_end]
    exact down_of_onLinkEnded r.value error

/-- What a live connection hears and does not refuse keeps its link, or takes it down. -/
theorem kept_or_down (hr : ¬c.Refuses i) (hcue : i.connectionCue = .heard)
    (hlive : c.connection.state.isLive = true) :
    (c.step i).value.connection.generation = c.connection.generation ∨
      (c.step i).value.connection.state.isLive = false := by
  cases i with
  | link generation event =>
    by_cases hg : generation = c.connection.generation
    · subst hg
      cases event with
      | message m =>
        rw [step_of_link]
        cases hends : m.endsIn with
        | none => exact .inl (generation_onMessage hends)
        | some next =>
          refine .inr (down_of_onMessage hends ?_)
          exact Bool.of_not_eq_false fun hcan => hr ⟨m, next, rfl, hends, hlive, hcan⟩
      | ended error =>
        rw [step_of_end]
        exact .inr (down_of_onLinkEnded c error)
    · rw [step_of_older_link hg]
      exact .inl rfl
  | _ => cases hcue

/-- A step keeps the link of a live connection, if nothing is refused in it. -/
theorem last_step {acts : List (Option Nat)} (ht : c.connection.Timed) (hi : i ≠ .shutdown)
    (hr : ¬c.Refuses i) (h : c.connection.state.isLive = true →
      acts.getLast? = some (some c.connection.generation))
    (hlive : (c.step i).value.connection.state.isLive = true) :
    (acts ++ relinked (c.step i).log).getLast? =
      some (some (c.step i).value.connection.generation) := by
  have hlinks := relinks_step (c := c) hi
  have hturn := (step_turn ht i).2
  have hcases := Connection.live_of_turn hturn
    (show (c.step i).value.session.state.isLive = true from hlive)
  rcases hcases with ⟨hg, hwas⟩ | ⟨hopens, hg⟩ | ⟨hcue, hg, hwas⟩
  · have hg' : (c.step i).value.connection.generation = c.connection.generation := hg
    have hwas' : c.connection.state.isLive = true := hwas
    have hnone : relinked (c.step i).log = [] := by
      refine by_contra fun hne => ?_
      have hlt := hlinks.lt hne
      omega
    rw [hnone, List.append_nil, hg']
    exact h hwas'
  · have hg' : (c.step i).value.connection.generation = c.connection.generation + 1 := hg
    rw [hg'] at hlinks ⊢
    rcases hlinks.once with hacts | hacts
    · have hmem : some (c.connection.generation + 1) ∈ relinked (c.step i).log :=
        mem_relinked.mpr (hopens ▸ List.mem_singleton.mpr rfl)
      simp [hacts] at hmem
    · rw [hacts]
      simp
  · have hwas' : c.connection.state.isLive = true := hwas
    have hg' : (c.step i).value.connection.generation = c.connection.generation + 1 := hg
    rcases kept_or_down hr hcue hwas' with hkept | hdown
    · omega
    · exact absurd (hdown.symm.trans hlive) Bool.false_ne_true

/-- What is refused leaves a live connection without a link. -/
theorem last_of_refuses (hr : c.Refuses i) :
    (c.step i).value.connection.state.isLive = true ∧ relinked (c.step i).log = [none] := by
  have hi : i ≠ .shutdown := by
    obtain ⟨m, next, rfl, -⟩ := hr
    nofun
  have hlinks := relinks_step (c := c) hi
  obtain ⟨m, next, rfl, hends, hlive, hcan⟩ := hr
  rw [step_of_link] at hlinks ⊢
  obtain ⟨hstate, hg, hopened⟩ := stuck_of_onMessage hends hlive hcan
  rw [hg] at hlinks
  refine ⟨hstate ▸ hlive, hlinks.once.resolve_right fun hacts => ?_⟩
  have hmem : c.connection.generation + 1 ∈ opened (c.onMessage m).log :=
    mem_relinked.mp (by simp [hacts])
  rw [hopened] at hmem
  cases hmem

/-! ## The law -/

section Runs

variable {options : Options} {words : List UInt64} {inputs : List Input}

/-- As long as nothing is refused, a live connection has the link that was opened last. -/
theorem last_run (h : .shutdown ∉ inputs)
    (hr : ∀ first i, first ++ [i] <+: inputs → ¬((fresh options words).run first).value.Refuses i) :
    let r := (fresh options words).run inputs
    r.value.connection.state.isLive = true →
      (relinked r.log).getLast? = some (some r.value.connection.generation) := by
  induction inputs using List.reverseRecOn with
  | nil => exact fun hlive => nomatch hlive
  | append_singleton first i ih =>
    have hkept := ih (fun hmem => h (List.mem_append_left _ hmem)) fun p j hp =>
      hr p j (hp.trans (List.prefix_append first [i]))
    have hi : i ≠ .shutdown := fun hi => h (by simp [hi])
    dsimp only
    rw [run_snoc, Logged.value_bind, Logged.log_bind, relinked_append]
    exact last_step (timed_run options words first).2 hi (hr first i (List.prefix_refl _)) hkept

end Runs

/-- On its way through any run, a live connection always has a link that it listens to, exactly
if it never refuses what it hears over one: a close while it is up, or while it is closing an end
of the session that is worth another attempt. -/
theorem a_live_connection_listens_until_it_refuses (options : Options) (words : List UInt64)
    (inputs : List Input) (h : .shutdown ∉ inputs) :
    (∀ first, first <+: inputs → Attends ((fresh options words).run first)) ↔
      ∀ first i, first ++ [i] <+: inputs →
        ¬((fresh options words).run first).value.Refuses i := by
  constructor
  · intro hall first i hp hr
    obtain ⟨hlive, hacts⟩ := last_of_refuses hr
    have hattends := hall _ hp
    rw [run_snoc] at hattends
    obtain ⟨link, hlistens⟩ := hattends hlive
    have hlast := hlistens.last
    rw [Logged.log_bind, relinked_append, hacts] at hlast
    simp at hlast
  · intro hr first hp hlive
    refine ⟨_, listensTo_of_last (last_run (fun hmem => h (hp.subset hmem)) ?_ hlive)⟩
    exact fun p i hpi => hr p i (hpi.trans hp)

/-- A connection that waits for the answer to a close listens to its link. -/
theorem a_closing_connection_listens_to_its_link :
    let r := (fresh keyOptions []).run (greeting ++ [.command 1 .close])
    r.value.connection.state = .closing ∧ ∃ link, ListensTo r link := by
  have hnone : ∀ i ∈ greeting ++ [.command 1 .close], ∀ generation m,
      i = .link generation (.message m) → m.endsIn = none := by
    intro i hi generation m he
    subst he
    simp only [greeting, List.cons_append, List.nil_append, List.mem_cons, List.not_mem_nil,
      or_false, reduceCtorEq, false_or, Input.link.injEq, LinkEvent.message.injEq] at hi
    rw [hi.2]
    rfl
  have hattends := (a_live_connection_listens_until_it_refuses keyOptions []
    (greeting ++ [.command 1 .close]) (by decide)).mpr (fun first i hp hr => by
      obtain ⟨m, next, hi, hends, -⟩ := hr
      have hmem : i ∈ greeting ++ [.command 1 .close] := hp.subset (by simp)
      rw [hnone i hmem _ m hi] at hends
      cases hends) _ (List.prefix_refl _)
  exact ⟨rfl, hattends rfl⟩

/-- A client that is closing is told that it is disconnected. It stays closing, without a link:
neither the answer to its close nor the end of the link is heard any more. -/
theorem a_disconnect_while_closing_leaves_no_link :
    let inputs := greeting ++ [.command 1 .close,
      .link 1 (.message { action := Message.Action.disconnected.code })]
    let r := (fresh keyOptions []).run inputs
    HearsOwnLinks keyOptions [] inputs ∧ r.value.connection.state = .closing ∧
      (relinked r.log).getLast? = some none ∧ ¬Attends r ∧
      r.value.step (.link 1 (.message { action := Message.Action.closed.code })) = pure r.value ∧
      r.value.step (.link 1 (.ended none)) = pure r.value := by
  intro inputs r
  have hown : HearsOwnLinks keyOptions [] inputs := hearsOwnLinks_greeting fun g event hmem => by
    simp only [List.mem_cons, reduceCtorEq, List.not_mem_nil, or_false, false_or,
      Input.link.injEq] at hmem
    exact hmem.1
  have hlast : (relinked r.log).getLast? = some none := by decide +kernel
  refine ⟨hown, rfl, hlast, fun hattends => ?_, rfl, rfl⟩
  obtain ⟨link, hlistens⟩ := hattends rfl
  cases hlast.symm.trans hlistens.last

end Client

end PresenceClient
