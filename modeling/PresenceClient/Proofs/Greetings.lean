-- A greeting on a new link: the news comes first, then goes out what was sent before and is not
-- acknowledged, and then each channel takes up again what it was doing. With this, all that a
-- run posts is known, step by step.
import Mathlib.Data.List.Induction
import PresenceClient.Proofs.StepPostings

namespace PresenceClient

/-! ## Sending again -/

namespace Unacked

/-- The same message under another serial. -/
def under (e : Unacked) (serial : Int) : Unacked :=
  { e with serial := serial, message := { e.message with msgSerial := some serial } }

/-- What sending it again does. -/
def again (e : Unacked) : Effect := .send e.message (.again e.responder)

/-- What waits for an acknowledgement after it was sent again: in a session that was resumed
under the serials of before, in a new one under new serials, from the given one on. -/
def resent (resumed : Bool) (serial : Int) (es : List Unacked) : List Unacked :=
  if resumed then es.map fun e => e.under e.serial else es.mapIdx fun i e => e.under (serial + i)

@[simp] theorem resent_nil (resumed : Bool) (serial : Int) : resent resumed serial [] = [] := by
  cases resumed <;> rfl

theorem resent_resumed (serial : Int) (es : List Unacked) :
    resent true serial es = es.map fun e => e.under e.serial := rfl

theorem resent_cons (resumed : Bool) (serial : Int) (e : Unacked) (es : List Unacked) :
    resent resumed serial (e :: es) =
      e.under (if resumed then e.serial else serial) :: resent resumed (serial + 1) es := by
  cases resumed with
  | true => rfl
  | false =>
    have hnext : ∀ i : Nat, serial + ((i + 1 : Nat) : Int) = serial + 1 + i := fun i => by omega
    simp only [resent, Bool.false_eq_true, if_false, List.mapIdx_cons, hnext]
    simp

/-- Nothing but the serials is changed. -/
theorem mem_resent {resumed : Bool} {serial : Int} {es : List Unacked} {e' : Unacked}
    (h : e' ∈ resent resumed serial es) : ∃ e ∈ es, ∃ s, e' = e.under s := by
  induction es generalizing serial with
  | nil => simp at h
  | cons e rest ih =>
    rw [resent_cons] at h
    rcases List.mem_cons.mp h with rfl | h
    · exact ⟨e, List.mem_cons_self, _, rfl⟩
    · obtain ⟨e, he, s, rfl⟩ := ih h
      exact ⟨e, List.mem_cons_of_mem _ he, s, rfl⟩

theorem serials_resent (serial : Int) (es : List Unacked) :
    (resent false serial es).map (·.serial) = countFrom serial es.length := by
  unfold resent countFrom
  refine List.ext_getElem (by simp) fun i h1 h2 => ?_
  simp [under]

theorem length_resent (resumed : Bool) (serial : Int) (es : List Unacked) :
    (resent resumed serial es).length = es.length := by
  cases resumed <;> simp [resent]

/-- What is sent again is numbered as it is filed. -/
theorem serials_again (resumed : Bool) (serial : Int) (es : List Unacked) :
    serials ((resent resumed serial es).map again) = (resent resumed serial es).map (·.serial) := by
  induction es generalizing serial with
  | nil => simp
  | cons e rest ih =>
    rw [resent_cons]
    exact congrArg _ (ih (serial + 1))

end Unacked

namespace Client

open Unacked (again resent resent_cons resent_resumed)

variable {asked : String → PendingGet → Prop} {c : Client} {i : Input} {m : Message}
  {r : Logged Client}

/-- All messages are filed again as they are sent again, one after the other. -/
theorem resend_all (resumed : Bool) (es : List Unacked) (c : Client) :
    let serial := c.connection.nextSerial
    es.foldlM (resend resumed) c =
      { value := { c with
          connection := { c.connection with
            nextSerial := if resumed then serial else serial + es.length }
          pending := ⟨c.pending.entries ++ resent resumed serial es⟩ }
        log := (resent resumed serial es).map again } := by
  induction es generalizing c with
  | nil => cases resumed <;> simp <;> rfl
  | cons e rest ih =>
    dsimp only at ih ⊢
    rw [List.foldlM_cons, resent_cons]
    refine Logged.ext ?_ ?_
    · rw [Logged.value_bind, ih]
      cases resumed
      · simp [resend, Pending.push, Connection.takeSerial, Unacked.under]
        omega
      · simp [resend, Pending.push, Unacked.under, resent_resumed]
    · rw [Logged.log_bind, ih]
      cases resumed <;> rfl

theorem resendPending_spec (c : Client) (resumed : Bool) :
    let serial := c.connection.nextSerial
    let sent := resent resumed serial c.pending.entries
    let r := c.resendPending resumed
    r.value.channels = c.channels ∧ r.value.pending.entries = sent ∧
      r.value.connection.nextSerial =
        (if resumed then serial else serial + c.pending.entries.length) ∧
      r.log = sent.map again := by
  have hall := resend_all resumed c.pending.entries { c with pending := {} }
  dsimp only at hall ⊢
  unfold resendPending
  rw [hall]
  exact ⟨rfl, rfl, rfl, rfl⟩

/-! ## The greeting -/

/-- A greeting on a new link leaves the log of `r`: the news that the link is `up`, what was sent
before, and then what each channel has to say. -/
structure Greeted (asked : String → PendingGet → Prop) (c : Client) (m : Message)
    (r : Logged Client) (news : List Effect) (up : Client) (visits : Logged Client) : Prop where
  log : r.log = news ++ up.pending.entries.map again ++ visits.log
  value : r.value = visits.value
  news : ∀ e ∈ news, e.IsNews
  channels : up.channels = c.channels
  pending : up.pending.entries = resent (c.resumes m) 0 c.pending.entries
  nextSerial : up.connection.nextSerial =
    if c.resumes m then c.connection.nextSerial else c.pending.entries.length
  connected : up.isConnected = true
  lasting : visits.value.isConnected = true
  visits : Posts asked (fun e => ∃ name, Speaks asked name visits.value e) up visits

theorem news_become (next : Connection.State) (reason : Option ErrorInfo)
    (retryIn : Option Duration) : ∀ e ∈ (c.become next reason retryIn).log, e.IsNews := by
  refine become_cases (fun _ e he => ?goes) fun _ e he => absurd he List.not_mem_nil
  case goes =>
    rw [Logged.log_bind, Logged.log_pure, List.append_nil] at he
    obtain ⟨id, rfl⟩ := mem_publish he
    trivial

theorem become_same (next : Connection.State) (reason : Option ErrorInfo)
    (retryIn : Option Duration) : (c.become next reason retryIn).value.channels = c.channels ∧
      (c.become next reason retryIn).value.pending = c.pending ∧
      (c.become next reason retryIn).value.connection.nextSerial = c.connection.nextSerial :=
  become_cases (fun _ => ⟨rfl, rfl, rfl⟩) fun _ => ⟨rfl, rfl, rfl⟩

/-- What is sent again is presence of the channel that it was sent on. -/
theorem kept_resent {d : Client} {resumed : Bool} {serial : Int} (h : c.Kept asked)
    (hch : d.channels = c.channels)
    (hp : d.pending.entries = resent resumed serial c.pending.entries) : d.Kept asked := by
  have hcore : ∀ name, d.core name = c.core name := core_of_channels hch
  refine ⟨fun name => hcore name ▸ h.queued name, fun e he => ?_, fun name =>
    hcore name ▸ h.waiting name⟩
  rw [hp] at he
  obtain ⟨e, hmem, s, rfl⟩ := Unacked.mem_resent he
  obtain ⟨name, hm, hsome⟩ := h.homed e hmem
  exact ⟨name, hm, by rw [channel?_of_channels hch]; exact hsome⟩

/-- A link that comes up sends again what was sent before, and then visits each channel. -/
theorem linkUp_visits (c : Client) (resumed : Bool) : ∃ up : Client,
    up.channels = c.channels ∧ up.isConnected = c.isConnected ∧
      up.pending.entries = resent resumed 0 c.pending.entries ∧
      up.connection.nextSerial =
        (if resumed then c.connection.nextSerial else c.pending.entries.length) ∧
      c.linkUp resumed = { value := up, log := up.pending.entries.map again } >>= fun up =>
        up.forNames up.channels.keys (onLinkUp resumed) := by
  cases resumed with
  | true =>
    obtain ⟨hch, hp, hn, hlog⟩ := resendPending_spec c true
    have hup := isConnected_resendPending (c := c) true
    refine ⟨(c.resendPending true).value, hch, hup, hp, hn, ?_⟩
    rw [hp, resent_resumed, ← resent_resumed c.connection.nextSerial, ← hlog]
    rfl
  | false =>
    obtain ⟨hch, hp, hn, hlog⟩ := resendPending_spec c.renumbered false
    have hup := isConnected_resendPending (c := c.renumbered) false
    refine ⟨(c.renumbered.resendPending false).value, hch, hup, hp, hn.trans (Int.zero_add _), ?_⟩
    rw [hp, ← hlog]
    rfl

/-- Every channel that is there takes up again what it was doing. -/
theorem posts_visitUp (hs : c.channels.Ordered) (h : c.Kept asked) (hup : c.isConnected = true)
    (resumed : Bool) :
    let visits := c.forNames c.channels.keys (onLinkUp resumed)
    Posts asked (fun e => ∃ name, Speaks asked name visits.value e) c visits ∧
      visits.value.isConnected = c.isConnected := by
  obtain ⟨hposts, hlast, -⟩ := posts_visit (f := onLinkUp resumed) (Table.keys_nodup hs) h
    fun d name _ hd hu hk => by
      have haddressed : (d.core name).Addressed name := by
        rw [core_congr hd]
        exact h.addressed name
      exact ⟨(turnOn_onLinkUp resumed (hu.trans hup) haddressed).toAlone,
        utters_onLinkUp resumed hk (hu.trans hup)⟩
  exact ⟨hposts, hlast⟩

/-- On a greeting the client is connected, and then its link comes up. -/
theorem step_of_greets (hg : c.Greets i m) : ∃ connection : Connection,
    connection.state = .connecting ∧ connection.nextSerial = c.connection.nextSerial ∧
      c.step i = { c with connection := connection }.become .connected m.error none >>= fun d =>
        d.resetIdleTimer.linkUp (c.resumes m) := by
  obtain ⟨rfl, ha, hstate⟩ := hg
  have hdown : ¬c.isConnected = true := fun hup =>
    nomatch hstate.symm.trans (isConnected_iff.mp hup)
  have hidle : c.resetIdleTimer = c := if_neg hdown
  refine ⟨(c.greeted m).connection, hstate, rfl, ?_⟩
  rw [step_of_link, onMessage_of_connected ha, hidle]
  exact onConnected_cases (fun hup => absurd (isConnected_iff.mpr hup) hdown) (fun _ => rfl)
    fun hs _ => absurd hstate hs

/-- The client is greeted, and each channel takes up again what it was doing. -/
theorem greeted_visits (hs : Sound c) (h : c.Kept asked) (hg : c.Greets i m) :
    ∃ news up, Greeted asked c m (c.step i) news up
      (up.forNames up.channels.keys (onLinkUp (c.resumes m))) := by
  obtain ⟨connection, hstate, hserial, hstep⟩ := step_of_greets hg
  have hnews := news_become (c := { c with connection := connection }) .connected m.error none
  obtain ⟨hch, hp, hn⟩ :=
    become_same (c := { c with connection := connection }) .connected m.error none
  have hup := state_become (c := { c with connection := connection }) .connected m.error none
  rw [if_pos (by rw [hstate]; rfl)] at hup
  rw [hstep]
  generalize { c with connection := connection }.become .connected m.error none = x
    at hnews hch hp hn hup ⊢
  obtain ⟨hch', hp', hup'⟩ := resetIdleTimer_same x.value
  obtain ⟨up, hchUp, hlive, hpUp, hnUp, hlink⟩ := linkUp_visits x.value.resetIdleTimer (c.resumes m)
  have hsame : up.channels = c.channels := hchUp.trans (hch'.trans hch)
  rw [hp', hp] at hpUp
  rw [nextSerial_resetIdleTimer, hn, hserial, hp', hp] at hnUp
  have hconnected : up.isConnected = true := hlive.trans (hup'.trans (isConnected_iff.mpr hup))
  obtain ⟨hvisits, hlast⟩ := posts_visitUp (hsame ▸ hs.ordered) (kept_resent h hsame hpUp)
    hconnected (c.resumes m)
  refine ⟨x.log, up, ?_, ?_, hnews, hsame, hpUp, hnUp, hconnected, hlast.trans hconnected, hvisits⟩
  · rw [Logged.log_bind, hlink, Logged.log_bind, List.append_assoc]
  · rw [Logged.value_bind, hlink, Logged.value_bind]

theorem greeted_step (hs : Sound c) (h : c.Kept asked) (hg : c.Greets i m) :
    ∃ news up visits, Greeted asked c m (c.step i) news up visits := by
  obtain ⟨news, up, hgreeted⟩ := greeted_visits hs h hg
  exact ⟨news, up, _, hgreeted⟩

/-! ## Runs -/

theorem Kept.mono {asked' : String → PendingGet → Prop} (h : c.Kept asked)
    (hasked : ∀ name g, asked name g → asked' name g) : c.Kept asked' :=
  ⟨h.queued, h.homed, fun name g hg => hasked name g (h.waiting name g hg)⟩

theorem kept_fresh (options : Options) (words : List UInt64) :
    (fresh options words).Kept asked := by
  refine ⟨fun name q hq => ?_, fun e he => absurd he List.not_mem_nil, fun name g hg => ?_⟩
  · rw [core_fresh] at hq
    exact absurd hq List.not_mem_nil
  · rw [core_fresh] at hg
    exact absurd hg List.not_mem_nil

/-- In a run, a caller has asked for the members of a channel. -/
def Asked (inputs : List Input) (name : String) (g : PendingGet) : Prop :=
  .command g.ticket (.channel name (.get g.query)) ∈ inputs

/-- A step either greets on a new link, or what it posts fits the state it leaves. -/
theorem step_posts (hs : Sound c) {inputs : List Input} (h : c.Kept (Asked inputs)) (i : Input) :
    (∀ m, ¬c.Greets i m) ∧
        Posts (Asked (inputs ++ [i])) (Uttered (Asked (inputs ++ [i])) c i (c.step i).value) c
          (c.step i) ∨
      ∃ m news up visits, c.Greets i m ∧
        Greeted (Asked (inputs ++ [i])) c m (c.step i) news up visits := by
  have hk : c.Kept (Asked (inputs ++ [i])) :=
    h.mono fun name g hg => List.mem_append_left _ hg
  by_cases hg : ∃ m, c.Greets i m
  · obtain ⟨m, hg⟩ := hg
    obtain ⟨news, up, visits, hgreeted⟩ := greeted_step hs hk hg
    exact .inr ⟨m, news, up, visits, hg, hgreeted⟩
  · have hno : ∀ m, ¬c.Greets i m := fun m hm => hg ⟨m, hm⟩
    refine .inl ⟨hno, posts_step hs hk (fun ticket name query hi => ?_) hno⟩
    exact List.mem_append_right _ (List.mem_singleton.mpr hi.symm)

/-- In every run only presence is queued and filed, and whoever waits for members has asked for
them. -/
theorem kept_run (options : Options) (words : List UInt64) (inputs : List Input) :
    ((fresh options words).run inputs).value.Kept (Asked inputs) := by
  induction inputs using List.reverseRecOn with
  | nil => exact kept_fresh options words
  | append_singleton first i ih =>
    have hs := sound_run (sound_fresh options words) first
    rw [run_snoc, Logged.value_bind]
    rcases step_posts hs ih i with ⟨-, h⟩ | ⟨m, news, up, visits, -, h⟩
    · exact h.kept
    · rw [h.value]
      exact h.visits.kept

end Client

end PresenceClient
