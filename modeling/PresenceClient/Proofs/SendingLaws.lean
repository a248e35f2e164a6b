-- The law of sending. Until the client comes to its end, all that it sends goes out on a live
-- link, apart from the one message that closes the connection, and fits the state in which the
-- step leaves the channel that it is about.
import PresenceClient.Proofs.ConnectionRuns
import PresenceClient.Proofs.Greetings

namespace PresenceClient.Client

variable {asked : String → PendingGet → Prop} {c d : Client} {i : Input} {r : Logged Client}
  {m : Message} {purpose : Purpose}

/-! ## What may be sent -/

/-- What may be sent by a step with the input `i` from `c` to `d`: an attach, a detach or a sync
of a channel that is then at that, a detach of one that is released, presence of one that is
attached, and on a new link once more what is not acknowledged. -/
inductive MaySend (c : Client) (i : Input) (d : Client) : Message → Purpose → Prop
  | attach (name : String) (serial : Option String)
      (hs : (d.channelOrNew name).state = .attaching) :
      MaySend c i d (Message.attach name none serial) .notice
  | detach (name : String) (hs : (d.channelOrNew name).state = .detaching) :
      MaySend c i d (Message.detach name) .notice
  | release (name : String) (ticket : Ticket) (hi : i = .command ticket (.channel name .release))
      (hs : (c.channelOrNew name).state = .attached ∨ (c.channelOrNew name).state = .attaching) :
      MaySend c i d (Message.detach name) .notice
  | sync (name cursor : String) (hs : (d.channelOrNew name).state = .attached)
      (hsync : (d.channelOrNew name).roster.sync = .inProgress) :
      MaySend c i d (Message.sync name cursor) .notice
  | publish (name : String) (m : Message) (responder : Responder) (hm : m.PublishesOn name)
      (hs : (d.channelOrNew name).state = .attached) : MaySend c i d m (.first responder)
  | again (m : Message) (hg : c.Greets i m) (e : Unacked)
      (he : e ∈ Unacked.resent (c.resumes m) 0 c.pending.entries) :
      MaySend c i d e.message (.again e.responder)

theorem Speaks.maySend {name : String} {effect : Effect} (h : Speaks asked name d effect)
    (he : effect = .send m purpose) : d.isConnected = true ∧ MaySend c i d m purpose := by
  cases h with
  | attach hup hs =>
    cases he
    exact ⟨hup, .attach name _ hs⟩
  | detach hup hs =>
    cases he
    exact ⟨hup, .detach name hs⟩
  | sync hup hs hsync =>
    cases he
    exact ⟨hup, .sync name _ hs hsync⟩
  | publish hup hs hm =>
    cases he
    exact ⟨hup, .publish name m _ hm hs⟩
  | members hg hs => cases he

/-! ## What a step sends -/

/-- Some effects send nothing. -/
def SendsNothing (log : List Effect) : Prop := ∀ m purpose, .send m purpose ∉ log

/-- How a step from `c` that leaves `r` sends: nothing at all; on a link that is live before and
after the step; on a link that is greeted, once all are told that it is up; or the one message
that says on a live link that the connection is closing. -/
inductive Sends (c : Client) (i : Input) (r : Logged Client) : Prop
  | nothing (h : SendsNothing r.log)
  | live (hup : c.connection.state = .connected) (hlast : r.value.connection.state = .connected)
      (h : ∀ m purpose, .send m purpose ∈ r.log → MaySend c i r.value m purpose)
  | greeted (m : Message) (news rest : List Effect) (hg : c.Greets i m)
      (hlast : r.value.connection.state = .connected) (hlog : r.log = news ++ rest)
      (hnews : ∀ e ∈ news, e.IsNews) (hrest : ∀ e ∈ rest, ¬e.IsNews)
      (h : ∀ m purpose, .send m purpose ∈ rest → MaySend c i r.value m purpose)
  | closing (ticket : Ticket) (news : List Effect) (hi : i = .command ticket .close)
      (hup : c.connection.state = .connected) (hlast : r.value.connection.state = .closing)
      (hlog : r.log = news ++ [.send Message.close .notice]) (hnews : ∀ e ∈ news, e.IsNews)

theorem close_eq (hup : c.connection.state = .connected) : c.close = (do
    let c ← c.become .closing none none
    transmit Message.close
    pure (c.setTimer (some (Alarm.after c.clock c.options.timing.requestTimeout .closeTimeout)))) := by
  refine close_cases (fun hidle => ?_) (fun _ => rfl) fun _ _ hno => absurd hup hno
  rw [hup] at hidle
  rcases hidle with h | h <;> cases h

/-- A live link is closed in two steps. -/
theorem state_close (hup : c.connection.state = .connected) :
    c.close.value.connection.state = .closing := by
  have hstate := state_become (c := c) .closing none none
  rw [if_pos (by rw [hup]; rfl)] at hstate
  rw [close_eq hup]
  exact hstate

/-- On a live link a close tells all that it is under way, and then the server. -/
theorem sends_close (hup : c.connection.state = .connected) (ticket : Ticket) :
    Sends c (.command ticket .close) c.close :=
  .closing ticket _ rfl hup (state_close hup) (by rw [close_eq hup]; rfl) (news_become _ _ _)

theorem not_news_of_plain {e : Effect} (h : e.IsPlain) : ¬e.IsNews := by
  unfold Effect.IsPlain at h
  unfold Effect.IsNews
  split
  · exact absurd h id
  · exact id

theorem Speaks.not_news {name : String} {effect : Effect} (h : Speaks asked name d effect) :
    ¬effect.IsNews := by
  cases h <;> exact id

theorem Greeted.sends {news : List Effect} {up : Client} {visits : Logged Client}
    (h : Greeted asked c m r news up visits) (hg : c.Greets i m) : Sends c i r := by
  refine .greeted m news (up.pending.entries.map Unacked.again ++ visits.log) hg ?_ ?_ h.news ?_ ?_
  · rw [h.value]
    exact isConnected_iff.mp h.lasting
  · rw [h.log, List.append_assoc]
  · intro e he
    rcases List.mem_append.mp he with he | he
    · obtain ⟨e, -, rfl⟩ := List.mem_map.mp he
      exact id
    · rcases h.visits.within e he with hplain | ⟨name, hs⟩
      · exact not_news_of_plain hplain
      · exact hs.not_news
  · intro m' purpose he
    rcases List.mem_append.mp he with he | he
    · obtain ⟨e, hmem, hsent⟩ := List.mem_map.mp he
      cases hsent
      exact .again m hg e (h.pending ▸ hmem)
    · rw [h.value]
      rcases h.visits.within _ he with hplain | ⟨name, hs⟩
      · exact hplain.elim
      · exact (hs.maySend rfl).2

theorem sends_step (hs : Sound c) {inputs : List Input} (hk : c.Kept (Asked inputs))
    (hi : i ≠ .shutdown) : Sends c i (c.step i) := by
  rcases step_posts hs hk i with ⟨-, h⟩ | ⟨m, news, up, visits, hg, h⟩
  · by_cases hclose : (∃ ticket, i = .command ticket .close) ∧ c.connection.state = .connected
    · obtain ⟨⟨ticket, rfl⟩, hup⟩ := hclose
      exact sends_close hup ticket
    · have hsent : ∀ m purpose, .send m purpose ∈ (c.step i).log →
          (c.step i).value.isConnected = true ∧ MaySend c i (c.step i).value m purpose := by
        intro m purpose hmem
        rcases h.within _ hmem with hplain | hsaid
        · exact hplain.elim
        · cases hsaid with
          | news hn => exact hn.elim
          | speaks hs => exact hs.maySend rfl
          | released hi hup hlast hs => exact ⟨hlast, .release _ _ hi hs⟩
          | closed hi hup => exact absurd ⟨⟨_, hi⟩, isConnected_iff.mp hup⟩ hclose
          | ended hend => exact absurd hend hi
      by_cases hnone : SendsNothing (c.step i).log
      · exact .nothing hnone
      · obtain ⟨m, purpose, hmem⟩ : ∃ m purpose, .send m purpose ∈ (c.step i).log := by
          simpa [SendsNothing] using hnone
        have hlast := (hsent m purpose hmem).1
        exact .live (isConnected_iff.mp (h.steady hlast)) (isConnected_iff.mp hlast)
          fun m purpose hm => (hsent m purpose hm).2
  · exact h.sends hg

/-! ## After the close -/

/-- As long as no link is opened, a client that has none in use gets none. -/
theorem unlinked_run (ht : c.connection.Timed)
    (hc : c.connection.state ≠ .connecting ∧ c.connection.state ≠ .connected)
    (later : List Input) (hnone : opened (c.run later).log = []) :
    (c.run later).value.connection.state ≠ .connecting ∧
      (c.run later).value.connection.state ≠ .connected := by
  induction later generalizing c with
  | nil => exact hc
  | cons i rest ih =>
    rw [run_cons, Logged.log_bind, opened_append] at hnone
    obtain ⟨hfirst, hrest⟩ := List.append_eq_nil_iff.mp hnone
    obtain ⟨-, hturn⟩ := step_turn ht i
    rw [hfirst] at hturn
    have htimed : (c.step i).value.session.Timed := Connection.timed_turn hturn ht
    have hafter : (c.step i).value.session.state ≠ .connecting ∧
        (c.step i).value.session.state ≠ .connected := Connection.unlinked_of_none hturn hc
    exact ih htimed hafter hrest

/-- A client that has no link in use sends nothing. -/
theorem Sends.nothing_of_unlinked (h : Sends c i r)
    (hc : c.connection.state ≠ .connecting ∧ c.connection.state ≠ .connected) :
    SendsNothing r.log := by
  cases h with
  | nothing h => exact h
  | live hup => exact absurd hup hc.2
  | greeted m news rest hg => exact absurd hg.2.2 hc.1
  | closing ticket news hi hup => exact absurd hup hc.2

/-! ## The law -/

/-- In every run, until the client comes to its end, all is sent on a live link, apart from the
one message that closes the connection, and is about a channel that is at that. After a close
nothing is sent before another link is opened and has come up. -/
theorem all_is_sent_on_a_live_link (options : Options) (words : List UInt64)
    (inputs : List Input) :
    let c := ((fresh options words).run inputs).value
    (∀ i, i ≠ .shutdown → Sends c i (c.step i)) ∧
      (c.connection.state = .connected → ∀ ticket later i, i ≠ .shutdown →
        let since := (c.step (.command ticket .close)).value.run later
        ¬SendsNothing (since.value.step i).log → opened since.log ≠ [] ∧
          (since.value.connection.state = .connected ∨
            (since.value.step i).value.connection.state = .connected)) := by
  intro c
  have hsends : ∀ inputs i, i ≠ .shutdown → Sends ((fresh options words).run inputs).value i
      (((fresh options words).run inputs).value.step i) := fun inputs i =>
    sends_step (sound_run (sound_fresh options words) inputs) (kept_run options words inputs)
  refine ⟨hsends inputs, ?_⟩
  intro hup ticket later i hi since hsent
  have hsince : since.value =
      ((fresh options words).run (inputs ++ .command ticket .close :: later)).value := by
    rw [run_append, Logged.value_bind, run_cons, Logged.value_bind]
  have hlast : Sends since.value i (since.value.step i) := by
    rw [hsince]
    exact hsends _ i hi
  constructor
  · intro hnone
    have htimed := (timed_run options words (inputs ++ [.command ticket .close])).2
    rw [run_snoc, Logged.value_bind] at htimed
    have hclosing : (c.step (.command ticket .close)).value.connection.state = .closing :=
      state_close hup
    have hunlinked := unlinked_run (c := (c.step (.command ticket .close)).value) htimed
      (by simp [hclosing]) later hnone
    exact hsent (hlast.nothing_of_unlinked hunlinked)
  · cases hlast with
    | nothing h => exact absurd h hsent
    | live hup hlast => exact .inr hlast
    | greeted m news rest hg hlast => exact .inr hlast
    | closing ticket news hi hup => exact .inl hup

/-- The server has closed the connection, and a new link is greeted. -/
def reopened : List Input :=
  [.link 1 (.message { action := Message.Action.closed.code }), .command 2 .connect,
    .link 3 (.message { action := Message.Action.connected.code })]

/-- After the close an attach goes out on the link that was opened since. -/
theorem an_attach_after_a_close_goes_out_on_a_new_link :
    let c := ((fresh keyOptions []).run greeting).value
    let since := (c.step (.command 1 .close)).value.run reopened
    let r := since.value.step (.command 3 (.channel "room" .attach))
    Sends c (.command 1 .close) (c.step (.command 1 .close)) ∧
      .send (Message.attach "room" none none) .notice ∈ r.log ∧ opened since.log ≠ [] ∧
        (since.value.connection.state = .connected ∨ r.value.connection.state = .connected) := by
  have hsent : .send (Message.attach "room" none none) .notice ∈
      (((((fresh keyOptions []).run greeting).value.step (.command 1 .close)).value.run
        reopened).value.step (.command 3 (.channel "room" .attach))).log := by decide +kernel
  obtain ⟨hsends, hclosed⟩ := all_is_sent_on_a_live_link keyOptions [] greeting
  exact ⟨hsends _ nofun, hsent, hclosed rfl 1 reopened _ nofun fun hnone => hnone _ _ hsent⟩

end PresenceClient.Client
