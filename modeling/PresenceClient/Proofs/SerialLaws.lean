-- The law of the serials. What is sent and not acknowledged stays in order, under the serials
-- that it was sent with. On every link the serials ascend, and in a new session they count from
-- zero on.
import Mathlib.Data.List.TakeWhile
import PresenceClient.Proofs.Greetings
import PresenceClient.Proofs.SyncLaws

namespace PresenceClient

open Unacked (again resent)

/-! ## Links in a log -/

def Effect.isOpening : Effect → Bool
  | .openLink _ _ => true
  | _ => false

/-- What is done until a link is opened. -/
def untilOpen (log : List Effect) : List Effect := log.takeWhile fun e => !e.isOpening

theorem isOpening_iff {e : Effect} : e.isOpening = true ↔ e.opens ≠ [] := by
  cases e <;> simp [Effect.isOpening, Effect.opens]

theorem untilOpen_of_none {a b : List Effect} (h : opened a = []) :
    untilOpen (a ++ b) = a ++ untilOpen b := by
  refine List.takeWhile_append_of_pos fun e he => ?_
  have hnone : e.opens = [] := List.flatMap_eq_nil_iff.mp h e he
  cases ho : e.isOpening with
  | false => rfl
  | true => exact absurd hnone (isOpening_iff.mp ho)

/-- Once a link is opened, what comes later belongs to that one. -/
theorem untilOpen_of_some {a b : List Effect} (h : opened a ≠ []) :
    untilOpen (a ++ b) = untilOpen a := by
  unfold untilOpen
  rw [List.takeWhile_append, if_neg]
  intro hlen
  have hall : a.takeWhile (fun e => !e.isOpening) = a :=
    (List.takeWhile_prefix _).eq_of_length hlen
  refine h (List.flatMap_eq_nil_iff.mpr fun e he => ?_)
  have hnot : (!e.isOpening) = true := List.takeWhile_eq_self_iff.mp hall e he
  by_contra hne
  rw [isOpening_iff.mpr hne] at hnot
  cases hnot

theorem infix_serials {part log : List Effect} (h : part <:+: log) :
    serials part <:+: serials log := by
  obtain ⟨s, t, rfl⟩ := h
  exact ⟨serials s, serials t, by rw [serials_append, serials_append]⟩

theorem suffix_append_cases {tail a b : List Effect} (h : tail <:+ a ++ b) :
    tail <:+ b ∨ ∃ rest, rest <:+ a ∧ tail = rest ++ b := by
  obtain ⟨p, hp⟩ := h
  rcases List.append_eq_append_iff.mp hp with ⟨rest, ha, htail⟩ | ⟨rest, -, hb⟩
  · exact .inr ⟨rest, ⟨p, ha.symm⟩, htail⟩
  · exact .inl ⟨rest, hb.symm⟩

/-- What is filed is filed under the serial of its message. -/
theorem mem_filed {log : List Effect} {e : Unacked} (h : e ∈ filed log) :
    e.message.msgSerial = some e.serial := by
  obtain ⟨effect, -, he⟩ := List.mem_flatMap.mp h
  unfold Effect.filed at he
  split at he
  any_goals
    obtain ⟨serial, hs, rfl⟩ := List.mem_map.mp he
    exact Option.mem_toList.mp hs
  exact absurd he List.not_mem_nil

namespace Client

variable {asked : String → PendingGet → Prop} {may : Effect → Prop} {c : Client} {i : Input}
  {m : Message} {r : Logged Client} {news : List Effect} {up : Client} {visits : Logged Client}

/-! ## The books of what is filed -/

/-- What is sent and not acknowledged is in order, under the serials of its messages, and the
next serial is above them all. -/
structure Booked (c : Client) : Prop where
  ascending : c.pending.entries.Pairwise (·.serial < ·.serial)
  numbered : ∀ e ∈ c.pending.entries, e.message.msgSerial = some e.serial
  counted : ∀ e ∈ c.pending.entries, 0 ≤ e.serial ∧ e.serial < c.connection.nextSerial
  started : 0 ≤ c.connection.nextSerial

theorem booked_fresh (options : Options) (words : List UInt64) : (fresh options words).Booked :=
  ⟨.nil, fun _ he => absurd he List.not_mem_nil, fun _ he => absurd he List.not_mem_nil,
    Int.le_refl 0⟩

/-- Of the serials that are posted, none was used before, and the next one is above them. -/
theorem Posts.serial_bounds (h : Posts asked may c r) {s : Int} (hs : s ∈ serials r.log) :
    c.connection.nextSerial ≤ s ∧ s < r.value.connection.nextSerial := by
  rw [h.counted.consecutive] at hs
  rw [h.counted.next_eq]
  exact mem_countFrom.mp hs

theorem Posts.ascending (h : Posts asked may c r) : (serials r.log).Pairwise (· < ·) := by
  rw [h.counted.consecutive]
  exact ascending_countFrom _ _

theorem Posts.next_le (h : Posts asked may c r) :
    c.connection.nextSerial ≤ r.value.connection.nextSerial := by
  rw [h.counted.next_eq]
  omega

theorem booked_posts (h : Posts asked may c r) (hb : c.Booked) : r.value.Booked := by
  have hfiled : ∀ e ∈ filed r.log, c.connection.nextSerial ≤ e.serial ∧
      e.serial < r.value.connection.nextSerial := fun e he =>
    h.serial_bounds (h.numbered ▸ List.mem_map_of_mem he)
  have hstart := hb.started
  have hle := h.next_le
  refine ⟨List.Pairwise.sublist h.pending (List.pairwise_append.mpr ⟨hb.ascending, ?_, ?_⟩),
    fun e he => ?_, fun e he => ?_, Int.le_trans hstart hle⟩
  · refine List.pairwise_map.mp ?_
    rw [h.numbered]
    exact h.ascending
  · intro a ha b hb'
    exact Int.lt_of_lt_of_le (hb.counted a ha).2 (hfiled b hb').1
  · rcases List.mem_append.mp (h.pending.subset he) with he | he
    · exact hb.numbered e he
    · exact mem_filed he
  · rcases List.mem_append.mp (h.pending.subset he) with he | he
    · have := hb.counted e he
      omega
    · have := hfiled e he
      omega

/-- In a session that is resumed all goes out again as it was. -/
theorem Booked.resent_resumed (hb : c.Booked) (serial : Int) :
    resent true serial c.pending.entries = c.pending.entries := by
  have hsame : ∀ e ∈ c.pending.entries, e.under e.serial = id e := by
    intro e he
    have hserial := hb.numbered e he
    obtain ⟨serial, message, responder⟩ := e
    simp only [Unacked.under, id_eq, Unacked.mk.injEq, true_and, and_true] at hserial ⊢
    rw [← hserial]
  rw [Unacked.resent_resumed, List.map_congr_left hsame, List.map_id]

/-- What is sent again is booked anew. -/
theorem booked_up (h : Greeted asked c m r news up visits) (hb : c.Booked) : up.Booked := by
  have hpending := h.pending
  have hnext := h.nextSerial
  cases hres : c.resumes m with
  | true =>
    rw [hres, hb.resent_resumed] at hpending
    rw [hres, if_pos rfl] at hnext
    refine ⟨hpending ▸ hb.ascending, hpending ▸ hb.numbered, ?_, hnext ▸ hb.started⟩
    rw [hpending, hnext]
    exact hb.counted
  | false =>
    rw [hres] at hpending
    rw [hres, if_neg Bool.false_ne_true] at hnext
    have hserials : up.pending.entries.map (·.serial) = countFrom 0 c.pending.entries.length := by
      rw [hpending, Unacked.serials_resent]
    refine ⟨List.pairwise_map.mp ?_, fun e he => ?_, fun e he => ?_, by omega⟩
    · rw [hserials]
      exact ascending_countFrom _ _
    · rw [hpending] at he
      obtain ⟨e, -, serial, rfl⟩ := Unacked.mem_resent he
      rfl
    · have hmem := List.mem_map_of_mem (f := (·.serial)) he
      rw [hserials] at hmem
      have := mem_countFrom.mp hmem
      omega

/-! ## The books of the links -/

/-- As long as no link is opened, the serials that are sent ascend. -/
def Ascends (log : List Effect) : Prop :=
  ∀ link, link <:+: log → opened link = [] → (serials link).Pairwise (· < ·)

theorem ascends_append {log new : List Effect} (hlog : Ascends log)
    (hnew : (serials new).Pairwise (· < ·))
    (hover : ∀ tail, tail <:+ log → opened tail = [] →
      ∀ a ∈ serials tail, ∀ b ∈ serials new, a < b) : Ascends (log ++ new) := by
  intro link hlink hnone
  rcases List.infix_append_iff.mp hlink with h | h | ⟨tail, head, rfl, htail, hhead⟩
  · exact hlog link h hnone
  · exact hnew.sublist (infix_serials h).sublist
  · obtain ⟨hnone, -⟩ := List.append_eq_nil_iff.mp ((opened_append tail head).symm.trans hnone)
    have hsub := infix_serials hhead.isInfix
    rw [serials_append]
    exact List.pairwise_append.mpr ⟨hlog tail htail.isInfix hnone, hnew.sublist hsub.sublist,
      fun a ha b hb => hover tail htail hnone a ha b (hsub.subset hb)⟩

/-- Of the serials of a run there are at least as many as the next one counts. Those that the
last link has seen ascend to the next one, and a link that is waited for has seen none. -/
structure Logbook (r : Logged Client) : Prop where
  sent : r.value.connection.nextSerial ≤ (serials r.log).length
  unstarted : r.value.connection.state = .connecting →
    ∀ tail, tail <:+ r.log → opened tail = [] → serials tail = []
  below : ∀ tail, tail <:+ r.log → opened tail = [] →
    ∀ s ∈ serials tail, s < r.value.connection.nextSerial
  ascends : Ascends r.log

theorem logbook_fresh (options : Options) (words : List UInt64) :
    Logbook (pure (fresh options words)) := by
  have hnone : ∀ tail : List Effect, tail <:+: [] → serials tail = [] := by
    intro tail h
    rw [List.infix_nil.mp h]
    rfl
  refine ⟨Int.le_refl 0, fun _ tail h _ => hnone tail h.isInfix, fun tail h _ s hs => ?_,
    fun link h _ => ?_⟩
  · rw [hnone tail h.isInfix] at hs
    exact absurd hs List.not_mem_nil
  · rw [hnone link h]
    exact .nil

/-- Without a live link nothing is sent under a serial. -/
theorem serials_of_down {d : Client} (h : Posts asked (Uttered asked c i d) c r)
    (hdown : d.connection.state ≠ .connected) : serials r.log = [] := by
  refine List.flatMap_eq_nil_iff.mpr fun e he => ?_
  rcases h.within e he with hplain | hsaid
  · exact serials_of_plain hplain
  · cases hsaid with
    | news hn => exact serials_of_news hn
    | speaks hs =>
      cases hs with
      | publish hup hs hm => exact absurd (isConnected_iff.mp hup) hdown
      | _ => rfl
    | _ => rfl

section Step

variable {x : Logged Client}

theorem logbook_posts (h : Logbook r) (hx : Posts asked (Uttered asked r.value i x.value) r.value x)
    (hopened : opened x.log = [] → x.value.connection.state = .connecting →
      r.value.connection.state = .connecting) : Logbook ⟨x.value, r.log ++ x.log⟩ := by
  have hsent := h.sent
  have hnext := hx.counted.next_eq
  refine ⟨?_, fun hs tail htail hnone => ?_, fun tail htail hnone s hmem => ?_,
    ascends_append h.ascends hx.ascending fun tail htail hnone a ha b hb =>
      Int.lt_of_lt_of_le (h.below tail htail hnone a ha) (hx.serial_bounds hb).1⟩
  · show x.value.connection.nextSerial ≤ _
    rw [serials_append, List.length_append]
    omega
  · change x.value.connection.state = .connecting at hs
    have hquiet : serials x.log = [] := serials_of_down hx fun hup => nomatch hs.symm.trans hup
    rcases suffix_append_cases htail with htail | ⟨rest, hrest, rfl⟩
    · exact List.infix_nil.mp (hquiet ▸ infix_serials htail.isInfix)
    · obtain ⟨hnone, hnone'⟩ := List.append_eq_nil_iff.mp ((opened_append rest _).symm.trans hnone)
      rw [serials_append, hquiet, h.unstarted (hopened hnone' hs) rest hrest hnone]
      rfl
  · have hle := hx.next_le
    rcases suffix_append_cases htail with htail | ⟨rest, hrest, rfl⟩
    · exact (hx.serial_bounds ((infix_serials htail.isInfix).subset hmem)).2
    · rw [opened_append] at hnone
      rw [serials_append] at hmem
      rcases List.mem_append.mp hmem with hmem | hmem
      · exact Int.lt_of_lt_of_le (h.below rest hrest (List.append_eq_nil_iff.mp hnone).1 s hmem) hle
      · exact (hx.serial_bounds hmem).2

theorem Greeted.serials_news (h : Greeted asked c m r news up visits) : serials news = [] :=
  List.flatMap_eq_nil_iff.mpr fun e he => serials_of_news (h.news e he)

/-- What is sent again goes out under the serials that it is filed under. -/
theorem Greeted.serials_again (h : Greeted asked c m r news up visits) :
    serials (up.pending.entries.map again) = up.pending.entries.map (·.serial) := by
  rw [h.pending, Unacked.serials_again]

/-- A greeting sends again what is filed, and then goes on from the next serial. -/
theorem Greeted.serials (h : Greeted asked c m r news up visits) :
    serials r.log = up.pending.entries.map (·.serial) ++ serials visits.log := by
  rw [h.log, serials_append, serials_append, h.serials_news, List.nil_append, h.serials_again]

theorem logbook_greeted (h : Logbook r) (hb : r.value.Booked)
    (hs : r.value.connection.state = .connecting)
    (hx : Greeted asked r.value m x news up visits) : Logbook ⟨x.value, r.log ++ x.log⟩ := by
  have hup := booked_up hx hb
  have hserials := hx.serials
  have hbelow : ∀ s ∈ serials x.log, s < x.value.connection.nextSerial := by
    intro s hmem
    rw [hserials] at hmem
    rw [hx.value]
    rcases List.mem_append.mp hmem with hmem | hmem
    · obtain ⟨e, he, rfl⟩ := List.mem_map.mp hmem
      exact Int.lt_of_lt_of_le (hup.counted e he).2 hx.visits.next_le
    · exact (hx.visits.serial_bounds hmem).2
  have hnone : ∀ tail, tail <:+ r.log → opened tail = [] → serials tail = [] := h.unstarted hs
  refine ⟨?_, fun hs' => ?_, fun tail htail hfree s hmem => ?_, ascends_append h.ascends ?_ ?_⟩
  · have hsent := h.sent
    have hnext := hx.nextSerial
    have hlast := hx.visits.counted.next_eq
    have hlen : up.pending.entries.length = r.value.pending.entries.length := by
      rw [hx.pending, Unacked.length_resent]
    show x.value.connection.nextSerial ≤ _
    rw [hx.value, serials_append, hserials, List.length_append, List.length_append,
      List.length_map]
    split at hnext <;> omega
  · have hlive : x.value.connection.state = .connected := hx.value ▸ isConnected_iff.mp hx.lasting
    exact nomatch hs'.symm.trans hlive
  · rcases suffix_append_cases htail with htail | ⟨rest, hrest, rfl⟩
    · exact hbelow s ((infix_serials htail.isInfix).subset hmem)
    · rw [opened_append] at hfree
      rw [serials_append, hnone rest hrest (List.append_eq_nil_iff.mp hfree).1] at hmem
      exact hbelow s hmem
  · rw [hserials]
    refine List.pairwise_append.mpr ⟨List.pairwise_map.mpr hup.ascending, hx.visits.ascending, ?_⟩
    intro a ha b hb
    obtain ⟨e, he, rfl⟩ := List.mem_map.mp ha
    exact Int.lt_of_lt_of_le (hup.counted e he).2 (hx.visits.serial_bounds hb).1
  · intro tail htail hfree a ha
    rw [hnone tail htail hfree] at ha
    exact absurd ha List.not_mem_nil

end Step

/-- In every run the books are right, those of what is filed and those of the links. -/
theorem logbook_run (options : Options) (words : List UInt64) (inputs : List Input) :
    let r := (fresh options words).run inputs
    r.value.Booked ∧ Logbook r := by
  induction inputs using List.reverseRecOn with
  | nil => exact ⟨booked_fresh options words, logbook_fresh options words⟩
  | append_singleton first i ih =>
    obtain ⟨hb, hl⟩ := ih
    have hs := sound_run (sound_fresh options words) first
    have hk := kept_run options words first
    obtain ⟨-, hturn⟩ := step_turn (timed_run options words first).2 i
    rw [run_snoc]
    generalize (fresh options words).run first = r at hb hl hs hk hturn
    rcases step_posts hs hk i with ⟨-, h⟩ | ⟨m, news, up, visits, hg, h⟩
    · refine ⟨?_, logbook_posts hl h fun hnone hstate => ?_⟩
      · rw [Logged.value_bind]
        exact booked_posts h hb
      rw [hnone] at hturn
      have hbefore : r.value.session.state = .connecting :=
        Connection.connecting_of_none hturn hstate
      exact hbefore
    · refine ⟨?_, logbook_greeted hl hb hg.2.2 h⟩
      rw [Logged.value_bind, h.value]
      exact booked_posts h.visits (booked_up h hb)

/-! ## The link that is greeted -/

/-- What is said of a channel is said for the first time. -/
theorem Speaks.ne_again {name : String} {d : Client} {effect : Effect}
    (h : Speaks asked name d effect) (e : Unacked) : effect ≠ e.again := by
  cases h <;> simp [again]

theorem Uttered.ne_again {d : Client} {effect : Effect} (h : Uttered asked c i d effect)
    (e : Unacked) : effect ≠ e.again := by
  cases h with
  | news hn =>
    rintro rfl
    exact hn
  | speaks hs => exact hs.ne_again e
  | _ => simp [again]

theorem Posts.again_not_mem (h : Posts asked may c r) (hmay : ∀ effect, may effect →
    ∀ e : Unacked, effect ≠ e.again) (e : Unacked) : e.again ∉ r.log := by
  intro he
  rcases h.within _ he with hplain | hsaid
  · exact hplain
  · exact hmay _ hsaid e rfl

/-- Until a link is opened, the serials of a client that waits for none count on from the next
one, and nothing is sent again. -/
theorem counts_untilOpen (hs : Sound c) (ht : c.connection.Timed) (hk : c.Kept fun _ _ => True)
    (hstate : c.connection.state ≠ .connecting) (later : List Input) :
    (∃ next, Counts c.connection.nextSerial (serials (untilOpen (c.run later).log)) next) ∧
      ∀ e : Unacked, e.again ∉ untilOpen (c.run later).log := by
  induction later generalizing c with
  | nil => exact ⟨⟨_, counts_nil _⟩, fun e he => absurd he List.not_mem_nil⟩
  | cons i rest ih =>
    have hposts := posts_step (i := i) hs hk (fun _ _ _ _ => trivial) fun m hg => hstate hg.2.2
    obtain ⟨-, hturn⟩ := step_turn ht i
    have htimed : (c.step i).value.session.Timed := Connection.timed_turn hturn ht
    have hagain := hposts.again_not_mem fun _ h => h.ne_again
    rw [run_cons, Logged.log_bind]
    by_cases hopen : opened (c.step i).log = []
    · rw [hopen] at hturn
      obtain ⟨⟨next, hnext⟩, hrest⟩ := ih (sound_step hs i) htimed hposts.kept fun hafter =>
        hstate (Connection.connecting_of_none hturn hafter : c.session.state = .connecting)
      rw [untilOpen_of_none hopen, serials_append]
      exact ⟨⟨next, counts_append hposts.counted hnext⟩, fun e he =>
        (List.mem_append.mp he).elim (hagain e) (hrest e)⟩
    · have hafter : (c.step i).value.session.state = .connecting :=
        (Connection.connecting_of_opens hturn hopen).2
      have hquiet : serials (c.step i).log = [] :=
        serials_of_down hposts fun hup => nomatch hafter.symm.trans hup
      have hfirst : untilOpen (c.step i).log <+: (c.step i).log := List.takeWhile_prefix _
      have hnone : serials (untilOpen (c.step i).log) = [] :=
        List.infix_nil.mp (hquiet ▸ infix_serials hfirst.isInfix)
      rw [untilOpen_of_some hopen, hnone]
      exact ⟨⟨_, counts_nil _⟩, fun e he => hagain e (hfirst.subset he)⟩

/-- What a link does once it is greeted: at first all that is not acknowledged is sent again, in
its order. In a session that is resumed that keeps its serials, and what is sent then counts on
from the next one. In a new session all serials count from zero on. -/
def TakesUp (c : Client) (m : Message) (link : List Effect) : Prop :=
  ∃ news rest, serials news = [] ∧ (∀ e : Unacked, e.again ∉ news ++ rest) ∧
    if c.resumes m then
      link = news ++ c.pending.entries.map again ++ rest ∧
        serials rest = countFrom c.connection.nextSerial (serials rest).length
    else
      link = news ++ (c.pending.entries.mapIdx fun i e => e.under i).map again ++ rest ∧
        serials link = countFrom 0 (serials link).length

theorem takesUp_of_greeted (h : Greeted asked c m r news up visits) (hb : c.Booked)
    {tail : List Effect} {next : Int}
    (hcounts : Counts r.value.connection.nextSerial (serials tail) next)
    (hagain : ∀ e : Unacked, e.again ∉ tail) : c.TakesUp m (r.log ++ tail) := by
  rw [h.value] at hcounts
  have hrest : Counts up.connection.nextSerial (serials (visits.log ++ tail)) next := by
    rw [serials_append]
    exact counts_append h.visits.counted hcounts
  have hpending := h.pending
  have hnext := h.nextSerial
  rw [h.log, List.append_assoc]
  refine ⟨news, visits.log ++ tail, h.serials_news, fun e he => ?_, ?_⟩
  · rcases List.mem_append.mp he with he | he
    · exact h.news _ he
    · exact (List.mem_append.mp he).elim
        (h.visits.again_not_mem (fun _ ⟨_, hs⟩ => hs.ne_again) e) (hagain e)
  · cases hres : c.resumes m with
    | true =>
      rw [hres, hb.resent_resumed] at hpending
      rw [hres, if_pos rfl] at hnext
      rw [if_pos rfl, hpending, ← hnext]
      exact ⟨rfl, hrest.consecutive⟩
    | false =>
      rw [hres] at hpending
      rw [hres, if_neg Bool.false_ne_true] at hnext
      have hagain : Counts 0 (serials (up.pending.entries.map again)) up.connection.nextSerial := by
        rw [h.serials_again, hpending, Unacked.serials_resent, hnext]
        exact ⟨by rw [length_countFrom], by rw [length_countFrom, Int.zero_add]⟩
      rw [if_neg Bool.false_ne_true]
      refine ⟨?_, ?_⟩
      · rw [hpending]
        simp [resent]
      · rw [serials_append, serials_append, h.serials_news, List.nil_append]
        exact (counts_append hagain hrest).consecutive

theorem takesUp_greeted (hs : Sound c) (ht : c.connection.Timed) (hk : c.Kept fun _ _ => True)
    (hb : c.Booked) (hg : c.Greets i m) (later : List Input) :
    c.TakesUp m (untilOpen (c.run (i :: later)).log) := by
  obtain ⟨news, up, visits, h⟩ := greeted_step hs hk hg
  obtain ⟨-, hturn⟩ := step_turn ht i
  have htimed : (c.step i).value.session.Timed := Connection.timed_turn hturn ht
  have hlive : (c.step i).value.session.state = .connected := by
    rw [h.value]
    exact isConnected_iff.mp h.lasting
  -- The greeting opens no link, and all that comes until one is opened belongs to this link.
  have hnone : opened (c.step i).log = [] := by
    by_contra hne
    exact nomatch hlive.symm.trans (Connection.connecting_of_opens hturn hne).2
  have hkept : (c.step i).value.Kept fun _ _ => True := h.value ▸ h.visits.kept
  obtain ⟨⟨next, hcounts⟩, hagain⟩ := counts_untilOpen (sound_step hs i) htimed hkept
    (fun hs' => nomatch hlive.symm.trans hs') later
  rw [run_cons, Logged.log_bind, untilOpen_of_none hnone]
  exact takesUp_of_greeted h hb hcounts hagain

/-! ## The law -/

/-- In every run, what is not acknowledged is in order under the serials that it was sent with,
each of them below the next one, and is presence of a channel that is there. On every link the
serials ascend. A link has seen none when it is greeted; then it sees again what is not
acknowledged, under the old serials if the session is resumed, and else all from zero on. -/
theorem serials_never_drift (options : Options) (words : List UInt64) (inputs : List Input) :
    let r := (fresh options words).run inputs
    r.value.Booked ∧
      (∀ e ∈ r.value.pending.entries,
        ∃ name, e.message.PublishesOn name ∧ (r.value.channel? name).isSome = true) ∧
      r.value.connection.nextSerial ≤ (serials r.log).length ∧
      Ascends r.log ∧
      ∀ first i m later, inputs = first ++ i :: later →
        let before := (fresh options words).run first
        before.value.Greets i m →
          (∀ tail, tail <:+ before.log → opened tail = [] → serials tail = []) ∧
            before.value.TakesUp m (untilOpen (before.value.run (i :: later)).log) := by
  intro r
  obtain ⟨hb, hl⟩ := logbook_run options words inputs
  refine ⟨hb, (kept_run options words inputs).homed, hl.sent, hl.ascends, ?_⟩
  intro first i m later _ before hg
  obtain ⟨hb, hl⟩ := logbook_run options words first
  refine ⟨hl.unstarted hg.2.2, ?_⟩
  exact takesUp_greeted (sound_run (sound_fresh options words) first)
    (timed_run options words first).2 ((kept_run options words first).mono fun _ _ _ => trivial)
    hb hg later

/-- A caller enters the room. -/
def roomEnter (ticket : Ticket) (clientId : String) : Input :=
  .command ticket (.channel "room" (.publish .enter (some clientId) .null))

/-- Of two operations one is acknowledged; then the link is lost, and a new one is opened. -/
def lostRoom : List Input :=
  greeting ++ [.command 1 (.channel "room" .attach), .link 1 (.message (roomAttached 0)),
    roomEnter 2 "ann", roomEnter 3 "bob",
    .link 1 (.message { action := Message.Action.ack.code, msgSerial := some 0, count := some 1 }),
    .link 1 (.ended none), .command 4 .connect]

/-- The other one goes out again in a new session, and the next operation after it. -/
theorem a_new_session_counts_from_zero :
    let before := (fresh keyOptions []).run lostRoom
    let m : Message := { action := Message.Action.connected.code }
    let later := [.link 3 (.message (roomAttached 0)), roomEnter 5 "cy"]
    let link := untilOpen (before.value.run (.link 3 (.message m) :: later)).log
    before.value.Booked ∧ before.value.pending.entries.map (·.serial) = [1] ∧
      before.value.Greets (.link 3 (.message m)) m ∧ before.value.resumes m = false ∧
      serials link = [0, 1] ∧ before.value.TakesUp m link := by
  have hg : ((fresh keyOptions []).run lostRoom).value.Greets
      (.link 3 (.message { action := Message.Action.connected.code }))
      { action := Message.Action.connected.code } := ⟨by decide +kernel, rfl, by decide +kernel⟩
  obtain ⟨hb, -⟩ := serials_never_drift keyOptions [] lostRoom
  obtain ⟨-, -, -, -, hlink⟩ := serials_never_drift keyOptions [] (lostRoom ++
    [.link 3 (.message { action := Message.Action.connected.code }),
      .link 3 (.message (roomAttached 0)), roomEnter 5 "cy"])
  refine ⟨hb, by decide +kernel, hg, by decide +kernel, by decide +kernel, ?_⟩
  exact (hlink lostRoom _ _ _ rfl hg).2

end Client

end PresenceClient
