-- The law of timers. A client names the time of its first alarm, does nothing before that time,
-- and lets each alarm whose time has come go off once. None of them is left behind, so that the
-- next time is a later one.
import PresenceClient.Proofs.AlarmSteps
import PresenceClient.Proofs.WaitingLaws

namespace PresenceClient.Client

variable {c d : Client} {name : String} {names : List String} {now t : Instant} {v w : Waker}

/-! ## One alarm -/

theorem winds_fire_connection (h : c.connection.timer.isSome = true) :
    Winds .connection (c.waits .connection) (c.setTimer none) (c.fire .connection) := by
  obtain ⟨alarm, ht⟩ := Option.isSome_iff_exists.mp h
  rw [fire, ht]
  exact winds_onConnectionTimer alarm.kind

/-- An alarm that goes off is taken away, and may be set anew to a wait. No other one is set. -/
theorem alarm_fire {a : Alarm v.Kind} (ha : (c.fire w).value.alarm? v = some a) :
    (v ≠ w ∧ c.alarm? v = some a) ∨ (v = w ∧ ∃ wait ∈ c.waits w, a.due = c.clock + wait) := by
  cases w with
  | connection =>
    cases ht : c.connection.timer with
    | none =>
      have hidle : c.fire .connection = pure c := by rw [fire, ht]
      rw [hidle] at ha
      refine .inl ⟨?_, ha⟩
      rintro rfl
      cases ht.symm.trans ha
    | some alarm =>
      rcases (winds_fire_connection (by rw [ht]; rfl)).alarms v a ha with hkept | hset
      · cases v with
        | connection => cases hkept
        | channel name => exact .inl ⟨nofun, hkept⟩
      · exact .inr hset
  | channel name =>
    cases ht : c.alarm? (.channel name) with
    | none =>
      have hidle : c.fire (.channel name) = pure c := by
        have hno : ∀ ch alarm, c.channel? name = some ch → ch.timer = some alarm → False :=
          fun ch alarm hch hset => by
            have hunset : ch.timer = none := (alarm?_of_some hch).symm.trans ht
            cases hunset.symm.trans hset
        rw [fire]
        exact onChannelTimer_cases (fun _ => rfl) (fun ch a hch hset _ => (hno ch a hch hset).elim)
          (fun ch a hch hset _ _ => (hno ch a hch hset).elim)
          (fun ch a hch hset _ _ _ => (hno ch a hch hset).elim)
          fun ch a hch hset _ => (hno ch a hch hset).elim
      rw [hidle] at ha
      refine .inl ⟨?_, ha⟩
      rintro rfl
      cases ht.symm.trans ha
    | some alarm =>
      obtain ⟨ch, hch, hsome⟩ := Option.bind_eq_some_iff.mp ht
      rcases (winds_onChannelTimer hch (by rw [hsome]; rfl)).alarms v a ha with hkept | hset
      · have hv : v ≠ .channel name := by
          rintro rfl
          cases alarm?_setChannel_self.symm.trans hkept
        exact .inl ⟨hv, (alarm?_setChannel_ne hv).symm.trans hkept⟩
      · exact .inr hset

/-- The connection's timer leaves the clock and the options alone. -/
theorem fire_connection_rest (c : Client) : (c.fire .connection).value.clock = c.clock ∧
    (c.fire .connection).value.options = c.options := by
  cases ht : c.connection.timer with
  | none =>
    rw [fire, ht]
    exact ⟨rfl, rfl⟩
  | some alarm =>
    have h := winds_fire_connection (c := c) (by rw [ht]; rfl)
    exact ⟨h.clock, h.options⟩

/-- The timer of a channel leaves the clock, the options and all other alarms alone. -/
theorem fire_channel_rest (c : Client) (name : String) :
    (c.fire (.channel name)).value.clock = c.clock ∧
      (c.fire (.channel name)).value.options = c.options ∧
      ∀ v, v ≠ .channel name → (c.fire (.channel name)).value.alarm? v = c.alarm? v := by
  have hrests : Rests c (c.onChannelTimer name) := rests_onChannelTimer
  refine ⟨hrests.clock, hrests.options, fun v hv => ?_⟩
  cases v with
  | connection =>
    have ht : (c.onChannelTimer name).value.session.timer = c.session.timer :=
      congrArg Connection.timer hrests.session
    exact ht
  | channel other =>
    refine alarm?_congr ((reaches_onChannelTimer fun _ => Scope.covers_ofChannel name).channels
      other fun he => hv ?_)
    exact congrArg Waker.channel he

/-! ## Alarms in turn -/

/-- Alarms go off one after another. -/
def fireAll (c : Client) (ws : List Waker) : Logged Client := ws.foldlM fire c

theorem fireAll_append (c : Client) (first later : List Waker) :
    (c.fireAll (first ++ later)).value = ((c.fireAll first).value.fireAll later).value := by
  rw [fireAll, List.foldlM_append]
  rfl

/-- The timers of some channels leave the clock, the options and all other alarms alone. -/
theorem fireAll_channels_rest (c : Client) (names : List String) :
    (c.fireAll (names.map .channel)).value.clock = c.clock ∧
      (c.fireAll (names.map .channel)).value.options = c.options ∧
      ∀ v, v ∉ names.map Waker.channel →
        (c.fireAll (names.map .channel)).value.alarm? v = c.alarm? v := by
  induction names generalizing c with
  | nil => exact ⟨rfl, rfl, fun _ _ => rfl⟩
  | cons name rest ih =>
    obtain ⟨hclock, hoptions, halarm⟩ := fire_channel_rest c name
    obtain ⟨hclock', hoptions', halarm'⟩ := ih (c.fire (.channel name)).value
    refine ⟨hclock'.trans hclock, hoptions'.trans hoptions, fun v hv => ?_⟩
    rw [List.map_cons, List.mem_cons, not_or] at hv
    exact (halarm' v hv.2).trans (halarm v hv.1)

/-- Once the timers of some channels have gone off, what is set of them is still to come. -/
theorem alarm_fireAll_channels (hpos : ∀ name, ∀ wait ∈ c.waits (.channel name), 0 < wait)
    {a : Alarm v.Kind} (ha : (c.fireAll (names.map .channel)).value.alarm? v = some a) :
    (v ∉ names.map Waker.channel ∧ c.alarm? v = some a) ∨ c.clock < a.due := by
  induction names generalizing c with
  | nil => exact .inl ⟨List.not_mem_nil, ha⟩
  | cons name rest ih =>
    obtain ⟨hclock, hoptions, -⟩ := fire_channel_rest c name
    have hpos' : ∀ other, ∀ wait ∈ (c.fire (.channel name)).value.waits (.channel other),
        0 < wait := by
      intro other
      rw [waits, hoptions]
      exact hpos other
    rcases ih hpos' ha with ⟨hv, hkept⟩ | hlater
    · rcases alarm_fire hkept with ⟨hne, hkept⟩ | ⟨-, wait, hwait, hdue⟩
      · exact .inl ⟨by simp [hne, hv], hkept⟩
      · exact .inr (hdue ▸ Nat.lt_add_of_pos_right (hpos name wait hwait))
    · exact .inr (hclock ▸ hlater)

/-! ## When the first one is due -/

/-- The times of all alarms. -/
def deadlines (c : Client) : List Instant :=
  (c.connection.timer.map (·.due)).toList ++
    c.channels.values.filterMap fun ch => ch.timer.map (·.due)

theorem mem_deadlines (h : c.channels.Ordered) :
    t ∈ c.deadlines ↔ ∃ w a, c.alarm? w = some a ∧ a.due = t := by
  simp only [deadlines, List.mem_append, Option.mem_toList, Option.map_eq_some_iff,
    List.mem_filterMap]
  constructor
  · rintro (⟨a, ha, rfl⟩ | ⟨ch, hch, a, ha, rfl⟩)
    · exact ⟨.connection, a, ha, rfl⟩
    · obtain ⟨⟨name, ch⟩, hentry, rfl⟩ := List.mem_map.mp hch
      exact ⟨.channel name, a, (alarm?_of_some (Entries.get?_of_mem h hentry)).trans ha, rfl⟩
  · rintro ⟨w, a, ha, rfl⟩
    cases w with
    | connection => exact .inl ⟨a, ha, rfl⟩
    | channel name =>
      obtain ⟨ch, hch, ha⟩ := Option.bind_eq_some_iff.mp ha
      exact .inr ⟨ch, List.mem_map.mpr ⟨(name, ch), Entries.mem_of_get? hch, rfl⟩, a, ha, rfl⟩

/-- The client names the least of them. -/
theorem nextDeadline_iff (h : c.channels.Ordered) : c.nextDeadline = some t ↔
    (∃ w a, c.alarm? w = some a ∧ a.due = t) ∧ ∀ w a, c.alarm? w = some a → t ≤ a.due := by
  have hleast : c.nextDeadline = some t ↔ t ∈ c.deadlines ∧ ∀ d ∈ c.deadlines, t ≤ d :=
    List.min?_eq_some_iff
  rw [hleast, mem_deadlines h]
  refine and_congr_right fun _ => ⟨fun hall w a ha => ?_, fun hall d hd => ?_⟩
  · exact hall a.due ((mem_deadlines h).mpr ⟨w, a, ha, rfl⟩)
  · obtain ⟨w, a, ha, rfl⟩ := (mem_deadlines h).mp hd
    exact hall w a ha

/-- It names none only where no alarm is set. -/
theorem nextDeadline_none_iff (h : c.channels.Ordered) :
    c.nextDeadline = none ↔ ∀ w, c.alarm? w = none := by
  have hempty : c.nextDeadline = none ↔ c.deadlines = [] := List.min?_eq_none_iff
  rw [hempty, List.eq_nil_iff_forall_not_mem]
  simp only [mem_deadlines h]
  refine ⟨fun hno w => ?_, ?_⟩
  · cases ha : c.alarm? w with
    | none => rfl
    | some a => exact absurd ⟨w, a, ha, rfl⟩ (hno a.due)
  · rintro hno t ⟨w, a, ha, -⟩
    cases (hno w).symm.trans ha

/-! ## Those that go off -/

/-- The alarm of the connection, if it is due. -/
def firingFirst (c : Client) (now : Instant) : List Waker :=
  if c.connection.timer.any fun a => a.isDue now then [.connection] else []

/-- The alarms that go off at a time: that of the connection if it is due, and then those of the
channels that are due still. -/
def firing (c : Client) (now : Instant) : List Waker :=
  c.firingFirst now ++ ((c.fireConnectionTimer now).value.dueChannels now).map .channel

theorem fireConnectionTimer_eq (c : Client) (now : Instant) :
    c.fireConnectionTimer now = c.fireAll (c.firingFirst now) := by
  refine fireConnectionTimer_cases (fun alarm ht hdue => ?fires) fun hno => ?waits
  case fires => simp [firingFirst, ht, hdue, fireAll, fire]
  case waits =>
    have hnone : c.connection.timer.any (fun a => a.isDue now) = false := by
      simpa [Option.any_eq_false] using hno
    simp [firingFirst, hnone, fireAll]

theorem fireTimers_eq (c : Client) (now : Instant) :
    c.fireTimers now = c.fireAll (c.firing now) := by
  unfold fireTimers firing fireAll forNames
  rw [List.foldlM_append, fireConnectionTimer_eq, fireAll]
  simp only [List.foldlM_map]
  rfl

theorem mem_firingFirst : w ∈ c.firingFirst now ↔
    w = .connection ∧ ∃ a, c.connection.timer = some a ∧ a.due ≤ now := by
  unfold firingFirst
  cases c.connection.timer with
  | none => simp
  | some a => by_cases hdue : a.due ≤ now <;> simp [Alarm.isDue, hdue]

theorem firingFirst_cases (c : Client) (now : Instant) :
    c.firingFirst now = [] ∨ c.firingFirst now = [.connection] := by
  unfold firingFirst
  split
  · exact .inr rfl
  · exact .inl rfl

/-- An alarm of a channel that is set when the connection's has gone off was set before. -/
theorem alarm_fireConnectionTimer {a : Alarm (Waker.channel name).Kind}
    (ha : (c.fireConnectionTimer now).value.alarm? (.channel name) = some a) :
    c.alarm? (.channel name) = some a := by
  rw [fireConnectionTimer_eq, firingFirst] at ha
  split at ha
  · rcases alarm_fire (w := .connection) ha with ⟨-, hkept⟩ | ⟨hv, -⟩
    · exact hkept
    · cases hv
  · exact ha

theorem mem_dueChannels_iff (h : c.channels.Ordered) : name ∈ c.dueChannels now ↔
    ∃ a, c.alarm? (.channel name) = some a ∧ a.due ≤ now := by
  rw [mem_dueChannels h]
  constructor
  · rintro ⟨ch, a, hch, ht, hdue⟩
    exact ⟨a, (alarm?_of_some hch).trans ht, of_decide_eq_true hdue⟩
  · rintro ⟨a, ha, hdue⟩
    obtain ⟨ch, hch, ht⟩ := Option.bind_eq_some_iff.mp ha
    exact ⟨ch, a, hch, ht, decide_eq_true hdue⟩

theorem fireConnectionTimer_rest (c : Client) (now : Instant) :
    (c.fireConnectionTimer now).value.clock = c.clock ∧
      (c.fireConnectionTimer now).value.options = c.options := by
  rw [fireConnectionTimer_eq]
  rcases firingFirst_cases c now with he | he
  · rw [he]
    exact ⟨rfl, rfl⟩
  · rw [he]
    exact fire_connection_rest c

theorem ordered_fireConnectionTimer (hs : Sound c) :
    (c.fireConnectionTimer c.clock).value.channels.Ordered := (sound_early hs .timers).ordered

/-- When the turn of a channel comes, its alarm is the one that was due. -/
theorem turn_of_channel (h : c.channels.Ordered) {before later : List Waker}
    (hsplit : (c.dueChannels now).map Waker.channel = before ++ w :: later) :
    (c.fireAll before).value.clock = c.clock ∧ w ≠ .connection ∧
      ∃ a, (c.fireAll before).value.alarm? w = some a ∧ c.alarm? w = some a ∧ a.due ≤ now := by
  obtain ⟨names, rest, hnames, rfl, hrest⟩ := List.map_eq_append_iff.mp hsplit
  obtain ⟨name, tail, rfl, rfl, rfl⟩ := List.map_eq_cons_iff.mp hrest
  have hnodup := nodup_dueChannels h now
  rw [hnames] at hnodup
  have hnot : Waker.channel name ∉ names.map Waker.channel := by
    intro hmem
    obtain ⟨other, hother, he⟩ := List.mem_map.mp hmem
    cases he
    exact (List.nodup_append.mp hnodup).2.2 name hother name List.mem_cons_self rfl
  obtain ⟨a, ha, hdue⟩ := (mem_dueChannels_iff h).mp
    (hnames ▸ List.mem_append_right names List.mem_cons_self)
  obtain ⟨hclock, -, halarm⟩ := fireAll_channels_rest c names
  exact ⟨hclock, nofun, a, (halarm _ hnot).trans ha, ha, hdue⟩

/-- When the turn of an alarm comes, it is still the one that was set, and due. -/
theorem turn_of_firing (hs : Sound c) {before later : List Waker}
    (hsplit : c.firing c.clock = before ++ w :: later) :
    (c.fireAll before).value.clock = c.clock ∧
      ∃ a, (c.fireAll before).value.alarm? w = some a ∧ c.alarm? w = some a ∧ a.due ≤ c.clock := by
  have hordered := ordered_fireConnectionTimer hs
  have hfirst := congrArg Logged.value (fireConnectionTimer_eq c c.clock)
  unfold firing at hsplit
  rcases firingFirst_cases c c.clock with he | he
  · rw [he] at hsplit hfirst
    rw [hfirst] at hsplit hordered
    obtain ⟨hclock, -, hturn⟩ := turn_of_channel hordered hsplit
    exact ⟨hclock, hturn⟩
  · rw [he] at hsplit hfirst
    cases before with
    | nil =>
      obtain ⟨rfl, -⟩ := List.cons.inj hsplit
      have hmem : Waker.connection ∈ c.firingFirst c.clock := he ▸ List.mem_singleton_self _
      obtain ⟨-, a, ht, hdue⟩ := mem_firingFirst.mp hmem
      exact ⟨rfl, a, ht, ht, hdue⟩
    | cons first before =>
      obtain ⟨hhead, hrest⟩ := List.cons.inj hsplit
      subst hhead
      obtain ⟨hclock, hne, a, hturn, ha, hdue⟩ := turn_of_channel hordered hrest
      have hstart : (c.fireAll (.connection :: before)).value =
          ((c.fireConnectionTimer c.clock).value.fireAll before).value := by
        rw [hfirst, ← fireAll_append]
        rfl
      rw [hstart]
      refine ⟨hclock.trans (fireConnectionTimer_rest c c.clock).1, a, hturn, ?_, hdue⟩
      cases w with
      | connection => exact absurd rfl hne
      | channel name => exact alarm_fireConnectionTimer ha

theorem clock_fireTimers (c : Client) (now : Instant) :
    (c.fireTimers now).value.clock = c.clock := by
  rw [fireTimers_eq, firing, fireAll_append, ← fireConnectionTimer_eq]
  exact (fireAll_channels_rest _ _).1.trans (fireConnectionTimer_rest c now).1

theorem nodup_firing (hs : Sound c) : (c.firing c.clock).Nodup := by
  have hfirst : (c.firingFirst c.clock).Nodup := by
    rcases firingFirst_cases c c.clock with he | he <;> simp [he]
  have hnames : ((c.fireConnectionTimer c.clock).value.dueChannels c.clock).Nodup :=
    nodup_dueChannels (ordered_fireConnectionTimer hs) c.clock
  refine List.nodup_append.mpr ⟨hfirst,
    List.Pairwise.map _ (fun _ _ hne he => hne (Waker.channel.inj he)) hnames, ?_⟩
  rintro _ hw _ hmem rfl
  obtain ⟨name, -, rfl⟩ := List.mem_map.mp hmem
  cases (mem_firingFirst.mp hw).1

theorem first_of_firing {before later : List Waker}
    (hsplit : c.firing now = before ++ .connection :: later) : before = [] := by
  have hno : Waker.connection ∉
      ((c.fireConnectionTimer now).value.dueChannels now).map Waker.channel := by simp
  unfold firing at hsplit
  rcases firingFirst_cases c now with he | he
  · rw [he] at hsplit
    exact absurd (by rw [← List.nil_append (List.map _ _), hsplit]; simp) hno
  · rw [he] at hsplit
    cases before with
    | nil => rfl
    | cons first before =>
      obtain ⟨-, hrest⟩ := List.cons.inj hsplit
      exact absurd (by rw [show List.map _ _ = _ from hrest]; simp) hno

/-- Where all alarms are still to come, none goes off. -/
theorem fireTimers_of_later (h : c.channels.Ordered)
    (hlater : ∀ w a, c.alarm? w = some a → now < a.due) : c.fireTimers now = pure c := by
  have hfirst : c.firingFirst now = [] := by
    rw [List.eq_nil_iff_forall_not_mem]
    intro w hw
    obtain ⟨-, a, ha, hdue⟩ := mem_firingFirst.mp hw
    exact Nat.not_lt.mpr hdue (hlater .connection a ha)
  have hrest : c.dueChannels now = [] := by
    rw [List.eq_nil_iff_forall_not_mem]
    intro name hname
    obtain ⟨a, ha, hdue⟩ := (mem_dueChannels_iff h).mp hname
    exact Nat.not_lt.mpr hdue (hlater (.channel name) a ha)
  have hnone : c.fireConnectionTimer now = pure c := by
    rw [fireConnectionTimer_eq, hfirst]
    rfl
  rw [fireTimers_eq, firing, hfirst, hnone, Logged.value_pure, hrest]
  rfl

/-- An alarm that is due goes off, or the connection's takes it away. -/
theorem fired_or_cleared (hs : Sound c) {a : Alarm w.Kind} (ha : c.alarm? w = some a)
    (hdue : a.due ≤ c.clock) : w ∈ c.firing c.clock ∨
      Waker.connection ∈ c.firing c.clock ∧ (c.fire .connection).value.alarm? w = none := by
  cases w with
  | connection => exact .inl (List.mem_append_left _ (mem_firingFirst.mpr ⟨rfl, a, ha, hdue⟩))
  | channel name =>
    cases hb : (c.fireConnectionTimer c.clock).value.alarm? (.channel name) with
    | some b =>
      cases (alarm_fireConnectionTimer hb).symm.trans ha
      exact .inl (List.mem_append_right _
        (List.mem_map_of_mem
          ((mem_dueChannels_iff (ordered_fireConnectionTimer hs)).mpr ⟨a, hb, hdue⟩)))
    | none =>
      rw [fireConnectionTimer_eq] at hb
      rcases firingFirst_cases c c.clock with he | he
      · rw [he] at hb
        cases ha.symm.trans hb
      · rw [he] at hb
        exact .inr ⟨List.mem_append_left _ (he ▸ List.mem_singleton_self _), hb⟩

/-- Once the connection's alarm has had its turn, what is set of it is still to come. -/
theorem later_of_fireConnectionTimer (hpos : ∀ wait ∈ c.waits .connection, 0 < wait)
    {a : Alarm Waker.connection.Kind}
    (ha : (c.fireConnectionTimer c.clock).value.alarm? .connection = some a) :
    c.clock < a.due := by
  rw [fireConnectionTimer_eq] at ha
  rcases firingFirst_cases c c.clock with he | he
  · rw [he] at ha
    by_contra hdue
    have hmem : Waker.connection ∈ c.firingFirst c.clock :=
      mem_firingFirst.mpr ⟨rfl, a, ha, Nat.not_lt.mp hdue⟩
    rw [he] at hmem
    cases hmem
  · rw [he] at ha
    rcases alarm_fire (w := .connection) ha with ⟨hne, -⟩ | ⟨-, wait, hwait, hdue⟩
    · exact absurd rfl hne
    · exact hdue ▸ Nat.lt_add_of_pos_right (hpos wait hwait)

/-- Once all that were due have gone off, the alarms that are set are still to come. -/
theorem later_of_fireTimers (hs : Sound c) (hpos : ∀ w, ∀ wait ∈ c.waits w, 0 < wait)
    {a : Alarm w.Kind} (ha : (c.fireTimers c.clock).value.alarm? w = some a) :
    c.clock < a.due := by
  obtain ⟨hclock, hoptions⟩ := fireConnectionTimer_rest c c.clock
  have hpos' : ∀ name, ∀ wait ∈ (c.fireConnectionTimer c.clock).value.waits (.channel name),
      0 < wait := by
    intro name
    rw [waits, hoptions]
    exact hpos (.channel name)
  rw [fireTimers_eq, firing, fireAll_append, ← fireConnectionTimer_eq] at ha
  rcases alarm_fireAll_channels hpos' ha with ⟨hnot, hkept⟩ | hlater
  · cases w with
    | connection => exact later_of_fireConnectionTimer (hpos .connection) hkept
    | channel name =>
      by_contra hdue
      exact hnot (List.mem_map_of_mem
        ((mem_dueChannels_iff (ordered_fireConnectionTimer hs)).mpr
          ⟨a, hkept, Nat.not_lt.mp hdue⟩))
  · rwa [hclock] at hlater

/-! ## The law -/

/-- The timers of a client keep the time. -/
structure Punctual (c : Client) : Prop where
  /-- The time that is named is the least for which an alarm is set. -/
  least : ∀ t, c.nextDeadline = some t ↔
    (∃ w a, c.alarm? w = some a ∧ a.due = t) ∧ ∀ w a, c.alarm? w = some a → t ≤ a.due
  /-- None is named only where no alarm is set. -/
  idle : c.nextDeadline = none ↔ ∀ w, c.alarm? w = none
  /-- Nothing happens before the time. -/
  early : ∀ now, (∀ t, c.nextDeadline = some t → now < t) → c.fireTimers now = pure c
  /-- Alarms go off one after another, each of them once. -/
  fires : c.step .timers = c.fireAll (c.firing c.clock)
  once : (c.firing c.clock).Nodup
  /-- None goes off before the connection's. -/
  first : ∀ before later, c.firing c.clock = before ++ .connection :: later → before = []
  /-- When its turn comes, an alarm is the one that was set, and due. -/
  due : ∀ before w later, c.firing c.clock = before ++ w :: later →
    ∃ a, (c.fireAll before).value.alarm? w = some a ∧ c.alarm? w = some a ∧ a.due ≤ c.clock
  /-- Each that is due goes off, or the connection's takes it away. -/
  all : ∀ w a, c.alarm? w = some a → a.due ≤ c.clock → w ∈ c.firing c.clock ∨
    Waker.connection ∈ c.firing c.clock ∧ (c.fire .connection).value.alarm? w = none
  /-- Where no wait is empty, none is due then: the next time is a later one, and until then the
  timers do nothing. -/
  done : (∀ w, ∀ wait ∈ c.waits w, 0 < wait) →
    (∀ w a, (c.step .timers).value.alarm? w = some a → c.clock < a.due) ∧
      (∀ t, (c.step .timers).value.nextDeadline = some t → c.clock < t) ∧
      (c.step .timers).value.step .timers = pure (c.step .timers).value

theorem punctual_of_sound (hs : Sound c) : c.Punctual where
  least _ := nextDeadline_iff hs.ordered
  idle := nextDeadline_none_iff hs.ordered
  early now hlater := by
    refine fireTimers_of_later hs.ordered fun w a ha => ?_
    cases ht : c.nextDeadline with
    | none => cases ((nextDeadline_none_iff hs.ordered).mp ht w).symm.trans ha
    | some t => exact (hlater t ht).trans_le (((nextDeadline_iff hs.ordered).mp ht).2 w a ha)
  fires := fireTimers_eq c c.clock
  once := nodup_firing hs
  first before later hsplit := first_of_firing hsplit
  due before w later hsplit := (turn_of_firing hs hsplit).2
  all w a ha hdue := fired_or_cleared hs ha hdue
  done hpos := by
    have hordered : (c.step .timers).value.channels.Ordered := (sound_step hs .timers).ordered
    have hlater : ∀ w a, (c.step .timers).value.alarm? w = some a → c.clock < a.due :=
      fun w a ha => later_of_fireTimers hs hpos ha
    refine ⟨hlater, fun t ht => ?_, ?_⟩
    · obtain ⟨⟨w, a, ha, rfl⟩, -⟩ := (nextDeadline_iff hordered).mp ht
      exact hlater w a ha
    · refine fireTimers_of_later hordered ?_
      rwa [show (c.step .timers).value.clock = c.clock from clock_fireTimers c c.clock]

/-- Wherever a run has brought the client, its timers keep the time. -/
theorem timers_fire_in_time_once_and_never_spin (options : Options) (words : List UInt64)
    (inputs : List Input) : ((fresh options words).run inputs).value.Punctual :=
  punctual_of_sound (sound_run (sound_fresh options words) inputs)

/-- A minute without a word from the server makes both the link and an attach overdue. The link is
given up first, then the attach, and the next time is a later one. -/
theorem an_overdue_client_waits_for_a_later_time :
    let c := ((fresh { key := some "app.key:secret" } []).run [.command 0 .connect,
      .link 1 (.message { action := Message.Action.connected.code }),
      .command 1 (.channel "room" .attach), .clock (Duration.ofSeconds 60)]).value
    c.firing c.clock = [.connection, .channel "room"] ∧
      ∀ t, (c.step .timers).value.nextDeadline = some t → c.clock < t := by
  intro c
  have hlaw : c.Punctual := timers_fire_in_time_once_and_never_spin _ _ _
  have hpos : ∀ w, ∀ wait ∈ c.waits w, 0 < wait := by
    rintro (_ | name)
    · decide +kernel
    · change ∀ wait ∈ c.waits (.channel ""), 0 < wait
      decide +kernel
  exact ⟨by decide +kernel, (hlaw.done hpos).2.1⟩

end PresenceClient.Client
