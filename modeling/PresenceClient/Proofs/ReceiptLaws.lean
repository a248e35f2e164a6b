-- The law of receipts. The server says of a range of serials how what was sent under them ended.
-- Just those operations are told, whatever the range is like, and the others go on waiting in
-- their order. So a receipt that comes again does nothing, and of two receipts for different
-- serials either one may come first.
import PresenceClient.Proofs.SerialLaws
import PresenceClient.Proofs.WireLaws

namespace PresenceClient

/-! ## Receipts -/

/-- What the server says of some serials: of so many from one on, but of one at least. -/
structure Receipt where
  serial : Int
  count : Int
  /-- How what was sent under them ended. -/
  reply : Reply

/-- What a message acknowledges, for better or worse. -/
def Message.receipt? (m : Message) : Option Receipt :=
  match Message.Action.ofCode? m.action with
  | some .ack => some ⟨m.msgSerial.getD 0, m.count.getD 1, .done⟩
  | some .nack => some ⟨m.msgSerial.getD 0, m.count.getD 1,
      .failed (.service (m.error.getD Cause.messageRejected.info))⟩
  | _ => none

namespace Receipt

variable (r s : Receipt) (es : List Unacked)

/-- The receipt is for a serial. -/
def Covers (n : Int) : Prop := r.serial ≤ n ∧ n < r.serial + max r.count 1

instance : DecidablePred r.Covers := fun _ => inferInstanceAs (Decidable (_ ∧ _))

/-- No serial has a receipt of both. -/
def Apart : Prop := ∀ n, r.Covers n → ¬s.Covers n

/-- The entries that the receipt is not for, in their order. -/
def left : List Unacked := es.filter fun e => !decide (r.Covers e.serial)

/-- The entries that it is for are told how they ended, in their order. -/
def told : List Effect :=
  (es.filter fun e => decide (r.Covers e.serial)).flatMap fun e => e.responder.resolve r.reply

variable {r s}

/-- The end of the range cannot be reached where it does not fit into 64 bits, so cutting it off
there leaves out no serial. -/
theorem inRange_eq {e : Unacked} (h : e.serial < 2 ^ 63 - 1) :
    Pending.inRange r.serial r.count e = decide (r.Covers e.serial) := by
  unfold Pending.inRange Pending.rangeEnd Pending.lastSerial
  refine decide_eq_decide.mpr (and_congr_right fun _ => ?_)
  rw [lt_min_iff]
  exact and_iff_left h

/-- The end of the range has 64 bits, if its beginning has. -/
theorem isSigned_rangeEnd (h : IsSigned 64 r.serial) (count : Int) :
    IsSigned 64 (Pending.rangeEnd r.serial count) := by
  obtain ⟨hlow, hhigh⟩ := h
  have hbits : (Number.twoTo (64 - 1) : Int) = 2 ^ 63 := rfl
  unfold IsSigned Pending.rangeEnd Pending.lastSerial
  rw [hbits] at hlow hhigh ⊢
  omega

theorem left_left : s.left (r.left es) = r.left (s.left es) := by
  unfold left
  rw [List.filter_filter, List.filter_filter]
  exact List.filter_congr fun _ _ => Bool.and_comm _ _

/-- What it is for is gone after the first time. -/
theorem left_again : r.left (r.left es) = r.left es := by
  unfold left
  rw [List.filter_filter]
  exact List.filter_congr fun _ _ => Bool.and_self _

theorem told_again : r.told (r.left es) = [] := by
  have hnone : (r.left es).filter (fun e => decide (r.Covers e.serial)) = [] := by
    rw [left, List.filter_filter]
    exact List.filter_eq_nil_iff.mpr fun _ _ => by simp
  rw [told, hnone]
  rfl

/-- A receipt for other serials takes away none of what this one is for. -/
theorem told_left (h : r.Apart s) : s.told (r.left es) = s.told es := by
  have hsame : (r.left es).filter (fun e => decide (s.Covers e.serial)) =
      es.filter fun e => decide (s.Covers e.serial) := by
    rw [left, List.filter_filter]
    refine List.filter_congr fun e _ => ?_
    by_cases hs : s.Covers e.serial
    · have hr : ¬r.Covers e.serial := fun hr => h e.serial hr hs
      simp [hs, hr]
    · simp [hs]
  rw [told, hsame, told]

theorem Apart.symm (h : r.Apart s) : s.Apart r := fun n hs hr => h n hr hs

end Receipt

namespace Client

/-! ## What a receipt does -/

/-- The live link brings a message. -/
def hear (c : Client) (m : Message) : Logged Client :=
  c.step (.link c.connection.generation (.message m))

/-- The client with other messages to be acknowledged. -/
def awaiting (c : Client) (es : List Unacked) : Client := { c with pending := ⟨es⟩ }

variable {c : Client} {m : Message} {r : Receipt}

theorem resetIdleTimer_again (c : Client) (es : List Unacked) :
    (c.resetIdleTimer.awaiting es).resetIdleTimer = c.resetIdleTimer.awaiting es := by
  unfold resetIdleTimer isConnected setTimer awaiting
  cases hup : c.connection.isConnected <;> simp_all [Connection.isConnected]

/-- The live link has been heard of, and the serials of the receipt are done with. -/
theorem hear_receipt (hm : m.receipt? = some r)
    (hbelow : ∀ e ∈ c.pending.entries, e.serial < 2 ^ 63 - 1) :
    c.hear m =
      { value := c.resetIdleTimer.awaiting (r.left c.pending.entries)
        log := r.told c.pending.entries } := by
  have hpicked : c.pending.picked (Pending.inRange r.serial r.count) =
      c.pending.entries.filter fun e => decide (r.Covers e.serial) :=
    List.filter_congr fun e he => Receipt.inRange_eq (hbelow e he)
  have hleft : c.pending.without (Pending.inRange r.serial r.count) =
      ⟨r.left c.pending.entries⟩ :=
    congrArg Pending.mk (List.filter_congr fun e he => by rw [Receipt.inRange_eq (hbelow e he)])
  have hsettle : c.resetIdleTimer.pending.settle (Pending.inRange r.serial r.count) r.reply =
      { value := ⟨r.left c.pending.entries⟩, log := r.told c.pending.entries } := by
    rw [c.resetIdleTimer_same.2.1, Pending.settle, hpicked, hleft]
    rfl
  rw [hear, step_of_link]
  unfold Message.receipt? at hm
  split at hm
  · rename_i ha
    cases hm
    rw [onMessage_of_ack ha]
    show (Pending.settle _ _ _ >>= _) = _
    rw [hsettle]
    exact Logged.ext rfl (List.append_nil _)
  · rename_i ha
    cases hm
    rw [onMessage_of_nack ha]
    show (Pending.settle _ _ _ >>= _) = _
    rw [hsettle]
    exact Logged.ext rfl (List.append_nil _)
  · cases hm

/-- Another receipt goes on from what the first one has left. -/
theorem hear_left {m' : Message} {s : Receipt} (hm : m'.receipt? = some s)
    (hbelow : ∀ e ∈ c.pending.entries, e.serial < 2 ^ 63 - 1) :
    (c.resetIdleTimer.awaiting (r.left c.pending.entries)).hear m' =
      { value := c.resetIdleTimer.awaiting (s.left (r.left c.pending.entries))
        log := s.told (r.left c.pending.entries) } := by
  rw [hear_receipt hm fun e he => hbelow e (List.mem_filter.mp he).1, resetIdleTimer_again]
  rfl

/-! ## The law -/

/-- A receipt ends just the operations with one of its serials, each with the reply that it
brings, and all others go on waiting, in their order; its range is reckoned with 64 bits, and
none is left out for that. When it comes again it does nothing. A receipt for other serials may
come before it or after it: each operation is told the same, and the same are left. -/
theorem a_receipt_ends_just_its_operations (c : Client) (m : Message) (r : Receipt)
    (hm : m.receipt? = some r) (hbelow : ∀ e ∈ c.pending.entries, e.serial < 2 ^ 63 - 1) :
    let heard := c.hear m
    (heard.value = c.resetIdleTimer.awaiting (r.left c.pending.entries) ∧
      heard.log = r.told c.pending.entries) ∧
    (IsSigned 64 r.serial → IsSigned 64 (Pending.rangeEnd r.serial r.count)) ∧
    heard.value.hear m = pure heard.value ∧
    ∀ m' s, m'.receipt? = some s → r.Apart s →
      let both := heard >>= fun c => c.hear m'
      let swapped := c.hear m' >>= fun c => c.hear m
      both.value = swapped.value ∧
        both.log = r.told c.pending.entries ++ s.told c.pending.entries ∧
        swapped.log = s.told c.pending.entries ++ r.told c.pending.entries := by
  intro heard
  have hheard : heard = _ := hear_receipt hm hbelow
  refine ⟨by rw [hheard]; exact ⟨rfl, rfl⟩, fun h => Receipt.isSigned_rangeEnd h r.count, ?again,
    fun m' s hm' hapart => ?order⟩
  case again =>
    rw [hheard, hear_left hm hbelow, Receipt.left_again, Receipt.told_again]
    rfl
  case order =>
    intro both swapped
    have hboth : both = _ := congrArg (· >>= fun c => c.hear m') hheard
    have hswapped : swapped = _ :=
      congrArg (· >>= fun c => c.hear m) (hear_receipt hm' hbelow)
    simp only [hboth, hswapped, Logged.value_bind, Logged.log_bind, hear_left hm hbelow,
      hear_left hm' hbelow, Receipt.left_left (r := r), Receipt.told_left _ hapart,
      Receipt.told_left _ hapart.symm, and_self]

/-- Four members enter the room. -/
def fourEnter : List Input :=
  greeting ++ [.command 1 (.channel "room" .attach), .link 1 (.message (roomAttached 0)),
    roomEnter 2 "ann", roomEnter 3 "bob", roomEnter 4 "cy", roomEnter 5 "dan"]

/-- The two in the middle are acknowledged, and then one before the first and the first. -/
theorem the_middle_two_are_told_first :
    let c := ((fresh keyOptions []).run fourEnter).value
    let middle : Message :=
      { action := Message.Action.ack.code, msgSerial := some 1, count := some 2 }
    let first : Message :=
      { action := Message.Action.nack.code, msgSerial := some (-1), count := some 2 }
    let rejected : Reply := .failed (.service Cause.messageRejected.info)
    (∀ e ∈ c.pending.entries, e.serial < 2 ^ 63 - 1) ∧
      middle.receipt? = some ⟨1, 2, .done⟩ ∧ first.receipt? = some ⟨-1, 2, rejected⟩ ∧
      (c.hear middle).log = [.resolve 3 .done, .resolve 4 .done] ∧
      (c.hear middle).value.pending.entries.map (·.serial) = [0, 3] ∧
      (c.hear middle).value.hear middle = pure (c.hear middle).value ∧
      (c.hear middle >>= fun c => c.hear first).value =
        (c.hear first >>= fun c => c.hear middle).value ∧
      (c.hear middle >>= fun c => c.hear first).log =
        [.resolve 3 .done, .resolve 4 .done, .resolve 2 rejected] := by
  intro c middle first rejected
  have hbelow : ∀ e ∈ c.pending.entries, e.serial < 2 ^ 63 - 1 := by decide +kernel
  obtain ⟨⟨hvalue, hlog⟩, -, hagain, horder⟩ :=
    a_receipt_ends_just_its_operations c middle ⟨1, 2, .done⟩ rfl hbelow
  have hapart : Receipt.Apart ⟨1, 2, .done⟩ ⟨-1, 2, rejected⟩ := fun n hr hs => by
    unfold Receipt.Covers at hr hs
    dsimp only at hr hs
    omega
  obtain ⟨hsame, hboth, -⟩ := horder first ⟨-1, 2, rejected⟩ rfl hapart
  refine ⟨hbelow, rfl, rfl, hlog.trans (by decide +kernel), ?_, hagain, hsame,
    hboth.trans (by decide +kernel)⟩
  rw [hvalue]
  decide +kernel

end Client

end PresenceClient
