-- The law of the answers with members: whoever asks for the members of a channel and gets them
-- gets those that are there at that moment, each once, in the order of the bytes of their names.
import Mathlib.Tactic.SplitIfs
import PresenceClient.Bytes.Utf8
import PresenceClient.Proofs.Greetings
import PresenceClient.Proofs.SyncLaws

namespace PresenceClient

/-! ## The order of texts -/

namespace Bytes

theorem ofText_eq (s : String) : ofText s = s.toList.flatMap String.utf8EncodeChar := by
  unfold ofText
  rw [← String.utf8Encode_toList, List.utf8Encode]
  simp

theorem ofNat_lt {a b : Nat} (ha : a < 256) (hb : b < 256) :
    UInt8.ofNat a < UInt8.ofNat b ↔ a < b := by
  rw [UInt8.lt_iff_toNat_lt, UInt8.toNat_ofNat_of_lt' ha, UInt8.toNat_ofNat_of_lt' hb]

theorem ofNat_eq {a b : Nat} (ha : a < 256) (hb : b < 256) :
    UInt8.ofNat a = UInt8.ofNat b ↔ a = b := by
  rw [← UInt8.toNat_inj, UInt8.toNat_ofNat_of_lt' ha, UInt8.toNat_ofNat_of_lt' hb]

/-- The bytes of a lesser character come first, whatever follows. -/
theorem encode_lt {c d : Char} (h : c < d) (x y : List UInt8) :
    String.utf8EncodeChar c ++ x < String.utf8EncodeChar d ++ y := by
  have hlt : c.val.toNat < d.val.toNat := h
  have hd : d.val.toNat < 0x110000 := by
    rcases d.valid with h | ⟨-, h⟩ <;> omega
  unfold String.utf8EncodeChar
  dsimp only
  generalize c.val.toNat = m at hlt
  generalize d.val.toNat = n at hlt hd
  -- Of two lengths the longer one begins with the greater byte; in one length the bytes are the
  -- digits to the base 64.
  have h2 : ∀ k : Nat, k / 4096 = k / 64 / 64 := fun k => by omega
  have h3 : ∀ k : Nat, k / 262144 = k / 64 / 64 / 64 := fun k => by omega
  split_ifs <;>
    simp (disch := omega) only [List.cons_append, List.nil_append, List.cons_lt_cons_iff, ofNat_lt,
      ofNat_eq, h2, h3] <;> omega

theorem encodeAll_lt {cs ds : List Char} (h : cs < ds) :
    cs.flatMap String.utf8EncodeChar < ds.flatMap String.utf8EncodeChar := by
  induction ds generalizing cs with
  | nil => exact absurd h (List.not_lt_nil cs)
  | cons d ds ih =>
    cases cs with
    | nil =>
      cases hd : String.utf8EncodeChar d with
      | nil => exact absurd hd String.utf8EncodeChar_ne_nil
      | cons b bs =>
        rw [List.flatMap_cons, hd]
        exact List.nil_lt_cons _ _
    | cons c cs =>
      rw [List.flatMap_cons, List.flatMap_cons]
      rcases List.cons_lt_cons_iff.mp h with hlt | ⟨rfl, hlt⟩
      · exact encode_lt hlt _ _
      · exact List.append_left_lt (ih hlt)

/-- Texts are in the order of their bytes. -/
theorem ofText_lt {s t : String} (h : s < t) : ofText s < ofText t := by
  rw [ofText_eq, ofText_eq]
  exact encodeAll_lt h

end Bytes

/-- By the bytes of the client id, and for one client by those of the connection id. -/
def Presence.IsBefore (p q : Presence) : Prop :=
  Bytes.ofText p.clientId < Bytes.ofText q.clientId ∨
    (p.clientId = q.clientId ∧ Bytes.ofText p.connectionId < Bytes.ofText q.connectionId)

theorem isBefore_of_key {p q : Presence} (h : p.key < q.key) : p.IsBefore q :=
  h.imp Bytes.ofText_lt fun ⟨he, hlt⟩ => ⟨he, Bytes.ofText_lt hlt⟩

/-! ## What a query selects -/

namespace Roster

variable {r : Roster} {q : MemberQuery}

theorem admits_iff {p : Presence} : q.admits p = true ↔
    (∀ id, q.clientId = some id → p.clientId = id) ∧
      ∀ id, q.connectionId = some id → p.connectionId = id := by
  unfold MemberQuery.admits
  simp only [Bool.and_eq_true, Option.all_eq_true, beq_iff_eq]
  exact and_congr (forall₂_congr fun _ _ => eq_comm) (forall₂_congr fun _ _ => eq_comm)

/-- The members are the records that are stored under their own keys. -/
theorem mem_members (h : r.Consistent) {p : Presence} :
    p ∈ r.members.values ↔ r.members.get? p.key = some p :=
  Table.mem_values h.members_ordered fun k p hp => (h.member k p hp).1

theorem mem_select (h : r.Consistent) {p : Presence} : p ∈ r.select q ↔
    r.members.get? p.key = some p ∧ (∀ id, q.clientId = some id → p.clientId = id) ∧
      ∀ id, q.connectionId = some id → p.connectionId = id := by
  unfold select
  rw [List.mem_filter, mem_members h, admits_iff]

/-- The members are listed by their keys. -/
theorem select_ascending (h : r.Consistent) :
    (r.select q).Pairwise fun p p' => p.key < p'.key := by
  have hkeys : ∀ k p, r.members.get? k = some p → p.key = k := fun k p hp => (h.member k p hp).1
  exact (Table.values_ascending h.members_ordered hkeys).filter _

end Roster

/-! ## The law -/

/-- What a caller gets from a channel: exactly its members that the query asks for, each once and
in the order of their bytes. The channel is attached with its sync complete, or, if the query
does not wait for that, attached or suspended. -/
structure IsSnapshot (ch : Channel) (q : MemberQuery) (ps : List Presence) : Prop where
  member : ∀ p, p ∈ ps ↔ ch.roster.members.get? p.key = some p ∧
    (∀ id, q.clientId = some id → p.clientId = id) ∧
      ∀ id, q.connectionId = some id → p.connectionId = id
  nodup : (ps.map (·.key)).Nodup
  ascending : ps.Pairwise Presence.IsBefore
  synced : q.waitForSync = true → ch.state = .attached ∧ ch.roster.sync = .complete
  unsynced : q.waitForSync = false → ch.state = .attached ∨ ch.state = .suspended

theorem isSnapshot_select {ch : Channel} {q : MemberQuery} (h : ch.roster.Consistent)
    (hs : Client.Serves ch q) : IsSnapshot ch q (ch.roster.select q) := by
  have hascending := Roster.select_ascending (q := q) h
  unfold Client.Serves at hs
  refine ⟨fun p => Roster.mem_select h, List.pairwise_map.mpr ?_,
    hascending.imp isBefore_of_key, fun hwait => ?_, fun hwait => ?_⟩
  · exact hascending.imp fun hlt he => absurd (he ▸ hlt) (irrefl (r := (· < ·)) _)
  · rwa [if_pos hwait] at hs
  · rwa [if_neg (by simp [hwait])] at hs

namespace Client

variable {asked : String → PendingGet → Prop} {c : Client} {i : Input} {t : Ticket}
  {ps : List Presence}

/-- Members are only given of a channel that can give them. -/
theorem speaks_of_members {inputs : List Input} (hs : Sound c) (hk : c.Kept (Asked inputs))
    (h : Effect.resolve t (.members ps) ∈ (c.step i).log) : ∃ name,
      Speaks (Asked (inputs ++ [i])) name (c.step i).value (.resolve t (.members ps)) := by
  rcases step_posts hs hk i with ⟨-, hposts⟩ | ⟨m, news, up, visits, -, hgreeted⟩
  · rcases hposts.within _ h with hplain | hsaid
    · exact hplain.elim
    · cases hsaid with
      | news hn => exact hn.elim
      | speaks hs => exact ⟨_, hs⟩
  · rw [hgreeted.value]
    rw [hgreeted.log] at h
    rcases List.mem_append.mp h with h | h
    · rcases List.mem_append.mp h with h | h
      · exact (hgreeted.news _ h).elim
      · obtain ⟨e, -, he⟩ := List.mem_map.mp h
        cases he
    · exact (hgreeted.visits.within _ h).resolve_left id

/-- Whoever gets members has asked for those of a channel, and gets a snapshot of it. -/
theorem every_answer_is_a_snapshot (options : Options) (words : List UInt64)
    (inputs : List Input) (i : Input) (t : Ticket) (ps : List Presence)
    (h : .resolve t (.members ps) ∈ (((fresh options words).run inputs).value.step i).log) :
    ∃ name q, .command t (.channel name (.get q)) ∈ inputs ++ [i] ∧
      IsSnapshot (((fresh options words).run (inputs ++ [i])).value.channelOrNew name) q ps := by
  obtain ⟨name, hsaid⟩ := speaks_of_members (sound_run (sound_fresh options words) inputs)
    (kept_run options words inputs) h
  have hconsistent := (sifted_run options words name (inputs ++ [i])).1
  rw [run_snoc, Logged.value_bind] at hconsistent ⊢
  cases hsaid with
  | members hasked hserves => exact ⟨name, _, hasked, isSnapshot_select hconsistent hserves⟩

/-- While the sync goes on, a caller asks for all members of the room. -/
def askedRoom : List Input := unfinishedRoom ++ [.command 2 (.channel "room" (.get {}))]

/-- The last page names bob, and the caller gets ann and bob. -/
theorem the_end_of_the_sync_answers_with_ann_and_bob :
    let i := Input.link 1 (.message (roomPage "one:" "bob"))
    let ps := [roomMember "ann", roomMember "bob"]
    .resolve 2 (.members ps) ∈ (((fresh keyOptions []).run askedRoom).value.step i).log ∧
      ∃ name q, .command 2 (.channel name (.get q)) ∈ askedRoom ++ [i] ∧
        IsSnapshot (((fresh keyOptions []).run (askedRoom ++ [i])).value.channelOrNew name) q ps := by
  have hanswered : .resolve 2 (.members [roomMember "ann", roomMember "bob"]) ∈
      (((fresh keyOptions []).run askedRoom).value.step
        (.link 1 (.message (roomPage "one:" "bob")))).log := by decide +kernel
  exact ⟨hanswered, every_answer_is_a_snapshot keyOptions [] askedRoom _ 2 _ hanswered⟩

end Client

end PresenceClient
