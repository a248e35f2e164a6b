-- The law of queries. The query of a link is read back as the pairs that it was made of, whatever
-- stands in their names and values: nothing that is written there is one of the marks between
-- them, and all the rest of the address has none of the marks around the query.
import PresenceClient.Link.Address
import PresenceClient.Proofs.IdLaws
import PresenceClient.Proofs.SnapshotLaws

namespace PresenceClient

/-! ## Cutting at a mark -/

namespace Text

variable {mark : Char} {front cs : List Char}

theorem partsOf_front (h : mark ∉ front) (cs : List Char) :
    partsOf mark (front ++ mark :: cs) = front :: partsOf mark cs := by
  induction front with
  | nil => simp [partsOf]
  | cons c rest ih =>
    obtain ⟨hne, hrest⟩ := not_or.mp (mt List.mem_cons.mpr h)
    rw [List.cons_append, partsOf, if_neg (Ne.symm hne), ih hrest]

theorem cutAt_front (h : mark ∉ front) (cs : List Char) :
    cutAt mark (front ++ mark :: cs) = some (front, cs) := by
  induction front with
  | nil => simp [cutAt]
  | cons c rest ih =>
    obtain ⟨hne, hrest⟩ := not_or.mp (mt List.mem_cons.mpr h)
    rw [List.cons_append, cutAt, if_neg (Ne.symm hne), ih hrest]
    rfl

theorem cutAt_of_not_mem (h : mark ∉ cs) : cutAt mark cs = none := by
  induction cs with
  | nil => rfl
  | cons c rest ih =>
    obtain ⟨hne, hrest⟩ := not_or.mp (mt List.mem_cons.mpr h)
    rw [cutAt, if_neg (Ne.symm hne), ih hrest]
    rfl

end Text

namespace Link

/-! ## Bytes by their numbers -/

namespace Percent

open Number (upperDigit)

theorem decode_cons {c : Char} (h : c ≠ '%') (rest : List Char) :
    decode (c :: rest) = String.utf8EncodeChar c ++ decode rest := by
  rw [decode]
  rintro _ _ _ rfl
  exact absurd rfl h

theorem decode_encodeBytes (bytes : List UInt8) (rest : List Char) :
    decode (bytes.flatMap encodeByte ++ rest) = bytes ++ decode rest := by
  induction bytes with
  | nil => rfl
  | cons b bytes ih =>
    rw [List.flatMap_cons, List.append_assoc, decode_encodeByte, ih, List.cons_append]

/-- A byte is written in digits and capital letters, behind its mark. -/
theorem mem_encodeByte {b : UInt8} {c : Char} (h : c ∈ encodeByte b) :
    c = '%' ∨ ∃ n < 16, c = upperDigit n := by
  simp only [encodeByte, List.mem_cons, List.not_mem_nil, or_false] at h
  rcases h with rfl | rfl | rfl
  · exact .inl rfl
  · exact .inr ⟨_, Nat.div_lt_of_lt_mul b.toNat_lt, rfl⟩
  · exact .inr ⟨_, Nat.mod_lt _ (by decide), rfl⟩

theorem mem_encodeChar {keeps : Char → Bool} {c d : Char} (h : d ∈ encodeChar keeps c) :
    keeps d = true ∨ d = '%' ∨ ∃ n < 16, d = upperDigit n := by
  unfold encodeChar at h
  split at h
  · rename_i hc
    exact .inl (List.mem_singleton.mp h ▸ hc)
  · obtain ⟨b, -, hb⟩ := List.mem_flatMap.mp h
    exact .inr (mem_encodeByte hb)

theorem mem_encode {keeps : Char → Bool} {cs : List Char} {d : Char} (h : d ∈ encode keeps cs) :
    keeps d = true ∨ d = '%' ∨ ∃ n < 16, d = upperDigit n := by
  obtain ⟨c, -, hc⟩ := List.mem_flatMap.mp h
  exact mem_encodeChar hc

end Percent

/-! ## Forms -/

namespace Query

theorem keeps_upperDigit : ∀ n < 16, keeps (Number.upperDigit n) = true := by decide

/-- Nothing is written but what stands for itself, bytes and blanks. -/
theorem mem_encode {s : String} {c : Char} (h : c ∈ encode s) :
    keeps c = true ∨ c = '%' ∨ c = '+' := by
  obtain ⟨d, -, hd⟩ := List.mem_flatMap.mp h
  unfold encodeChar at hd
  split at hd
  · exact .inr (.inr (List.mem_singleton.mp hd))
  · rcases Percent.mem_encodeChar hd with hk | hp | ⟨n, hn, rfl⟩
    · exact .inl hk
    · exact .inr (.inl hp)
    · exact .inl (keeps_upperDigit n hn)

/-- No name and no value is written with the character. -/
def IsMark (c : Char) : Prop := keeps c = false ∧ c ≠ '%' ∧ c ≠ '+'

instance : DecidablePred IsMark := fun _ => inferInstanceAs (Decidable (_ ∧ _))

theorem IsMark.not_mem_encode {mark : Char} (h : IsMark mark) (s : String) : mark ∉ encode s := by
  obtain ⟨hkeeps, hpercent, hplus⟩ := h
  intro hm
  rcases mem_encode hm with hk | hp | hp
  · exact nomatch hk.symm.trans hkeeps
  · exact hpercent hp
  · exact hplus hp

/-- What is read of a character that is written are its bytes. -/
theorem decode_encodeChar (c : Char) (rest : List Char) :
    Percent.decode ((encodeChar c).map (fun c => if c = '+' then ' ' else c) ++ rest) =
      String.utf8EncodeChar c ++ Percent.decode rest := by
  have hplain : ∀ cs : List Char, '+' ∉ cs → cs.map (fun c => if c = '+' then ' ' else c) = cs := by
    intro cs hcs
    refine (List.map_congr_left fun c hc => ?_).trans (List.map_id cs)
    exact if_neg fun he : c = '+' => hcs (he ▸ hc)
  unfold encodeChar
  split
  · rename_i hblank
    subst hblank
    exact Percent.decode_cons (by decide) rest
  · unfold Percent.encodeChar
    split
    · rename_i hk
      have hplus : c ≠ '+' := by
        rintro rfl
        exact absurd hk (by decide)
      have hpercent : c ≠ '%' := by
        rintro rfl
        exact absurd hk (by decide)
      rw [hplain _ (by simpa using hplus.symm)]
      exact Percent.decode_cons hpercent rest
    · rw [hplain, Percent.decode_encodeBytes]
      intro hm
      obtain ⟨b, -, hb⟩ := List.mem_flatMap.mp hm
      rcases Percent.mem_encodeByte hb with he | ⟨n, hn, he⟩
      · exact absurd he (by decide)
      · exact absurd (he ▸ keeps_upperDigit n hn) (by decide)

theorem decode?_encode (s : String) : decode? (encode s) = some s := by
  have hbytes : Percent.decode ((encode s).map fun c => if c = '+' then ' ' else c) =
      Bytes.ofText s := by
    rw [Bytes.ofText_eq, encode]
    induction s.toList with
    | nil => rfl
    | cons c cs ih => rw [List.flatMap_cons, List.map_append, decode_encodeChar, ih,
        List.flatMap_cons]
  rw [decode?, hbytes, Bytes.toText?_ofText]

theorem readPair?_encodePair (p : Pair) : readPair? (encodePair p) = some p := by
  have hmark : IsMark '=' := by decide
  rw [readPair?, encodePair, Text.cutAt_front (hmark.not_mem_encode p.1)]
  simp [decode?_encode]

theorem IsMark.not_mem_encodePair {mark : Char} (h : IsMark mark) (hne : mark ≠ '=') (p : Pair) :
    mark ∉ encodePair p := by
  intro hm
  rcases List.mem_append.mp hm with hm | hm
  · exact h.not_mem_encode p.1 hm
  · rcases List.mem_cons.mp hm with hm | hm
    · exact hne hm
    · exact h.not_mem_encode p.2 hm

/-- The parts of a query are its pairs. -/
theorem partsOf_render (p : Pair) (rest : List Pair) :
    Text.partsOf '&' (render (p :: rest)) = (p :: rest).map encodePair := by
  have hmark : IsMark '&' := by decide
  induction rest generalizing p with
  | nil => exact Text.partsOf_of_not_mem (hmark.not_mem_encodePair (by decide) p)
  | cons q rest ih =>
    show Text.partsOf '&' (encodePair p ++ '&' :: render (q :: rest)) = _
    rw [Text.partsOf_front (hmark.not_mem_encodePair (by decide) p), ih]
    rfl

/-- A query that is written from pairs is read as these. -/
theorem parse?_render (pairs : List Pair) : parse? (render pairs) = some pairs := by
  cases pairs with
  | nil => rfl
  | cons p rest =>
    have hkept : ∀ part ∈ (p :: rest).map encodePair, (!part.isEmpty) = true := by
      intro part hpart
      obtain ⟨q, -, rfl⟩ := List.mem_map.mp hpart
      simp [encodePair]
    rw [parse?, partsOf_render, List.filter_eq_self.mpr hkept]
    generalize p :: rest = pairs
    induction pairs with
    | nil => rfl
    | cons q others ih => simp [readPair?_encodePair, ih]

/-- Nothing but the pairs and what stands between them is written in a query. -/
theorem IsMark.not_mem_render {mark : Char} (h : IsMark mark) (hne : mark ≠ '=')
    (hne' : mark ≠ '&') (pairs : List Pair) : mark ∉ render pairs := by
  fun_induction render pairs with
  | case1 => exact List.not_mem_nil
  | case2 p => exact h.not_mem_encodePair hne p
  | case3 p rest _ ih =>
    intro hm
    rcases List.mem_append.mp hm with hm | hm
    · exact h.not_mem_encodePair hne p hm
    · exact (List.mem_cons.mp hm).elim hne' ih

/-- The query of an address as it is written: what stands behind the first `?`, up to the `#`
that ends the whole. -/
def ofAddress? (address : List Char) : Option (List Char) :=
  let whole := match Text.cutAt '#' address with
    | some (whole, _) => whole
    | none => address
  (Text.cutAt '?' whole).map (·.2)

end Query

/-! ## Texts without the marks around a query -/

/-- The text has none of the marks that stand around a query. -/
def IsUnmarked (cs : List Char) : Prop := ∀ c ∈ cs, c ≠ '?' ∧ c ≠ '#'

instance : DecidablePred IsUnmarked := fun cs =>
  List.decidableBAll (fun c => c ≠ '?' ∧ c ≠ '#') cs

section Unmarked

variable {cs ds : List Char}

theorem isUnmarked_nil : IsUnmarked [] := nofun

theorem isUnmarked_append (hcs : IsUnmarked cs) (hds : IsUnmarked ds) : IsUnmarked (cs ++ ds) :=
  List.forall_mem_append.mpr ⟨hcs, hds⟩

theorem isUnmarked_cons {c : Char} (hc : c ≠ '?' ∧ c ≠ '#') (hcs : IsUnmarked cs) :
    IsUnmarked (c :: cs) := List.forall_mem_cons.mpr ⟨hc, hcs⟩

theorem IsUnmarked.subset (hcs : IsUnmarked cs) (h : ds ⊆ cs) : IsUnmarked ds :=
  fun c hc => hcs c (h hc)

/-- What is written by its number is written without those marks. -/
theorem isUnmarked_encode {keeps : Char → Bool} (h : keeps '?' = false ∧ keeps '#' = false)
    (cs : List Char) : IsUnmarked (Percent.encode keeps cs) := by
  have hdigit : ∀ n < 16, Number.upperDigit n ≠ '?' ∧ Number.upperDigit n ≠ '#' := by decide
  intro c hc
  rcases Percent.mem_encode hc with hk | rfl | ⟨n, hn, rfl⟩
  · constructor
    · rintro rfl
      exact nomatch hk.symm.trans h.1
    · rintro rfl
      exact nomatch hk.symm.trans h.2
  · decide
  · exact hdigit n hn

theorem exists_of_mem_toDigits {b n : Nat} {c : Char} (hb : 1 < b) (h : c ∈ Nat.toDigits b n) :
    ∃ k < b, c = Nat.digitChar k := by
  induction n using Nat.strongRecOn with
  | ind n ih =>
    rw [Nat.toDigits_eq_if hb] at h
    split at h
    · rename_i hn
      exact ⟨n, hn, List.mem_singleton.mp h⟩
    · rcases List.mem_append.mp h with h | h
      · exact ih _ (Nat.div_lt_self (by omega) hb) h
      · exact ⟨_, Nat.mod_lt n (by omega), List.mem_singleton.mp h⟩

theorem isUnmarked_toDigits {b : Nat} (hb : 1 < b ∧ b ≤ 16) (n : Nat) :
    IsUnmarked (Nat.toDigits b n) := by
  have hdigit : ∀ k < 16, Nat.digitChar k ≠ '?' ∧ Nat.digitChar k ≠ '#' := by decide
  intro c hc
  obtain ⟨k, hk, rfl⟩ := exists_of_mem_toDigits hb.1 hc
  exact hdigit k (Nat.lt_of_lt_of_le hk hb.2)

end Unmarked

/-! ## Hosts -/

namespace Host

theorem isUnmarked_ipv4 (address : Nat) : IsUnmarked (Ipv4.render address) := by
  have hpart : ∀ n, IsUnmarked (Nat.toDigits 10 (n % 256)) :=
    fun n => isUnmarked_toDigits (by decide) (n % 256)
  have hdotted : ∀ n, IsUnmarked ('.' :: Nat.toDigits 10 (n % 256)) :=
    fun n => isUnmarked_cons (by decide) (hpart n)
  exact isUnmarked_append (isUnmarked_append (isUnmarked_append (hpart _) (hdotted _)) (hdotted _))
    (hdotted _)

theorem isUnmarked_pieces (pieces : List Nat) : IsUnmarked (Ipv6.renderPieces pieces) := by
  unfold Ipv6.renderPieces
  induction pieces with
  | nil => exact isUnmarked_nil
  | cons n rest ih =>
    have hpiece : IsUnmarked (Nat.toDigits 16 n) := isUnmarked_toDigits (by decide) n
    cases rest with
    | nil => simpa using hpiece
    | cons m more =>
      rw [List.map_cons, List.map_cons, List.intercalate_cons_cons]
      exact isUnmarked_append
        (isUnmarked_append hpiece (isUnmarked_cons (by decide) isUnmarked_nil)) ih

theorem isUnmarked_ipv6 (pieces : List Nat) : IsUnmarked (Ipv6.render pieces) := by
  unfold Ipv6.render
  dsimp only
  split
  · exact isUnmarked_pieces pieces
  · exact isUnmarked_append (isUnmarked_append (isUnmarked_pieces _)
      (isUnmarked_cons (by decide) (isUnmarked_cons (by decide) isUnmarked_nil)))
      (isUnmarked_pieces _)

theorem isUnmarked_domain {bytes : List UInt8} {name : List Char}
    (h : Domain.ofBytes? bytes = some name) : IsUnmarked name := by
  simp only [Domain.ofBytes?, Option.bind_eq_bind, Option.bind_eq_some_iff,
    Option.ite_none_right_eq_some, Bool.and_eq_true] at h
  obtain ⟨_, -, _, -, ⟨-, hall⟩, hname⟩ := h
  cases hname
  intro c hc
  have hkept := List.all_eq_true.mp hall c hc
  constructor
  · rintro rfl
    exact absurd hkept (by decide)
  · rintro rfl
    exact absurd hkept (by decide)

/-- No host is written with one of those marks. -/
theorem isUnmarked_render {text : List Char} {host : Host} (h : parse? text = .ok host) :
    IsUnmarked host.render := by
  cases host with
  | ipv4 address => exact isUnmarked_ipv4 address
  | ipv6 pieces =>
    exact isUnmarked_cons (by decide)
      (isUnmarked_append (isUnmarked_ipv6 pieces) (isUnmarked_cons (by decide) isUnmarked_nil))
  | domain name =>
    unfold parse? at h
    split at h
    · cases h
    · split at h
      · split at h <;> cases h
      · unfold ofName? at h
        split at h
        · cases h
        · rename_i hname
          split at h
          · cases h
          · split at h
            · split at h <;> cases h
            · cases h
              exact isUnmarked_domain hname

end Host

/-! ## Addresses -/

namespace Address

variable {secure : Bool} {text cs : List Char} {a : Address}

theorem isUnmarked_scheme (secure : Bool) : IsUnmarked (scheme secure) := by
  cases secure <;> decide

theorem isUnmarked_userOf (text : List Char) : IsUnmarked (userOf text) := by
  have hencode : ∀ cs, IsUnmarked (Percent.encode keptInUser cs) :=
    isUnmarked_encode (by decide)
  have hend : IsUnmarked ['@'] := isUnmarked_cons (by decide) isUnmarked_nil
  unfold userOf
  dsimp only
  split
  · split
    · exact isUnmarked_nil
    · exact isUnmarked_append (hencode _) hend
  · exact isUnmarked_append
      (isUnmarked_append (hencode _) (isUnmarked_cons (by decide) (hencode _))) hend

/-- On the way through the parts of a path no part comes up that was not there, but for an empty
one. -/
theorem mem_follow {visited parts : List (List Char)} {part : List Char}
    (h : part ∈ follow visited parts) : part = [] ∨ part ∈ visited ∨ part ∈ parts := by
  have hup : ∀ {part} {visited : List (List Char)}, part ∈ goUp visited → part ∈ visited := by
    intro part visited h
    cases visited with
    | nil => exact h
    | cons last rest =>
      rw [goUp] at h
      split at h
      · exact h
      · exact List.mem_cons_of_mem _ h
  fun_induction follow visited parts with
  | case1 visited => exact .inr (.inl (List.mem_reverse.mp h))
  | case2 visited last _ =>
    rcases List.mem_cons.mp (List.mem_reverse.mp h) with h | h
    · exact .inl h
    · exact .inr (.inl (hup h))
  | case3 visited last _ _ =>
    rcases List.mem_cons.mp (List.mem_reverse.mp h) with h | h
    · exact .inl h
    · exact .inr (.inl h)
  | case4 visited last _ _ =>
    rcases List.mem_cons.mp (List.mem_reverse.mp h) with h | h
    · exact .inr (.inr (List.mem_singleton.mpr h))
    · exact .inr (.inl h)
  | case5 visited first rest _ _ ih =>
    exact (ih h).imp_right fun h => h.imp hup (List.mem_cons_of_mem first)
  | case6 visited first rest _ _ _ ih =>
    exact (ih h).imp_right fun h => h.imp_right (List.mem_cons_of_mem first)
  | case7 visited first rest _ _ _ ih =>
    rcases ih h with h | h | h
    · exact .inl h
    · rcases List.mem_cons.mp h with rfl | h
      · exact .inr (.inr List.mem_cons_self)
      · exact .inr (.inl h)
    · exact .inr (.inr (List.mem_cons_of_mem first h))

theorem isUnmarked_pathOf {part : List Char} (h : part ∈ pathOf cs) : IsUnmarked part := by
  rcases mem_follow h with rfl | h | h
  · exact isUnmarked_nil
  · cases h
  · obtain ⟨segment, -, rfl⟩ := List.mem_map.mp h
    exact isUnmarked_encode (by decide) segment

theorem isUnmarked_renderPlace (huser : IsUnmarked a.user) (hhost : IsUnmarked a.host.render)
    (hpath : ∀ part ∈ a.path, IsUnmarked part) : IsUnmarked a.renderPlace := by
  have hparts : IsUnmarked (a.path.flatMap fun part => '/' :: part) := by
    intro c hc
    obtain ⟨part, hpart, hc⟩ := List.mem_flatMap.mp hc
    exact isUnmarked_cons (by decide) (hpath part hpart) c hc
  have hscheme : IsUnmarked (scheme a.secure ++ "://".toList) :=
    isUnmarked_append (isUnmarked_scheme a.secure) (by decide)
  unfold renderPlace
  refine isUnmarked_append (isUnmarked_append (isUnmarked_append
    (isUnmarked_append hscheme huser) hhost) ?port) hparts
  case port =>
    split
    · exact isUnmarked_cons (by decide) (isUnmarked_toDigits (by decide) _)
    · exact isUnmarked_nil

/-- A text without those marks gives an address without a query of its own. -/
theorem parse?_of_isUnmarked (h : IsUnmarked text) (ha : parse? secure text = .ok a) :
    a.query = none ∧ a.fragment = none ∧ IsUnmarked a.renderPlace := by
  have hrest : IsUnmarked (((text.filter fun c => !isIgnored c).dropWhile isSlash).dropWhile
      fun c => !endsAuthority c) := h.subset fun c hc =>
    (List.mem_filter.mp (List.dropWhile_subset _ (List.dropWhile_subset _ hc))).1
  have hquery := Text.cutAt_of_not_mem fun hm => (hrest '?' hm).1 rfl
  have hfragment := Text.cutAt_of_not_mem fun hm => (hrest '#' hm).2 rfl
  -- Whatever the authority is cut into, the rest is the path.
  unfold parse? at ha
  simp only [hquery, hfragment] at ha
  generalize cutAtLast '@' _ = whom at ha
  generalize cutPort false whom.2 = named at ha
  cases hhost : Host.parse? named.1 with
  | error e => exact nomatch hhost ▸ ha
  | ok host =>
    cases hport : readPort? (usualPort secure) named.2 with
    | error e =>
      rw [hhost, hport] at ha
      cases ha
    | ok number =>
      rw [hhost, hport] at ha
      cases ha
      exact ⟨rfl, rfl, isUnmarked_renderPlace (isUnmarked_userOf whom.1)
        (Host.isUnmarked_render hhost) fun part hpart => isUnmarked_pathOf hpart⟩

/-- In an address without such marks before its query, the query is found again. -/
theorem ofAddress?_render {query : List Char} (hplace : IsUnmarked a.renderPlace)
    (hquery : a.query = some query) (hfragment : a.fragment = none) (hmark : '#' ∉ query) :
    Query.ofAddress? a.render = some query := by
  have hrender : a.render = a.renderPlace ++ '?' :: query := by
    simp only [render, hquery, hfragment, List.append_nil]
  have hwhole : '#' ∉ a.renderPlace ++ '?' :: query := by
    intro hm
    rcases List.mem_append.mp hm with hm | hm
    · exact (hplace '#' hm).2 rfl
    · exact (List.mem_cons.mp hm).elim (by decide) hmark
  simp only [Query.ofAddress?, hrender, Text.cutAt_of_not_mem hwhole,
    Text.cutAt_front fun hm => (hplace '?' hm).1 rfl, Option.map_some]

end Address

/-! ## The query of a link -/

/-- The query of a link is what was made of its parameters. -/
theorem ofAddress?_addressOf {p : LinkParams} {a : Address}
    (hhost : '?' ∉ p.host.toList ∧ '#' ∉ p.host.toList) (h : addressOf p = .ok a) :
    Query.ofAddress? a.render = some (Query.render (pairs p)) := by
  have htext : IsUnmarked (p.host.toList ++ ['/']) := by
    refine isUnmarked_append (fun c hc => ⟨?_, ?_⟩) (by decide)
    · rintro rfl
      exact hhost.1 hc
    · rintro rfl
      exact hhost.2 hc
  have hmark : Query.IsMark '#' := by decide
  unfold addressOf at h
  cases hparse : Address.parse? p.tls (p.host.toList ++ ['/']) with
  | error e => exact nomatch hparse ▸ h
  | ok parsed =>
    obtain ⟨hquery, hfragment, hplace⟩ := Address.parse?_of_isUnmarked htext hparse
    rw [hparse] at h
    cases h
    refine Address.ofAddress?_render hplace ?_ hfragment
      (hmark.not_mem_render (by decide) (by decide) _)
    simp only [Address.addPairs, hquery, Option.getD_none, Query.append, List.isEmpty_nil, if_true]

/-- The query of a link that can be opened is read back as what it was made of, in order: the
token, or else the key, if there is one; what every link says; who the client is and which session
it resumes, if that is set; and everything else that was given, by its name. No character of a
value adds, changes or removes a pair. -/
theorem the_query_of_a_link_says_just_what_was_given (p : LinkParams) {a : Address}
    (hhost : '?' ∉ p.host.toList ∧ '#' ∉ p.host.toList) (hextra : p.extra.Ordered)
    (h : addressOf p = .ok a) :
    ∃ query extra, Query.ofAddress? a.render = some query ∧
      Query.parse? query = some
        ((match p.token, p.key with
          | some token, _ => [("access_token", token)]
          | none, some key => [("key", key)]
          | none, none => []) ++
        [("format", "msgpack"), ("v", "5"), ("agent", "ably-presence-rs/0.1"),
          ("heartbeats", "true"), ("echo", if p.echo then "true" else "false")] ++
        p.clientId.toList.map (fun id => ("clientId", id)) ++
        p.resume.toList.map (fun key => ("resume", key)) ++ extra) ∧
      extra.Pairwise (fun e e' => e.1 < e'.1) ∧
      ∀ name value, (name, value) ∈ extra ↔ p.extra.get? name = some value := by
  have hif : ∀ name (value : Option String),
      pairIf name value = value.toList.map fun v => (name, v) := fun _ value => by
    cases value <;> rfl
  have hcredentials : credentials p = match p.token, p.key with
      | some token, _ => [("access_token", token)]
      | none, some key => [("key", key)]
      | none, none => [] := by
    unfold credentials
    cases p.token with
    | some token => rfl
    | none => cases p.key <;> rfl
  refine ⟨_, p.extra.entries, ofAddress?_addressOf hhost h, ?_, hextra, fun name value => ?_⟩
  · rw [Query.parse?_render, ← hcredentials, ← hif, ← hif]
    rfl
  · exact ⟨Entries.get?_of_mem hextra, Entries.mem_of_get?⟩

/-- Parameters whose names and values are full of what stands between pairs. -/
def troublesomeParams : LinkParams where
  host := "localhost:8080"
  key := some "app.key:a&b=c"
  clientId := some "ann+bob & 100% é#?"
  resume := some "%41&echo=true"
  extra := (∅ : Table String String).put "v" "6" |>.put "&=" ""

theorem troublesome_parameters_arrive_as_they_are : ∃ a query extra,
    addressOf troublesomeParams = .ok a ∧ Query.ofAddress? a.render = some query ∧
      Query.parse? query = some ([("key", "app.key:a&b=c"), ("format", "msgpack"), ("v", "5"),
        ("agent", "ably-presence-rs/0.1"), ("heartbeats", "true"), ("echo", "false"),
        ("clientId", "ann+bob & 100% é#?"), ("resume", "%41&echo=true")] ++ extra) ∧
      ("&=", "") ∈ extra := by
  have hopens : ∃ a, addressOf troublesomeParams = .ok a := by
    have hok : (addressOf troublesomeParams).isOk = true := by decide +kernel
    cases h : addressOf troublesomeParams with
    | ok a => exact ⟨a, rfl⟩
    | error e => exact nomatch h ▸ hok
  obtain ⟨a, h⟩ := hopens
  obtain ⟨query, extra, hquery, hparse, -, hextra⟩ :=
    the_query_of_a_link_says_just_what_was_given troublesomeParams (by decide)
      (Table.ordered_put (Table.ordered_put Table.ordered_empty "v" "6") "&=" "") h
  exact ⟨a, query, extra, h, hquery, hparse, (hextra "&=" "").mpr (by decide)⟩

end Link

end PresenceClient
