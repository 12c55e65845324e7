import CameraStreamer.SecureLink
/-!
# The tunnel is transparent

Each step of a session keeps the invariant of `SecureLink`. From it: what the
programs on the bridge's ports write and get is what the device is sent and
sends, and a program that has the control port to itself might as well be
talking to the dispatcher.
-/

namespace CameraStreamer.Secure.SecureLink

open Incremental Runs

/-! ## The clients -/

section Clients
variable {k j : Nat} {sent taken : List (Option Nat × WireMessage)} {who : Option Nat} {m : WireMessage} {c : Client}

theorem part_snoc (k : Nat) (l : List (Option Nat × WireMessage)) (who : Option Nat) (m : WireMessage) :
    part k (l ++ [(who, m)]) = part k l ++ if who = some k then m.payload else [] := by
  unfold part
  rw [List.filter_append, List.map_append, List.flatten_append]
  by_cases h : who = some k
  · rw [List.filter_cons_of_pos (by simpa using h), if_pos h]
    simp
  · rw [List.filter_cons_of_neg (by simpa using h), if_neg h]
    rfl

/-- The records of client `k`, where they are those of a channel. -/
theorem part_eq_on {channel : Channel} {l : List (Option Nat × WireMessage)}
    (h : ∀ x ∈ l, x.1 = some k ↔ x.2.channel = channel) : part k l = (on channel (l.map (·.2))).flatten := by
  rw [part, on, List.filter_map, List.map_map]
  congr 2
  exact List.filter_congr fun x hx => by simpa using h x hx

theorem part_eq_nil {l : List (Option Nat × WireMessage)} (hl : ∀ x ∈ l, x.1 ≠ some k) : part k l = [] := by
  rw [part, List.filter_eq_nil_iff.2 fun x hx => by simpa using hl x hx]
  rfl

/-- A client nothing came from or went to. -/
theorem Client.Sound.fresh (h : ∀ x ∈ sent ++ taken, x.1 ≠ some k) (i : Fin 2) :
    Client.Sound k sent taken ⟨i, [], [], [], false⟩ := by
  have hsent := part_eq_nil fun x hx => h x (List.mem_append_left taken hx)
  have htaken := part_eq_nil fun x hx => h x (List.mem_append_right sent hx)
  exact ⟨hsent.symm, List.nil_prefix, List.nil_prefix, fun _ => htaken.symm, fun x hx he => absurd he (h x hx)⟩

/-- A record of another client, or of none. -/
theorem Client.Sound.other_sent (h : c.Sound k sent taken) (hwho : who ≠ some k) :
    c.Sound k (sent ++ [(who, m)]) taken where
  received := by rw [part_snoc, if_neg hwho, List.append_nil]; exact h.received
  of_written := h.of_written
  got := h.got
  whole := h.whole
  channel x hx he := by
    rcases List.mem_append.1 hx with hx | hx
    · rcases List.mem_append.1 hx with hx | hx
      · exact h.channel x (List.mem_append_left _ hx) he
      · rw [List.mem_singleton.1 hx] at he
        exact absurd he hwho
    · exact h.channel x (List.mem_append_right _ hx) he

theorem Client.Sound.other_taken (h : c.Sound k sent taken) (hwho : who ≠ some k) :
    c.Sound k sent (taken ++ [(who, m)]) where
  received := h.received
  of_written := h.of_written
  got := by rw [part_snoc, if_neg hwho, List.append_nil]; exact h.got
  whole := by rw [part_snoc, if_neg hwho, List.append_nil]; exact h.whole
  channel x hx he := by
    rw [← List.append_assoc] at hx
    rcases List.mem_append.1 hx with hx | hx
    · exact h.channel x hx he
    · rw [List.mem_singleton.1 hx] at he
      exact absurd he hwho

/-- A record of its own is sealed. -/
theorem Client.Sound.sends (h : c.Sound k sent taken) (hm : m.channel = kChannels c.index)
    (hwritten : c.received ++ m.payload <+: c.written) :
    Client.Sound k (sent ++ [(some k, m)]) taken { c with received := c.received ++ m.payload } where
  received := by rw [part_snoc, if_pos rfl, ← h.received]
  of_written := hwritten
  got := h.got
  whole := h.whole
  channel x hx he := by
    rcases List.mem_append.1 hx with hx | hx
    · rcases List.mem_append.1 hx with hx | hx
      · exact h.channel x (List.mem_append_left _ hx) he
      · rw [List.mem_singleton.1 hx]
        exact hm
    · exact h.channel x (List.mem_append_right _ hx) he

/-- A record is written to it, as far as it takes it. -/
theorem Client.Sound.gets (h : c.Sound k sent taken) (hm : m.channel = kChannels c.index) (hc : c.broken = false)
    {bytes : Bytes} {broken : Bool} (hbytes : bytes <+: m.payload) (hwhole : broken = false → bytes = m.payload) :
    Client.Sound k sent (taken ++ [(some k, m)]) { c with got := c.got ++ bytes, broken } where
  received := h.received
  of_written := h.of_written
  got := by
    rw [part_snoc, if_pos rfl, h.whole hc]
    exact (List.prefix_append_right_inj _).2 hbytes
  whole hb := by
    rw [part_snoc, if_pos rfl, h.whole hc, hwhole hb]
  channel x hx he := by
    rw [← List.append_assoc] at hx
    rcases List.mem_append.1 hx with hx | hx
    · exact h.channel x hx he
    · rw [List.mem_singleton.1 hx]
      exact hm

theorem channelIndex_eq {channel : Channel} {i : Fin 2} (h : channelIndex channel = some i) : channel = kChannels i := by
  unfold channelIndex at h
  split at h
  · cases h
    assumption
  · split at h
    · cases h
      assumption
    · cases h

end Clients

namespace Link

variable {s : Link} {i : Fin 2} {k : Nat}

theorem on_client_getElem (s : Link) (k : Nat) (f : Client → Client) (j : Nat) :
    (s.on_client k f).conns[j]? = (s.conns[j]?).map fun c => if k = j then f c else c :=
  List.getElem?_modify f k s.conns j

theorem Connected.closeClient (hI : s.Connected) (i : Fin 2) : (s.closeClient i).Connected where
  clients j k hk := by
    by_cases hj : j = i
    · rw [hj] at hk
      simp [Link.closeClient] at hk
    · exact hI.clients j k (by simpa [Link.closeClient, hj] using hk)
  known := hI.known
  sound := hI.sound

theorem Connected.connect (hI : s.Connected) (i : Fin 2) :
    Connected { s with
      conns := s.conns ++ [⟨i, [], [], [], false⟩]
      clients := Function.update s.clients i (some s.conns.length) } where
  clients j k hk := by
    by_cases hj : j = i
    · subst hj
      dsimp only at hk
      rw [Function.update_self, Option.some.injEq] at hk
      subst hk
      exact ⟨_, List.getElem?_concat_length, rfl, rfl⟩
    · dsimp only at hk
      rw [Function.update_of_ne hj] at hk
      obtain ⟨c, hc, hrest⟩ := hI.clients j k hk
      refine ⟨c, ?_, hrest⟩
      rw [List.getElem?_append_left (List.getElem?_eq_some_iff.1 hc).1]
      exact hc
  known x hx k hk := by
    have := hI.known x hx k hk
    rw [List.length_append]
    omega
  sound k c hc := by
    dsimp only at hc
    rcases Nat.lt_or_ge k s.conns.length with hlt | hge
    · rw [List.getElem?_append_left hlt] at hc
      exact hI.sound k c hc
    · rw [List.getElem?_append_right hge] at hc
      obtain ⟨hlen, hc⟩ := List.getElem?_eq_some_iff.1 hc
      rw [List.length_singleton] at hlen
      have hk : k = s.conns.length := by omega
      subst hk
      simp only [Nat.sub_self, List.getElem_cons_zero] at hc
      rw [← hc]
      exact .fresh (fun x hx he => Nat.lt_irrefl _ (hI.known x hx _ he)) i

/-- A client changes and stays what it is: so do the others, with the records it makes. -/
theorem Connected.on_client (hI : s.Connected) {f : Client → Client} {sent taken : List (Option Nat × WireMessage)}
    (hknown : ∀ x ∈ sent ++ taken, ∀ j, x.1 = some j → j < s.conns.length)
    (hindex : ∀ c, (f c).index = c.index)
    (hbroken : ∀ c, s.conns[k]? = some c → (f c).broken = c.broken ∨ ∀ i, s.clients i ≠ some k)
    (hself : ∀ c, s.conns[k]? = some c → (f c).Sound k sent taken)
    (hothers : ∀ j c, j ≠ k → s.conns[j]? = some c → c.Sound j sent taken) :
    Connected { s.on_client k f with sent, taken } where
  clients i j hj := by
    obtain ⟨c, hc, hi, hb⟩ := hI.clients i j hj
    refine ⟨if k = j then f c else c, ?_, ?_, ?_⟩
    · dsimp only
      rw [on_client_getElem, hc]
      rfl
    · split
      · rw [hindex, hi]
      · exact hi
    · split
      · rename_i hkj
        subst hkj
        rcases hbroken c hc with he | hno
        · rw [he, hb]
        · exact absurd hj (hno i)
      · exact hb
  known x hx j hj := by
    dsimp only [Link.on_client]
    rw [List.length_modify]
    exact hknown x hx j hj
  sound j c hc := by
    dsimp only at hc
    rw [on_client_getElem] at hc
    obtain ⟨c', hc', rfl⟩ := Option.map_eq_some_iff.1 hc
    by_cases hj : k = j
    · subst hj
      rw [if_pos rfl]
      exact hself c' hc'
    · rw [if_neg hj]
      exact hothers j c' (Ne.symm hj) hc'

theorem Connected.known_snoc (hI : s.Connected) (who : Option Nat) (m : WireMessage)
    (hwho : ∀ k, who = some k → k < s.conns.length) {l : List (Option Nat × WireMessage)}
    (hl : ∀ x ∈ l, x ∈ s.sent ++ s.taken ∨ x = (who, m)) : ∀ x ∈ l, ∀ j, x.1 = some j → j < s.conns.length := by
  intro x hx j hj
  rcases hl x hx with hx | rfl
  · exact hI.known x hx j hj
  · exact hwho j hj

/-- A message that goes to no client. -/
theorem Connected.take_none (hI : s.Connected) (m : WireMessage) :
    Connected { s with taken := s.taken ++ [(none, m)] } where
  clients := hI.clients
  known := by
    refine hI.known_snoc none m (fun k hk => by cases hk) fun x hx => ?_
    simp only [List.mem_append, List.mem_singleton] at hx ⊢
    tauto
  sound k c hc := (hI.sound k c hc).other_taken (by simp)

theorem Connected.take (hI : s.Connected) (accepts : Nat) (m : WireMessage) : (s.take accepts m).Connected := by
  unfold Link.take
  split
  · exact hI.take_none m
  rename_i i hi
  split
  · exact hI.take_none m
  rename_i k hk
  obtain ⟨c, hc, hindex, hwhole⟩ := hI.clients i k hk
  have hm : m.channel = kChannels c.index := hindex ▸ channelIndex_eq hi
  have hlen : k < s.conns.length := (List.getElem?_eq_some_iff.1 hc).1
  have hknown : ∀ x ∈ s.sent ++ (s.taken ++ [(some k, m)]), ∀ j, x.1 = some j → j < s.conns.length := by
    refine hI.known_snoc (some k) m (fun j hj => by cases hj; exact hlen) fun x hx => ?_
    simp only [List.mem_append, List.mem_singleton] at hx ⊢
    tauto
  have hself : ∀ (bytes : Bytes) (broken : Bool), bytes <+: m.payload → (broken = false → bytes = m.payload) →
      ∀ c', s.conns[k]? = some c' → Client.Sound k s.sent (s.taken ++ [(some k, m)])
        { c' with got := c'.got ++ bytes, broken } := by
    intro bytes broken hbytes hall c' hc'
    obtain rfl : c = c' := Option.some.inj (hc.symm.trans hc')
    exact (hI.sound k c hc).gets hm hwhole hbytes hall
  have hothers : ∀ j c', j ≠ k → s.conns[j]? = some c' → Client.Sound j s.sent (s.taken ++ [(some k, m)]) c' :=
    fun j c' hj hc' => (hI.sound j c' hc').other_taken (by simpa using Ne.symm hj)
  dsimp only
  split
  · refine Connected.on_client (k := k) hI hknown (fun _ => rfl) (fun _ _ => .inl rfl) (fun c' hc' => ?_) hothers
    obtain rfl : c = c' := Option.some.inj (hc.symm.trans hc')
    have hgets := hself m.payload false (List.prefix_refl _) (fun _ => rfl) c hc
    rw [← hwhole] at hgets
    exact hgets
  · -- the client is closed where a write to it fails
    refine Connected.on_client (k := k) (hI.closeClient i) hknown (fun _ => rfl) (fun c' hc' => .inr fun j hj => ?_)
      (hself _ true (List.take_prefix _ _) fun hb => by cases hb) hothers
    by_cases hji : j = i
    · rw [hji] at hj
      simp [Link.closeClient] at hj
    · obtain ⟨c'', hc'', hindex', -⟩ := hI.clients j k (by simpa [Link.closeClient, hji] using hj)
      obtain rfl : c = c'' := Option.some.inj (hc.symm.trans hc'')
      exact hji (hindex'.symm.trans hindex)

/-- A record of client `k` is sealed. -/
theorem Connected.sendRecord (hI : s.Connected) (A : Aead) (cut : Option Nat) (hk : s.clients i = some k) {c : Client}
    (hc : s.conns[k]? = some c) {n : Nat} (hn : n ≤ kMaxPayload - 2)
    (hlen : ((c.written.drop c.received.length).take n).length = n) :
    Connected ((s.on_client k fun c' =>
      { c' with received := c'.received ++ (c.written.drop c.received.length).take n }).sendRecord A i k
        ((c.written.drop c.received.length).take n) cut) := by
  obtain ⟨-, he⟩ := sendRecord_eq A (s.on_client k fun c' =>
    { c' with received := c'.received ++ (c.written.drop c.received.length).take n }) i k cut (by rw [hlen]; exact hn)
  rw [he]
  obtain ⟨c', hc', hindex, -⟩ := hI.clients i k hk
  obtain rfl : c = c' := Option.some.inj (hc.symm.trans hc')
  have hlt : k < s.conns.length := (List.getElem?_eq_some_iff.1 hc).1
  have hsound := hI.sound k c hc
  let m : WireMessage := ⟨kChannels i, 0, (c.written.drop c.received.length).take n⟩
  have hconnected : Connected { s.on_client k fun c' =>
      { c' with received := c'.received ++ (c.written.drop c.received.length).take n } with
        sent := s.sent ++ [(some k, m)], taken := s.taken } := by
    refine Connected.on_client (k := k) hI ?_ (fun _ => rfl) (fun _ _ => .inl rfl) (fun c' hc' => ?_)
      fun j c' hj hc' => (hI.sound j c' hc').other_sent (by simpa using Ne.symm hj)
    · refine hI.known_snoc (some k) m (fun j hj => by cases hj; exact hlt) fun x hx => ?_
      simp only [List.mem_append, List.mem_singleton] at hx ⊢
      tauto
    · obtain rfl : c = c' := Option.some.inj (hc.symm.trans hc')
      refine hsound.sends (m := m) (hindex ▸ rfl) ?_
      -- what was received is the beginning of what was written, and this comes next
      obtain ⟨rest, hrest⟩ := hsound.of_written
      have hdrop : c.written.drop c.received.length = rest := by rw [← hrest, List.drop_left]
      rw [← hrest] at hdrop ⊢
      rw [show m.payload = rest.take n by simp only [m, ← hrest, List.drop_left]]
      exact (List.prefix_append_right_inj _).2 (List.take_prefix _ _)
  exact ⟨hconnected.clients, hconnected.known, hconnected.sound⟩

end Link

/-! ## The control port -/

namespace Link

variable {s : Link} {k : Nat}

theorem kChannels_control {i : Fin 2} : kChannels i = .Control ↔ i = kControl := by
  unfold kChannels kControl
  rw [Fin.ext_iff]
  split <;> simp_all

theorem Attached.closeClient (hI : s.Attached) (i : Fin 2) : (s.closeClient i).Attached where
  origin := hI.origin
  first := hI.first
  sole k hk hsole := by
    by_cases hi : kControl = i
    · rw [hi] at hk
      simp [Link.closeClient] at hk
    · exact hI.sole k (by simpa [Link.closeClient, hi] using hk) hsole

/-- Who was there before is still there, and alone if it is alone now. -/
theorem Sole.of_append {conns : List Client} {c : Client} (h : Sole (conns ++ [c]) k) : Sole conns k := by
  intro j hj
  have hlt : j < conns.length := by
    by_contra hge
    rw [List.getElem?_eq_none (Nat.le_of_not_lt hge)] at hj
    cases hj
  refine h j ?_
  rw [List.getElem?_append_left hlt]
  exact hj

/-- Where the port had no client before, nothing has come on the channel. -/
theorem Attached.connect (hI : s.Attached) (i : Fin 2) (hknown : ∀ x ∈ s.taken, ∀ k, x.1 = some k → k < s.conns.length)
    (hnone : (∀ j : Nat, (s.conns[j]?).map Client.index ≠ some kControl) → ∀ x ∈ s.taken, x.2.channel ≠ .Control) :
    Attached { s with
      conns := s.conns ++ [⟨i, [], [], [], false⟩]
      clients := Function.update s.clients i (some s.conns.length) } where
  origin := hI.origin
  sole k hk hsole x hx hc := by
    dsimp only at hk
    by_cases hi : kControl = i
    · subst hi
      rw [Function.update_self, Option.some.injEq] at hk
      subst hk
      refine absurd hc (hnone (fun j hj => ?_) x hx)
      -- one that was there before is not the new one
      have hlast := hsole.of_append j hj
      rw [hlast, List.getElem?_eq_none (Nat.le_refl _)] at hj
      cases hj
    · rw [Function.update_of_ne hi] at hk
      exact hI.sole k hk hsole.of_append x hx hc
  first k hk hsole := by
    by_cases hlt : k < s.conns.length
    · dsimp only at hk
      rw [List.getElem?_append_left hlt] at hk
      exact hI.first k hk hsole.of_append
    · rw [part_eq_nil fun x hx he => hlt (hknown x hx k he)]
      exact List.nil_prefix

theorem index_modify {conns : List Client} {f : Client → Client} {j : Nat} (hindex : ∀ c, (f c).index = c.index)
    (l : Nat) : ((conns.modify j f)[l]?).map Client.index = (conns[l]?).map Client.index := by
  rw [List.getElem?_modify, Option.map_eq_map, Option.map_map]
  congr 1
  funext c
  rw [Function.comp_apply]
  split
  · exact hindex c
  · rfl

theorem Sole.of_modify {conns : List Client} {f : Client → Client} {j : Nat} (hindex : ∀ c, (f c).index = c.index)
    (h : Sole (conns.modify j f) k) : Sole conns k := fun l hl => h l ((index_modify hindex l).trans hl)

theorem Attached.on_client (hI : s.Attached) {f : Client → Client} {sent : List (Option Nat × WireMessage)}
    (hindex : ∀ c, (f c).index = c.index) (hsent : ∀ x ∈ sent, ∃ k, x.1 = some k) :
    Attached { s.on_client k f with sent } where
  origin := hsent
  sole l hl hsole := hI.sole l hl (Sole.of_modify hindex hsole)
  first l hl hsole := hI.first l ((index_modify hindex l).symm.trans hl) (Sole.of_modify hindex hsole)

/-- What is taken for the only client comes first, and what is taken later for none. -/
theorem Attached.first_snoc (hI : s.Attached) (hC : s.Connected) (who : Option Nat) (m : WireMessage)
    (hwho : ∀ k, who = some k → ∃ i, channelIndex m.channel = some i ∧ s.clients i = some k) (k : Nat)
    (hk : (s.conns[k]?).map Client.index = some kControl) (hsole : Sole s.conns k) :
    part k (s.taken ++ [(who, m)]) <+: (on .Control ((s.taken ++ [(who, m)]).map (·.2))).flatten := by
  rw [part_snoc, List.map_append, List.map_singleton, on_append, List.flatten_append]
  by_cases hw : who = some k
  · obtain ⟨i, hi, hclient⟩ := hwho k hw
    obtain ⟨c, hc, hindex, -⟩ := hC.clients i k hclient
    rw [hc, Option.map_some, hindex, Option.some.injEq] at hk
    subst hk
    have hchannel : ∀ x ∈ s.taken, x.1 = some k → x.2.channel = .Control := fun x hx he => by
      rw [(hC.sound k c hc).channel x (List.mem_append_right _ hx) he, hindex]
      rfl
    have hsame : part k s.taken = (on .Control (s.taken.map (·.2))).flatten :=
      part_eq_on fun x hx => ⟨hchannel x hx, hI.sole k hclient hsole x hx⟩
    have hm : m.channel = .Control := channelIndex_eq hi
    rw [if_pos hw]
    exact ⟨[], by rw [List.append_nil, hsame, on_same hm, List.flatten_singleton]⟩
  · rw [if_neg hw, List.append_nil]
    exact (hI.first k hk hsole).trans (List.prefix_append _ _)

theorem Attached.take (hI : s.Attached) (hC : s.Connected) (accepts : Nat) (m : WireMessage) :
    (s.take accepts m).Attached := by
  have htaken : ∀ {who : Option Nat}, (m.channel = .Control → who = s.clients kControl) → ∀ k,
      s.clients kControl = some k → Sole s.conns k → ∀ x ∈ s.taken ++ [(who, m)], x.2.channel = .Control →
        x.1 = some k := by
    intro who hwho k hk hsole x hx hc
    rcases List.mem_append.1 hx with hx | hx
    · exact hI.sole k hk hsole x hx hc
    · obtain rfl := List.mem_singleton.1 hx
      exact (hwho hc).trans hk
  unfold Link.take
  split
  · rename_i hnone
    refine ⟨hI.origin, htaken fun hc => ?_, hI.first_snoc hC none m fun k hk => by cases hk⟩
    rw [channelIndex, if_pos hc] at hnone
    cases hnone
  rename_i i hi
  have hcontrol : m.channel = .Control → i = kControl := fun hc =>
    kChannels_control.1 ((channelIndex_eq hi).symm.trans hc)
  split
  · rename_i hnone
    exact ⟨hI.origin, htaken fun hc => by rw [← hcontrol hc, hnone], hI.first_snoc hC none m fun k hk => by cases hk⟩
  rename_i k hk
  have hwho : m.channel = .Control → some k = s.clients kControl := fun hc => by rw [← hcontrol hc, hk]
  have hfirst : ∀ f : Client → Client, (∀ c, (f c).index = c.index) → ∀ l,
      ((s.conns.modify k f)[l]?).map Client.index = some kControl → Sole (s.conns.modify k f) l →
        part l (s.taken ++ [(some k, m)]) <+: (on .Control ((s.taken ++ [(some k, m)]).map (·.2))).flatten :=
    fun f hf l hl hsole => hI.first_snoc hC (some k) m (fun l hl => ⟨i, hi, by rw [hk, hl]⟩) l
      ((index_modify hf l).symm.trans hl) (hsole.of_modify hf)
  dsimp only
  split
  · refine ⟨hI.origin, fun l hl hsole => htaken hwho l hl (Sole.of_modify ?_ hsole), hfirst _ ?_⟩
    · exact fun _ => rfl
    · exact fun _ => rfl
  · refine Attached.closeClient (s := { s with
      conns := s.conns.modify k fun c => { c with got := c.got ++ m.payload.take accepts, broken := true }
      taken := s.taken ++ [(some k, m)] }) ⟨hI.origin, fun l hl hsole => ?_, hfirst _ ?_⟩ i
    · refine htaken hwho l hl (Sole.of_modify ?_ hsole)
      exact fun _ => rfl
    · exact fun _ => rfl

end Link

/-! ## Every step -/

namespace Link

variable {A : Aead} {keys : SessionKeys} {answer : Answer} {dispatch_ : Nat → Bytes → Bytes} {open_update_ : Bool}
  {s s' : Link}

theorem delivered_snoc (s : Link) (m : WireMessage) :
    Secure.delivered 0 (s.served ++ [Served.delivered (some 0) m]) = s.delivered ++ [m] := by
  rw [Secure.delivered_append]
  rfl

theorem Outward.sendRecord (hI : s.Outward A keys) (hended : s.ended = false) (i : Fin 2) (k : Nat) {payload : Bytes}
    (cut : Option Nat) (h : payload.length ≤ kMaxPayload - 2) : (s.sendRecord A i k payload cut).Outward A keys := by
  obtain ⟨hf, he⟩ := sendRecord_eq A s i k cut h
  rw [he]
  have hframes : (framed_all A (.new keys.host_key keys.host_iv)
      ((s.sent ++ [(some k, (⟨kChannels i, 0, payload⟩ : WireMessage))]).map (·.2))).flatten =
        s.out ++ framed A s.encrypt ⟨kChannels i, 0, payload⟩ := by
    rw [List.map_append, List.map_cons, List.map_nil, framed_all_append, List.flatten_append, List.flatten_singleton,
      List.length_map, ← hI.encrypt, ← hI.whole hended]
  have hcarried : cut.elim (framed A s.encrypt ⟨kChannels i, 0, payload⟩)
      (framed A s.encrypt ⟨kChannels i, 0, payload⟩).take <+: framed A s.encrypt ⟨kChannels i, 0, payload⟩ := by
    cases cut with
    | none => exact List.prefix_refl _
    | some moved => exact List.take_prefix _ _
  obtain ⟨r, hdemux, hreads⟩ := hI.reads
  refine ⟨?_, ?_, ?_, ?_, ⟨r, hdemux, hreads.grow ?_ (List.prefix_append _ _)⟩, hI.served⟩
  · exact List.forall_mem_append.2 ⟨hI.fits, List.forall_mem_singleton.2 hf⟩
  · rw [List.length_append, List.length_singleton, ← SecureRecord.skip_next, ← hI.encrypt]
  · rw [hframes]
    exact (List.prefix_append_right_inj _).2 hcarried
  · intro hgoes
    rw [hframes]
    cases cut with
    | none => rfl
    | some moved => simp at hgoes
  · rw [List.map_append]
    exact List.prefix_append _ _

variable (answer dispatch_ open_update_) in
theorem Outward.turn (hA : A.Opens) (hI : s.Outward A keys) (attempt : Nat → Attempt) :
    (s.turn A answer dispatch_ open_update_ attempt).Outward A keys := by
  obtain ⟨place, he, -⟩ | ⟨r, m, rest, hf, hdemux, hb, hm, he⟩ := turn_cases answer dispatch_ open_update_ hA hI attempt
  · rw [he]
    exact { hI with }
  · rw [he]
    obtain ⟨r', hdemux', hreads⟩ := hI.reads
    have hr : r' = r := by
      rw [hdemux] at hdemux'
      cases hdemux'
      rfl
    subst hr
    rw [hb] at hreads
    have hnext : Outward A keys { s with
        demux := ⟨some r'.next_nonce.2, some 0, 1⟩
        stream := rest
        served := s.served ++ [Served.delivered (some 0) m] } := by
      refine ⟨hI.fits, hI.encrypt, hI.carried, hI.whole, ⟨_, rfl, ?_⟩, ?_⟩
      · rw [Link.delivered, delivered_snoc]
        exact hreads.open hm
      · exact List.forall_mem_append.2 ⟨hI.served, List.forall_mem_singleton.2 ⟨m, rfl⟩⟩
    obtain ⟨-, hd⟩ | ⟨-, update_, hd⟩ := deliver_eq dispatch_ open_update_ attempt m
      { s with
        demux := ⟨some r'.next_nonce.2, some 0, 1⟩
        stream := rest
        served := s.served ++ [Served.delivered (some 0) m] }
    · rw [hd]
      exact { hnext with }
    · rw [hd]
      exact { hnext with }

theorem Inward.drainInbound (hA : A.Opens) (hI : s.Inward A keys) (accepts : Nat) :
    (s.drainInbound A accepts).Inward A keys := by
  obtain he | ⟨m, rest, hf, hb, hm, he⟩ := drainInbound_cases hA hI accepts
  · rw [he]
    exact hI
  · obtain ⟨who, clients, conns, ht⟩ := take_eq { s with decrypt := s.decrypt.next_nonce.2, inbound := rest } accepts m
    rw [he, ht]
    have hreads := hI.reads
    rw [hb] at hreads
    refine ⟨hI.writer, hI.synced, ?_, hI.failures⟩
    rw [List.map_append]
    exact hreads.open hm

theorem Inward.writer_step (hI : s.Inward A keys) {a : WriterAction} {writer : RecordWriter}
    (hw : ∀ p evp, a = .make_record p evp → evp = .ok) (h : s.writer.step A a = some writer) :
    Inward A keys { s with writer } where
  writer := RecordWriter.step_inv a hI.writer h
  synced := step_synced a hw hI.synced h
  reads := by
    have hsealed : s.writer.sealed.map (·.call.message) <+: writer.sealed.map (·.call.message) := by
      by_cases ha : ∃ p m d, a = .call p m d
      · obtain ⟨p, m, d, rfl⟩ := ha
        obtain ⟨-, rfl⟩ := RecordWriter.step_call h
        exact List.prefix_refl _
      · obtain ⟨-, hs⟩ | ⟨p, c, -, -, ⟨hs, -⟩ | ⟨wire, hs, -⟩⟩ :=
          writer_cases (fun p m d he => ha ⟨p, m, d, he⟩) hw h
        · exact hs ▸ List.prefix_refl _
        · exact hs ▸ List.prefix_refl _
        · rw [hs, List.map_append]
          exact List.prefix_append _ _
    exact hI.reads.grow hsealed (writer_endpoint h)
  failures := hI.failures

variable (answer open_update_) in
theorem Tunnelled.turn (hA : A.Opens) (hO : s.Outward A keys) (hI : s.Tunnelled dispatch_)
    (hplace : s.place = .parsing) (attempt : Nat → Attempt) :
    (s.turn A answer dispatch_ open_update_ attempt).Tunnelled dispatch_ := by
  obtain ⟨place, he, -⟩ | ⟨r, m, rest, hf, hdemux, hb, hm, he⟩ := turn_cases answer dispatch_ open_update_ hA hO attempt
  · rw [he]
    exact { hI with unfinished := fun _ => hI.unfinished (.inr hplace) }
  · rw [he]
    obtain ⟨hc, hd⟩ | ⟨hc, update_, hd⟩ := deliver_eq dispatch_ open_update_ attempt m
      { s with
        demux := ⟨some r.next_nonce.2, some 0, 1⟩
        stream := rest
        served := s.served ++ [Served.delivered (some 0) m] }
    · rw [hd]
      refine { hI with lines := ?_, unfinished := fun h => by rcases h with h | h <;> cases h }
      rw [Link.delivered, delivered_snoc, LocalTunnel.payloads_same hc, hI.lines, List.append_assoc]
    · rw [hd]
      refine { hI with lines := ?_ }
      rw [Link.delivered, delivered_snoc, LocalTunnel.payloads_other hc]
      exact hI.lines

theorem answers_snoc (dispatch_ : Nat → Bytes → Bytes) (lines : List Bytes) (line : Bytes) :
    answers dispatch_ (lines ++ [line]) = answers dispatch_ lines ++
      if dispatch_ lines.length line = [] then [] else [dispatch_ lines.length line] := by
  rw [answers, List.zipIdx_append, List.map_append, List.filter_append]
  congr 1
  by_cases h : dispatch_ lines.length line = []
  · simp [h]
  · simp [h]

theorem enqueued_snoc (enqueued : List (Channel × Bytes)) (on : Channel) (channel : Channel) (payload : Bytes) :
    ((enqueued ++ [(on, payload)]).filter (·.1 = channel)).map (·.2) =
      (enqueued.filter (·.1 = channel)).map (·.2) ++ if on = channel then [payload] else [] := by
  rw [List.filter_append, List.map_append]
  by_cases h : on = channel
  · rw [List.filter_cons_of_pos (by simpa using h), if_pos h]
    rfl
  · rw [List.filter_cons_of_neg (by simpa using h), if_neg h]
    rfl

/-- A line comes off the buffer and is dispatched. -/
theorem Tunnelled.dispatch_line (hI : s.Tunnelled dispatch_) {line rest : Bytes} (hplace : s.place = .dispatching)
    (hline : find_line s.tunnel.control_buffer_ = some (line, rest))
    (h : s.dispatch_line A dispatch_ line rest = some s') : s'.Tunnelled dispatch_ := by
  obtain ⟨hbuffer, hclean⟩ := find_line_some hline
  have hlines : LocalTunnel.payloads .Control s.delivered =
      ((s.tunnel.dispatched ++ [line]).map (· ++ [10])).flatten ++ rest := by
    rw [hI.lines, hbuffer]
    simp
  have hcleans : ∀ l ∈ s.tunnel.dispatched ++ [line], 10 ∉ l :=
    List.forall_mem_append.2 ⟨hI.clean, List.forall_mem_singleton.2 hclean⟩
  have hreplies := hI.replies
  rw [Link.enqueued] at hreplies
  have hctl := hI.control
  have hupd := hI.update
  rw [Link.enqueued] at hctl hupd
  simp only [Link.dispatch_line] at h
  by_cases hreply : dispatch_ s.tunnel.dispatched.length line = []
  · rw [if_pos hreply] at h
    cases h
    refine ⟨hlines, hcleans, fun hp => ?_, hI.control_, hI.polled, ?_, hI.proper, ?_, ?_⟩
    · rw [hplace] at hp
      rcases hp with hp | hp <;> cases hp
    · simp only [Link.enqueued, LocalTunnel.dispatch_line, if_pos hreply]
      rw [answers_snoc, if_pos hreply, List.append_nil]
      exact hreplies
    · simp only [Link.enqueued, LocalTunnel.dispatch_line, if_pos hreply]
      exact hctl
    · simp only [Link.enqueued, LocalTunnel.dispatch_line, if_pos hreply]
      exact hupd
  · rw [if_neg hreply] at h
    obtain ⟨writer, hw, rfl⟩ := Option.map_eq_some_iff.1 h
    refine ⟨hlines, hcleans, fun hp => ?_, hI.control_, hI.polled, ?_, ?_, ?_, ?_⟩
    · rcases hp with hp | hp <;> cases hp
    · simp only [Link.enqueued, LocalTunnel.dispatch_line, if_neg hreply]
      rw [answers_snoc, if_neg hreply, enqueued_snoc, if_pos rfl, hreplies]
    · refine proper_call hI.proper (fun c hc hd => ?_) hw
      rw [Proper, if_pos rfl, hc]
      exact ⟨rfl, hd⟩
    · simp only [Link.enqueued, LocalTunnel.dispatch_line, if_neg hreply]
      rw [enqueued_snoc, if_pos rfl]
      exact hctl.call rfl hw
    · simp only [Link.enqueued, LocalTunnel.dispatch_line, if_neg hreply]
      rw [enqueued_snoc, if_neg (by decide), List.append_nil]
      exact hupd.other_call (by decide) hw

/-- The pump passes on what the updater answers. -/
theorem Tunnelled.pump (hI : s.Tunnelled dispatch_) {channel : Channel} {chunk : Bytes}
    (hpolled : channel ∈ s.polled)
    (h : Link.call A { s with tunnel := { s.tunnel with enqueued := s.tunnel.enqueued ++ [(channel, chunk)] } } kPump
      ⟨channel, 0, chunk⟩ false = some s') : s'.Tunnelled dispatch_ := by
  obtain rfl : channel = .Update := hI.polled channel hpolled
  obtain ⟨writer, hw, rfl⟩ := Option.map_eq_some_iff.1 h
  have hreplies := hI.replies
  have hctl := hI.control
  have hupd := hI.update
  rw [Link.enqueued] at hreplies hctl hupd
  refine ⟨hI.lines, hI.clean, hI.unfinished, hI.control_, hI.polled, ?_, ?_, ?_, ?_⟩
  · rw [Link.enqueued, enqueued_snoc, if_neg (by decide), List.append_nil]
    exact hreplies
  · refine proper_call hI.proper (fun c hc hd => ?_) hw
    rw [Proper, if_neg (by decide), if_pos rfl, hc]
    exact ⟨rfl, hd⟩
  · rw [Link.enqueued, enqueued_snoc, if_neg (by decide), List.append_nil]
    exact hctl.other_call (by decide) hw
  · rw [Link.enqueued, enqueued_snoc, if_pos rfl]
    exact hupd.call rfl hw

/-- No dispatcher answers over a descriptor, so that a snapshot has the updater's at most. -/
theorem Tunnelled.take_snapshot (hI : s.Tunnelled dispatch_) : Tunnelled dispatch_
    { s with polled := [Channel.Control, .Update].filter fun channel => (s.descriptor channel).isSome } := by
  refine { hI with polled := fun channel hc => ?_ }
  obtain ⟨hmem, hopen⟩ := List.mem_filter.1 hc
  simp only [List.mem_cons, List.not_mem_nil, or_false] at hmem
  refine hmem.resolve_left fun hcontrol => ?_
  rw [descriptor, if_pos hcontrol, hI.control_] at hopen
  cases hopen

theorem Tunnelled.other (hI : s.Tunnelled dispatch_) {p : Nat} {m : WireMessage} {d : Bool} (hp : 2 ≤ p)
    (hm : m.channel = .Video ∨ m.channel = .Meta) (h : s.call A p m d = some s') : s'.Tunnelled dispatch_ := by
  obtain ⟨writer, hw, rfl⟩ := Option.map_eq_some_iff.1 h
  have hserve : p ≠ kServe := by simp only [kServe]; omega
  have hpump : p ≠ kPump := by simp only [kPump]; omega
  refine { hI with proper := ?_, control := hI.control.other_call (Ne.symm hserve) hw
                   update := hI.update.other_call (Ne.symm hpump) hw }
  refine proper_call hI.proper (fun c hc _ => ?_) hw
  rw [Proper, if_neg hserve, if_neg hpump, hc]
  exact hm

theorem Tunnelled.writer (hI : s.Tunnelled dispatch_) {a : WriterAction} {writer : RecordWriter}
    (ha : ∀ p m d, a ≠ .call p m d) (hw : ∀ p evp, a = .make_record p evp → evp = .ok)
    (h : s.writer.step A a = some writer) : Tunnelled dispatch_ { s with writer } :=
  { hI with
    proper := proper_writer hI.proper ha hw h
    control := hI.control.writer serve_owns hI.proper ha hw h
    update := hI.update.writer pump_owns hI.proper ha hw h }

/-- No OpenSSL call fails. -/
def Works (a : Act) : Prop := ∀ p evp, a = .writer (.make_record p evp) → evp = .ok

/-- Where no client was on the control port, nothing was asked on the channel and nothing answered. -/
theorem Inv.no_control (hA : s.Inv A keys dispatch_) (h : ∀ j : Nat, (s.conns[j]?).map Client.index ≠ some kControl) :
    ∀ x ∈ s.taken, x.2.channel ≠ .Control := by
  obtain ⟨hO, hN, hC, hD, hT⟩ := hA
  have hsent : ∀ x ∈ s.sent, x.2.channel ≠ .Control := by
    intro x hx hc
    obtain ⟨k, hk⟩ := hD.origin x hx
    have hx := List.mem_append_left s.taken hx
    have hlt := hC.known x hx k hk
    have hchannel := (hC.sound k _ (List.getElem?_eq_getElem hlt)).channel x hx hk
    refine h k ?_
    rw [List.getElem?_eq_getElem hlt, Option.map_some, Option.some.injEq]
    exact kChannels_control.1 (hchannel.symm.trans hc)
  obtain ⟨r, -, hreads⟩ := hO.reads
  have hdelivered : LocalTunnel.payloads .Control s.delivered = [] := by
    have hnone : s.delivered.filter (fun m => m.channel = .Control) = [] := by
      refine List.filter_eq_nil_iff.2 fun m hm => ?_
      obtain ⟨x, hx, rfl⟩ := List.mem_map.1 (hreads.opened.subset hm)
      simpa using hsent x hx
    rw [LocalTunnel.payloads, hnone]
    rfl
  have hlines := hT.lines
  rw [hdelivered] at hlines
  have hdispatched : s.tunnel.dispatched = [] := by
    cases hd : s.tunnel.dispatched with
    | nil => rfl
    | cons line lines =>
      rw [hd] at hlines
      simp at hlines
  have hsealed : on .Control s.sealed = [] := by
    have hctl := hT.control
    rw [hT.replies, hdispatched, Relayed, on_append] at hctl
    exact (List.append_eq_nil_iff.1 hctl).1
  intro x hx hc
  have hmem : x.2 ∈ s.sealed := hN.reads.opened.subset (List.mem_map_of_mem hx)
  rw [on, List.map_eq_nil_iff, List.filter_eq_nil_iff] at hsealed
  exact hsealed x.2 hmem (by simpa using hc)

theorem inv_start (keys : SessionKeys) : (start keys).Inv A keys dispatch_ where
  outward :=
    { fits := fun x hx => by cases hx
      encrypt := rfl
      carried := List.prefix_refl _
      whole := fun _ => rfl
      reads := ⟨_, rfl, ⟨rfl, Nat.le_refl 0, (SecureRecord.skip_zero _).symm, List.prefix_refl _⟩⟩
      served := fun e he => by cases he }
  inward :=
    { writer := RecordWriter.inv_new _ _
      synced := ⟨fun x hx => (by cases hx), rfl, (SecureRecord.skip_zero _).symm, fun c hc => (by cases hc)⟩
      reads := ⟨rfl, Nat.le_refl 0, (SecureRecord.skip_zero _).symm, List.prefix_refl _⟩
      failures := rfl }
  connected :=
    { clients := fun i k hk => by cases hk
      known := fun x hx => by cases hx
      sound := fun k c hc => by cases hc }
  attached :=
    { origin := fun x hx => by cases hx
      sole := fun k hk => by cases hk
      first := fun k hk => by cases hk }
  tunnelled :=
    { lines := rfl
      clean := fun l hl => by cases hl
      unfinished := fun _ => List.not_mem_nil
      control_ := rfl
      polled := fun channel hc => by cases hc
      replies := rfl
      proper := fun p c hc => by cases hc
      control := rfl
      update := rfl }

/-- The bridge seals what it has received. -/
theorem Inv.sendRecord (hI : s.Inv A keys dispatch_) {i : Fin 2} {k n : Nat} {c : Client} (cut : Option Nat)
    (hended : s.ended = false) (hk : s.clients i = some k) (hc : s.conns[k]? = some c) (hn : n ≤ kMaxPayload - 2)
    (hlen : ((c.written.drop c.received.length).take n).length = n) :
    ((s.on_client k fun c' =>
      { c' with received := c'.received ++ (c.written.drop c.received.length).take n }).sendRecord A i k
        ((c.written.drop c.received.length).take n) cut).Inv A keys dispatch_ := by
  obtain ⟨hO, hN, hC, hD, hT⟩ := hI
  have hpayload : ((c.written.drop c.received.length).take n).length ≤ kMaxPayload - 2 := by
    rw [hlen]
    exact hn
  have hclient : Outward A keys (s.on_client k fun c' =>
      { c' with received := c'.received ++ (c.written.drop c.received.length).take n }) := { hO with }
  have horigin : ∀ x ∈ s.sent ++ [(some k,
      (⟨kChannels i, 0, (c.written.drop c.received.length).take n⟩ : WireMessage))], ∃ k, x.1 = some k :=
    List.forall_mem_append.2 ⟨hD.origin, List.forall_mem_singleton.2 ⟨k, rfl⟩⟩
  have hattached := hD.on_client (k := k) (f := fun c' =>
    { c' with received := c'.received ++ (c.written.drop c.received.length).take n }) (fun _ => rfl) horigin
  have hconnected := hC.sendRecord A cut hk hc hn hlen
  have houtward := hclient.sendRecord hended i k cut hpayload
  rw [(sendRecord_eq A _ i k cut hpayload).2] at hconnected houtward ⊢
  exact ⟨houtward, { hN with }, hconnected, ⟨hattached.origin, hattached.sole, hattached.first⟩, { hT with }⟩

/-- The bridge takes a message, or waits. -/
theorem Inv.drainInbound (hA : A.Opens) (hI : s.Inv A keys dispatch_) (accepts : Nat) :
    (s.drainInbound A accepts).Inv A keys dispatch_ := by
  have hdrain := hI.inward.drainInbound hA accepts
  obtain he | ⟨m, rest, -, -, -, he⟩ := drainInbound_cases hA hI.inward accepts
  · rw [he]
    exact hI
  · obtain ⟨hO, -, hC, hD, hT⟩ := hI
    have hcon : Connected ({ s with decrypt := s.decrypt.next_nonce.2, inbound := rest }.take accepts m) :=
      Connected.take (s := { s with decrypt := s.decrypt.next_nonce.2, inbound := rest })
        ⟨hC.clients, hC.known, hC.sound⟩ accepts m
    have hatt : Attached ({ s with decrypt := s.decrypt.next_nonce.2, inbound := rest }.take accepts m) :=
      Attached.take (s := { s with decrypt := s.decrypt.next_nonce.2, inbound := rest })
        ⟨hD.origin, hD.sole, hD.first⟩ ⟨hC.clients, hC.known, hC.sound⟩ accepts m
    obtain ⟨who, clients, conns, ht⟩ := take_eq { s with decrypt := s.decrypt.next_nonce.2, inbound := rest } accepts m
    rw [he] at hdrain ⊢
    rw [ht] at hdrain hcon hatt ⊢
    exact ⟨{ hO with }, hdrain, hcon, hatt, { hT with }⟩

/-- The device delivers a message, or waits. -/
theorem Inv.turn (hA : A.Opens) (hI : s.Inv A keys dispatch_) (hplace : s.place = .parsing)
    (attempt : Nat → Attempt) : (s.turn A answer dispatch_ open_update_ attempt).Inv A keys dispatch_ := by
  obtain ⟨hO, hN, hC, hD, hT⟩ := hI
  have houtward := hO.turn answer dispatch_ open_update_ hA attempt
  have htunnelled := hT.turn answer open_update_ hA hO hplace attempt
  obtain ⟨place, he, -⟩ | ⟨r, m, rest, -, -, -, -, he⟩ := turn_cases answer dispatch_ open_update_ hA hO attempt
  · rw [he] at houtward htunnelled ⊢
    exact ⟨houtward, { hN with }, { hC with }, { hD with }, htunnelled⟩
  · rw [he] at houtward htunnelled ⊢
    obtain ⟨-, hd⟩ | ⟨-, update_, hd⟩ := deliver_eq dispatch_ open_update_ attempt m
      { s with
        demux := ⟨some r.next_nonce.2, some 0, 1⟩
        stream := rest
        served := s.served ++ [Served.delivered (some 0) m] }
    · rw [hd] at houtward htunnelled ⊢
      exact ⟨houtward, { hN with }, { hC with }, { hD with }, htunnelled⟩
    · rw [hd] at houtward htunnelled ⊢
      exact ⟨houtward, { hN with }, { hC with }, { hD with }, htunnelled⟩

/-- The serve thread dispatches a line, and calls the writer with the reply if there is one. -/
theorem Inv.dispatch_line (hI : s.Inv A keys dispatch_) {line rest : Bytes} (hplace : s.place = .dispatching)
    (hline : find_line s.tunnel.control_buffer_ = some (line, rest))
    (h : s.dispatch_line A dispatch_ line rest = some s') : s'.Inv A keys dispatch_ := by
  obtain ⟨hO, hN, hC, hD, hT⟩ := hI
  have htunnelled := hT.dispatch_line hplace hline h
  simp only [Link.dispatch_line] at h
  split at h
  · cases h
    exact ⟨{ hO with }, { hN with }, { hC with }, { hD with }, htunnelled⟩
  · obtain ⟨writer, hstep, rfl⟩ := Option.map_eq_some_iff.1 h
    have hwriter := hN.writer_step (fun p evp he => by cases he) hstep
    exact ⟨{ hO with }, { hwriter with }, { hC with }, { hD with }, htunnelled⟩

theorem Inv.app_writes (hI : s.Inv A keys dispatch_) (k : Nat) (bytes : Bytes) :
    (s.on_client k fun c => { c with written := c.written ++ bytes }).Inv A keys dispatch_ := by
  obtain ⟨hO, hN, hC, hD, hT⟩ := hI
  have hattached := hD.on_client (k := k) (f := fun c => { c with written := c.written ++ bytes }) (fun _ => rfl)
    hD.origin
  have hconnected : Connected { s.on_client k fun c => { c with written := c.written ++ bytes } with
      sent := s.sent, taken := s.taken } :=
    Connected.on_client (k := k) hC hC.known (fun _ => rfl) (fun _ _ => .inl rfl)
      (fun c hc => { hC.sound k c hc with
        of_written := (hC.sound k c hc).of_written.trans (List.prefix_append _ _) })
      fun j c _ hc => hC.sound j c hc
  exact ⟨{ hO with }, { hN with }, ⟨hconnected.clients, hconnected.known, hconnected.sound⟩,
    ⟨hattached.origin, hattached.sole, hattached.first⟩, { hT with }⟩

theorem step_inv (hA : A.Opens) {a : Act} (hw : Works a) (hI : s.Inv A keys dispatch_)
    (h : s.step A answer dispatch_ open_update_ a = some s') : s'.Inv A keys dispatch_ := by
  have ⟨hO, hN, hC, hD, hT⟩ := hI
  cases a with
  | connect i =>
    simp only [step] at h
    split at h <;> cases h
    exact ⟨{ hO with }, { hN with }, hC.connect i,
      hD.connect i (fun x hx => hC.known x (List.mem_append_right _ hx)) hI.no_control, { hT with }⟩
  | app_writes k bytes =>
    cases h
    exact hI.app_writes k bytes
  | recv i n cut =>
    simp only [step] at h
    split at h
    · rename_i k hended hk
      split at h
      · rename_i c hc
        split at h
        · rename_i hn
          cases h
          exact hI.sendRecord cut hended hk hc hn.2.1 hn.2.2
        · cases h
      · cases h
    · cases h
  | hang_up i =>
    simp only [step] at h
    split at h <;> cases h
    exact ⟨{ hO with }, { hN with }, hC.closeClient i, hD.closeClient i, { hT with }⟩
  | read_in n =>
    simp only [step] at h
    split at h
    · cases h
    · rename_i hn
      cases h
      rw [not_or, not_not] at hn
      exact ⟨{ hO with }, { hN with reads := hN.reads.append hn.2 }, { hC with }, { hD with }, { hT with }⟩
  | drain accepts =>
    simp only [step] at h
    split at h <;> cases h
    exact hI.drainInbound hA accepts
  | leave =>
    cases h
    exact ⟨{ hO with whole := fun he => by cases he }, { hN with }, { hC with }, { hD with }, { hT with }⟩
  | read_out n =>
    simp only [step] at h
    split at h
    · rename_i hn
      cases h
      obtain ⟨hplace, -, -, hlen⟩ := hn
      obtain ⟨r, hdemux, hreads⟩ := hO.reads
      exact ⟨{ hO with reads := ⟨r, hdemux, hreads.append hlen⟩ }, { hN with }, { hC with }, { hD with },
        { hT with unfinished := fun _ => hT.unfinished (.inl hplace) }⟩
    · cases h
  | read_fails =>
    simp only [step] at h
    split at h <;> cases h
    exact ⟨{ hO with }, { hN with }, { hC with }, { hD with },
      { hT with unfinished := fun hp => by rcases hp with hp | hp <;> cases hp }⟩
  | turn attempt =>
    simp only [step] at h
    split at h
    · rename_i hplace
      cases h
      exact hI.turn hA hplace attempt
    · cases h
  | dispatch =>
    simp only [step] at h
    split at h
    · rename_i hplace
      split at h
      · rename_i line rest hline
        exact hI.dispatch_line hplace hline h
      · rename_i hnone
        cases h
        exact ⟨{ hO with }, { hN with }, { hC with }, { hD with }, { hT with unfinished := fun _ => find_line_none hnone }⟩
    · cases h
  | enqueued =>
    simp only [step] at h
    split at h <;> cases h
    exact ⟨{ hO with }, { hN with }, { hC with }, { hD with },
      { hT with unfinished := fun hp => by rcases hp with hp | hp <;> cases hp }⟩
  | take_snapshot =>
    cases h
    exact ⟨{ hO with }, { hN with }, { hC with }, { hD with }, hT.take_snapshot⟩
  | pump channel chunk =>
    simp only [step] at h
    split at h
    · rename_i hc
      have htunnelled := hT.pump hc.1 h
      obtain ⟨writer, hstep, rfl⟩ := Option.map_eq_some_iff.1 h
      have hwriter := hN.writer_step (fun p evp he => by cases he) hstep
      exact ⟨{ hO with }, { hwriter with }, { hC with }, { hD with }, htunnelled⟩
    · cases h
  | close_channel channel =>
    simp only [step, LocalTunnel.step] at h
    split at h
    · cases h
      exact ⟨{ hO with }, { hN with }, { hC with }, { hD with }, { hT with control_ := rfl }⟩
    · cases h
      exact ⟨{ hO with }, { hN with }, { hC with }, { hD with }, { hT with }⟩
  | other p message droppable =>
    simp only [step] at h
    split at h
    · rename_i hp
      have htunnelled := hT.other hp.1 hp.2 h
      obtain ⟨writer, hstep, rfl⟩ := Option.map_eq_some_iff.1 h
      exact ⟨{ hO with }, hN.writer_step (fun p evp he => by cases he) hstep, { hC with }, { hD with }, htunnelled⟩
    · cases h
  | writer a =>
    have hworks : ∀ p evp, a = .make_record p evp → evp = .ok := fun p evp he => hw p evp (he ▸ rfl)
    by_cases hcall : ∃ p m d, a = .call p m d
    · obtain ⟨p, m, d, rfl⟩ := hcall
      cases h
    · have hmap : (s.writer.step A a).map (fun writer => { s with writer }) = some s' := by
        cases a with
        | call p m d => exact absurd ⟨p, m, d, rfl⟩ hcall
        | _ => exact h
      obtain ⟨writer, hstep, rfl⟩ := Option.map_eq_some_iff.1 hmap
      have hno : ∀ p m d, a ≠ .call p m d := fun p m d he => hcall ⟨p, m, d, he⟩
      exact ⟨{ hO with }, hN.writer_step hworks hstep, { hC with }, { hD with }, hT.writer hno hworks hstep⟩

theorem run_inv (hA : A.Opens) {as : List Act} (hw : ∀ a ∈ as, Works a)
    (hr : Run (step A answer dispatch_ open_update_) (start keys) as s) : s.Inv A keys dispatch_ := by
  refine hr.inv_trace_of (P := Works) (fun _ s => s.Inv A keys dispatch_) (inv_start keys) ?_ hw
  intro _ s a s' _ _ hI ha h
  exact step_inv hA ha hI h

/-! ## Transparency -/

/-- What the tunnel is for. -/
structure Transparent (dispatch_ : Nat → Bytes → Bytes) (s : Link) : Prop where
  /-- Neither end has ended the session for what it read or had to seal. -/
  sound : s.failures = [] ∧ ∀ e ∈ s.served, ∃ m, e = .delivered (some 0) m
  /-- The records of each direction are opened in the order they were sealed in, -/
  opened : s.delivered <+: s.sent.map (·.2) ∧ s.taken.map (·.2) <+: s.sealed
  /-- and all of them once the pipes and buffers are empty. -/
  all_out : s.ended = false → s.stream = [] → s.out_read = s.out.length → s.delivered = s.sent.map (·.2)
  all_in : s.inbound = [] → s.in_read = s.writer.endpoint.length → s.writer.endpoint = s.writer.sent.flatten →
    s.writer.sent.length = s.writer.sealed.length → s.taken.map (·.2) = s.sealed
  /-- Each client has sent what was received from it, on its channel, and got what came on the
  channel while it was there, unless a write to it failed. -/
  clients : ∀ k c, s.conns[k]? = some c → Client.Sound k s.sent s.taken c
  /-- The control bytes are dispatched line by line, -/
  lines : LocalTunnel.payloads .Control s.delivered =
    (s.tunnel.dispatched.map (· ++ [10])).flatten ++ s.tunnel.control_buffer_ ∧ ∀ line ∈ s.tunnel.dispatched, 10 ∉ line
  /-- and what is sealed on the channel are the replies that have room, in order. -/
  replies : on .Control s.sealed <+: (answers dispatch_ s.tunnel.dispatched).filter room
  /-- So it is with what the updater answers. -/
  updates : on .Update s.sealed <+: (s.enqueued .Update).filter room

theorem Inv.transparent (hI : s.Inv A keys dispatch_) : s.Transparent dispatch_ := by
  obtain ⟨hO, hN, hC, -, hT⟩ := hI
  obtain ⟨r, -, hreads⟩ := hO.reads
  refine ⟨⟨hN.failures, hO.served⟩, ⟨hreads.opened, hN.reads.opened⟩, fun hended hstream hread => ?_,
    fun hinbound hread hwritten hall => ?_, hC.sound, ⟨hT.lines, hT.clean⟩, ?_, ?_⟩
  · rw [hstream, hread] at hreads
    exact hreads.all (hO.whole hended)
  · have hreads := hN.reads
    rw [hinbound, hread] at hreads
    refine hreads.all ?_
    have hacc := hN.writer.accounted
    have hsent : s.writer.sent = s.writer.sealed.map (·.wire) :=
      (List.IsPrefix.eq_of_length ⟨_, hacc.symm⟩ (by rw [hall, List.length_map]))
    rw [hwritten, hsent, hN.synced.wires]
    rfl
  · have hctl := hT.control
    rw [Relayed, on_append, hT.replies] at hctl
    exact ⟨_, hctl⟩
  · have hupd := hT.update
    rw [Relayed, on_append] at hupd
    exact ⟨_, hupd⟩

/-- The complete lines of what a program has written. -/
def complete_lines (written : Bytes) : List Bytes := (written.splitOn 10).dropLast

/-- What a program that writes this would get from the dispatcher itself, replies without room left out. -/
def direct (dispatch_ : Nat → Bytes → Bytes) (written : Bytes) : Bytes :=
  ((answers dispatch_ (complete_lines written)).filter room).flatten

theorem answers_mono (dispatch_ : Nat → Bytes → Bytes) {lines lines' : List Bytes} (h : lines <+: lines') :
    answers dispatch_ lines <+: answers dispatch_ lines' := by
  obtain ⟨rest, rfl⟩ := h
  rw [answers, answers, List.zipIdx_append, List.map_append, List.filter_append]
  exact List.prefix_append _ _

theorem complete_lines_eq {lines : List Bytes} {rest : Bytes} (hl : ∀ line ∈ lines, 10 ∉ line) (hr : 10 ∉ rest) :
    complete_lines ((lines.map (· ++ [10])).flatten ++ rest) = lines := by
  rw [complete_lines, LocalTunnel.splitOn_lines lines rest hl hr, List.dropLast_concat]

/-- Lines that were taken off are complete lines of whatever follows. -/
theorem complete_lines_mono {lines : List Bytes} (hl : ∀ line ∈ lines, 10 ∉ line) (more : Bytes) :
    lines <+: complete_lines ((lines.map (· ++ [10])).flatten ++ more) := by
  induction lines with
  | nil => exact List.nil_prefix
  | cons line lines ih =>
    rw [complete_lines, List.map_cons, List.flatten_cons, List.append_assoc, List.append_assoc, List.singleton_append,
      List.splitOn_append_cons_self_of_not_mem (hl line (by simp)), List.dropLast_cons_of_ne_nil (List.splitOn_ne_nil _ _)]
    exact (List.prefix_cons_inj line).2 (ih fun l h => hl l (by simp [h]))

theorem flatten_mono {bs bs' : List Bytes} (h : bs <+: bs') : bs.flatten <+: bs'.flatten := by
  obtain ⟨rest, rfl⟩ := h
  rw [List.flatten_append]
  exact List.prefix_append _ _

/-- All the control traffic is that of the only client there was, as long as it is there. -/
theorem Inv.sole_traffic (hI : s.Inv A keys dispatch_) {k : Nat} {c : Client} (hc : s.conns[k]? = some c)
    (hindex : c.index = kControl) (hsole : Sole s.conns k) :
    part k s.sent = (on .Control (s.sent.map (·.2))).flatten ∧
      (s.clients kControl = some k → part k s.taken = (on .Control (s.taken.map (·.2))).flatten) := by
  have hchannel : ∀ x ∈ s.sent ++ s.taken, x.1 = some k → x.2.channel = .Control := fun x hx he => by
    rw [(hI.connected.sound k c hc).channel x hx he, hindex]
    rfl
  refine ⟨part_eq_on fun x hx => ⟨hchannel x (List.mem_append_left _ hx), fun hcontrol => ?_⟩, fun hk =>
    part_eq_on fun x hx => ⟨hchannel x (List.mem_append_right _ hx), hI.attached.sole k hk hsole x hx⟩⟩
  obtain ⟨j, hj⟩ := hI.attached.origin x hx
  have hx := List.mem_append_left s.taken hx
  have hlt := hI.connected.known x hx j hj
  have hcj := (hI.connected.sound j _ (List.getElem?_eq_getElem hlt)).channel x hx hj
  rw [hj, hsole j]
  rw [List.getElem?_eq_getElem hlt, Option.map_some, Option.some.injEq]
  exact kChannels_control.1 (hcj.symm.trans hcontrol)

/-- The pipes, buffers and queues are empty, and every line was dispatched and answered. -/
structure Drained (s : Link) : Prop where
  ended : s.ended = false
  stream : s.stream = []
  out_read : s.out_read = s.out.length
  place : s.place = .reading
  idle : s.writer.callers kServe = .outside
  written : s.writer.endpoint = s.writer.sent.flatten
  all : s.writer.sent.length = s.writer.sealed.length
  inbound : s.inbound = []
  in_read : s.in_read = s.writer.endpoint.length

/-- A program that has the control port to itself gets, byte for byte and in order, a
beginning of what the dispatcher would answer to what it has written, and all of it
once everything has got through, if it is still there. -/
theorem control_client_served (hA : A.Opens) (answer : Answer) (dispatch_ : Nat → Bytes → Bytes) (open_update_ : Bool)
    (keys : SessionKeys) (as : List Act) (s : Link) (hw : ∀ a ∈ as, Works a)
    (hr : Run (step A answer dispatch_ open_update_) (start keys) as s) (k : Nat) (c : Client)
    (hc : s.conns[k]? = some c) (hindex : c.index = kControl) (hsole : Sole s.conns k) :
    c.got <+: direct dispatch_ c.written ∧
      (s.clients kControl = some k → s.Drained → c.got = direct dispatch_ c.received) := by
  have hI := run_inv hA hw hr
  have ht := hI.transparent
  obtain ⟨hsent, htaken⟩ := hI.sole_traffic hc hindex hsole
  have hclient := ht.clients k c hc
  have hreceived : c.received = LocalTunnel.payloads .Control (s.sent.map (·.2)) := hclient.received.trans hsent
  obtain ⟨hlines, hclean⟩ := ht.lines
  constructor
  · -- what was taken was sealed, what was sealed answers lines, and the lines are of what was written
    obtain ⟨more, hmore⟩ : LocalTunnel.payloads .Control s.delivered <+: c.written := by
      refine List.IsPrefix.trans ?_ hclient.of_written
      obtain ⟨rest, hrest⟩ := ht.opened.1
      rw [hreceived, ← hrest, LocalTunnel.payloads_append]
      exact List.prefix_append _ _
    have hdispatched : s.tunnel.dispatched <+: complete_lines c.written := by
      rw [← hmore, hlines, List.append_assoc]
      exact complete_lines_mono hclean _
    obtain ⟨rest, hrest⟩ := ht.opened.2
    have hcontrol : (s.conns[k]?).map Client.index = some kControl := by rw [hc, Option.map_some, hindex]
    have hgot : c.got <+: (on .Control (s.taken.map (·.2))).flatten :=
      hclient.got.trans (hI.attached.first k hcontrol hsole)
    have hsealed : c.got <+: (on .Control s.sealed).flatten := by
      rw [← hrest, on_append]
      exact hgot.trans (flatten_mono (List.prefix_append _ _))
    have hanswered : (on .Control s.sealed).flatten <+: ((answers dispatch_ s.tunnel.dispatched).filter room).flatten :=
      flatten_mono ht.replies
    exact (hsealed.trans hanswered).trans (flatten_mono ((answers_mono dispatch_ hdispatched).filter _))
  · intro hk hd
    obtain ⟨c', hc', -, hwhole⟩ := hI.connected.clients kControl k hk
    obtain rfl : c = c' := Option.some.inj (hc.symm.trans hc')
    have hgot : c.got = (on .Control (s.taken.map (·.2))).flatten := (hclient.whole hwhole).trans (htaken hk)
    have hdelivered := ht.all_out hd.ended hd.stream hd.out_read
    have hall := ht.all_in hd.inbound hd.in_read hd.written hd.all
    have hbuffer : 10 ∉ s.tunnel.control_buffer_ := hI.tunnelled.unfinished (.inl hd.place)
    have hcomplete : complete_lines c.received = s.tunnel.dispatched := by
      rw [hreceived, ← hdelivered, hlines]
      exact complete_lines_eq hclean hbuffer
    have hctl := hI.tunnelled.control
    have hnone : asked s.writer kServe = [] := by rw [asked, hd.idle]; rfl
    rw [Relayed, hnone, List.filter_nil, List.append_nil, hI.tunnelled.replies] at hctl
    rw [hgot, hall, direct, hcomplete, ← hctl]
    rfl

/-! ## A request and its reply -/

def echo : Nat → Bytes → Bytes := fun _ line => line ++ [10]

def no_keys : SessionKeys := ⟨.replicate 32 0, .replicate 32 1, .replicate 12 0, .replicate 12 1⟩

/-- A line goes to the dispatcher and comes back. -/
def one_request : List Act :=
  [.connect kControl, .app_writes 0 [97, 98, 10], .recv kControl 3 none, .read_out 25, .turn LocalTunnel.open_door,
    .dispatch, .writer (.lock kServe), .writer (.test kServe), .writer (.make_record kServe .ok),
    .writer (.push kServe), .enqueued, .dispatch, .turn LocalTunnel.open_door, .writer (.check false), .writer .wake,
    .writer (.write 25), .read_in 25, .drain 100, .drain 100]

theorem one_request_works : ∀ a ∈ one_request, Works a := by
  simp [one_request, Works]

/-- What is tested at its end. -/
def ends_well (s : Link) : Bool :=
  !s.ended && s.stream.isEmpty && s.out_read == s.out.length && decide (s.place = .reading) &&
    (match s.writer.callers kServe with | .outside => true | _ => false) &&
    s.writer.endpoint == s.writer.sent.flatten && s.writer.sent.length == s.writer.sealed.length &&
    s.inbound.isEmpty && s.in_read == s.writer.endpoint.length && s.clients kControl == some 0 &&
    s.conns.map (·.got) == [[97, 98, 10]] && s.conns.map Client.index == [kControl]

theorem one_request_ends : ∃ s, Run (step (markedAead fun _ _ _ => true) (fun _ _ => .error "") echo true)
    (start no_keys) one_request s ∧ ends_well s = true := by
  have h : (exec (step (markedAead fun _ _ _ => true) (fun _ _ => .error "") echo true) (start no_keys)
      one_request).map ends_well = some true := by
    decide +kernel
  obtain ⟨s, hs, hp⟩ := Option.map_eq_some_iff.1 h
  exact ⟨s, run_of_exec hs, hp⟩

/-- The reply to `ab` is what the dispatcher would give. -/
theorem control_client_served_echo : ∃ s c, Run (step (markedAead fun _ _ _ => true) (fun _ _ => .error "") echo true)
    (start no_keys) one_request s ∧ s.conns[0]? = some c ∧ c.got = [97, 98, 10] ∧ c.got = direct echo c.received := by
  obtain ⟨s, hr, hend⟩ := one_request_ends
  simp only [ends_well, Bool.and_eq_true, decide_eq_true_eq, beq_iff_eq, List.isEmpty_iff, Bool.not_eq_true'] at hend
  obtain ⟨⟨⟨⟨⟨⟨⟨⟨⟨⟨⟨hended, hstream⟩, hout⟩, hplace⟩, hidle⟩, hwritten⟩, hall⟩, hinbound⟩, hin⟩, hk⟩, hgot⟩,
    hindex⟩ := hend
  obtain ⟨c, hc⟩ : ∃ c, s.conns = [c] := by
    cases hconns : s.conns with
    | nil => rw [hconns] at hgot; cases hgot
    | cons c conns =>
      rw [hconns, List.map_cons, List.cons.injEq, List.map_eq_nil_iff] at hgot
      exact ⟨c, by rw [hgot.2]⟩
  have hget : s.conns[0]? = some c := by rw [hc]; rfl
  have hsole : Sole s.conns 0 := by
    intro j hj
    rw [hc] at hj
    cases j with
    | zero => rfl
    | succ j => cases hj
  have hcaller : s.writer.callers kServe = .outside := by
    split at hidle
    · assumption
    · cases hidle
  rw [hc] at hindex
  have hserved := control_client_served markedAead_opens _ echo true no_keys one_request s one_request_works hr 0 c hget
    (List.singleton_inj.1 hindex) hsole
  refine ⟨s, c, hr, hget, ?_, hserved.2 hk ⟨hended, hstream, hout, hplace, hcaller, hwritten, hall, hinbound, hin⟩⟩
  rw [hc] at hgot
  exact List.singleton_inj.1 hgot

end Link

end CameraStreamer.Secure.SecureLink
