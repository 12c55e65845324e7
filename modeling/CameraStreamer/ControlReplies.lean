import CameraStreamer.ControlLink
/-!
# No reply is lost

Between the device's write and the host's callback a reply is due, or in the host's
buffer. Where there is nothing left to read on either end, no request is pending.
-/

namespace CameraStreamer.ControlLink
open Runs Json Control ControlClient

section Device
variable {D W : Type} [JsonGenerator D] {parse : JsonParser D} {registry : ControlRegistry D W}

/-- What is due stays due. -/
theorem due_prefix (log es : List (Event W)) (c : Nat) :
    (Service.account parse registry log c).due <+: (Service.account parse registry (log ++ es) c).due := by
  induction es using List.reverseRecOn with
  | nil => exact (List.append_nil log).symm ▸ List.prefix_rfl
  | append_singleton es e ih =>
    refine ih.trans ?_
    rw [← List.append_assoc, Service.account_snoc]
    unfold Service.Account.add
    cases e with
    | accepted d =>
      dsimp only
      split
      · exact List.prefix_rfl
      · exact List.prefix_rfl
    | request d l w =>
      dsimp only
      split
      · exact List.prefix_append _ _
      · exact List.prefix_rfl
    | broadcast l =>
      dsimp only
      split
      · exact List.prefix_append _ _
      · exact List.prefix_rfl
    | closed d =>
      dsimp only
      split
      · exact List.prefix_rfl
      · exact List.prefix_rfl
    | destroyed => exact List.prefix_rfl

end Device

namespace Link

section
variable {D W : Type} [Doubles D] [JsonGenerator D] [QtJson D] {parse : JsonParser D} {registry : ControlRegistry D W}
  {toJson : Members D → Bytes} {line : Bytes → Line D} {s s' : Link D W}

/-- A reply to this request is on its way to the host. -/
def Coming (parse : JsonParser D) (registry : ControlRegistry D W) (toJson : Members D → Bytes)
    (line : Bytes → Line D) (s : Link D W) (c k : Nat) (r : Sent D) : Prop :=
  ∃ w, .request c (text toJson r) w ∈ s.service.log ∧
    ((∃ i, s.heard c ≤ i ∧ (Service.account parse registry s.service.log c).due[i]? =
        some (dispatch_request parse registry (text toJson r) w).1) ∨
      (line (dispatch_request parse registry (text toJson r) w).1, k) ∈ s.client.buffer)

structure Pending (parse : JsonParser D) (registry : ControlRegistry D W) (toJson : Members D → Bytes)
    (line : Bytes → Line D) (s : Link D W) : Prop where
  apart : (s.client.m_pending.map (·.id)).Nodup
  heard : ∀ c, s.heard c ≤ (Service.account parse registry s.service.log c).due.length
  coming : ∀ call ∈ s.client.m_pending, ∀ c ∈ s.service.conns_, s.owner c = some call.connection →
    ∀ r ∈ (s.sent call.connection).take (s.read c), r.id = call.id →
      Coming parse registry toJson line s c call.connection r

omit [Doubles D] in
/-- A host that keeps its lines has the replies still coming. -/
theorem Pending.quiet (h : s.Pending parse registry toJson line) {client : Client D} (hk : Keeps s.client client) :
    Pending parse registry toJson line { s with client := client } := by
  rcases hk with ⟨hpending, hbuffer⟩ | hnone
  · refine ⟨?_, h.heard, ?_⟩
    · dsimp only
      rw [hpending]
      exact h.apart
    · intro call hc c hm ho r hr hid
      obtain ⟨w, hw, hcoming⟩ := h.coming call (hpending ▸ hc) c hm ho r hr hid
      exact ⟨w, hw, hcoming.imp_right fun hb => hbuffer ▸ hb⟩
  · refine ⟨?_, h.heard, fun call hc => ?_⟩
    · dsimp only
      rw [hnone]
      exact .nil
    · dsimp only at hc
      rw [hnone] at hc
      cases hc

theorem Pending.send (h : s.Pending parse registry toJson line) (hb : s.Base parse registry toJson line)
    {method : String} {params : Members D} {callback : Bool} {client : Client D}
    (ha : s.client.step (.sendRequest method params callback) = some client) :
    (s.follow (.sendRequest method params callback) client).Pending parse registry toJson line := by
  rcases send_cases ha with ⟨hconnected, -, hk⟩ | ⟨hconnected, -, -, hbuffer, -, hpending⟩
  · have hunsent : s.follow (.sendRequest method params callback) client = { s with client := client } := by
      unfold follow
      dsimp only
      rw [hconnected, if_neg Bool.false_ne_true]
    rw [hunsent]
    exact h.quiet hk
  · have hsent := follow_sent s method params callback client hconnected
    refine ⟨?_, h.heard, fun call hc c hm ho r hr hid => ?_⟩
    · show (client.m_pending.map (·.id)).Nodup
      rw [hpending, List.map_append]
      refine (h.apart.sublist (List.filter_sublist.map _)).append (List.nodup_singleton _) ?_
      intro id hid hid'
      obtain ⟨call, hcall, rfl⟩ := List.mem_map.1 hid
      have hne := (List.mem_filter.1 hcall).2
      exact absurd (List.mem_singleton.1 hid') (by simpa using hne)
    · have hread : r ∈ (s.sent call.connection).take (s.read c) := by
        rw [hsent] at hr
        rwa [← List.take_append_of_le_length (hb.carried.read_le c _ ho)]
      have hc' : call ∈ client.m_pending := hc
      rw [hpending] at hc'
      rcases List.mem_append.1 hc' with hc' | hc'
      · obtain ⟨w, hw, hcoming⟩ := h.coming call (List.mem_of_mem_filter hc') c hm ho r hread hid
        exact ⟨w, hw, hcoming.imp_right fun hin => hbuffer ▸ hin⟩
      · -- the new request is not among those that have been read
        obtain rfl := List.mem_singleton.1 hc'
        exact absurd hid (hb.carried.ids _ r (List.mem_of_mem_take hread)).ne

/-- The reply that is read was to a request that is no longer pending. -/
theorem Pending.read (h : s.Pending parse registry toJson line) (hu : s.Understood parse registry toJson line)
    {l : Line D × Nat} {buffer : List (Line D × Nat)} (hbuffer : s.client.buffer = l :: buffer) :
    Pending parse registry toJson line { s with client := { s.client with buffer := buffer }.readLine l } := by
  obtain ⟨hbuffer', -, -, hcases⟩ := readLine_cases { s.client with buffer := buffer } l
  have hsub : (Client.readLine { s.client with buffer := buffer } l).m_pending.Sublist s.client.m_pending := by
    rcases hcases with ⟨hpending, -⟩ | ⟨response, call, -, -, -, hpending, -⟩
    · rw [hpending]
    · rw [hpending]
      exact List.eraseP_sublist
  refine ⟨h.apart.sublist (hsub.map _), h.heard, fun call hc c hm ho r hr hid => ?_⟩
  have hcall : call ∈ s.client.m_pending := hsub.subset hc
  obtain ⟨w, hw, hdue | hin⟩ := h.coming call hcall c hm ho r hr hid
  · exact ⟨w, hw, .inl hdue⟩
  · have hin' : (line (dispatch_request parse registry (text toJson r) w).1, call.connection) ∈ l :: buffer :=
      hbuffer ▸ hin
    rcases List.mem_cons.1 hin' with hfirst | hin'
    · exfalso
      have hr' : r ∈ s.sent call.connection := List.mem_of_mem_take hr
      obtain ⟨params, hreads⟩ := hu.requests _ r hr'
      obtain ⟨response, hline, hevent, hreply⟩ := hu.replies c _ ho r hr' w hw params hreads
      rw [dispatch_served parse registry toJson hreads, hline] at hfirst
      subst hfirst
      have hnamed : (call.id == reply_id response) = true := by
        rw [hreply, hid]
        exact BEq.rfl
      rcases hcases with ⟨-, -, hnone⟩ | ⟨response', call', hresponse, -, hfind, hpending, -⟩
      · exact absurd hnamed (List.find?_eq_none.1 (hnone response rfl hevent) call hcall)
      · cases hresponse
        have hnamed' : call'.id = reply_id response := by simpa using List.find?_some hfind
        have hmoved := ((find_perm hfind).map (·.id)).nodup_iff.1 h.apart
        rw [List.map_cons, List.nodup_cons] at hmoved
        have hleft : call ∈ s.client.m_pending.eraseP (·.id == reply_id response) := hpending ▸ hc
        have hsame : call.id = call'.id := by
          rw [hnamed']
          simpa using hnamed
        exact hmoved.1 (hsame ▸ List.mem_map_of_mem hleft)
    · rw [← show (Client.readLine { s.client with buffer := buffer } l).buffer = buffer from hbuffer'] at hin'
      exact ⟨w, hw, .inr hin'⟩

theorem Pending.receive (h : s.Pending parse registry toJson line) (hb : s.Base parse registry toJson line) {c : Nat}
    {b : Bytes} {client : Client D} (hc : s.owner c = some s.client.connection)
    (hdue : (Service.account parse registry s.service.log c).due[s.heard c]? = some b)
    (ha : s.client.step (.receive (line b)) = some client) :
    Pending parse registry toJson line { s with client := client, heard := bump s.heard c } := by
  obtain rfl := receive_eq ha
  have hlt : s.heard c < (Service.account parse registry s.service.log c).due.length :=
    (List.getElem?_eq_some_iff.1 hdue).1
  refine ⟨h.apart, fun d => ?_, fun call hcall d hm ho r hr hid => ?_⟩
  · unfold bump
    dsimp only
    split
    · rename_i hd
      rw [hd]
      exact hlt
    · exact h.heard d
  · obtain ⟨w, hw, ⟨i, hi, hget⟩ | hin⟩ := h.coming call hcall d hm ho r hr hid
    · refine ⟨w, hw, ?_⟩
      have hhere : call.connection = s.client.connection := hb.client.kept.here call hcall
      obtain rfl : d = c := hb.carried.single d c _ ho (hhere ▸ hc)
      rcases Nat.eq_or_lt_of_le hi with rfl | hlt'
      · rw [hdue] at hget
        cases hget
        right
        rw [hhere]
        exact List.mem_append_right _ (List.mem_singleton_self _)
      · refine .inl ⟨i, ?_, hget⟩
        show bump s.heard d d ≤ i
        unfold bump
        rw [if_pos rfl]
        exact hlt'
    · exact ⟨w, hw, .inr (List.mem_append_left _ hin)⟩

omit [Doubles D] in
/-- What the device does leaves what is coming; `read` says what it has read since. -/
theorem Pending.serve (h : s.Pending parse registry toJson line) (hb : s.Base parse registry toJson line)
    {a : Service.Act W} (ha : s.service.step parse registry a = some s'.service) (hclient : s'.client = s.client)
    (hheard : s'.heard = s.heard)
    (hread : ∀ call ∈ s.client.m_pending, ∀ c ∈ s'.service.conns_, s'.owner c = some call.connection →
      ∀ r ∈ (s'.sent call.connection).take (s'.read c), r.id = call.id →
        Coming parse registry toJson line s' c call.connection r ∨
          s.owner c = some call.connection ∧ r ∈ (s.sent call.connection).take (s.read c)) :
    s'.Pending parse registry toJson line := by
  have hlog := (Service.step_log hb.service ha).1
  have hmore : ∀ c, (Service.account parse registry s.service.log c).due <+:
      (Service.account parse registry s'.service.log c).due := by
    intro c
    rw [hlog]
    exact due_prefix _ _ c
  refine ⟨hclient ▸ h.apart, fun c => ?_, fun call hcall c hm ho r hr hid => ?_⟩
  · rw [hheard]
    exact (h.heard c).trans (hmore c).length_le
  · have hcall' : call ∈ s.client.m_pending := hclient ▸ hcall
    rcases hread call hcall' c hm ho r hr hid with hcoming | ⟨ho', hr'⟩
    · exact hcoming
    · have hm' : c ∈ s.service.conns_ := ((Service.step_log hb.service ha).2.2 c (.inl hm)).resolve_right
        (Nat.not_le.2 (hb.carried.owned c _ ho').1)
      obtain ⟨w, hw, hcoming⟩ := h.coming call hcall' c hm' ho' r hr' hid
      refine ⟨w, grows_log hb.service ha _ hw, ?_⟩
      rw [hheard, hclient]
      refine hcoming.imp_left fun ⟨i, hi, hget⟩ => ⟨i, hi, ?_⟩
      obtain ⟨more, hmore⟩ := hmore c
      rw [← hmore, List.getElem?_append_left (List.getElem?_eq_some_iff.1 hget).1]
      exact hget

/-- A request that the server dispatches has its reply due. -/
theorem Pending.request (h : s.Pending parse registry toJson line) (hb : s.Base parse registry toJson line)
    (hu : s.Understood parse registry toJson line) {c k took : Nat} {r : Sent D} {service : Service W}
    (hc : s.owner c = some k) (hr : (s.sent k)[s.read c]? = some r)
    (ha : s.service.step parse registry (.on_line c (some (text toJson r)) took) = some service) :
    Pending parse registry toJson line { s with service := service, read := bump s.read c } := by
  obtain ⟨hlog, -, hconns⟩ := Service.step_log hb.service ha
  refine h.serve hb ha rfl rfl fun call hcall d hm ho r' hr' hid => ?_
  by_cases hd : d = c
  · subst hd
    obtain rfl : k = call.connection := Option.some.inj (hc.symm.trans ho)
    have hread : r' ∈ (s.sent call.connection).take (s.read d) ++ [r] := by
      have hbump : bump s.read d d = s.read d + 1 := if_pos rfl
      have hr'' : r' ∈ (s.sent call.connection).take (bump s.read d d) := hr'
      rwa [hbump, List.take_add_one, hr] at hr''
    rcases List.mem_append.1 hread with hread | hread
    · exact .inr ⟨ho, hread⟩
    · obtain rfl := List.mem_singleton.1 hread
      have hm' : d ∈ s.service.conns_ :=
        (hconns d (.inl hm)).resolve_right (Nat.not_le.2 (hb.carried.owned d _ ho).1)
      have hadded : service.log = s.service.log ++ [.request d (text toJson r') s.service.w] := by
        rw [hlog]
        unfold Service.added
        dsimp only
        rw [if_pos hm']
      obtain ⟨params, hreads⟩ := hu.requests _ r' (List.mem_of_getElem? hr)
      have hne : (dispatch_request parse registry (text toJson r') s.service.w).1 ≠ [] := by
        rw [dispatch_served parse registry toJson hreads]
        exact List.append_ne_nil_of_right_ne_nil _ (List.cons_ne_nil _ _)
      refine .inl ⟨s.service.w, ?_, .inl ⟨_, h.heard d, ?_⟩⟩
      · show _ ∈ service.log
        rw [hadded]
        exact List.mem_append_right _ (List.mem_singleton_self _)
      · show (Service.account parse registry service.log d).due[_]? = _
        rw [hadded, Service.account_snoc]
        unfold Service.Account.add
        dsimp only
        rw [if_pos ⟨rfl, hne⟩]
        exact List.getElem?_concat_length
  · have hbump : bump s.read c d = s.read d := if_neg hd
    have hr'' : r' ∈ (s.sent call.connection).take (bump s.read c d) := hr'
    rw [hbump] at hr''
    exact .inr ⟨ho, hr''⟩

theorem step_pending (hb : s.Base parse registry toJson line) (hu : s.Understood parse registry toJson line)
    (h : s.Pending parse registry toJson line) (hd : Did parse registry toJson line s s') :
    s'.Pending parse registry toJson line := by
  cases hd with
  | @host a client hreceive ha =>
    by_cases hsend : ∃ method params callback, a = .sendRequest method params callback
    · obtain ⟨method, params, callback, rfl⟩ := hsend
      exact h.send hb ha
    · have hother : ∀ method params callback, a ≠ .sendRequest method params callback :=
        fun method params callback hs => hsend ⟨method, params, callback, hs⟩
      rw [follow_other client hother]
      rcases step_quiet hb.client.idle ha hreceive hother with ⟨-, hk⟩ | ⟨l, buffer, hbuffer, rfl⟩
      · exact h.quiet hk
      · exact h.read hu hbuffer
  | receive hc hsent hend ha =>
    exact h.receive hb hc (whole_line (hb.service.books.took _) (fun b hb' => due_line hb hb') hsent hend) ha
  | @accept k tls_ok service hk hnew ha =>
    refine h.serve hb ha rfl rfl fun call hcall c hm ho r hr hid => .inr ?_
    have ho' : (if tls_ok then fun c => if c = s.service.accepted then some k else s.owner c else s.owner) c =
        some call.connection := ho
    split at ho'
    · dsimp only at ho'
      split at ho'
      · rename_i hfresh
        have hr' : r ∈ (s.sent call.connection).take (s.read c) := hr
        rw [hfresh, (hb.carried.unread _ (Nat.le_refl _)).1] at hr'
        cases hr'
      · exact ⟨ho', hr⟩
    · exact ⟨ho', hr⟩
  | request hc hr ha => exact h.request hb hu hc hr ha
  | device hown ha =>
    exact h.serve hb ha rfl rfl fun call hcall c hm ho r hr hid => .inr ⟨ho, hr⟩

omit [Doubles D] in
theorem init_pending (w : W) : ({ service := { w := w } } : Link D W).Pending parse registry toJson line :=
  ⟨.nil, fun _ => Nat.zero_le _, fun call hc => (by cases hc)⟩

/-- In every run of the host and the device in which each end reads what the other wrote:
once the device has read what the host sent on the connection it has, no write to it has
failed, the lines have all come and the host has read them, no request is pending. Every
callback has run, or is about to be run for a failure. -/
theorem no_reply_lost {w : W} {as : List (Act D W)}
    (h : Run (step parse registry toJson line) { service := { w := w } } as s)
    (hu : s.Understood parse registry toJson line) {c : Nat} (hc : s.owner c = some s.client.connection)
    (hserved : c ∈ s.service.conns_) (hread : s.read c = (s.sent s.client.connection).length)
    (hbroken : (s.service.sockets c).broken = false) (hheard : s.heard c = (s.service.sockets c).sent.length)
    (hbuffer : s.client.buffer = []) :
    s.client.m_pending = [] ∧
      ∀ n ∈ s.client.given, n ∈ s.client.ran.map Prod.fst ∨ n ∈ s.client.drained := by
  obtain ⟨hb, hpending⟩ := run_understood h (init_pending w) fun _ _ => step_pending
  have hsent : (s.service.sockets c).sent = (Service.account parse registry s.service.log c).due :=
    (hb.service.books.took c).complete hbroken
  have hnone : s.client.m_pending = [] := by
    refine List.eq_nil_iff_forall_not_mem.2 fun call hcall => ?_
    have hhere := hb.client.kept.here call hcall
    obtain ⟨r, hr, -, hid⟩ := hb.pending call hcall
    have hr' : r ∈ (s.sent call.connection).take (s.read c) := by
      rw [hread, hhere, List.take_length, ← hhere]
      exact hr
    obtain ⟨w, -, ⟨i, hi, hget⟩ | hin⟩ := (hpending hu).coming call hcall c hserved (hhere ▸ hc) r hr' hid
    · have hlt := (List.getElem?_eq_some_iff.1 hget).1
      rw [← hsent, ← hheard] at hlt
      exact absurd hi (Nat.not_le.2 hlt)
    · rw [hbuffer] at hin
      cases hin
  refine ⟨hnone, fun n hn => ?_⟩
  have hcount := hb.client.kept.count n
  have hpos : 0 < s.client.given.count n := List.count_pos_iff.2 hn
  have hnil : (numbers []).count n = 0 := rfl
  rw [hnone] at hcount
  rw [← List.count_pos_iff, ← List.count_pos_iff]
  omega

end

theorem no_reply_lost_two : ∃ s : Link Rat Unit,
    Run (step parse_ping Service.pings to_json read_pong) { service := { w := () } } two_pings s ∧
      s.client.m_pending = [] ∧ (s.sent 1).length = 2 := by
  obtain ⟨s, hr, h⟩ := two_pings_run
  have hu := two_pings_understood hr h
  simp only [ponged, Bool.and_eq_true, beq_iff_eq] at h
  obtain ⟨⟨⟨⟨⟨⟨⟨⟨⟨⟨-, hconnection⟩, -⟩, hrequests⟩, -⟩, howner⟩, hconns⟩, hbroken⟩, hread⟩, hheard⟩, hbuffer⟩ := h
  have hlength : (s.sent 1).length = 2 := by
    simpa using congrArg List.length hrequests
  refine ⟨s, hr, (no_reply_lost hr hu (c := 1) ?_ ?_ ?_ ?_ hheard (List.isEmpty_iff.1 hbuffer)).1, hlength⟩
  · rw [howner, hconnection]
  · exact List.contains_iff_mem.1 hconns
  · rw [hread, hconnection, hlength]
  · simpa using hbroken

end Link

end CameraStreamer.ControlLink
