import CameraStreamer.Lib.Variant
import CameraStreamer.UpdateLink
/-!
# An upload that nothing breaks comes to its end

The host fills its socket's buffer up to a limit and waits, the device reads what has
arrived and waits. Neither ever waits for the other with nothing on the way: where no
read or write fails and swupdate is there, whatever is done next is one of boundedly
many steps to success.
-/

namespace CameraStreamer.Update.UpdateLink
open Runs UpdateClient UpdateServer

/-- An outcome that is not a failure. -/
def succeeds : Outcome → Bool
  | .read (.data _) => true
  | .begin_stream_install ok => ok
  | .send (.sent k) => k != 0
  | _ => false

/-- Something that moves the upload going on, and is not a failure. -/
def productive (s : Link) (a : Act) : Bool :=
  s.client.m_busy && match a with
    | .bytesWritten _ | .receive | .host .return_slot => true
    | .host (.readyRead fails) => fails.isNone && !s.client.buffer.isEmpty
    | .device upload o => upload == s.client.begun && succeeds o
    | _ => false

/-- The host is connected, and nothing has failed. -/
structure Underway (s : Link) (c : Connection) : Prop where
  socket : s.client.socket = .connected
  connection : s.connections s.client.begun = some c
  unfailed : c.failed = none
  replies : c.device.replies <+: [Handler.ack, Handler.installing]
  size : s.client.file.length ≤ kMaxUpdateSize.toNat

/-- What is left of an upload: twice the bytes that have not left the socket, the slots
that have not returned, what the device has to do, and the replies to send and read. -/
def rest (s : Link) : Nat :=
  match s.connections s.client.begun with
  | none => 0
  | some c =>
    2 * ((header s.client.file.length).length + s.client.file.length - c.wire.length) + s.client.slots +
      (c.device.remaining + 2 * (s.client.file.length - c.device.size.toNat)) + (2 - c.heard) +
      (if s.client.m_acked then 1 else 2)

/-! ## The device -/

section

variable {size_member : Bytes → Option Int64} {d d' : Handler} {o : Outcome}

/-- The streaming loop is left in one way where nothing has failed. -/
theorem loop_top_replies {s : Handler} (h : s.Streaming [] 0) :
    s.loop_top.replies <+: [Handler.ack, Handler.installing] := by
  unfold Handler.loop_top
  split
  · show s.replies <+: _
    rw [h.acked]
    exact ⟨[Handler.installing], rfl⟩
  · rename_i hge
    have hroom := h.room
    have hall : s.received = s.size := by
      rw [UInt64.lt_iff_toNat_lt] at hge
      refine UInt64.toNat_inj.1 ?_
      simp only [List.length_nil] at hroom
      omega
    have hrep : (s.conclude true).replies = s.replies ++ [Handler.installing] := by
      unfold Handler.conclude
      dsimp only
      rw [if_neg (by simp [hall])]
      rfl
    rw [hrep, h.acked]
    exact List.prefix_rfl

/-- Once a chunk is forwarded, nothing is in hand. -/
theorem chunk_done {s : Handler} {chunk : Bytes} (hle : chunk.length ≤ 65536) (h : s.Streaming chunk chunk.length) :
    ({ s with received := s.received + (Int64.ofNat chunk.length).toUInt64 } : Handler).Streaming [] 0 := by
  obtain ⟨before, hlen, harr, hfwd⟩ := h.bytes
  have hadd := Handler.received_add h hle
  have hroom := h.room
  refine ⟨h.acked, h.accepted, ⟨before ++ chunk, ?_, ?_, ?_⟩, ?_⟩
  · rw [hadd, List.length_append, hlen]
  · rw [harr, List.append_nil]
  · rw [hfwd, List.take_length, List.take_nil, List.append_nil]
  · rw [hadd]
    exact hroom

theorem write_top_replies {s : Handler} {chunk : Bytes} {sent : UInt64} (hle : chunk.length ≤ 65536)
    (hsent : sent.toNat ≤ chunk.length) (h : s.Streaming chunk sent.toNat) :
    (s.write_top (.ofNat chunk.length) sent).replies <+: [Handler.ack, Handler.installing] := by
  have hn := Handler.count_toNat hle
  unfold Handler.write_top
  split
  · show s.replies <+: _
    rw [h.acked]
    exact ⟨[Handler.installing], rfl⟩
  · rename_i hge
    rw [UInt64.lt_iff_toNat_lt, hn] at hge
    have hall : sent.toNat = chunk.length := by omega
    unfold Handler.wrote
    rw [Int64.toInt64_toUInt64, if_neg (Handler.count_nonneg hle)]
    exact loop_top_replies (chunk_done hle (hall ▸ h))

/-- A header whose size is within the limit is not refused. -/
theorem got_header_replies {header : Bytes}
    (hsize : 0 < (d.got_header size_member header).size)
    (hmax : (d.got_header size_member header).size ≤ kMaxUpdateSize) :
    (d.got_header size_member header).replies = d.replies := by
  unfold Handler.got_header at hsize hmax ⊢
  split at hsize
  · rename_i hempty
    rw [if_pos hempty]
    rfl
  · rename_i hne
    rw [if_neg hne] at hmax ⊢
    dsimp only at hsize hmax ⊢
    split at hsize
    · rename_i hok
      rw [if_pos hok]
      rfl
    · rename_i hno
      rw [if_neg hno] at hmax
      change 0 < (Handler.parse_size size_member header).1 at hsize
      change (Handler.parse_size size_member header).1 ≤ kMaxUpdateSize at hmax
      refine absurd ?_ hno
      unfold Handler.parse_size at hsize hmax ⊢
      split at hsize
      · rename_i m hm
        rw [hm] at hmax
        exact decide_eq_true ⟨hsize, hmax⟩
      · exact absurd hsize (by decide)

/-- Past the header, what succeeds is acknowledged or installed. -/
theorem step_success (hinv : d.Inv) (hparsed : Parsed d) (ho : succeeds o = true)
    (h : d.step size_member o = some d') : d'.replies <+: [Handler.ack, Handler.installing] := by
  obtain ⟨line, -, hline, -⟩ | ⟨ok, hp, rfl, rfl⟩ | ⟨r, hp, rfl, hr, rfl⟩ | ⟨n, sent, r, hp, rfl, hr, rfl⟩ :=
    Handler.step_cases h
  · exact absurd hline (hparsed line)
  · obtain rfl : ok = true := ho
    obtain ⟨hfresh, hreplies, hsize⟩ := hinv.at hp
    refine loop_top_replies ⟨?_, hsize, ⟨[], ?_, hfresh.arrived, hfresh.forwarded⟩, ?_⟩
    · rw [hreplies, List.nil_append]
    · rw [hfresh.received]
      rfl
    · rw [hfresh.received]
      exact Nat.zero_le _
  · cases r with
    | data bytes =>
      obtain ⟨hs, hlt⟩ := hinv.at hp
      obtain ⟨hle, hroom⟩ := Handler.reading_room hlt hr
      have hne : bytes.length ≠ 0 := fun hz => hr.2 bytes rfl (List.length_eq_zero_iff.1 hz)
      unfold Handler.on_read
      rw [Read.gssize, if_neg (Handler.count_pos hne hle)]
      exact write_top_replies hle (Nat.zero_le _) (hs.take_in hroom)
    | end_of_stream => cases ho
    | error => cases ho
  · cases r with
    | sent k =>
      obtain ⟨chunk, rfl, hle, hbuf, hlt, hs⟩ := hinv.at hp
      have hk := Handler.sending_room hle hlt hr
      have hadd := Handler.sent_add hle (Nat.le_of_lt hlt) hk
      exact write_top_replies hle (by omega) (hs.hand_on hbuf hadd hk)
    | interrupted => cases ho
    | failed => cases ho

end

/-- What the device has left to do. -/
def toDo (file : Bytes) (c : Connection) : Nat := c.device.remaining + 2 * (file.length - c.device.size.toNat)

section

variable {line : String → Line} {size_member : Bytes → Option Int64} {file : Bytes} {c c' : Connection} {live : Bool}
  {o : Outcome}

/-- The size is not known, or is the file's. -/
theorem Carries.size_le (h : Carries file c) (hunfailed : c.failed = none) : c.device.size.toNat ≤ file.length := by
  cases h.stage with
  | header phase =>
    rw [(h.inv.at phase).2.2.1]
    exact Nat.zero_le _
  | body parsed size =>
    rw [size]
    exact Nat.mod_le _ _
  | lost parsed failed => exact absurd (failed.symm.trans hunfailed) (by simp)

/-- A read that brings data brings some. -/
theorem read_some {d d' : Handler} {bytes : Bytes} (h : d.step size_member (.read (.data bytes)) = some d') :
    bytes ≠ [] := by
  obtain ⟨_, r, -, ho, hr, -⟩ | ⟨_, -, ho, -⟩ | ⟨r, -, ho, hr, -⟩ | ⟨_, _, _, -, ho, -⟩ := Handler.step_cases h
  · cases ho
    exact hr.2 bytes rfl
  · cases ho
  · cases ho
    exact hr.2 bytes rfl
  · cases ho

/-- A success of the thread is one thing less to do, and not a refusal. -/
theorem device_goes_on (hp : Parses line size_member) (hpos : 0 < file.length)
    (hmax : file.length ≤ kMaxUpdateSize.toNat) (h : Carries file c) (hunfailed : c.failed = none)
    (ho : succeeds o = true) (hs : c.step size_member live o = some c') :
    c'.failed = none ∧ c'.device.replies <+: [Handler.ack, Handler.installing] ∧ toDo file c' < toDo file c := by
  have hmaxval : kMaxUpdateSize.toNat = 2147483648 := rfl
  have hcarries := step_carries hp (by omega) h hs
  obtain ⟨device, hd, hc'⟩ := step_connection hs
  have hsame : c'.failed = none ∧ c'.device = device := by
    rcases hc' with ⟨r, rfl, -, rfl⟩ | ⟨-, -, rfl⟩
    · cases r with
      | data bytes =>
        refine ⟨?_, rfl⟩
        have hsome : (Read.data bytes).bytes.isEmpty = false := List.isEmpty_eq_false_iff.2 (read_some hd)
        rw [hsome]
        exact hunfailed
      | end_of_stream => cases ho
      | error => cases ho
    · exact ⟨hunfailed, rfl⟩
  obtain ⟨hfailed, rfl⟩ := hsame
  refine ⟨hfailed, ?_, ?_⟩
  · by_cases hparsed : Parsed c.device
    · exact step_success h.inv hparsed ho hd
    · -- in the header, or just past it
      obtain ⟨l, hl⟩ := not_forall_not.1 hparsed
      obtain ⟨r, rfl, hfits, hdevice⟩ := step_header hl hd
      have hnone : c.device.replies = [] := (h.inv.at hl).2.1
      cases hcarries.stage with
      | header phase =>
        rw [(hcarries.inv.at phase).2.1]
        exact List.nil_prefix
      | lost parsed failed => exact absurd (failed.symm.trans hfailed) (by simp)
      | body parsed size =>
        have hvalue : c'.device.size.toNat = file.length := by
          rw [size, UInt64.toNat_ofNat']
          exact Nat.mod_eq_of_lt (by omega)
        have hlow : 0 < c'.device.size := UInt64.lt_iff_toNat_lt.2 (hvalue ▸ hpos)
        have hhigh : c'.device.size ≤ kMaxUpdateSize := UInt64.le_iff_toNat_le.2 (hvalue ▸ hmax)
        have hreplies : c'.device.replies = c.device.replies := by
          rcases on_header_cases size_member c.device l r with ⟨l', hgoto⟩ | ⟨header, hgot⟩
          · exact absurd (hdevice.trans hgoto ▸ rfl) (parsed l')
          · rw [hdevice, hgot] at hlow hhigh ⊢
            exact got_header_replies hlow hhigh
        rw [hreplies, hnone]
        exact List.nil_prefix
  · have hrest := Handler.step_remaining h.inv hd
    have hidle : Handler.idle o = false := by
      cases o with
      | read r => rfl
      | begin_stream_install ok => rfl
      | send r =>
        cases r with
        | sent k => exact bne_iff_ne.1 ho |> beq_eq_false_iff_ne.2
        | interrupted => cases ho
        | failed => cases ho
    rw [hidle] at hrest
    have hbefore := h.size_le hunfailed
    have hafter := hcarries.size_le hfailed
    unfold toDo
    simp only [Bool.false_eq_true, if_false] at hrest
    omega

end

/-! ## Nothing to do but productive steps -/

section

variable {line : String → Line} {size_member : Bytes → Option Int64} {s s' : Link} {c : Connection}

/-- The next byte on the wire. -/
theorem next_byte (h : c.read < c.wire.length) (hunfailed : c.failed = none) (live : Bool) :
    ∃ b, c.brings live (.data [b]) = true := by
  obtain ⟨b, rest, hrest⟩ := List.exists_cons_of_length_pos (l := c.wire.drop c.read) (by
    rw [List.length_drop]
    omega)
  refine ⟨b, ?_⟩
  unfold Connection.brings
  rw [hunfailed, Bool.and_eq_true, List.isPrefixOf_iff_prefix, hrest]
  exact ⟨rfl, rest, rfl⟩

theorem connection_next {o : Outcome} {d : Handler} {live : Bool} (hd : c.device.step size_member o = some d)
    (hbrings : ∀ r, o = .read r → c.brings live r = true) : ∃ c', c.step size_member live o = some c' := by
  unfold Connection.step
  rw [hd, Option.bind_some]
  cases o with
  | read r =>
    dsimp only
    rw [if_pos (hbrings r rfl)]
    exact ⟨_, rfl⟩
  | begin_stream_install ok => exact ⟨_, rfl⟩
  | send r => exact ⟨_, rfl⟩

theorem byte_fits {count : UInt64} (h : count ≠ 0) (b : UInt8) : (Read.data [b]).Fits count := by
  refine ⟨?_, fun bytes he => ?_⟩
  · have hpos : count.toNat ≠ 0 := fun h0 => h (UInt64.toNat_inj.1 h0)
    show 1 ≤ count.toNat
    omega
  · cases he
    exact List.cons_ne_nil _ _

/-- A thread that waits for something that is there can go on. -/
theorem device_next (hinv : c.device.Inv) (hunfailed : c.failed = none) (hbusy : c.device.phase ≠ .finished)
    (hread : c.device.phase = .reading ∨ (∃ l, c.device.phase = .header l) → c.read < c.wire.length) (live : Bool) :
    ∃ o c', succeeds o = true ∧ c.step size_member live o = some c' := by
  have hdata : ∀ b d, c.brings live (.data [b]) = true → c.device.step size_member (.read (.data [b])) = some d →
      ∃ o c', succeeds o = true ∧ c.step size_member live o = some c' := by
    intro b d hb hd
    obtain ⟨c', hc'⟩ := connection_next hd fun r hr => by
      cases hr
      exact hb
    exact ⟨_, c', rfl, hc'⟩
  have hother : ∀ o d, succeeds o = true → (∀ r, o ≠ .read r) → c.device.step size_member o = some d →
      ∃ o c', succeeds o = true ∧ c.step size_member live o = some c' := by
    intro o d ho hne hd
    obtain ⟨c', hc'⟩ := connection_next hd fun r hr => absurd hr (hne r)
    exact ⟨o, c', ho, hc'⟩
  cases hp : c.device.phase with
  | header l =>
    obtain ⟨b, hb⟩ := next_byte (hread (.inr ⟨l, hp⟩)) hunfailed live
    refine hdata b (c.device.on_header size_member l (.data [b])) hb ?_
    unfold Handler.step
    rw [hp]
    exact if_pos (byte_fits (by decide) b)
  | connecting =>
    refine hother (.begin_stream_install true) (c.device.on_begin true) rfl (fun r h => by cases h) ?_
    unfold Handler.step
    rw [hp]
  | reading =>
    obtain ⟨b, hb⟩ := next_byte (hread (.inl hp)) hunfailed live
    have hlt := (hinv.at hp).2
    have hroom : c.device.to_read ≠ 0 := by
      intro h0
      have hval := Handler.to_read_toNat hlt
      have hsize := UInt64.lt_iff_toNat_lt.1 hlt
      rw [h0, UInt64.toNat_zero] at hval
      omega
    refine hdata b (c.device.on_read (.data [b])) hb ?_
    unfold Handler.step
    rw [hp]
    exact if_pos (byte_fits hroom b)
  | sending n sent =>
    obtain ⟨chunk, rfl, hle, -, hlt, -⟩ := hinv.at hp
    have hn := Handler.count_toNat hle
    have hsub := UInt64.toNat_sub_of_le (Int64.ofNat chunk.length).toUInt64 sent (UInt64.le_iff_toNat_le.2 (by omega))
    have hsome : (Int64.ofNat chunk.length).toUInt64 - sent ≠ 0 := by
      intro h0
      rw [h0, UInt64.toNat_zero] at hsub
      omega
    refine hother (.send (.sent ((Int64.ofNat chunk.length).toUInt64 - sent)))
      (c.device.on_send (.ofNat chunk.length) sent (.sent ((Int64.ofNat chunk.length).toUInt64 - sent)))
      (bne_iff_ne.2 hsome) (fun r h => by cases h) ?_
    unfold Handler.step
    rw [hp]
    exact if_pos (UInt64.le_refl _)
  | finished => exact absurd hp hbusy

/-- Where the host has sent and read all it can, the device has something to do. -/
theorem device_waits (h : Inv line s) (hu : Underway s c) (hcur : Current line s.client c)
    (hbuffer : s.client.buffer = []) (hheard : c.device.replies.length ≤ c.heard) (hslots : s.client.slots = 0)
    (hempty : s.client.toWrite = 0) :
    c.device.phase ≠ .finished ∧
      (c.device.phase = .reading ∨ (∃ l, c.device.phase = .header l) → c.read < c.wire.length) := by
  have hcarries := h.carries _ c hu.connection
  have hbusy : s.client.m_busy = true := h.client.phase.busy (by rw [hu.socket]; decide)
  rw [h.file hbusy] at hcarries
  obtain ⟨unsent, hwritten, hlength⟩ := hcur.written
  rw [hempty, List.length_eq_zero_iff] at hlength
  rw [hlength, List.append_nil] at hwritten
  have hread : c.device.replies.length ≤ if s.client.m_acked then 1 else 0 := by
    have hnone := hcur.buffer
    rw [hbuffer, List.take_of_length_le hheard, eq_comm, List.map_eq_nil_iff, List.drop_eq_nil_iff] at hnone
    exact hnone
  have hsocket := hu.socket
  refine ⟨fun hfinished => ?_, fun hp => ?_⟩
  · -- a thread that is finished has replied twice
    have hsome : c.device.replies ≠ [] := by
      cases hcarries.stage with
      | header phase => exact absurd (phase.symm.trans hfinished) (by simp)
      | body parsed size read arrived answered => exact answered hfinished
      | lost parsed failed => exact absurd (failed.symm.trans hu.unfailed) (by simp)
    rcases hcarries.inv.at hfinished with ⟨-, hreplies⟩ | hconcluded
    · have hprefix := hu.replies
      simp only [List.mem_cons, List.not_mem_nil, or_false] at hreplies
      rcases hreplies with hreplies | hreplies | hreplies
      · exact hsome hreplies
      · rw [hreplies] at hprefix
        exact absurd hprefix (by decide)
      · rw [hreplies] at hprefix
        exact absurd hprefix (by decide)
    · rw [hconcluded.replied] at hread
      change 2 ≤ _ at hread
      split at hread <;> omega
  · cases hcarries.stage with
    | lost parsed failed => exact absurd (failed.symm.trans hu.unfailed) (by simp)
    | header phase short =>
      have hheader : (header s.client.file.length).length ≤ c.wire.length := by
        rw [← hwritten]
        cases h.client.phase with
        | idle socket => exact absurd (socket.symm.trans hsocket) (by decide)
        | connecting socket => exact absurd (socket.symm.trans hsocket) (by decide)
        | waiting socket uploading acked closed written => exact Nat.le_of_eq (congrArg List.length written.symm)
        | streaming f socket uploading acked positive streaming =>
          rw [streaming.written, List.length_append]
          exact Nat.le_add_right _ _
      omega
    | body parsed size read arrived =>
      have hreading : c.device.phase = .reading := hp.resolve_right (not_exists.2 parsed)
      obtain ⟨hs, hlt⟩ := hcarries.inv.at hreading
      rw [hs.acked] at hread
      cases h.client.phase with
      | idle socket => exact absurd (socket.symm.trans hsocket) (by decide)
      | connecting socket => exact absurd (socket.symm.trans hsocket) (by decide)
      | waiting socket uploading acked =>
        rw [acked] at hread
        exact absurd hread (by decide)
      | streaming f socket uploading acked positive streaming pending =>
        have hend : s.client.file.length ≤ f.pos := by
          by_contra hmore
          have hsome := pending hslots (by omega)
          omega
        have hwire := streaming.written
        rw [hwritten, List.take_of_length_le hend] at hwire
        obtain ⟨before, hbefore, harrived, -⟩ := hs.bytes
        have hcount := congrArg List.length arrived
        have hsize := UInt64.lt_iff_toNat_lt.1 hlt
        have hvalue : c.device.size.toNat ≤ s.client.file.length := by
          rw [size]
          exact Nat.mod_le _ _
        rw [harrived, List.append_nil, hbefore, List.length_drop, List.length_take_of_le hcarries.read_le] at hcount
        rw [hwire, List.length_append]
        omega

/-- An upload that is underway has something productive to do. -/
theorem Underway.next (h : Inv line s) (hu : Underway s c) :
    ∃ a s', productive s a = true ∧ s.step line size_member a = some s' := by
  have hcarries := h.carries _ c hu.connection
  have hbusy : s.client.m_busy = true := h.client.phase.busy (by rw [hu.socket]; decide)
  have hcurrent : s.current = some c := (if_pos hu.socket).trans hu.connection
  obtain ⟨c', hc', hcur⟩ := h.current hu.socket
  obtain rfl := Option.some.inj (hu.connection.symm.trans hc')
  have hproductive : ∀ a, productive s a = s.client.m_busy → productive s a = true := fun a ha => ha.trans hbusy
  have hgo : ∀ a, productive s a = true → (∃ s', s.step line size_member a = some s') →
      ∃ a s', productive s a = true ∧ s.step line size_member a = some s' := by
    rintro a ha ⟨s', hs'⟩
    exact ⟨a, s', ha, hs'⟩
  by_cases hread : s.client.buffer = []
  · by_cases hheard : c.heard < c.device.replies.length
    · refine hgo .receive (hproductive _ (Bool.and_true _)) ?_
      dsimp only [Link.step]
      rw [hcurrent, Option.bind_some, hu.unfailed, Option.all_none, if_pos rfl, List.getElem?_eq_getElem hheard,
        Option.bind_some]
      dsimp only [Client.step]
      rw [if_pos hu.socket]
      exact ⟨_, rfl⟩
    · by_cases hslots : s.client.slots = 0
      · by_cases hempty : s.client.toWrite = 0
        · obtain ⟨hfinished, hreads⟩ := device_waits h hu hcur hread (by omega) hslots hempty
          obtain ⟨o, c', ho, hc'⟩ := device_next hcarries.inv hu.unfailed hfinished hreads
            (s.client.socket == .connected && s.client.begun == s.client.begun)
          refine hgo (.device s.client.begun o) ?_ ?_
          · unfold productive
            dsimp only
            rw [hbusy, beq_self_eq_true, ho]
            rfl
          · dsimp only [Link.step]
            rw [hu.connection, Option.bind_some, hc']
            exact ⟨_, rfl⟩
        · refine hgo (.bytesWritten s.client.toWrite) (hproductive _ (Bool.and_true _)) ?_
          dsimp only [Link.step]
          rw [hcurrent, Option.bind_some]
          dsimp only [Client.step]
          rw [if_pos ⟨hu.socket, Nat.pos_of_ne_zero hempty, Nat.le_refl _⟩]
          exact ⟨_, rfl⟩
      · obtain ⟨slots, hslots'⟩ : ∃ slots, s.client.slots = slots + 1 := ⟨s.client.slots - 1, by omega⟩
        refine hgo (.host .return_slot) (hproductive _ (Bool.and_true _)) ?_
        dsimp only [Link.step]
        rw [show own .return_slot = true from rfl, if_pos rfl]
        dsimp only [Client.step]
        rw [hslots']
        exact ⟨_, rfl⟩
  · refine hgo (.host (.readyRead none)) ?_ ?_
    · unfold productive
      dsimp only
      rw [hbusy, List.isEmpty_eq_false_iff.2 hread]
      rfl
    · dsimp only [Link.step]
      rw [show own (.readyRead none) = true from rfl, if_pos rfl]
      dsimp only [Client.step]
      rw [if_pos hu.socket]
      exact ⟨_, rfl⟩

/-! ## Each productive step -/

theorem rest_eq (h : s.connections s.client.begun = some c) : rest s =
    2 * ((header s.client.file.length).length + s.client.file.length - c.wire.length) + s.client.slots +
      toDo s.client.file c + (2 - c.heard) + (if s.client.m_acked then 1 else 2) := by
  unfold rest
  rw [h]
  rfl

theorem rest_follow {client : Client} (hbegun : client.begun = s.client.begun)
    (h : s.connections s.client.begun = some c) : rest (s.follow client) =
      2 * ((header client.file.length).length + client.file.length - c.wire.length) + client.slots +
        toDo client.file c + (2 - c.heard) + (if client.m_acked then 1 else 2) := by
  have hc : (s.follow client).connections (s.follow client).client.begun = some c := by
    show s.connections client.begun = some c
    rw [hbegun, h]
  exact rest_eq hc

theorem connect_self (s : Link) (upload : Nat) (c : Connection) : (s.connect upload c).connections upload = some c :=
  if_pos rfl

/-- The upload goes on with less to do. -/
def GoesOnTo (s s' : Link) : Prop :=
  s'.client.begun = s.client.begun ∧ (∃ c, Underway s' c) ∧ rest s' < rest s

theorem connected_nonempty {client : Client} (h : client.Inv) (hsocket : client.socket = .connected) :
    0 < client.file.length := by
  cases h.phase with
  | idle socket => exact absurd (socket.symm.trans hsocket) (by decide)
  | connecting _ uploading => exact uploading.nonempty
  | waiting _ uploading => exact uploading.nonempty
  | streaming _ _ uploading => exact uploading.nonempty

theorem written_length {client : Client} (h : client.Inv) :
    client.written.length ≤ (header client.file.length).length + client.file.length := by
  rcases h.phase.written with hnone | ⟨n, hn, -⟩
  · rw [hnone]
    exact Nat.zero_le _
  · rw [hn, List.length_append, List.length_take]
    omega

theorem Underway.bytesWritten (h : Inv line s) (hu : Underway s c) {bytes : Nat}
    (hs : s.step line size_member (.bytesWritten bytes) = some s') : GoesOnTo s s' := by
  obtain ⟨c', hc, hs⟩ := Option.bind_eq_some_iff.1 hs
  obtain ⟨client, hclient, rfl⟩ := Option.map_eq_some_iff.1 hs
  obtain ⟨hsocket, hc⟩ := current_some hc
  obtain rfl := Option.some.inj (hc.symm.trans hu.connection)
  obtain ⟨d, hd, hcur⟩ := h.current hsocket
  obtain rfl := Option.some.inj (hc.symm.trans hd)
  obtain ⟨unsent, hwritten, hlength⟩ := hcur.written
  have hbound := written_length h.client
  obtain ⟨m_sent, drained, slots, hpos, hle, hslots, rfl⟩ := bytesWritten_same hclient
  rw [unsent_eq hwritten hlength]
  refine ⟨rfl, ⟨_, hsocket, connect_self _ _ _, hu.unfailed, hu.replies, hu.size⟩, ?_⟩
  rw [rest_eq hc, rest_eq (connect_self _ _ _)]
  unfold toDo Link.connect
  rw [hwritten, List.length_append] at hbound
  simp only [List.length_append, List.length_take]
  omega

theorem Underway.receive (hu : Underway s c)
    (hs : s.step line size_member .receive = some s') : GoesOnTo s s' := by
  obtain ⟨c', hc, hs⟩ := Option.bind_eq_some_iff.1 hs
  obtain ⟨-, hs⟩ := Option.ite_none_right_eq_some.1 hs
  obtain ⟨json, hjson, hs⟩ := Option.bind_eq_some_iff.1 hs
  obtain ⟨client, hclient, rfl⟩ := Option.map_eq_some_iff.1 hs
  obtain ⟨hsocket, hc⟩ := current_some hc
  obtain rfl := Option.some.inj (hc.symm.trans hu.connection)
  obtain ⟨-, hclient⟩ := Option.ite_none_right_eq_some.1 hclient
  obtain rfl := Option.some.inj hclient
  have htwo : c'.heard < 2 := by
    have hlt := (List.getElem?_eq_some_iff.1 hjson).1
    have hreplies := hu.replies.length_le
    exact Nat.lt_of_lt_of_le hlt hreplies
  refine ⟨rfl, ⟨_, hsocket, connect_self _ _ _, hu.unfailed, hu.replies, hu.size⟩, ?_⟩
  rw [rest_eq hc, rest_eq (connect_self _ _ _)]
  unfold toDo Link.connect
  dsimp only
  omega

theorem Underway.device (hp : Parses line size_member) (h : Inv line s) (hu : Underway s c) {o : Outcome}
    (ho : succeeds o = true) (hs : s.step line size_member (.device s.client.begun o) = some s') : GoesOnTo s s' := by
  obtain ⟨c', hc, hs⟩ := Option.bind_eq_some_iff.1 hs
  obtain ⟨d, hd, rfl⟩ := Option.map_eq_some_iff.1 hs
  obtain rfl := Option.some.inj (hc.symm.trans hu.connection)
  have hbusy : s.client.m_busy = true := h.client.phase.busy (by rw [hu.socket]; decide)
  have hcarries := h.carries _ c' hc
  rw [h.file hbusy] at hcarries
  obtain ⟨hfailed, hreplies, hless⟩ := device_goes_on hp (connected_nonempty h.client hu.socket) hu.size hcarries hu.unfailed ho hd
  have hsame : d.wire = c'.wire ∧ d.heard = c'.heard := by
    obtain ⟨device, -, ⟨r, -, -, rfl⟩ | ⟨-, -, rfl⟩⟩ := step_connection hd
    · exact ⟨rfl, rfl⟩
    · exact ⟨rfl, rfl⟩
  refine ⟨rfl, ⟨_, hu.socket, connect_self _ _ _, hfailed, hreplies, hu.size⟩, ?_⟩
  rw [rest_eq hc, rest_eq (connect_self _ _ _), hsame.1, hsame.2]
  unfold Link.connect
  dsimp only
  omega

theorem Underway.return_slot (hu : Underway s c) (hs : s.step line size_member (.host .return_slot) = some s') :
    GoesOnTo s s' := by
  obtain ⟨-, client, hclient, rfl⟩ := step_host hs
  simp only [Client.step] at hclient
  split at hclient
  · cases hclient
  · rename_i slots hslots
    obtain ⟨m_file, more, hwrites⟩ := progressed_writes { s.client with slots := slots }
    have hclient := (Option.some.inj hclient).symm.trans hwrites
    have hc := hu.connection
    have hbegun : client.begun = s.client.begun := by rw [hclient]
    have hrest := rest_follow hbegun hc
    subst hclient
    refine ⟨rfl, ⟨c, hu.socket, hc, hu.unfailed, hu.replies, hu.size⟩, ?_⟩
    rw [rest_eq hc, hrest]
    dsimp only
    omega

/-- Reading a reply goes on, or is the success. -/
theorem Underway.readyRead (hp : Parses line size_member) (h : Inv line s) (hu : Underway s c)
    (hbuffer : s.client.buffer ≠ []) (hs : s.step line size_member (.host (.readyRead none)) = some s') :
    GoesOnTo s s' ∨ ∃ response, Ends s.client s'.client (.uploadFinished response) := by
  obtain ⟨-, client, hclient, rfl⟩ := step_host hs
  obtain ⟨hsocket, hclient⟩ := Option.ite_none_right_eq_some.1 hclient
  have hclient := Option.some.inj hclient
  have hc := hu.connection
  obtain ⟨d, hd, hcur⟩ := h.current hsocket
  obtain rfl := Option.some.inj (hc.symm.trans hd)
  obtain ⟨json, lines, hheard⟩ := List.exists_cons_of_ne_nil (l := c.device.replies.take c.heard) (by
    intro hnone
    have hempty := hcur.buffer
    rw [hnone, List.drop_nil, List.map_nil] at hempty
    exact hbuffer hempty)
  -- the replies that were heard are the acknowledgement, and perhaps the verdict
  have hprefix : json :: lines <+: [Handler.ack, Handler.installing] := by
    rw [← hheard]
    exact (List.take_prefix _ _).trans hu.replies
  obtain ⟨rfl, hlines⟩ := List.cons_prefix_cons.1 hprefix
  have hread := hcur.buffer
  rw [hheard] at hread
  cases hacked : s.client.m_acked with
  | false =>
    rw [hacked, if_neg (by decide), List.drop_zero, List.map_cons, hp.ack] at hread
    rw [hread] at hclient
    rcases read_ack s.client none (lines.map line) hacked with ⟨hfails, -⟩ | ⟨m_file, more, hwrites⟩
    · exact absurd rfl hfails
    · have hclient := hclient.symm.trans hwrites
      have hbegun : client.begun = s.client.begun := by rw [hclient]
      have hrest := rest_follow hbegun hc
      subst hclient
      refine .inl ⟨rfl, ⟨c, hsocket, hc, hu.unfailed, hu.replies, hu.size⟩, ?_⟩
      rw [rest_eq hc, hrest, hacked]
      simp only [if_true, Bool.false_eq_true, if_false]
      omega
  | true =>
    rw [hacked, if_pos rfl, List.drop_one, List.tail_cons] at hread
    cases lines with
    | nil => exact absurd hread hbuffer
    | cons verdict others =>
      obtain ⟨rfl, -⟩ := List.cons_prefix_cons.1 hlines
      rw [List.map_cons, hp.installing] at hread
      refine .inr ⟨[("ok", .bool true), ("state", .string "installing")], ?_⟩
      show Ends s.client client _
      rw [← hclient, hread]
      unfold Client.onReadyRead
      rw [hacked]
      exact finish_succeeds _ _

/-! ## The whole upload -/

/-- An upload that is underway, in a state that the two ends can be in. -/
def Pending (line : String → Line) (upload : Nat) (s : Link) : Prop :=
  Inv line s ∧ s.client.begun = upload ∧ ∃ c, Underway s c

/-- It has ended, with success. -/
def Succeeded (line : String → Line) (upload : Nat) (s : Link) : Prop :=
  Inv line s ∧ s.client.m_busy = false ∧ ∃ response, (upload, .uploadFinished response) ∈ s.client.verdicts

theorem upload_variant (hp : Parses line size_member) (upload : Nat) :
    Variant (Link.step line size_member) (fun s a => productive s a = true) (Pending line upload)
      (Succeeded line upload) rest := by
  refine ⟨?_, ?_, ?_⟩
  · rintro s a s' ⟨hinv, rfl, c, hu⟩ hgood hs
    have hinv' := step_inv hp hinv hs
    have hon : GoesOnTo s s' → Pending line s.client.begun s' ∧ rest s' < rest s := fun hon =>
      ⟨⟨hinv', hon.1, hon.2.1⟩, hon.2.2⟩
    obtain ⟨-, hkind⟩ := Bool.and_eq_true_iff.1 hgood
    cases a with
    | connected buf => cases hkind
    | bytesWritten bytes => exact .inl (hon (hu.bytesWritten hinv hs))
    | receive => exact .inl (hon (hu.receive hs))
    | device u o =>
      obtain ⟨hu', ho⟩ := Bool.and_eq_true_iff.1 hkind
      rw [beq_iff_eq] at hu'
      subst hu'
      exact .inl (hon (hu.device hp hinv ho hs))
    | host a =>
      cases a with
      | return_slot => exact .inl (hon (hu.return_slot hs))
      | readyRead fails =>
        obtain ⟨hfails, hbuffer⟩ := Bool.and_eq_true_iff.1 hkind
        obtain rfl := Option.isNone_iff_eq_none.1 hfails
        rw [Bool.not_eq_true', List.isEmpty_eq_false_iff] at hbuffer
        rcases hu.readyRead hp hinv hbuffer hs with hgoes | ⟨response, hends⟩
        · exact .inl (hon hgoes)
        · refine .inr ⟨⟨hinv', hends.busy, response, ?_⟩, ?_⟩
          · rw [hends.verdicts]
            exact List.mem_append_right _ (List.mem_singleton_self _)
          · rw [rest_eq hu.connection]
            split <;> omega
      | _ => cases hkind
  · rintro s a ⟨-, hidle, -⟩ hgood
    unfold productive at hgood
    rw [hidle] at hgood
    cases hgood
  · rintro s ⟨hinv, -, c, hu⟩
    exact hu.next hinv

/-- From wherever an upload is that nothing has broken, its productive steps are bounded, in
whatever order they are taken; while there are no more it has succeeded, and then the
device has the whole file. -/
theorem upload_completes (line : String → Line) (size_member : Bytes → Option Int64) (hp : Parses line size_member)
    (as : List Act) (s : Link) (h : Run (Link.step line size_member) {} as s) (c : Connection) (hu : Underway s c)
    (bs : List Act) (t : Link) (h' : Run (Link.step line size_member) s bs t)
    (hm : Meets (Link.step line size_member) (fun s a => productive s a = true) s bs) :
    bs.length ≤ rest s ∧
    ((∃ a t', productive t a = true ∧ t.step line size_member a = some t') ∨
      ∃ response c, (s.client.begun, .uploadFinished response) ∈ t.client.verdicts ∧
        t.connections s.client.begun = some c ∧ c.device.forwarded = t.file s.client.begun) := by
  have hinv : Inv line s := h.inv (Inv line) init_inv fun _ _ _ hI hs => step_inv hp hI hs
  obtain ⟨hle, hend⟩ := (upload_variant hp s.client.begun).ends ⟨hinv, rfl, c, hu⟩ h' hm
  refine ⟨hle, ?_⟩
  rcases hend with ⟨hinv', -, response, hmem⟩ | hnext
  · obtain ⟨d, hd, hi⟩ := hinv'.finished _ response hmem
    exact .inr ⟨response, d, hmem, hd, (hinv'.carries _ d hd).installing (hinv'.short _) hi⟩
  · exact .inl hnext

end

/-- Three bytes, from the moment the host has connected. -/
theorem upload_completes_three : ∃ s t, Run (Link.step reply_line header_number) {} (three_bytes.take 2) s ∧
    Run (Link.step reply_line header_number) s (three_bytes.drop 2) t ∧ (three_bytes.drop 2).length ≤ rest s ∧
    ((∃ a t', productive t a = true ∧ t.step reply_line header_number a = some t') ∨
      ∃ response c, (s.client.begun, .uploadFinished response) ∈ t.client.verdicts ∧
        t.connections s.client.begun = some c ∧ c.device.forwarded = t.file s.client.begun) := by
  have hfirst : exec (Link.step reply_line header_number) {} (three_bytes.take 2) = some _ := rfl
  have hall : (exec (Link.step reply_line header_number) {} (three_bytes.take 2 ++ three_bytes.drop 2)).isSome = true :=
    by decide +kernel
  obtain ⟨t, ht⟩ := Option.isSome_iff_exists.1 hall
  have hs := run_of_exec hfirst
  have hrest := (run_of_exec ht).rest hs
  have hunderway : Underway ((exec (Link.step reply_line header_number) {} (three_bytes.take 2)).get rfl)
      ⟨[], 0, .accepted stack, 0, none⟩ := ⟨rfl, rfl, rfl, by decide, by decide⟩
  have hgood : Meets (Link.step reply_line header_number) (fun s a => productive s a = true)
      ((exec (Link.step reply_line header_number) {} (three_bytes.take 2)).get rfl) (three_bytes.drop 2) :=
    meets_of_checks (by decide +kernel)
  exact ⟨_, t, hs, hrest, upload_completes _ _ parses _ _ hs _ hunderway _ _ hrest hgood⟩

end CameraStreamer.Update.UpdateLink
