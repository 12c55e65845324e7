import Mathlib.Data.List.TakeWhile
import CameraStreamer.UpdateServer
import CameraStreamer.UpdateClient
/-!
# An upload, from the host's file to swupdate

The host's `UpdateClient` and the device's `handle_connection` on the two ends of
their connections. What has left the host's socket is read by the device in any
pieces; what the device replies reaches the host line by line. Either end may fail at
any time, and the threads of connections that the host has given up go on.
-/

namespace CameraStreamer.Update.UpdateLink
open Runs UpdateClient UpdateServer

/-- How the two ends read each other's JSON: `line` is a line as the host parses it,
`size_member` the member `size` as the device does. -/
structure Parses (line : String → Line) (size_member : Bytes → Option Int64) : Prop where
  ack : line Handler.ack = .object [("ok", .bool true)]
  invalid_size : line Handler.invalid_size =
    .object [("ok", .bool false), ("error", .string "invalid or missing size")]
  busy : line Handler.busy = .object [("ok", .bool false), ("error", .string "swupdate busy or unavailable")]
  incomplete : line Handler.incomplete = .object [("ok", .bool false), ("error", .string "upload incomplete")]
  installing : line Handler.installing = .object [("ok", .bool true), ("state", .string "installing")]
  size : ∀ n, n < 2 ^ 63 → size_member (size_text n) = some (.ofNat n)

structure Connection where
  /-- What has left the host's socket, and how much of it the device has read. -/
  wire : Bytes
  read : Nat
  device : Handler
  /-- The replies that have reached the host. -/
  heard : Nat
  /-- Set once a read has failed or found the end: the replies there were then. Later
  ones do not reach the host. -/
  failed : Option Nat

structure Link where
  client : Client := {}
  /-- The connection and the file of an upload. -/
  connections : Nat → Option Connection := fun _ => none
  file : Nat → Bytes := fun _ => []

inductive Act where
  | connected (buf : Buffer)
  | bytesWritten (bytes : Nat)
  /-- A reply reaches the host. -/
  | receive
  /-- Any other event of the host. -/
  | host (a : UpdateClient.Act)
  /-- What a call of a connection's thread returns. -/
  | device (upload : Nat) (o : Outcome)

/-- An event that is not about what the connection carries. A file's size is a
`qint64`, and `errorString` is not empty. -/
def own : UpdateClient.Act → Bool
  | .connected | .receive _ | .bytesWritten _ => false
  | .uploadFile _ (.ok content) => content.length < 2 ^ 63
  | .errorOccurred message => message ≠ ""
  | _ => true

/-- What a read may bring: the bytes that come next, or their end once the host has
closed the connection. A read that fails is the last one that brings anything. -/
def Connection.brings (c : Connection) (live : Bool) : Read → Bool
  | .data bytes => c.failed.isNone && bytes.isPrefixOf (c.wire.drop c.read)
  | .end_of_stream => c.failed.isSome || (!live && c.read == c.wire.length)
  | .error => true

section

variable (line : String → Line) (size_member : Bytes → Option Int64)

def Connection.step (c : Connection) (live : Bool) (o : Outcome) : Option Connection :=
  (c.device.step size_member o).bind fun device =>
    match o with
    | .read r =>
      if c.brings live r then
        some { c with
          device := device
          read := c.read + r.bytes.length
          failed := if r.bytes.isEmpty then some (c.failed.getD c.device.replies.length) else c.failed }
      else none
    | _ => some { c with device := device }

namespace Link

def connect (s : Link) (upload : Nat) (c : Connection) : Link :=
  { s with connections := fun u => if u = upload then some c else s.connections u }

/-- The host goes on; an upload that begins is that of its file. -/
def follow (s : Link) (client : Client) : Link :=
  { s with
    client := client
    file := if client.begun = s.client.begun then s.file
      else fun u => if u = client.begun then client.file else s.file u }

/-- The connection of the upload going on. -/
def current (s : Link) : Option Connection :=
  if s.client.socket = .connected then s.connections s.client.begun else none

/-- What is in the socket's buffer. -/
def unsent (client : Client) : Bytes := client.written.drop (client.written.length - client.toWrite)

def step (s : Link) : Act → Option Link
  | .connected buf => (s.client.step .connected).map fun client =>
    { s with client := client }.connect client.begun ⟨[], 0, .accepted buf, 0, none⟩
  | .bytesWritten bytes => s.current.bind fun c =>
    (s.client.step (.bytesWritten bytes)).map fun client =>
      { s with client := client }.connect client.begun { c with wire := c.wire ++ (unsent s.client).take bytes }
  | .receive => s.current.bind fun c =>
    if c.failed.all (c.heard < ·) then
      c.device.replies[c.heard]?.bind fun json =>
        (s.client.step (.receive (line json))).map fun client =>
          { s with client := client }.connect client.begun { c with heard := c.heard + 1 }
    else none
  | .host a =>
    if own a then (s.client.step a).map s.follow else none
  | .device upload o => (s.connections upload).bind fun c =>
    (c.step size_member (s.client.socket == .connected && upload == s.client.begun) o).map (s.connect upload)

end Link

end

/-! ## The header -/

theorem header_eq (n : Nat) : header n = size_text n ++ [10] := rfl

theorem size_text_eq (n : Nat) : size_text n =
    [123, 34, 115, 105, 122, 101, 34, 58] ++ (Nat.toDigits 10 n).map (fun c => UInt8.ofNat c.toNat) ++ [125] := by
  have hdigits : Json.int_text (n : Int) = (Nat.toDigits 10 n).map fun c => UInt8.ofNat c.toNat := by
    unfold Json.int_text
    rw [if_neg (by omega), Int.natAbs_natCast, List.nil_append]
  have hname : utf8 "\x7b\"size\":" = [123, 34, 115, 105, 122, 101, 34, 58] := by decide +kernel
  have hend : utf8 "\x7d" = [125] := by decide +kernel
  rw [size_text, hdigits, hname, hend]

theorem digit_byte {c : Char} (hc : c.isDigit) : (UInt8.ofNat c.toNat).toNat = c.toNat ∧ 48 ≤ c.toNat ∧ c.toNat ≤ 57 := by
  have h : 48 ≤ c.toNat ∧ c.toNat ≤ 57 := by
    simp only [Char.isDigit, Bool.and_eq_true, decide_eq_true_eq] at hc
    exact hc
  refine ⟨?_, h⟩
  rw [UInt8.toNat_ofNat']
  exact Nat.mod_eq_of_lt (by omega)

/-- `header.c_str()` is the whole line. -/
theorem size_text_nul (n : Nat) : ∀ b ∈ size_text n, b ≠ 0 := by
  intro b hb h0
  subst h0
  rw [size_text_eq, List.mem_append, List.mem_append, List.mem_map] at hb
  rcases hb with (hb | ⟨c, hc, hb⟩) | hb
  · exact absurd hb (by decide)
  · obtain ⟨hval, hlow, -⟩ := digit_byte (Nat.isDigit_of_mem_toDigits (by omega) (by omega) hc)
    rw [hb] at hval
    have hzero : (0 : UInt8).toNat = 0 := rfl
    omega
  · exact absurd hb (by decide)

theorem size_text_length {n : Nat} (hn : n < 2 ^ 63) : (size_text n).length ≤ 29 := by
  have hdigits : (Nat.toDigits 10 n).length ≤ 20 := by
    rw [Nat.length_toDigits_le_iff (by omega) (by omega)]
    omega
  rw [size_text_eq]
  simp only [List.length_append, List.length_map, List.length_cons, List.length_nil]
  omega

theorem size_text_ne (n : Nat) : size_text n ≠ [] := by
  rw [size_text_eq]
  exact List.cons_ne_nil _ _

theorem size_text_line (n : Nat) : 10 ∉ size_text n := by
  have hname : 10 ∉ utf8 "\x7b\"size\":" := by decide +kernel
  have hend : 10 ∉ utf8 "\x7d" := by decide +kernel
  rw [size_text, List.mem_append, List.mem_append, not_or, not_or]
  exact ⟨⟨hname, Json.int_text_line _⟩, hend⟩

theorem parse_size_text {line : String → Line} {size_member : Bytes → Option Int64} (hp : Parses line size_member)
    {n : Nat} (hn : n < 2 ^ 63) : (Handler.parse_size size_member (size_text n)).1 = .ofNat n := by
  have hwhole : (size_text n).takeWhile (· ≠ 0) = size_text n := by
    rw [List.takeWhile_eq_self_iff]
    exact fun b hb => decide_eq_true (size_text_nul n b hb)
  unfold Handler.parse_size
  rw [hwhole, hp.size n hn]
  rfl

/-! ## What an outcome does to a handler -/

/-- The bytes an outcome brings. -/
def brought : Outcome → Bytes
  | .read r => r.bytes
  | _ => []

/-- `handle_connection` is past `read_line`. -/
def Parsed (d : Handler) : Prop := ∀ line, d.phase ≠ .header line

/-- Past the header, with the bytes `more` read and perhaps a reply sent. -/
structure GoesOn (d d' : Handler) (more : Bytes) : Prop where
  parsed : Parsed d'
  size : d'.size = d.size
  arrived : d'.arrived = d.arrived ++ more
  replies : d.replies <+: d'.replies
  answered : d'.phase = .finished → d'.replies ≠ []

theorem conclude_goes_on (d : Handler) (upload_ok : Bool) : GoesOn d (d.conclude upload_ok) [] := by
  unfold Handler.conclude
  dsimp only
  split
  · exact ⟨fun _ h => (by cases h), rfl, (List.append_nil _).symm, List.prefix_append _ _,
      fun _ => List.append_ne_nil_of_right_ne_nil _ (List.cons_ne_nil _ _)⟩
  · exact ⟨fun _ h => (by cases h), rfl, (List.append_nil _).symm, List.prefix_append _ _,
      fun _ => List.append_ne_nil_of_right_ne_nil _ (List.cons_ne_nil _ _)⟩

theorem loop_top_goes_on (d : Handler) : GoesOn d d.loop_top [] := by
  unfold Handler.loop_top
  split
  · exact ⟨fun _ h => (by cases h), rfl, (List.append_nil _).symm, List.prefix_rfl, fun h => (by cases h)⟩
  · exact conclude_goes_on d true

theorem wrote_goes_on (d : Handler) (n ret : Int64) : GoesOn d (d.wrote n ret) [] := by
  unfold Handler.wrote
  split
  · exact conclude_goes_on d false
  · exact { loop_top_goes_on _ with }

theorem write_top_goes_on (d : Handler) (n : Int64) (sent : UInt64) : GoesOn d (d.write_top n sent) [] := by
  unfold Handler.write_top
  split
  · exact ⟨fun _ h => (by cases h), rfl, (List.append_nil _).symm, List.prefix_rfl, fun h => (by cases h)⟩
  · exact wrote_goes_on d n _

theorem to_read_le (d : Handler) : d.to_read.toNat ≤ 65536 := by
  show (if (65536 : UInt64) ≤ d.size - d.received then 65536 else d.size - d.received).toNat ≤ 65536
  split
  · exact Nat.le_refl _
  · rename_i hlt
    rw [UInt64.le_iff_toNat_le] at hlt
    exact Nat.le_of_lt (Nat.lt_of_not_le hlt)

/-- Past the header, an outcome adds the bytes it brings. -/
theorem step_goes_on {size_member : Bytes → Option Int64} {d d' : Handler} {o : Outcome} (hp : Parsed d)
    (h : d.step size_member o = some d') : GoesOn d d' (brought o) := by
  obtain ⟨line, -, hline, -⟩ | ⟨ok, -, rfl, rfl⟩ | ⟨r, -, rfl, hr, rfl⟩ | ⟨n, sent, r, hsending, rfl, -, rfl⟩ :=
    Handler.step_cases h
  · exact absurd hline (hp line)
  · unfold Handler.on_begin
    split
    · have hloop := loop_top_goes_on { d with replies := d.replies ++ [Handler.ack] }
      exact ⟨hloop.parsed, hloop.size, hloop.arrived, (List.prefix_append _ _).trans hloop.replies,
        hloop.answered⟩
    · exact ⟨fun _ h => (by cases h), rfl, (List.append_nil _).symm, List.prefix_append _ _,
        fun _ => List.append_ne_nil_of_right_ne_nil _ (List.cons_ne_nil _ _)⟩
  · unfold Handler.on_read
    split
    · rename_i hnone
      have hnothing : r.bytes = [] := by
        cases r with
        | data bytes =>
          have hle : bytes.length ≤ 65536 := hr.1.trans (to_read_le d)
          refine absurd hnone (Handler.count_pos (fun h0 => hr.2 bytes rfl ?_) hle)
          exact List.length_eq_zero_iff.1 h0
        | end_of_stream => rfl
        | error => rfl
      rw [brought, hnothing]
      exact conclude_goes_on d false
    · have hwrite := write_top_goes_on (d.take_in r.bytes) r.gssize 0
      refine ⟨hwrite.parsed, hwrite.size, ?_, hwrite.replies, hwrite.answered⟩
      rw [hwrite.arrived, List.append_nil]
      rfl
  · cases r with
    | interrupted =>
      refine ⟨hp, rfl, (List.append_nil _).symm, List.prefix_rfl, fun hfinished => ?_⟩
      exact absurd (hsending.symm.trans hfinished) (by simp)
    | failed => exact wrote_goes_on d n (-1)
    | sent k => exact { write_top_goes_on (d.hand_on sent k) n (sent + k) with }

/-- With a header, or without one. -/
theorem got_header_parsed (size_member : Bytes → Option Int64) (d : Handler) (header : Bytes) :
    Parsed (d.got_header size_member header) ∧ (d.got_header size_member header).arrived = d.arrived ∧
      d.replies <+: (d.got_header size_member header).replies ∧
      (header ≠ [] → (d.got_header size_member header).size = (Handler.parse_size size_member header).1 ∧
        ((d.got_header size_member header).phase = .finished → (d.got_header size_member header).replies ≠ [])) := by
  unfold Handler.got_header
  split
  · rename_i hempty
    exact ⟨fun _ h => (by cases h), rfl, List.prefix_rfl, fun hne => absurd hempty hne⟩
  · dsimp only
    split
    · exact ⟨fun _ h => (by cases h), rfl, List.prefix_rfl, fun _ => ⟨rfl, fun h => (by cases h)⟩⟩
    · exact ⟨fun _ h => (by cases h), rfl, List.prefix_append _ _,
        fun _ => ⟨rfl, fun _ => List.append_ne_nil_of_right_ne_nil _ (List.cons_ne_nil _ _)⟩⟩

/-- A byte in the header is kept, or the header is over. -/
theorem on_header_cases (size_member : Bytes → Option Int64) (d : Handler) (l : Bytes) (r : Read) :
    (∃ l', d.on_header size_member l r = d.goto (.header l')) ∨
      ∃ header, d.on_header size_member l r = d.got_header size_member header := by
  unfold Handler.on_header
  split
  · exact .inr ⟨l, rfl⟩
  · split
    · exact .inr ⟨l, rfl⟩
    · split
      · exact .inr ⟨_, rfl⟩
      · exact .inl ⟨_, rfl⟩

/-- What has been replied is not taken back. -/
theorem step_replies {size_member : Bytes → Option Int64} {d d' : Handler} {o : Outcome}
    (h : d.step size_member o = some d') : d.replies <+: d'.replies := by
  by_cases hp : Parsed d
  · exact (step_goes_on hp h).replies
  · obtain ⟨l, hl⟩ := not_forall_not.1 hp
    obtain ⟨l', r, -, -, -, rfl⟩ | ⟨_, hother, -⟩ | ⟨_, hother, -⟩ | ⟨_, _, _, hother, -⟩ := Handler.step_cases h
    · rcases on_header_cases size_member d l' r with ⟨_, hgoto⟩ | ⟨header, hgot⟩
      · rw [hgoto]
        exact List.prefix_rfl
      · rw [hgot]
        exact (got_header_parsed size_member d header).2.2.1
    · exact absurd (hl.symm.trans hother) (by simp)
    · exact absurd (hl.symm.trans hother) (by simp)
    · exact absurd (hl.symm.trans hother) (by simp)

/-! ## What the device has made of a connection -/

/-- Where the device stands, when the host's file is `file`: in the header, after it,
or after a read that failed in it. -/
inductive Stage (file : Bytes) (c : Connection) : Prop
  | header (phase : c.device.phase = .header (c.wire.take c.read)) (short : c.read < (header file.length).length)
      (unfailed : c.failed = none)
  | body (parsed : Parsed c.device) (size : c.device.size = .ofNat file.length)
      (read : (UpdateClient.header file.length).length ≤ c.read)
      (arrived : c.device.arrived = (c.wire.take c.read).drop (UpdateClient.header file.length).length)
      (answered : c.device.phase = .finished → c.device.replies ≠ [])
  | lost (parsed : Parsed c.device) (failed : c.failed = some 0) (arrived : c.device.arrived = [])

structure Carries (file : Bytes) (c : Connection) : Prop where
  inv : c.device.Inv
  wire : c.wire <+: header file.length ++ file
  read_le : c.read ≤ c.wire.length
  stage : Stage file c

section

variable {line : String → Line} {size_member : Bytes → Option Int64} {c c' : Connection} {live : Bool} {o : Outcome}

/-- What a connection's thread does with an outcome. -/
theorem step_connection (h : c.step size_member live o = some c') :
    ∃ device, c.device.step size_member o = some device ∧
      ((∃ r, o = .read r ∧ c.brings live r = true ∧
        c' = { c with
          device := device
          read := c.read + r.bytes.length
          failed := if r.bytes.isEmpty then some (c.failed.getD c.device.replies.length) else c.failed }) ∨
      (brought o = [] ∧ (∀ r, o ≠ .read r) ∧ c' = { c with device := device })) := by
  obtain ⟨device, hd, h⟩ := Option.bind_eq_some_iff.1 h
  refine ⟨device, hd, ?_⟩
  cases o with
  | read r =>
    obtain ⟨hr, h⟩ := Option.ite_none_right_eq_some.1 h
    exact .inl ⟨r, rfl, hr, (Option.some.inj h).symm⟩
  | begin_stream_install ok => exact .inr ⟨rfl, fun _ he => (by cases he), (Option.some.inj h).symm⟩
  | send r => exact .inr ⟨rfl, fun _ he => (by cases he), (Option.some.inj h).symm⟩

/-- The bytes of a read are the next on the wire. -/
theorem brings_data {bytes : Bytes} (h : c.brings live (.data bytes) = true) :
    c.failed = none ∧ bytes <+: c.wire.drop c.read := by
  unfold Connection.brings at h
  rw [Bool.and_eq_true, Option.isNone_iff_eq_none, List.isPrefixOf_iff_prefix] at h
  exact h

theorem take_brought {bytes : Bytes} (h : bytes <+: c.wire.drop c.read) (hle : c.read ≤ c.wire.length) :
    c.wire.take (c.read + bytes.length) = c.wire.take c.read ++ bytes ∧ c.read + bytes.length ≤ c.wire.length := by
  refine ⟨?_, ?_⟩
  · rw [List.take_add, ← List.prefix_iff_eq_take.1 h]
  · have hlen := h.length_le
    rw [List.length_drop] at hlen
    omega

/-- In the header a byte is read at a time. -/
theorem step_header {l : Bytes} {device : Handler} (hphase : c.device.phase = .header l)
    (h : c.device.step size_member o = some device) :
    ∃ r, o = .read r ∧ r.Fits 1 ∧ device = c.device.on_header size_member l r := by
  obtain ⟨l', r, hl, rfl, hr, rfl⟩ | ⟨_, hother, -⟩ | ⟨_, hother, -⟩ | ⟨_, _, _, hother, -⟩ := Handler.step_cases h
  · obtain rfl := Phase.header.inj (hphase.symm.trans hl)
    exact ⟨r, rfl, hr, rfl⟩
  · exact absurd (hphase.symm.trans hother) (by simp)
  · exact absurd (hphase.symm.trans hother) (by simp)
  · exact absurd (hphase.symm.trans hother) (by simp)

/-- In the header, byte by byte up to its newline. -/
theorem header_carries (hp : Parses line size_member) {file : Bytes} (hfile : file.length < 2 ^ 63)
    (h : Carries file c) (hphase : c.device.phase = .header (c.wire.take c.read))
    (hshort : c.read < (header file.length).length) (hunfailed : c.failed = none)
    (hs : c.step size_member live o = some c') : Carries file c' := by
  obtain ⟨device, hd, hread⟩ := step_connection hs
  obtain ⟨r, rfl, hfits, rfl⟩ := step_header hphase hd
  have hinv := Handler.step_inv h.inv hd
  obtain ⟨hfresh, hreplies, -⟩ := h.inv.at hphase
  obtain ⟨r', hr', hbrings, rfl⟩ | ⟨-, hother, -⟩ := hread
  · cases hr'
    by_cases hnone : r.bytes = []
    · -- the end or an error: no reply from here on reaches the host
      have hgot : c.device.on_header size_member (c.wire.take c.read) r =
          c.device.got_header size_member (c.wire.take c.read) := by
        unfold Handler.on_header
        rw [hnone]
      obtain ⟨hparsed, harrived, -⟩ := got_header_parsed size_member c.device (c.wire.take c.read)
      refine ⟨hinv, h.wire, ?_, .lost ?_ ?_ ?_⟩
      · rw [hnone]
        exact h.read_le
      · dsimp only
        rw [hgot]
        exact hparsed
      · rw [hnone, hunfailed, hreplies]
        rfl
      · dsimp only
        rw [hgot, harrived, hfresh.arrived]
    · obtain ⟨b, rfl⟩ : ∃ b, r = .data [b] := by
        cases r with
        | data bytes =>
          obtain ⟨b, rfl⟩ := List.length_eq_one_iff.1
            (Nat.le_antisymm hfits.1 (List.length_pos_iff.2 (hfits.2 bytes rfl)))
          exact ⟨b, rfl⟩
        | end_of_stream => exact absurd rfl hnone
        | error => exact absurd rfl hnone
      have hnext := (brings_data hbrings).2
      obtain ⟨htake, hle⟩ := take_brought hnext h.read_le
      -- what has been read begins the header
      have hbegin : c.wire.take c.read ++ [b] <+: header file.length := by
        have hpre : c.wire.take (c.read + 1) <+: header file.length ++ file := (List.take_prefix _ _).trans h.wire
        have hlen : (c.wire.take (c.read + 1)).length ≤ (header file.length).length := by
          rw [List.length_take]
          omega
        rw [← htake]
        exact List.prefix_of_prefix_length_le hpre (List.prefix_append _ _) hlen
      have hcount : (c.wire.take c.read).length = c.read := List.length_take_of_le h.read_le
      rw [header_eq, List.length_append, List.length_singleton] at hshort
      by_cases hend : c.read = (size_text file.length).length
      · -- the newline
        have hwhole : c.wire.take c.read ++ [b] = size_text file.length ++ [10] :=
          hbegin.eq_of_length (by rw [header_eq, List.length_append, List.length_append, hcount, hend]; rfl)
        obtain ⟨htext, hb⟩ := List.append_inj' hwhole rfl
        obtain ⟨hparsed, harrived, -, hsize⟩ := got_header_parsed size_member c.device (c.wire.take c.read)
        have hne : c.wire.take c.read ≠ [] := htext ▸ size_text_ne _
        have hgot : c.device.on_header size_member (c.wire.take c.read) (.data [b]) =
            c.device.got_header size_member (c.wire.take c.read) := by
          rw [(List.cons.inj hb).1]
          rfl
        refine ⟨hinv, h.wire, hle, .body ?_ ?_ ?_ ?_ ?_⟩
        · dsimp only
          rw [hgot]
          exact hparsed
        · dsimp only
          rw [hgot, (hsize hne).1, htext, parse_size_text hp hfile]
        · rw [header_eq, List.length_append, hend]
          exact Nat.le_refl _
        · dsimp only
          rw [hgot, harrived, hfresh.arrived, List.drop_eq_nil_of_le]
          rw [List.length_take, header_eq, List.length_append, hend]
          exact Nat.min_le_left _ _
        · dsimp only
          rw [hgot]
          exact (hsize hne).2
      · have htext : c.wire.take c.read ++ [b] <+: size_text file.length :=
          List.prefix_of_prefix_length_le hbegin (List.prefix_append _ _) (by
            rw [List.length_append, hcount, List.length_singleton]
            omega)
        have hb : b ≠ 10 := by
          rintro rfl
          exact size_text_line _ (htext.subset (List.mem_append_right _ (List.mem_singleton_self _)))
        have hlong : (c.wire.take c.read ++ [b]).length ≤ 29 := htext.length_le.trans (size_text_length hfile)
        have hgot : c.device.on_header size_member (c.wire.take c.read) (.data [b]) =
            c.device.goto (.header (c.wire.take c.read ++ [b])) := by
          unfold Handler.on_header
          dsimp only [Read.bytes]
          rw [if_neg hb, if_neg (by omega)]
        refine ⟨hinv, h.wire, hle, .header ?_ ?_ hunfailed⟩
        · dsimp only [Read.bytes]
          rw [hgot, htake]
          rfl
        · rw [header_eq, List.length_append]
          exact Nat.succ_lt_succ (by omega)
  · exact absurd rfl (hother r)

/-- What a thread does, it does to what its connection carries. -/
theorem step_carries (hp : Parses line size_member) {file : Bytes} (hfile : file.length < 2 ^ 63)
    (h : Carries file c) (hs : c.step size_member live o = some c') : Carries file c' := by
  cases h.stage with
  | header phase short unfailed => exact header_carries hp hfile h phase short unfailed hs
  | body parsed size read arrived =>
    obtain ⟨device, hd, ⟨r, rfl, hbrings, rfl⟩ | ⟨hnone, -, rfl⟩⟩ := step_connection hs
    · have hstep := step_goes_on parsed hd
      have hinv := Handler.step_inv h.inv hd
      cases r with
      | data bytes =>
        obtain ⟨htake, hle⟩ := take_brought (brings_data hbrings).2 h.read_le
        refine ⟨hinv, h.wire, hle, .body hstep.parsed (hstep.size.trans size) (read.trans (Nat.le_add_right _ _)) ?_
          hstep.answered⟩
        rw [hstep.arrived, arrived]
        dsimp only [brought, Read.bytes]
        rw [htake, List.drop_append_of_le_length]
        rw [List.length_take_of_le h.read_le]
        exact read
      | end_of_stream =>
        refine ⟨hinv, h.wire, h.read_le, .body hstep.parsed (hstep.size.trans size) read ?_ hstep.answered⟩
        rw [hstep.arrived, arrived]
        exact List.append_nil _
      | error =>
        refine ⟨hinv, h.wire, h.read_le, .body hstep.parsed (hstep.size.trans size) read ?_ hstep.answered⟩
        rw [hstep.arrived, arrived]
        exact List.append_nil _
    · have hstep := step_goes_on parsed hd
      refine ⟨Handler.step_inv h.inv hd, h.wire, h.read_le, .body hstep.parsed (hstep.size.trans size) read ?_ hstep.answered⟩
      rw [hstep.arrived, arrived, hnone]
      exact List.append_nil _
  | lost parsed failed arrived =>
    obtain ⟨device, hd, ⟨r, rfl, hbrings, rfl⟩ | ⟨hnone, -, rfl⟩⟩ := step_connection hs
    · have hstep := step_goes_on parsed hd
      have hinv := Handler.step_inv h.inv hd
      cases r with
      | data bytes => exact absurd ((brings_data hbrings).1.symm.trans failed) (by simp)
      | end_of_stream =>
        refine ⟨hinv, h.wire, h.read_le, .lost hstep.parsed ?_ ?_⟩
        · dsimp only
          rw [failed]
          rfl
        · rw [hstep.arrived, arrived]
          rfl
      | error =>
        refine ⟨hinv, h.wire, h.read_le, .lost hstep.parsed ?_ ?_⟩
        · dsimp only
          rw [failed]
          rfl
        · rw [hstep.arrived, arrived]
          rfl
    · have hstep := step_goes_on parsed hd
      refine ⟨Handler.step_inv h.inv hd, h.wire, h.read_le, .lost hstep.parsed failed ?_⟩
      rw [hstep.arrived, arrived, hnone]
      rfl

end

/-! ## What the device has replied and forwarded -/

theorem replies_cases {d : Handler} (h : d.Inv) :
    (d.replies ∈ [[], [Handler.invalid_size], [Handler.busy]] ∧ d.forwarded = []) ∨ d.replies = [Handler.ack] ∨
      (d.replies = [Handler.ack, d.verdict] ∧ 0 < d.size) := by
  unfold Handler.Inv Handler.Fits at h
  split at h
  · exact .inl ⟨by simp [h.2.1], h.1.forwarded⟩
  · exact .inl ⟨by simp [h.2.1], h.1.forwarded⟩
  · exact .inr (.inl h.1.acked)
  · obtain ⟨chunk, -, -, -, -, hs⟩ := h
    exact .inr (.inl hs.acked)
  · rcases h with ⟨hfresh, hreplies⟩ | hconcluded
    · exact .inl ⟨hreplies, hfresh.forwarded⟩
    · exact .inr (.inr ⟨hconcluded.replied, hconcluded.accepted.1⟩)

theorem forwarded_arrived {d : Handler} (h : d.Inv) : d.forwarded <+: d.arrived := by
  unfold Handler.Inv Handler.Fits at h
  split at h
  · exact h.1.forwarded ▸ List.nil_prefix
  · exact h.1.forwarded ▸ List.nil_prefix
  · exact h.1.ordered
  · obtain ⟨chunk, -, -, -, -, hs⟩ := h
    exact hs.ordered
  · rcases h with ⟨hfresh, -⟩ | hconcluded
    · exact hfresh.forwarded ▸ List.nil_prefix
    · exact hconcluded.ordered

/-- The first reply, and the one after it. -/
theorem reply_cases {d : Handler} (h : d.Inv) {json : String} {rest : List String} (hr : d.replies = json :: rest) :
    ((json = Handler.invalid_size ∨ json = Handler.busy) ∧ rest = []) ∨
      json = Handler.ack ∧ (rest = [] ∨ rest = [Handler.installing] ∨ rest = [Handler.incomplete]) := by
  rcases replies_cases h with ⟨hreplies, -⟩ | hreplies | ⟨hreplies, -⟩
  · rw [hr] at hreplies
    simp only [List.mem_cons, List.not_mem_nil, or_false, List.cons.injEq, reduceCtorEq, false_or] at hreplies
    rcases hreplies with ⟨rfl, rfl⟩ | ⟨rfl, rfl⟩
    · exact .inl ⟨.inl rfl, rfl⟩
    · exact .inl ⟨.inr rfl, rfl⟩
  · obtain ⟨rfl, rfl⟩ := List.cons.inj (hr.symm.trans hreplies)
    exact .inr ⟨rfl, .inl rfl⟩
  · obtain ⟨rfl, rfl⟩ := List.cons.inj (hr.symm.trans hreplies)
    refine .inr ⟨rfl, .inr ?_⟩
    unfold Handler.verdict
    split
    · exact .inl rfl
    · exact .inr rfl

/-- A thread that says it is installing has forwarded as many bytes as it was told. -/
theorem installing_whole {d : Handler} (h : d.Inv) (hi : Handler.installing ∈ d.replies) :
    d.forwarded.length = d.size.toNat ∧ 0 < d.size := by
  rcases replies_cases h with ⟨hreplies, -⟩ | hreplies | ⟨hreplies, hsize⟩
  · simp only [List.mem_cons, List.not_mem_nil, or_false] at hreplies
    rcases hreplies with hreplies | hreplies | hreplies
    · rw [hreplies] at hi
      cases hi
    · rw [hreplies] at hi
      exact absurd hi (by decide)
    · rw [hreplies] at hi
      exact absurd hi (by decide)
  · rw [hreplies] at hi
    exact absurd hi (by decide)
  · refine ⟨?_, hsize⟩
    rw [hreplies] at hi
    by_contra hne
    rw [Handler.verdict, if_neg hne] at hi
    exact absurd hi (by decide)

theorem Carries.arrived {file : Bytes} {c : Connection} (h : Carries file c) : c.device.arrived <+: file := by
  cases h.stage with
  | header phase =>
    obtain ⟨hfresh, -⟩ := h.inv.at phase
    exact hfresh.arrived ▸ List.nil_prefix
  | body parsed size read arrived =>
    obtain ⟨rest, hrest⟩ := (List.take_prefix c.read c.wire).trans h.wire
    have hdrop := congrArg (List.drop (UpdateClient.header file.length).length) hrest
    rw [List.drop_left, List.drop_append_of_le_length (by rwa [List.length_take_of_le h.read_le]), ← arrived] at hdrop
    exact ⟨rest, hdrop⟩
  | lost parsed failed arrived => exact arrived ▸ List.nil_prefix

theorem Carries.forwarded {file : Bytes} {c : Connection} (h : Carries file c) : c.device.forwarded <+: file :=
  (forwarded_arrived h.inv).trans h.arrived

/-- Only the whole file is called installing. -/
theorem Carries.installing {file : Bytes} {c : Connection} (h : Carries file c) (hfile : file.length < 2 ^ 63)
    (hi : Handler.installing ∈ c.device.replies) : c.device.forwarded = file := by
  obtain ⟨hlength, hpos⟩ := installing_whole h.inv hi
  have hne : 0 < c.device.size.toNat := UInt64.lt_iff_toNat_lt.1 hpos
  cases h.stage with
  | header phase =>
    obtain ⟨-, hreplies, -⟩ := h.inv.at phase
    rw [hreplies] at hi
    cases hi
  | body parsed size read arrived =>
    refine h.forwarded.eq_of_length ?_
    rw [hlength, size, UInt64.toNat_ofNat']
    exact Nat.mod_eq_of_lt (by omega)
  | lost parsed failed arrived =>
    have hnone := (forwarded_arrived h.inv).length_le
    rw [arrived, List.length_nil] at hnone
    omega

/-! ## The host's end of its connection -/

/-- The client after `more` has been written to its socket. -/
theorem fill_writes (n : Nat) (client : Client) : ∃ m_file more, Client.fill n client =
    { client with m_file := m_file, written := client.written ++ more, toWrite := client.toWrite + more.length } := by
  induction n generalizing client with
  | zero => exact ⟨client.m_file, [], by simp [Client.fill]⟩
  | succ n ih =>
    have hturn : ∀ m_file chunk, ∃ m_file' more, Client.fill n ({ client with m_file := m_file }.write chunk) =
        { client with
          m_file := m_file'
          written := client.written ++ more
          toWrite := client.toWrite + more.length } := by
      intro m_file chunk
      obtain ⟨m_file', more, hfill⟩ := ih ({ client with m_file := m_file }.write chunk)
      refine ⟨m_file', chunk ++ more, hfill.trans ?_⟩
      simp only [Client.write, List.append_assoc, List.length_append, Nat.add_assoc]
    unfold Client.fill
    split
    · exact ⟨client.m_file, [], by simp⟩
    · dsimp only
      split
      · split
        · exact ⟨client.m_file, [], by simp⟩
        · exact hturn _ _
      · exact ⟨client.m_file, [], by simp⟩

theorem writeNextChunk_writes (client : Client) : ∃ m_file more, client.writeNextChunk =
    { client with m_file := m_file, written := client.written ++ more, toWrite := client.toWrite + more.length } := by
  obtain ⟨m_file, more, hfill⟩ := fill_writes client.file.length client
  unfold Client.writeNextChunk
  dsimp only
  rw [hfill]
  split
  · exact ⟨none, more, rfl⟩
  · exact ⟨m_file, more, rfl⟩

theorem progressed_writes (client : Client) : ∃ m_file more, client.progressed =
    { client with m_file := m_file, written := client.written ++ more, toWrite := client.toWrite + more.length } := by
  unfold Client.progressed
  split
  · exact writeNextChunk_writes client
  · exact ⟨client.m_file, [], by simp⟩

section

variable (line : String → Line)

/-- The host's socket and the connection it is connected to: what was written has
left or is in the buffer, and the replies that were heard are being read in order. -/
structure Current (client : Client) (c : Connection) : Prop where
  socket : client.socket = .connected
  written : ∃ rest, client.written = c.wire ++ rest ∧ rest.length = client.toWrite
  heard_le : c.heard ≤ c.device.replies.length
  buffer : client.buffer = ((c.device.replies.take c.heard).drop (if client.m_acked then 1 else 0)).map line
  acked : client.m_acked = true → Handler.ack ∈ c.device.replies ∧ 1 ≤ c.heard

end

/-- The upload has ended with a verdict. -/
structure Ends (s s' : Client) (verdict : Verdict) : Prop where
  socket : s'.socket = .unconnected
  busy : s'.m_busy = false
  begun : s'.begun = s.begun
  verdicts : s'.verdicts = s.verdicts ++ [(s.begun, verdict)]

theorem finish_fails (s : Client) {error : String} (h : error ≠ "") (response : Json.Members Rat) :
    Ends s (s.finish response error) (.uploadError error) := by
  refine ⟨rfl, rfl, rfl, ?_⟩
  show s.verdicts ++ [(s.begun, if error ≠ "" then _ else _)] = _
  rw [if_pos h]

theorem finish_succeeds (s : Client) (response : Json.Members Rat) :
    Ends s (s.finish response "") (.uploadFinished response) := ⟨rfl, rfl, rfl, rfl⟩

/-- Whatever has been acknowledged, a refusal ends the upload. -/
theorem read_refusal (s : Client) (fails : Option String) (lines : List Line) {error : String} (h : error ≠ "") :
    ∃ message, Ends s (Client.onReadyRead fails (.object [("ok", .bool false), ("error", .string error)] :: lines) s)
      (.uploadError message) := by
  unfold Client.onReadyRead
  dsimp only
  split
  · rw [if_pos (by rfl)]
    exact ⟨_, finish_fails _ h _⟩
  · rw [if_neg (by exact Bool.false_ne_true)]
    exact ⟨_, finish_fails _ h _⟩

/-- Where there is no line, there is nothing to do. -/
theorem read_nothing {s : Client} (h : s.buffer = []) (fails : Option String) :
    Client.onReadyRead fails s.buffer s = s := by
  rw [h]
  unfold Client.onReadyRead
  rw [← h]

theorem text_append_ne {s : String} (t : String) (h : s ≠ "") : s ++ t ≠ "" := by
  intro h0
  exact h (String.append_eq_empty_iff.1 h0).1

/-- The acknowledgement opens the file and fills the socket's buffer, if the file is there. -/
theorem read_ack (s : Client) (fails : Option String) (lines : List Line) (hacked : s.m_acked = false) :
    (fails ≠ none ∧ ∃ message, Ends s (Client.onReadyRead fails (.object [("ok", .bool true)] :: lines) s)
      (.uploadError message)) ∨
    ∃ m_file more, Client.onReadyRead fails (.object [("ok", .bool true)] :: lines) s = { s with
      buffer := lines
      m_acked := true
      positive := true
      drained := 0
      m_file := m_file
      written := s.written ++ more
      toWrite := s.toWrite + more.length } := by
  unfold Client.onReadyRead
  rw [hacked]
  dsimp only
  rw [if_pos (by decide), if_neg (by decide)]
  unfold Client.startFileStreaming
  cases fails with
  | some errorString =>
    have hmessage : "Cannot re-open " ++ s.m_filePath ++ ": " ++ errorString ≠ "" := by
      rw [String.append_assoc, String.append_assoc]
      exact text_append_ne _ (by decide)
    have hends := finish_fails { s with
      buffer := lines
      m_acked := true
      positive := true
      drained := 0 } hmessage []
    exact .inl ⟨Option.some_ne_none _, _, ⟨hends.socket, hends.busy, hends.begun, hends.verdicts⟩⟩
  | none =>
    obtain ⟨m_file, more, hwrites⟩ := writeNextChunk_writes { s with
      buffer := lines
      m_acked := true
      positive := true
      drained := 0
      m_file := some ⟨s.file, 0⟩ }
    exact .inr ⟨m_file, more, hwrites⟩

section

variable {line : String → Line} {size_member : Bytes → Option Int64} {client : Client} {c : Connection}

/-- The first reply. -/
theorem read_first (hp : Parses line size_member) (hinv : c.device.Inv) (h : Current line client c)
    (hacked : client.m_acked = false) (fails : Option String) :
    Current line (Client.onReadyRead fails client.buffer client) c ∧
        (Client.onReadyRead fails client.buffer client).verdicts = client.verdicts ∧
        (Client.onReadyRead fails client.buffer client).begun = client.begun ∨
      ∃ message, Ends client (Client.onReadyRead fails client.buffer client) (.uploadError message) := by
  have hbuffer := h.buffer
  rw [hacked, if_neg (by decide), List.drop_zero] at hbuffer
  cases hheard : c.device.replies.take c.heard with
  | nil =>
    rw [hheard, List.map_nil] at hbuffer
    rw [read_nothing hbuffer]
    exact .inl ⟨h, rfl, rfl⟩
  | cons json lines =>
    have hreplies : c.device.replies = json :: (lines ++ c.device.replies.drop c.heard) := by
      rw [← List.cons_append, ← hheard, List.take_append_drop]
    rw [hheard, List.map_cons] at hbuffer
    rw [hbuffer]
    rcases reply_cases hinv hreplies with ⟨rfl | rfl, -⟩ | ⟨rfl, -⟩
    · rw [hp.invalid_size]
      exact .inr (read_refusal _ _ _ (by decide))
    · rw [hp.busy]
      exact .inr (read_refusal _ _ _ (by decide))
    · rw [hp.ack]
      rcases read_ack client fails (lines.map line) hacked with hfails | ⟨m_file, more, hwrites⟩
      · exact .inr hfails.2
      · obtain ⟨rest, hwritten, hlength⟩ := h.written
        rw [hwrites]
        refine .inl ⟨⟨h.socket, ⟨rest ++ more, ?_, ?_⟩, h.heard_le, ?_, fun _ => ⟨?_, ?_⟩⟩, rfl, rfl⟩
        · dsimp only
          rw [hwritten, List.append_assoc]
        · dsimp only
          rw [List.length_append, hlength]
        · dsimp only
          rw [hheard]
          rfl
        · rw [hreplies]
          exact List.mem_cons_self
        · have hlen := congrArg List.length hheard
          rw [List.length_take, List.length_cons] at hlen
          omega

/-- The reply after the acknowledgement. -/
theorem read_second (hp : Parses line size_member) (hinv : c.device.Inv) (h : Current line client c)
    (hacked : client.m_acked = true) (fails : Option String) :
    Current line (Client.onReadyRead fails client.buffer client) c ∧
        (Client.onReadyRead fails client.buffer client).verdicts = client.verdicts ∧
        (Client.onReadyRead fails client.buffer client).begun = client.begun ∨
      (∃ message, Ends client (Client.onReadyRead fails client.buffer client) (.uploadError message)) ∨
      Handler.installing ∈ c.device.replies ∧
        ∃ response, Ends client (Client.onReadyRead fails client.buffer client) (.uploadFinished response) := by
  have hbuffer := h.buffer
  rw [hacked, if_pos rfl] at hbuffer
  obtain ⟨hack, hfirst⟩ := h.acked hacked
  obtain ⟨json, rest, hreplies⟩ := List.exists_cons_of_ne_nil (List.ne_nil_of_mem hack)
  obtain ⟨heard, hheard⟩ : ∃ heard, c.heard = heard + 1 := ⟨c.heard - 1, by omega⟩
  rw [hreplies, hheard, List.take_succ_cons, List.drop_one, List.tail_cons] at hbuffer
  cases hnext : rest.take heard with
  | nil =>
    rw [hnext, List.map_nil] at hbuffer
    rw [read_nothing hbuffer]
    exact .inl ⟨h, rfl, rfl⟩
  | cons verdict lines =>
    rw [hnext, List.map_cons] at hbuffer
    rw [hbuffer]
    have hrest : rest = verdict :: (lines ++ rest.drop heard) := by
      rw [← List.cons_append, ← hnext, List.take_append_drop]
    rcases reply_cases hinv hreplies with ⟨-, hnone⟩ | ⟨rfl, hnone | hinstalling | hincomplete⟩
    · exact absurd (hnone.symm.trans hrest) (by simp)
    · exact absurd (hnone.symm.trans hrest) (by simp)
    · obtain ⟨rfl, -⟩ := List.cons.inj (hinstalling.symm.trans hrest)
      refine .inr (.inr ⟨?_, ?_⟩)
      · rw [hreplies, hinstalling]
        exact List.mem_cons_of_mem _ List.mem_cons_self
      · rw [hp.installing]
        unfold Client.onReadyRead
        rw [hacked]
        exact ⟨_, finish_succeeds _ _⟩
    · obtain ⟨rfl, -⟩ := List.cons.inj (hincomplete.symm.trans hrest)
      rw [hp.incomplete]
      exact .inr (.inl (read_refusal _ _ _ (by decide)))

/-- Reading what has been heard goes on, or ends the upload; with success only where
the device is installing. -/
theorem read_reply (hp : Parses line size_member) (hinv : c.device.Inv) (h : Current line client c)
    (fails : Option String) :
    Current line (Client.onReadyRead fails client.buffer client) c ∧
        (Client.onReadyRead fails client.buffer client).verdicts = client.verdicts ∧
        (Client.onReadyRead fails client.buffer client).begun = client.begun ∨
      (∃ message, Ends client (Client.onReadyRead fails client.buffer client) (.uploadError message)) ∨
      Handler.installing ∈ c.device.replies ∧
        ∃ response, Ends client (Client.onReadyRead fails client.buffer client) (.uploadFinished response) := by
  cases hacked : client.m_acked with
  | false => exact (read_first hp hinv h hacked fails).imp id .inl
  | true => exact read_second hp hinv h hacked fails

end

/-! ## Runs of both ends -/

section

variable (line : String → Line)

structure Inv (s : Link) : Prop where
  client : s.client.Inv
  file : s.client.m_busy = true → s.file s.client.begun = s.client.file
  short : ∀ u, (s.file u).length < 2 ^ 63
  unwritten : s.client.socket = .connecting → s.client.toWrite = 0
  unused : ∀ u, s.client.begun < u ∨ (u = s.client.begun ∧ s.client.socket = .connecting) → s.connections u = none
  carries : ∀ u c, s.connections u = some c → Carries (s.file u) c
  current : s.client.socket = .connected → ∃ c, s.connections s.client.begun = some c ∧ Current line s.client c
  finished : ∀ u response, (u, .uploadFinished response) ∈ s.client.verdicts →
    ∃ c, s.connections u = some c ∧ Handler.installing ∈ c.device.replies

end

/-- The same upload as before, or none any more, and no success. -/
structure Keeps (s s' : Client) : Prop where
  begun : s'.begun = s.begun
  file : s'.m_busy = true → s.m_busy = true ∧ s'.file = s.file
  connecting : s'.socket = .connecting → s.socket = .connecting ∧ s'.toWrite = s.toWrite
  connected : s'.socket = .connected → s.socket = .connected
  verdicts : ∀ u response, (u, .uploadFinished response) ∈ s'.verdicts → (u, .uploadFinished response) ∈ s.verdicts

theorem Keeps.refl (s : Client) : Keeps s s := ⟨rfl, fun h => ⟨h, rfl⟩, fun h => ⟨h, rfl⟩, id, fun _ _ => id⟩

theorem mem_error {verdicts : List (Nat × Verdict)} {u v : Nat} {message : String} {response : Json.Members Rat}
    (h : (u, .uploadFinished response) ∈ verdicts ++ [(v, .uploadError message)]) :
    (u, .uploadFinished response) ∈ verdicts := by
  rcases List.mem_append.1 h with h | h
  · exact h
  · cases List.mem_singleton.1 h

theorem Ends.keeps {s s' : Client} {message : String} (h : Ends s s' (.uploadError message)) : Keeps s s' := by
  refine ⟨h.begun, fun hbusy => ?_, fun hs => ?_, fun hs => ?_, fun u response hmem => ?_⟩
  · exact absurd (hbusy.symm.trans h.busy) (by decide)
  · exact absurd (hs.symm.trans h.socket) (by decide)
  · exact absurd (hs.symm.trans h.socket) (by decide)
  · rw [h.verdicts] at hmem
    exact mem_error hmem

section

variable {line : String → Line} {size_member : Bytes → Option Int64} {s s' : Link} {client : Client}

/-- The host's side goes on; what its connections carry is as before. -/
theorem Inv.host (h : Inv line s) (hclient : client.Inv) (hk : Keeps s.client client)
    (hcurrent : client.socket = .connected → ∀ c, s.connections s.client.begun = some c → Current line s.client c →
      Current line client c) :
    Inv line (s.follow client) := by
  unfold Link.follow
  rw [if_pos hk.begun]
  refine ⟨hclient, fun hbusy => ?_, h.short, fun hsocket => ?_, fun u hu => ?_, h.carries, fun hsocket => ?_,
    fun u response hmem => ?_⟩
  · obtain ⟨hbefore, hfile⟩ := hk.file hbusy
    dsimp only
    rw [hk.begun, hfile]
    exact h.file hbefore
  · obtain ⟨hbefore, hsame⟩ := hk.connecting hsocket
    exact hsame.trans (h.unwritten hbefore)
  · refine h.unused u ?_
    dsimp only at hu
    rw [hk.begun] at hu
    exact hu.imp id fun hu => ⟨hu.1, (hk.connecting hu.2).1⟩
  · obtain ⟨c, hc, hcur⟩ := h.current (hk.connected hsocket)
    refine ⟨c, ?_, hcurrent hsocket c hc hcur⟩
    dsimp only
    rw [hk.begun]
    exact hc
  · exact h.finished u response (hk.verdicts u response hmem)

/-- An upload begins, with no connection yet. -/
theorem Inv.begin (h : Inv line s) (hclient : client.Inv) (hbegun : client.begun = s.client.begun + 1)
    (hsocket : client.socket = .connecting) (hempty : client.toWrite = 0) (hshort : client.file.length < 2 ^ 63)
    (hverdicts : client.verdicts = s.client.verdicts) :
    Inv line (s.follow client) := by
  unfold Link.follow
  rw [if_neg (by omega)]
  refine ⟨hclient, fun _ => if_pos rfl, fun u => ?_, fun _ => hempty, fun u hu => h.unused u ?_, fun u c hc => ?_, fun hs => ?_,
    fun u response hmem => ?_⟩
  · dsimp only
    split
    · exact hshort
    · exact h.short u
  · dsimp only at hu
    exact .inl (by omega)
  · have hne : u ≠ client.begun := by
      rintro rfl
      rw [h.unused client.begun (.inl (by omega))] at hc
      cases hc
    dsimp only
    rw [if_neg hne]
    exact h.carries u c hc
  · exact absurd (hsocket.symm.trans hs) (by decide)
  · dsimp only at hmem
    rw [hverdicts] at hmem
    exact h.finished u response hmem

/-- The upload ends with success, which its thread has replied. -/
theorem Inv.succeed (h : Inv line s) (hclient : client.Inv) {response : Json.Members Rat}
    (hends : Ends s.client client (.uploadFinished response)) {c : Connection}
    (hc : s.connections s.client.begun = some c) (hi : Handler.installing ∈ c.device.replies) :
    Inv line (s.follow client) := by
  unfold Link.follow
  rw [if_pos hends.begun]
  refine ⟨hclient, fun hbusy => ?_, h.short, fun hs => ?_, fun u hu => ?_, h.carries, fun hs => ?_, fun u r hmem => ?_⟩
  · exact absurd (hbusy.symm.trans hends.busy) (by decide)
  · exact absurd (hs.symm.trans hends.socket) (by decide)
  · dsimp only at hu
    rw [hends.begun, hends.socket] at hu
    exact h.unused u (hu.imp id fun hu => absurd hu.2 (by decide))
  · exact absurd (hs.symm.trans hends.socket) (by decide)
  · dsimp only at hmem
    rw [hends.verdicts] at hmem
    rcases List.mem_append.1 hmem with hmem | hmem
    · exact h.finished u r hmem
    · cases List.mem_singleton.1 hmem
      exact ⟨c, hc, hi⟩

/-- A reply is read, and perhaps ends the upload. -/
theorem Inv.readyRead (hp : Parses line size_member) (h : Inv line s) (hsocket : s.client.socket = .connected)
    (fails : Option String) (hclient : client.Inv) (hread : client = Client.onReadyRead fails s.client.buffer s.client) :
    Inv line (s.follow client) := by
  obtain ⟨c, hc, hcur⟩ := h.current hsocket
  have hfile : client.file = s.client.file := hread ▸ (Client.onReadyRead_same fails s.client.buffer).2
  have hbusy : s.client.m_busy = true := h.client.phase.busy (by rw [hsocket]; decide)
  have hreply := read_reply hp (h.carries _ c hc).inv hcur fails
  rw [← hread] at hreply
  rcases hreply with ⟨hcur', hverdicts, hbegun⟩ | ⟨message, hends⟩ | ⟨hinstalling, response, hends⟩
  · have hkeeps : Keeps s.client client :=
      ⟨hbegun, fun _ => ⟨hbusy, hfile⟩, fun hs => absurd (hs.symm.trans hcur'.socket) (by decide), fun _ => hsocket,
        fun _ _ hmem => hverdicts ▸ hmem⟩
    refine h.host hclient hkeeps fun _ c' hc' _ => ?_
    obtain rfl := Option.some.inj (hc.symm.trans hc')
    exact hcur'
  · exact h.host hclient hends.keeps fun hs => absurd (hs.symm.trans hends.socket) (by decide)
  · exact h.succeed hclient hends hc hinstalling

/-- More of the file goes into the buffer. -/
theorem Current.writes (h : Current line client c) {m_file : Option OpenFile} {more : Bytes} {slots : Nat} :
    Current line { client with
      m_file := m_file
      written := client.written ++ more
      toWrite := client.toWrite + more.length
      slots := slots } c := by
  obtain ⟨rest, hwritten, hlength⟩ := h.written
  refine ⟨h.socket, ⟨rest ++ more, ?_, ?_⟩, h.heard_le, h.buffer, h.acked⟩
  · dsimp only
    rw [hwritten, List.append_assoc]
  · dsimp only
    rw [List.length_append, hlength]

/-- Any event of the host that is not the connection's. -/
theorem Inv.own (hp : Parses line size_member) (h : Inv line s) {a : UpdateClient.Act}
    (ha : UpdateLink.own a = true)
    (hs : s.client.step a = some client) :
    Inv line (s.follow client) := by
  have hreported : s.client.reported a = true := by
    cases a with
    | receive => cases ha
    | _ => rfl
  have hclient := Client.step_inv h.client hreported hs
  have hnothing : client = s.client → Inv line (s.follow client) := by
    rintro rfl
    exact h.host h.client (Keeps.refl _) fun _ _ _ hcur => hcur
  have hfails : ∀ message, Ends s.client client (.uploadError message) → Inv line (s.follow client) :=
    fun message hends => h.host hclient hends.keeps fun hs => absurd (hs.symm.trans hends.socket) (by decide)
  cases a with
  | connected => cases ha
  | receive => cases ha
  | bytesWritten => cases ha
  | uploadFile filePath content =>
    have hs : s.client.uploadFile filePath content = client := Option.some.inj hs
    by_cases hbusy : s.client.m_busy = true
    · exact hnothing (hs.symm.trans (if_pos hbusy))
    · have hidle : s.client.socket = .unconnected := by
        by_contra hne
        exact hbusy (h.client.phase.busy hne)
      have hrefuse : ∀ m_fileSize message, client = { s.client with m_fileSize := m_fileSize }.refuse message →
          Inv line (s.follow client) := by
        intro m_fileSize message heq
        refine h.host hclient ?_ fun hc => ?_
        · rw [heq]
          exact ⟨rfl, fun hb => absurd hb hbusy, fun hs => ⟨hs, rfl⟩, id, fun _ _ => mem_error⟩
        · rw [heq] at hc
          exact absurd (hidle.symm.trans hc) (by decide)
      unfold Client.uploadFile at hs
      rw [if_neg hbusy] at hs
      cases content with
      | error errorString => exact hrefuse s.client.m_fileSize _ hs.symm
      | ok content =>
        dsimp only at hs
        split at hs
        · exact hrefuse _ _ hs.symm
        · exact h.begin hclient (hs ▸ rfl) (hs ▸ rfl) (hs ▸ rfl) (hs ▸ of_decide_eq_true ha) (hs ▸ rfl)
  | cancel =>
    have hs := Option.some.inj hs
    split at hs
    · exact hfails _ (hs ▸ finish_fails s.client (show "cancelled" ≠ "" by decide) [])
    · exact hnothing hs.symm
  | readyRead fails =>
    obtain ⟨hsocket, hs⟩ := Option.ite_none_right_eq_some.1 hs
    exact h.readyRead hp hsocket fails hclient (Option.some.inj hs).symm
  | return_slot =>
    simp only [Client.step] at hs
    split at hs
    · cases hs
    · rename_i slots _
      obtain ⟨m_file, more, hwrites⟩ := progressed_writes { s.client with slots := slots }
      have hs : client = _ := (Option.some.inj hs).symm.trans hwrites
      refine h.host hclient ?_ fun _ c _ hcur => ?_
      · have hconnecting : s.client.socket = .connecting → client.toWrite = s.client.toWrite := by
          intro hsocket
          cases h.client.phase with
          | idle socket => exact absurd (socket.symm.trans hsocket) (by decide)
          | waiting socket => exact absurd (socket.symm.trans hsocket) (by decide)
          | streaming _ socket => exact absurd (socket.symm.trans hsocket) (by decide)
          | connecting _ _ _ closed =>
            have hclosed := Client.progressed_closed (s := { s.client with slots := slots }) closed
            rw [hs, ← hwrites, hclosed]
        refine ⟨hs ▸ rfl, fun hb => ⟨?_, hs ▸ rfl⟩, fun hsocket => ?_, fun hsocket => ?_, fun u response hmem => ?_⟩
        · rwa [hs] at hb
        · rw [hs] at hsocket
          exact ⟨hsocket, hconnecting hsocket⟩
        · rwa [hs] at hsocket
        · rwa [hs] at hmem
      · rw [hs]
        exact hcur.writes
  | errorOccurred message =>
    obtain ⟨-, hs⟩ := Option.ite_none_left_eq_some.1 hs
    have hs := Option.some.inj hs
    split at hs
    · exact hfails _ (hs ▸ finish_fails s.client (of_decide_eq_true ha) [])
    · exact hnothing hs.symm
  | disconnected =>
    obtain ⟨hsocket, hs⟩ := Option.ite_none_left_eq_some.1 hs
    have hs := Option.some.inj hs
    have hbusy : s.client.m_busy = true := h.client.phase.busy hsocket
    have hends := finish_fails { s.client with socket := .unconnected, toWrite := 0 }
      (show "connection closed by device" ≠ "" by decide) []
    dsimp only at hs
    rw [if_pos hbusy] at hs
    rw [hs] at hends
    exact hfails _ ⟨hends.socket, hends.busy, hends.begun, hends.verdicts⟩

/-- A connection that has gone on, and perhaps the host with it. -/
theorem Inv.exchange (h : Inv line s) (hclient : client.Inv) (hbegun : client.begun = s.client.begun)
    (hfile : client.file = s.client.file) (hbusy : client.m_busy = s.client.m_busy)
    (hverdicts : client.verdicts = s.client.verdicts) {upload : Nat} {c' : Connection}
    (hcarries : Carries (s.file upload) c') (hle : upload ≤ s.client.begun)
    (hreplies : ∀ c, s.connections upload = some c → c.device.replies <+: c'.device.replies)
    (hconnecting : client.socket = .connecting → client = s.client ∧ upload ≠ s.client.begun)
    (hcurrent : client.socket = .connected →
      if upload = s.client.begun then Current line client c' else client = s.client) :
    Inv line (({ s with client := client } : Link).connect upload c') := by
  refine ⟨hclient, fun hb => ?_, h.short, fun hs => ?_, fun u hu => ?_, fun u c hc => ?_, fun hs => ?_,
    fun u response hmem => ?_⟩
  · show s.file client.begun = client.file
    rw [hbegun, hfile]
    exact h.file (hbusy ▸ hb)
  · obtain ⟨rfl, -⟩ := hconnecting hs
    exact h.unwritten hs
  · have hold : s.client.begun < u ∨ (u = s.client.begun ∧ s.client.socket = .connecting) ∧ upload ≠ s.client.begun := by
      change client.begun < u ∨ (u = client.begun ∧ client.socket = .connecting) at hu
      rw [hbegun] at hu
      refine hu.imp id fun hu => ?_
      obtain ⟨rfl, hne⟩ := hconnecting hu.2
      exact ⟨hu, hne⟩
    have hne : u ≠ upload := by
      rcases hold with hlt | ⟨⟨rfl, -⟩, hne⟩
      · omega
      · exact hne.symm
    show (if u = upload then some c' else s.connections u) = none
    rw [if_neg hne]
    exact h.unused u (hold.imp id And.left)
  · change (if u = upload then some c' else s.connections u) = some c at hc
    split at hc
    · rename_i hu
      cases hc
      exact hu ▸ hcarries
    · exact h.carries u c hc
  · have hcur := hcurrent hs
    show ∃ c, (if client.begun = upload then some c' else s.connections client.begun) = some c ∧ Current line client c
    rw [hbegun]
    by_cases hu : upload = s.client.begun
    · rw [if_pos hu] at hcur
      exact ⟨c', if_pos hu.symm, hcur⟩
    · rw [if_neg hu] at hcur
      subst hcur
      rw [if_neg (Ne.symm hu)]
      exact h.current hs
  · change (u, .uploadFinished response) ∈ client.verdicts at hmem
    rw [hverdicts] at hmem
    obtain ⟨c, hc, hi⟩ := h.finished u response hmem
    show ∃ d, (if u = upload then some c' else s.connections u) = some d ∧ _
    by_cases hu : u = upload
    · subst hu
      exact ⟨c', if_pos rfl, (hreplies c hc).subset hi⟩
    · exact ⟨c, by rw [if_neg hu, hc], hi⟩

/-- The host has connected: a thread is started for its upload. -/
theorem Inv.connected (h : Inv line s) (buf : Buffer) (hs : s.client.step .connected = some client) :
    Inv line (({ s with client := client } : Link).connect client.begun ⟨[], 0, .accepted buf, 0, none⟩) := by
  have hclient := Client.step_inv h.client rfl hs
  obtain ⟨hsocket, hs⟩ := Option.ite_none_right_eq_some.1 hs
  have hs := Option.some.inj hs
  have hbegun : client.begun = s.client.begun := hs ▸ rfl
  have hnone := h.unused client.begun (.inr ⟨hbegun, hsocket⟩)
  have hnew : Carries (s.file client.begun) ⟨[], 0, .accepted buf, 0, none⟩ :=
    ⟨Handler.accepted_inv buf, List.nil_prefix, Nat.le_refl 0, .header rfl (by rw [header_eq]; simp) rfl⟩
  have hempty := h.unwritten hsocket
  refine h.exchange hclient hbegun (hs ▸ rfl) (hs ▸ rfl) (hs ▸ rfl) hnew (Nat.le_of_eq hbegun) (fun c hc => ?_)
    (fun hs' => ?_) fun _ => ?_
  · rw [hnone] at hc
    cases hc
  · rw [← hs] at hs'
    cases hs'
  · rw [if_pos hbegun]
    cases h.client.phase with
    | idle socket => exact absurd (socket.symm.trans hsocket) (by decide)
    | waiting socket => exact absurd (socket.symm.trans hsocket) (by decide)
    | streaming _ socket => exact absurd (socket.symm.trans hsocket) (by decide)
    | connecting socket uploading acked closed written buffer sent =>
      rw [← hs]
      refine ⟨rfl, ⟨header s.client.m_fileSize, ?_, ?_⟩, Nat.zero_le _, ?_, fun hacked => ?_⟩
      · show s.client.written ++ header s.client.m_fileSize = [] ++ header s.client.m_fileSize
        rw [written]
      · show _ = s.client.toWrite + (header s.client.m_fileSize).length
        rw [hempty, Nat.zero_add]
      · show s.client.buffer = _
        rw [buffer]
        simp [Handler.accepted]
      · exact absurd (hacked.symm.trans acked) (by decide)

theorem current_some {c : Connection} (hc : s.current = some c) :
    s.client.socket = .connected ∧ s.connections s.client.begun = some c := by
  unfold Link.current at hc
  split at hc
  · rename_i hs
    exact ⟨hs, hc⟩
  · cases hc

theorem unsent_eq {client : Client} {wire rest : Bytes} (hwritten : client.written = wire ++ rest)
    (hlength : rest.length = client.toWrite) : Link.unsent client = rest := by
  unfold Link.unsent
  rw [hwritten, List.length_append, hlength, Nat.add_sub_cancel, List.drop_left]

/-- More bytes on the wire are more to read. -/
theorem Carries.extend {file : Bytes} {c : Connection} (h : Carries file c) {more : Bytes}
    (hwire : c.wire ++ more <+: header file.length ++ file) : Carries file { c with wire := c.wire ++ more } := by
  have htake : (c.wire ++ more).take c.read = c.wire.take c.read := List.take_append_of_le_length h.read_le
  refine ⟨h.inv, hwire, ?_, ?_⟩
  · rw [List.length_append]
    exact h.read_le.trans (Nat.le_add_right _ _)
  · cases h.stage with
    | header phase short unfailed => exact .header (by rw [htake]; exact phase) short unfailed
    | body parsed size read arrived answered =>
      exact .body parsed size read (by rw [htake]; exact arrived) answered
    | lost parsed failed arrived => exact .lost parsed failed arrived

theorem Carries.hear {file : Bytes} {c : Connection} (h : Carries file c) (heard : Nat) :
    Carries file { c with heard := heard } := by
  refine ⟨h.inv, h.wire, h.read_le, ?_⟩
  cases h.stage with
  | header phase short unfailed => exact .header phase short unfailed
  | body parsed size read arrived answered => exact .body parsed size read arrived answered
  | lost parsed failed arrived => exact .lost parsed failed arrived

/-- What the host does when it is told that bytes have left. -/
theorem bytesWritten_same {client client' : Client} {bytes : Nat}
    (hs : client.step (.bytesWritten bytes) = some client') : ∃ m_sent drained slots, 0 < bytes ∧
      bytes ≤ client.toWrite ∧ slots ≤ client.slots + 1 ∧ client' = { client with
        toWrite := client.toWrite - bytes
        m_sent := m_sent
        drained := drained
        slots := slots } := by
  obtain ⟨⟨-, hpos, hle⟩, hs⟩ := Option.ite_none_right_eq_some.1 hs
  rw [← Option.some.inj hs]
  unfold Client.onBytesWritten
  split
  · exact ⟨_, _, _, hpos, hle, Nat.le_succ _, rfl⟩
  · exact ⟨_, _, _, hpos, hle, Nat.le_refl _, rfl⟩

/-- Bytes leave the host's socket. -/
theorem Inv.bytesWritten (h : Inv line s) {c : Connection} (hc : s.current = some c) {bytes : Nat}
    (hs : s.client.step (.bytesWritten bytes) = some client) :
    Inv line (({ s with client := client } : Link).connect client.begun
      { c with wire := c.wire ++ (Link.unsent s.client).take bytes }) := by
  have hclient := Client.step_inv h.client rfl hs
  obtain ⟨hsocket, hc⟩ := current_some hc
  obtain ⟨c', hc', hcur⟩ := h.current hsocket
  obtain rfl := Option.some.inj (hc.symm.trans hc')
  obtain ⟨rest, hwritten, hlength⟩ := hcur.written
  have hbusy : s.client.m_busy = true := h.client.phase.busy (by rw [hsocket]; decide)
  obtain ⟨m_sent, drained, slots, -, -, -, rfl⟩ := bytesWritten_same hs
  rw [unsent_eq hwritten hlength]
  refine h.exchange hclient rfl rfl rfl rfl ((h.carries _ c hc).extend ?_) (Nat.le_refl _) (fun d hd => ?_)
    (fun hs' => absurd (hs'.symm.trans hsocket) (by decide)) fun _ => ?_
  · have hprefix : s.client.written <+: header s.client.file.length ++ s.client.file := by
      rcases h.client.phase.written with hnone | ⟨n, hn, -⟩
      · exact hnone ▸ List.nil_prefix
      · rw [hn]
        exact (List.prefix_append_right_inj _).2 (List.take_prefix _ _)
    show c.wire ++ rest.take bytes <+: header (s.file s.client.begun).length ++ s.file s.client.begun
    rw [h.file hbusy]
    refine List.IsPrefix.trans ?_ hprefix
    rw [hwritten]
    exact (List.prefix_append_right_inj _).2 (List.take_prefix _ _)
  · obtain rfl := Option.some.inj (hc.symm.trans hd)
    exact List.prefix_rfl
  · rw [if_pos rfl]
    refine ⟨hsocket, ⟨rest.drop bytes, ?_, ?_⟩, hcur.heard_le, hcur.buffer, hcur.acked⟩
    · dsimp only
      rw [hwritten, List.append_assoc, List.take_append_drop]
    · rw [List.length_drop, hlength]

/-- A positive reply finds the header gone, so `reported` holds on its own. -/
theorem reply_reported (hp : Parses line size_member) (h : Inv line s) {c : Connection}
    (hc : s.connections s.client.begun = some c) (hcur : Current line s.client c)
    (hheard : c.failed.all (c.heard < ·) = true) {json : String} (hjson : c.device.replies[c.heard]? = some json) :
    s.client.reported (.receive (line json)) = true := by
  have hcarries := h.carries _ c hc
  have hmem : json ∈ c.device.replies := List.mem_of_getElem? hjson
  obtain ⟨first, rest, hreplies⟩ := List.exists_cons_of_ne_nil (List.ne_nil_of_mem hmem)
  rcases reply_cases hcarries.inv hreplies with ⟨hrefusal, hrest⟩ | ⟨hack, -⟩
  · rw [hreplies, hrest, List.mem_singleton] at hmem
    rcases hrefusal with hrefusal | hrefusal
    · rw [hmem, hrefusal, hp.invalid_size]
      rfl
    · rw [hmem, hrefusal, hp.busy]
      rfl
  · have hgone : s.client.m_acked = true ∨ s.client.toWrite = 0 := by
      obtain ⟨unsent, hwritten, hlength⟩ := hcur.written
      have hsocket := hcur.socket
      cases hcarries.stage with
      | header phase =>
        obtain ⟨-, hnone, -⟩ := hcarries.inv.at phase
        exact absurd (hnone.symm.trans hreplies) (by simp)
      | lost parsed failed =>
        rw [failed, Option.all_some, decide_eq_true_eq] at hheard
        exact absurd hheard (Nat.not_lt_zero _)
      | body parsed size read arrived =>
        cases h.client.phase with
        | idle socket => exact absurd (socket.symm.trans hsocket) (by decide)
        | connecting socket => exact absurd (socket.symm.trans hsocket) (by decide)
        | streaming _ _ _ acked => exact .inl acked
        | waiting socket uploading acked closed written =>
          have hread := hcarries.read_le
          have hcount := congrArg List.length hwritten
          rw [h.file uploading.busy] at read
          rw [written, List.length_append] at hcount
          exact .inr (by omega)
    unfold Client.reported
    split
    · rcases hgone with hacked | hempty
      · rw [hacked, Bool.or_true, Bool.true_or]
      · rw [hempty]
        exact Bool.or_true _
    · rfl

/-- A reply reaches the host. -/
theorem Inv.receive (hp : Parses line size_member) (h : Inv line s) {c : Connection} (hc : s.current = some c)
    (hheard : c.failed.all (c.heard < ·) = true) {json : String} (hjson : c.device.replies[c.heard]? = some json)
    (hs : s.client.step (.receive (line json)) = some client) :
    Inv line (({ s with client := client } : Link).connect client.begun { c with heard := c.heard + 1 }) := by
  obtain ⟨hsocket, hc⟩ := current_some hc
  obtain ⟨c', hc', hcur⟩ := h.current hsocket
  obtain rfl := Option.some.inj (hc.symm.trans hc')
  have hclient := Client.step_inv h.client (reply_reported hp h hc hcur hheard hjson) hs
  obtain ⟨-, hs⟩ := Option.ite_none_right_eq_some.1 hs
  obtain rfl := Option.some.inj hs
  refine h.exchange hclient rfl rfl rfl rfl ((h.carries _ c hc).hear _) (Nat.le_refl _) (fun d hd => ?_)
    (fun hs' => absurd (hs'.symm.trans hsocket) (by decide)) fun _ => ?_
  · obtain rfl := Option.some.inj (hc.symm.trans hd)
    exact List.prefix_rfl
  · rw [if_pos rfl]
    refine ⟨hsocket, hcur.written, (List.getElem?_eq_some_iff.1 hjson).1, ?_, fun hacked => ?_⟩
    · have hfits : (if s.client.m_acked then 1 else 0) ≤ (c.device.replies.take c.heard).length := by
        rw [List.length_take_of_le hcur.heard_le]
        split
        · rename_i hacked
          exact (hcur.acked hacked).2
        · exact Nat.zero_le _
      show s.client.buffer ++ [line json] = _
      rw [hcur.buffer, List.take_add_one, hjson, Option.toList_some, List.drop_append_of_le_length hfits, List.map_append]
      rfl
    · obtain ⟨hack, hle⟩ := hcur.acked hacked
      exact ⟨hack, Nat.le_succ_of_le hle⟩

/-- A connection's thread goes on. -/
theorem Inv.device (hp : Parses line size_member) (h : Inv line s) {upload : Nat} {c c' : Connection} {live : Bool}
    {o : Outcome} (hc : s.connections upload = some c) (hs : c.step size_member live o = some c') :
    Inv line (s.connect upload c') := by
  have hcarries := step_carries hp (h.short upload) (h.carries upload c hc) hs
  have hsame : c'.wire = c.wire ∧ c'.heard = c.heard ∧ c.device.replies <+: c'.device.replies := by
    obtain ⟨device, hd, ⟨r, -, -, rfl⟩ | ⟨-, -, rfl⟩⟩ := step_connection hs
    · exact ⟨rfl, rfl, step_replies hd⟩
    · exact ⟨rfl, rfl, step_replies hd⟩
  obtain ⟨hwire, hheard, hreplies⟩ := hsame
  have hle : upload ≤ s.client.begun := by
    by_contra hlt
    rw [h.unused upload (.inl (by omega))] at hc
    cases hc
  refine h.exchange h.client rfl rfl rfl rfl hcarries hle (fun d hd => ?_) (fun hs' => ⟨rfl, ?_⟩) fun hsocket => ?_
  · obtain rfl := Option.some.inj (hc.symm.trans hd)
    exact hreplies
  · rintro rfl
    rw [h.unused _ (.inr ⟨rfl, hs'⟩)] at hc
    cases hc
  · split
    · rename_i hu
      subst hu
      obtain ⟨d, hd, hcur⟩ := h.current hsocket
      obtain rfl := Option.some.inj (hc.symm.trans hd)
      refine ⟨hsocket, hwire ▸ hcur.written, ?_, ?_, fun hacked => ?_⟩
      · rw [hheard]
        exact hcur.heard_le.trans hreplies.length_le
      · rw [hheard, hcur.buffer, List.prefix_iff_eq_append.1 hreplies |>.symm]
        rw [List.take_append_of_le_length hcur.heard_le]
      · obtain ⟨hack, hfirst⟩ := hcur.acked hacked
        exact ⟨hreplies.subset hack, hheard ▸ hfirst⟩
    · rfl

theorem step_host {a : UpdateClient.Act} (hs : s.step line size_member (.host a) = some s') :
    own a = true ∧ ∃ client, s.client.step a = some client ∧ s.follow client = s' := by
  obtain ⟨ha, hs⟩ := Option.ite_none_right_eq_some.1 hs
  exact ⟨ha, Option.map_eq_some_iff.1 hs⟩

theorem step_inv (hp : Parses line size_member) (h : Inv line s) {a : Act}
    (hs : s.step line size_member a = some s') : Inv line s' := by
  cases a with
  | connected buf =>
    obtain ⟨client, hclient, rfl⟩ := Option.map_eq_some_iff.1 hs
    exact h.connected buf hclient
  | bytesWritten bytes =>
    obtain ⟨c, hc, hs⟩ := Option.bind_eq_some_iff.1 hs
    obtain ⟨client, hclient, rfl⟩ := Option.map_eq_some_iff.1 hs
    exact h.bytesWritten hc hclient
  | receive =>
    obtain ⟨c, hc, hs⟩ := Option.bind_eq_some_iff.1 hs
    obtain ⟨hheard, hs⟩ := Option.ite_none_right_eq_some.1 hs
    obtain ⟨json, hjson, hs⟩ := Option.bind_eq_some_iff.1 hs
    obtain ⟨client, hclient, rfl⟩ := Option.map_eq_some_iff.1 hs
    exact h.receive hp hc hheard hjson hclient
  | host a =>
    obtain ⟨ha, client, hclient, rfl⟩ := step_host hs
    exact h.own hp ha hclient
  | device upload o =>
    obtain ⟨c, hc, hs⟩ := Option.bind_eq_some_iff.1 hs
    obtain ⟨c', hc', rfl⟩ := Option.map_eq_some_iff.1 hs
    exact h.device hp hc hc'

theorem init_inv : Inv line {} :=
  ⟨Client.new_inv, fun h => (by cases h), fun _ => Nat.two_pow_pos 63, fun _ => rfl, fun _ _ => rfl, fun _ _ h => (by cases h),
    fun h => (by cases h), fun _ _ h => (by cases h)⟩

/-- In every run of the two ends, however what they send is cut, delayed or lost, swupdate
is given a beginning of the file of the upload its connection was made for; a device that
replies that it is installing has given it the whole file, and the host reports success
only for an upload whose device has replied so. -/
theorem upload_end_to_end (line : String → Line) (size_member : Bytes → Option Int64) (hp : Parses line size_member)
    (as : List Act) (s : Link) (h : Run (Link.step line size_member) {} as s) :
    (∀ u c, s.connections u = some c → c.device.forwarded <+: s.file u ∧
      (Handler.installing ∈ c.device.replies → c.device.forwarded = s.file u)) ∧
    (∀ u response, (u, .uploadFinished response) ∈ s.client.verdicts →
      ∃ c, s.connections u = some c ∧ Handler.installing ∈ c.device.replies ∧ c.device.forwarded = s.file u) ∧
    s.client.Sound := by
  have hinv : Inv line s := h.inv (Inv line) init_inv fun _ _ _ hI hs => step_inv hp hI hs
  refine ⟨fun u c hc => ?_, fun u response hmem => ?_, hinv.client.sound⟩
  · have hcarries := hinv.carries u c hc
    exact ⟨hcarries.forwarded, hcarries.installing (hinv.short u)⟩
  · obtain ⟨c, hc, hi⟩ := hinv.finished u response hmem
    exact ⟨c, hc, hi, (hinv.carries u c hc).installing (hinv.short u) hi⟩

end

/-! ## Three bytes -/

/-- The lines the device sends, read. -/
def reply_line (json : String) : Line :=
  if json = Handler.ack then .object [("ok", .bool true)]
  else if json = Handler.installing then .object [("ok", .bool true), ("state", .string "installing")]
  else if json = Handler.invalid_size then
    .object [("ok", .bool false), ("error", .string "invalid or missing size")]
  else if json = Handler.busy then
    .object [("ok", .bool false), ("error", .string "swupdate busy or unavailable")]
  else if json = Handler.incomplete then .object [("ok", .bool false), ("error", .string "upload incomplete")]
  else .malformed

/-- The number in a header, read. -/
def header_number (text : Bytes) : Option Int64 :=
  if [123, 34, 115, 105, 122, 101, 34, 58].isPrefixOf text then
    let digits := (text.drop 8).takeWhile (· ≠ 125)
    some (.ofNat (Nat.ofDigitChars 10 (digits.map fun b => Char.ofNat b.toNat) 0))
  else none

theorem header_number_text (n : Nat) : header_number (size_text n) = some (.ofNat n) := by
  have hdigits : ∀ c ∈ Nat.toDigits 10 n, c.isDigit := fun c hc => Nat.isDigit_of_mem_toDigits (by omega) (by omega) hc
  have hstop : ∀ b ∈ (Nat.toDigits 10 n).map fun c => UInt8.ofNat c.toNat, decide (b ≠ 125) = true := by
    intro b hb
    obtain ⟨c, hc, rfl⟩ := List.mem_map.1 hb
    obtain ⟨hval, -, hhigh⟩ := digit_byte (hdigits c hc)
    refine decide_eq_true fun h => ?_
    have h125 := congrArg UInt8.toNat h
    rw [hval] at h125
    have hconst : (125 : UInt8).toNat = 125 := rfl
    omega
  have hback : ((Nat.toDigits 10 n).map fun c => UInt8.ofNat c.toNat).map (fun b => Char.ofNat b.toNat) =
      Nat.toDigits 10 n := by
    rw [List.map_map]
    refine (List.map_congr_left fun c hc => ?_).trans (List.map_id _)
    show Char.ofNat (UInt8.ofNat c.toNat).toNat = c
    rw [(digit_byte (hdigits c hc)).1, Char.ofNat_toNat]
  have hdrop : (size_text n).drop 8 = (Nat.toDigits 10 n).map (fun c => UInt8.ofNat c.toNat) ++ [125] := by
    rw [size_text_eq, List.append_assoc]
    rfl
  unfold header_number
  rw [if_pos (by rw [size_text_eq]; rfl), hdrop]
  dsimp only
  rw [List.takeWhile_append_of_pos hstop, List.takeWhile_cons_of_neg (by decide), List.append_nil, hback,
    Nat.ofDigitChars_ten_toDigits]

theorem parses : Parses reply_line header_number :=
  ⟨rfl, rfl, rfl, rfl, rfl, fun n _ => header_number_text n⟩

def stack : Buffer := ⟨List.replicate 65536 0xCC, List.length_replicate⟩

/-- Sent in two pieces, read in three. -/
def three_bytes : List Act :=
  [.host (.uploadFile "a.swu" (.ok [7, 8, 9])), .connected stack, .bytesWritten 4, .bytesWritten 7] ++
  (header 3).map (fun b => .device 1 (.read (.data [b]))) ++
  [.device 1 (.begin_stream_install true), .receive, .host (.readyRead none), .bytesWritten 2,
    .device 1 (.read (.data [7])), .device 1 (.send (.sent 1)), .bytesWritten 1, .device 1 (.read (.data [8, 9])),
    .device 1 (.send (.sent 2)), .receive, .host (.readyRead none)]

theorem upload_end_to_end_three : ∃ s, Run (Link.step reply_line header_number) {} three_bytes s ∧
    (∃ response, (1, .uploadFinished response) ∈ s.client.verdicts) ∧
    ∃ c, s.connections 1 = some c ∧ Handler.installing ∈ c.device.replies ∧ c.device.forwarded = [7, 8, 9] := by
  have hrun : ((exec (Link.step reply_line header_number) {} three_bytes).map fun s =>
      (s.client.verdicts.map fun v => (v.1, match v.2 with | .uploadFinished _ => true | _ => false), s.file 1)) =
        some ([(1, true)], [7, 8, 9]) := by
    decide +kernel
  obtain ⟨s, hs, hfields⟩ := Option.map_eq_some_iff.1 hrun
  obtain ⟨hverdicts, hfile⟩ := Prod.mk.inj hfields
  have hfinished : ∃ response, (1, .uploadFinished response) ∈ s.client.verdicts := by
    obtain ⟨⟨u, verdict⟩, hmem, hv⟩ := List.mem_map.1 (show (1, true) ∈ _ from hverdicts ▸ List.mem_singleton_self _)
    cases verdict with
    | uploadError message => cases (Prod.mk.inj hv).2
    | uploadFinished response =>
      obtain rfl : u = 1 := (Prod.mk.inj hv).1
      exact ⟨response, hmem⟩
  obtain ⟨response, hmem⟩ := hfinished
  obtain ⟨c, hc, hi, hforwarded⟩ := (upload_end_to_end _ _ parses _ _ (run_of_exec hs)).2.1 1 response hmem
  exact ⟨s, run_of_exec hs, ⟨response, hmem⟩, c, hc, hi, hforwarded.trans hfile⟩

end CameraStreamer.Update.UpdateLink
