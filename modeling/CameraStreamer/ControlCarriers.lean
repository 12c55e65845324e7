import CameraStreamer.ControlTunnel
/-!
# The two control carriers

The same request bytes over USB, cut into Control records and split at newlines
by `LocalTunnel::deliver`, and over TCP, cut into socket reads and split by a
`GDataInputStream` that takes any newline type. Both hand each line to
`dispatch_request`; TCP sends every reply, USB those that a record holds.
-/

namespace CameraStreamer.Secure.ControlCarriers

open Control Json Incremental ControlTunnel

/-- `G_DATA_STREAM_NEWLINE_TYPE_ANY`: a line ends at `\\n`, `\\r` or `\\r\\n`. -/
def any_newline (b : UInt8) : Bool := b == 10 || b == 13

/-- The newline of a `\\r\\n`. -/
def crlf (t b : UInt8) : Bool := t == 13 && b == 10

def no_pair (_ _ : UInt8) : Bool := false

/-- What happens on a carrier, for each line. -/
inductive Carried where
  /-- The C string that `dispatch_request` is called with. -/
  | dispatched (line : Bytes)
  | sent (reply : Bytes)
  deriving DecidableEq

def Carried.line? : Carried → Option Bytes
  | .dispatched line => some line
  | .sent _ => none

def Carried.reply? : Carried → Option Bytes
  | .dispatched _ => none
  | .sent reply => some reply

section Carriers
variable {D W : Type} [JsonGenerator D] (parse : JsonParser D) (registry : ControlRegistry D W) (A : Aead)

/-- `ControlServer::process_line` -/
def process_line (world : W) (line : Bytes) : List Carried × W :=
  let out := dispatch_request parse registry line world
  (if out.1 = [] then [.dispatched (c_str line)] else [.dispatched (c_str line), .sent out.1], out.2)

/-- The loop of `LocalTunnel::deliver` for one line. -/
def deliver_line (s : W × SecureRecord) (line : Bytes) : List Carried × (W × SecureRecord) :=
  let reply := dispatch_request parse registry line s.1
  if reply.1 = [] then ([.dispatched (c_str line)], (reply.2, s.2))
  else
    match make_wire_record A .ok .Control 0 reply.1 s.2 with
    | (.ok _, encrypt_) => ([.dispatched (c_str line), .sent reply.1], (reply.2, encrypt_))
    | (.error _, encrypt_) => ([.dispatched (c_str line)], (reply.2, encrypt_))

/-- A TCP connection, from its socket reads. -/
def tcp (world : W) (reads : List Bytes) : List Carried :=
  (((Lines.reader any_newline crlf).through (process_line parse registry)).feed (some ((none, world), [])) reads).1

/-- The control channel of a session, from its Control records. -/
def usb (world : W) (encrypt_ : SecureRecord) (records : List Bytes) : List Carried :=
  (((Lines.reader newline no_pair).through (deliver_line parse registry A)).feed
    (some ((none, world, encrypt_), [])) records).1

/-- The lines passed to `dispatch_request`. -/
def dispatched (es : List Carried) : List Bytes := es.filterMap Carried.line?

/-- The replies sent. -/
def sent (es : List Carried) : List Bytes := es.filterMap Carried.reply?

@[simp] theorem dispatched_dispatched (line : Bytes) (es : List Carried) :
    dispatched (.dispatched line :: es) = line :: dispatched es := rfl

@[simp] theorem dispatched_sent (reply : Bytes) (es : List Carried) :
    dispatched (.sent reply :: es) = dispatched es := rfl

@[simp] theorem sent_dispatched (line : Bytes) (es : List Carried) : sent (.dispatched line :: es) = sent es := rfl

@[simp] theorem sent_sent (reply : Bytes) (es : List Carried) : sent (.sent reply :: es) = reply :: sent es := rfl

/-- The lines of a newline-terminated stream, each with the device as it is when its turn comes. -/
def served (world : W) : List Bytes → List (W × Bytes)
  | [] => []
  | line :: lines => (world, line) :: served (dispatch_request parse registry line world).2 lines

/-! ## What each carrier makes of its lines -/

theorem process_lines (world : W) (lines : List Bytes) :
    dispatched (Parser.handle (process_line parse registry) world lines).1 = lines.map c_str ∧
    sent (Parser.handle (process_line parse registry) world lines).1 =
      ((served parse registry world lines).map (reply_to parse registry)).filter (!·.isEmpty) := by
  induction lines generalizing world with
  | nil => exact ⟨rfl, rfl⟩
  | cons line lines ih =>
    obtain ⟨hd, hs⟩ := ih (dispatch_request parse registry line world).2
    by_cases h : (dispatch_request parse registry line world).1 = []
    · simp [Parser.handle, process_line, served, reply_to, h, hd, hs]
    · simp [Parser.handle, process_line, served, reply_to, h, hd, hs]

theorem deliver_lines (world : W) (encrypt_ : SecureRecord) (lines : List Bytes) :
    dispatched (Parser.handle (deliver_line parse registry A) (world, encrypt_) lines).1 = lines.map c_str ∧
    sent (Parser.handle (deliver_line parse registry A) (world, encrypt_) lines).1 =
      ((served parse registry world lines).map (reply_to parse registry)).filter sendable := by
  induction lines generalizing world encrypt_ with
  | nil => exact ⟨rfl, rfl⟩
  | cons line lines ih =>
    by_cases h : (dispatch_request parse registry line world).1 = []
    · obtain ⟨hd, hs⟩ := ih (dispatch_request parse registry line world).2 encrypt_
      simp [Parser.handle, deliver_line, served, reply_to, sendable, h, hd, hs]
    · let reply : WireMessage := ⟨.Control, 0, (dispatch_request parse registry line world).1⟩
      by_cases hf : (dispatch_request parse registry line world).1.length + 2 ≤ kMaxPayload
      · have hm : make_wire_record A .ok .Control 0 (dispatch_request parse registry line world).1 encrypt_ =
            (.ok (framed A encrypt_ reply), encrypt_.next_nonce.2) :=
          (make_wire_record_eq A reply encrypt_).trans (if_pos hf)
        obtain ⟨hd, hs⟩ := ih (dispatch_request parse registry line world).2 encrypt_.next_nonce.2
        simp [Parser.handle, deliver_line, served, reply_to, sendable, h, hm, hf, hd, hs]
      · have hm : make_wire_record A .ok .Control 0 (dispatch_request parse registry line world).1 encrypt_ =
            (.error "secure USB payload too large", encrypt_) :=
          (make_wire_record_eq A reply encrypt_).trans (if_neg hf)
        obtain ⟨hd, hs⟩ := ih (dispatch_request parse registry line world).2 encrypt_
        simp [Parser.handle, deliver_line, served, reply_to, sendable, h, hm, hf, hd, hs]

/-- Lines that are the same C strings get the same replies. -/
theorem served_congr (world : W) {lines lines' : List Bytes} (h : lines.map c_str = lines'.map c_str) :
    (served parse registry world lines).map (reply_to parse registry) =
      (served parse registry world lines').map (reply_to parse registry) := by
  induction lines generalizing world lines' with
  | nil =>
    obtain rfl := List.map_eq_nil_iff.1 h.symm
    rfl
  | cons line lines ih =>
    cases lines' with
    | nil => cases h
    | cons line' lines' =>
      obtain ⟨hl, hls⟩ := List.cons.inj h
      simp only [served, List.map_cons, reply_to, dispatch_congr parse registry hl, ih _ hls]

end Carriers

/-! ## What the two readers make of the same bytes -/

/-- Every carriage return stands directly before a newline, and a NUL stands before
it in its line; `line` is the line so far. -/
def returns_hidden : Bytes → Bytes → Bool
  | _, [] => true
  | line, 13 :: 10 :: b => line.contains 0 && returns_hidden [] b
  | line, x :: b => if x = 10 then returns_hidden [] b else if x = 13 then false else returns_hidden (line ++ [x]) b

theorem returns_hidden_cons (line b : Bytes) {x : UInt8} (h : x ≠ 13) :
    returns_hidden line (x :: b) = if x = 10 then returns_hidden [] b else returns_hidden (line ++ [x]) b := by
  rw [returns_hidden]
  · simp only [h, if_false]
  · intro _ hx
    exact absurd hx h

theorem read_newline (last : Option UInt8) (line b : Bytes) (x : UInt8) :
    Lines.read newline no_pair last line (x :: b) =
      if x = 10 then
        (line :: (Lines.read newline no_pair (some x) [] b).1, (Lines.read newline no_pair (some x) [] b).2)
      else Lines.read newline no_pair last (line ++ [x]) b := by
  have hj : ¬(line.isEmpty = true ∧ last.any (no_pair · x) = true) := by
    cases last <;> simp [no_pair]
  rw [Lines.read, if_neg hj]
  by_cases hx : x = 10 <;> simp [newline, hx]

theorem read_any {last : Option UInt8} {line : Bytes} {x : UInt8} (h : ¬(line = [] ∧ last = some 13 ∧ x = 10))
    (b : Bytes) :
    Lines.read any_newline crlf last line (x :: b) =
      if x = 10 ∨ x = 13 then
        (line :: (Lines.read any_newline crlf (some x) [] b).1, (Lines.read any_newline crlf (some x) [] b).2)
      else Lines.read any_newline crlf last (line ++ [x]) b := by
  have hj : ¬(line.isEmpty = true ∧ last.any (crlf · x) = true) := by
    rintro ⟨hl, hany⟩
    obtain ⟨t, ht, hx⟩ := (Option.any_eq_true _ _).1 hany
    obtain ⟨rfl, rfl⟩ : t = 13 ∧ x = 10 := by simpa [crlf] using hx
    exact h ⟨List.isEmpty_iff.1 hl, ht, rfl⟩
  rw [Lines.read, if_neg hj]
  by_cases hx : x = 10 ∨ x = 13
  · rw [if_pos hx, if_pos (by simpa [any_newline] using hx)]
  · rw [if_neg hx, if_neg (by simpa [any_newline] using hx)]

/-- A newline right after a carriage return belongs to it. -/
theorem read_any_pair (b : Bytes) :
    Lines.read any_newline crlf (some 13) [] (10 :: b) = Lines.read any_newline crlf none [] b := by
  rw [Lines.read, if_pos (by decide)]

theorem newline_count (last : Option UInt8) (line b : Bytes) :
    (Lines.read newline no_pair last line b).1.length = b.count 10 := by
  induction b generalizing last line with
  | nil => rfl
  | cons x b ih =>
    rw [read_newline]
    by_cases hx : x = 10
    · simp [hx, ih]
    · simp [hx, ih]

/-- The other reader takes a line at each newline too, unless it belongs to a
carriage return just before the bytes. -/
theorem count_le_any (last : Option UInt8) (line b : Bytes) :
    b.count 10 ≤ (Lines.read any_newline crlf last line b).1.length +
      (if line = [] ∧ last = some 13 ∧ b.head? = some 10 then 1 else 0) := by
  induction b generalizing last line with
  | nil => simp
  | cons x b ih =>
    by_cases hpair : line = [] ∧ last = some 13 ∧ x = 10
    · obtain ⟨rfl, rfl, rfl⟩ := hpair
      have h := ih none []
      simp only [reduceCtorEq, false_and, and_false, if_false] at h
      rw [read_any_pair]
      simp only [List.head?_cons, true_and, if_true, List.count_cons, beq_self_eq_true]
      omega
    · rw [read_any hpair]
      by_cases hlf : x = 10
      · subst hlf
        have h := ih (some 10) []
        simp only [Option.some.injEq, show ¬(10 : UInt8) = 13 by decide, false_and, and_false, if_false] at h
        simp only [true_or, if_true, List.length_cons, List.count_cons, beq_self_eq_true]
        omega
      · have hcount : (x :: b).count 10 = b.count 10 := by simp [hlf]
        rw [hcount]
        by_cases hcr : x = 13
        · -- A newline that follows belongs to this one.
          have h := ih (some x) []
          rw [if_pos (.inr hcr), List.length_cons]
          split at h <;> omega
        · have h := ih last (line ++ [x])
          rw [if_neg (by simp [hlf, hcr])]
          simp only [List.append_eq_nil_iff, List.cons_ne_self, and_false, false_and, if_false] at h
          omega

theorem c_str_return (line : Bytes) : c_str (line ++ [13]) = c_str line ↔ 0 ∈ line := by
  induction line with
  | nil => decide
  | cons x line ih =>
    simp only [c_str] at ih ⊢
    by_cases hx : x = 0
    · simp [hx]
    · rw [List.cons_append, List.takeWhile_cons, List.takeWhile_cons]
      simp only [ne_eq, hx, not_false_eq_true, decide_true, if_true, List.cons.injEq, true_and, List.mem_cons,
        eq_comm (a := (0 : UInt8)), false_or]
      exact ih

/-- The two readers pass on the same C strings exactly where no carriage return
shows. At the first one that does, either the lines there differ by it, or the
other reader takes a line more. -/
theorem lines_agree (b : Bytes) : ∀ (line : Bytes) (last last' : Option UInt8), (line = [] → last' ≠ some 13) →
    ((Lines.read newline no_pair last line b).1.map c_str = (Lines.read any_newline crlf last' line b).1.map c_str ↔
      returns_hidden line b = true) := by
  induction hn : b.length using Nat.strongRecOn generalizing b with
  | ind n ih =>
    intro line last last' hlast
    cases b with
    | nil => simp [Lines.read, returns_hidden]
    | cons x b =>
      have hb : b.length < n := by rw [← hn, List.length_cons]; omega
      rw [read_newline, read_any fun h => hlast h.1 h.2.1]
      by_cases hlf : x = 10
      · subst hlf
        have h := ih b.length hb b rfl [] (some 10) (some 10) (by decide)
        rw [returns_hidden_cons line b (by decide)]
        simp only [if_true, true_or, List.map_cons, List.cons.injEq, true_and, h]
      · by_cases hcr : x = 13
        · subst hcr
          simp only [show ¬(13 : UInt8) = 10 by decide, if_false, or_true, if_true]
          by_cases hhead : b.head? = some 10
          · obtain ⟨rest, rfl⟩ : ∃ rest, b = 10 :: rest := by
              cases b with
              | nil => cases hhead
              | cons y rest => exact ⟨rest, by rw [Option.some.inj hhead]⟩
            have hrest : rest.length < n := by rw [List.length_cons] at hb; omega
            have h := ih rest.length hrest rest rfl [] (some 10) none (by simp)
            rw [read_newline, read_any_pair]
            simp only [if_true, List.map_cons, List.cons.injEq, c_str_return, h, returns_hidden, Bool.and_eq_true,
              List.contains_iff_mem]
          · have hlen : (Lines.read newline no_pair last (line ++ [13]) b).1.length <
                (line :: (Lines.read any_newline crlf (some 13) [] b).1).length := by
              have h := count_le_any (some 13) [] b
              simp only [hhead, and_false, if_false] at h
              rw [newline_count, List.length_cons]
              omega
            have hhidden : returns_hidden line (13 :: b) = false := by
              cases b with
              | nil => rfl
              | cons y rest =>
                have hy : y ≠ 10 := fun hy => hhead (by rw [hy]; rfl)
                simp [returns_hidden, hy]
            rw [hhidden]
            refine iff_of_false (fun h => ?_) (by simp)
            have := congrArg List.length h
            rw [List.length_map, List.length_map] at this
            omega
        · have h := ih b.length hb b rfl (line ++ [x]) last last' (by simp)
          rw [returns_hidden_cons line b hcr]
          simp only [hlf, hcr, or_self, if_false, h]

/-! ## The carriers compared -/

section Carriers
variable {D W : Type} [JsonGenerator D] {parse : JsonParser D} {registry : ControlRegistry D W} {A : Aead}

theorem tcp_read (world : W) (reads : List Bytes) :
    tcp parse registry world reads = (Parser.handle (process_line parse registry) world
      (Lines.read any_newline crlf none [] reads.flatten).1).1 := by
  rw [tcp, Parser.through_feed, Lines.feed_read]

theorem usb_read (world : W) (encrypt_ : SecureRecord) (records : List Bytes) :
    usb parse registry A world encrypt_ records = (Parser.handle (deliver_line parse registry A) (world, encrypt_)
      (Lines.read newline no_pair none [] records.flatten).1).1 := by
  rw [usb, Parser.through_feed, Lines.feed_read]

/-- The bytes have no carriage return that shows, and every reply to their lines has room in a record. -/
def Equivalent (parse : JsonParser D) (registry : ControlRegistry D W) (world : W) (b : Bytes) : Prop :=
  returns_hidden [] b = true ∧
    ∀ q ∈ served parse registry world (Lines.read newline no_pair none [] b).1, c_str q.2 = [] ∨ Room parse registry q

/-- The replies are one list; USB leaves out of it what has no room. -/
theorem sendable_replies (qs : List (W × Bytes)) :
    (qs.map (reply_to parse registry)).filter sendable = (qs.map (reply_to parse registry)).filter (!·.isEmpty) ↔
      ∀ q ∈ qs, c_str q.2 = [] ∨ Room parse registry q := by
  have hfilter : ∀ l : List Bytes, l.filter sendable = (l.filter (!·.isEmpty)).filter sendable := by
    intro l
    rw [List.filter_filter]
    refine List.filter_congr fun r _ => ?_
    by_cases hr : r = [] <;> simp [sendable, hr]
  rw [hfilter, List.filter_eq_self]
  constructor
  · intro hall q hq
    by_cases hc : c_str q.2 = []
    · exact .inl hc
    · have hne : reply_to parse registry q ≠ [] := by
        rw [reply_to, dispatch_line parse registry hc]
        simp
      exact .inr ((sendable_reply q hc).1 (hall _ (List.mem_filter.2 ⟨List.mem_map_of_mem hq, by simpa using hne⟩)))
  · intro hall r hr
    obtain ⟨hr, hne⟩ := List.mem_filter.1 hr
    obtain ⟨q, hq, rfl⟩ := List.mem_map.1 hr
    rcases hall q hq with hc | hroom
    · rw [reply_to, dispatch_blank parse registry hc] at hne
      simp at hne
    · by_cases hc : c_str q.2 = []
      · rw [reply_to, dispatch_blank parse registry hc] at hne
        simp at hne
      · exact (sendable_reply q hc).2 hroom

/-- The same bytes, cut up in any two ways: the carriers pass on the same lines and
send the same replies exactly where the bytes are like that. -/
theorem carriers_agree_iff (world : W) (encrypt_ : SecureRecord) {records reads : List Bytes}
    (h : records.flatten = reads.flatten) :
    (dispatched (usb parse registry A world encrypt_ records) = dispatched (tcp parse registry world reads) ∧
      sent (usb parse registry A world encrypt_ records) = sent (tcp parse registry world reads)) ↔
    Equivalent parse registry world records.flatten := by
  rw [tcp_read, usb_read, ← h]
  obtain ⟨hud, hus⟩ :=
    deliver_lines parse registry A world encrypt_ (Lines.read newline no_pair none [] records.flatten).1
  obtain ⟨htd, hts⟩ := process_lines parse registry world (Lines.read any_newline crlf none [] records.flatten).1
  rw [hud, hus, htd, hts, lines_agree records.flatten [] none none (by simp), Equivalent]
  refine and_congr_right fun hhidden => ?_
  have hlines := (lines_agree records.flatten [] none none (by simp)).2 hhidden
  rw [← served_congr parse registry world hlines]
  exact sendable_replies _

end Carriers

/-- A request in two records, or in one read. -/
theorem carriers_agree_iff_ping : ∃ records reads : List Bytes, records.length ≠ reads.length ∧
    dispatched (usb (ping_parse 1) ping_registry (markedAead fun _ _ _ => true) ()
      (.new (.replicate 32 0) (.replicate 12 0)) records) =
      dispatched (tcp (ping_parse 1) ping_registry () reads) := by
  refine ⟨[ping_line 1, [10]], [ping_line 1 ++ [10]], by decide, ?_⟩
  have hread : (Lines.read newline no_pair none [] [ping_line 1, [10]].flatten).1 = [ping_line 1] := by decide
  refine ((carriers_agree_iff () _ (by simp)).2 ⟨by decide, fun q hq => .inr ?_⟩).1
  rw [hread] at hq
  rw [List.mem_singleton.1 hq, Room, ping_outcome]
  decide

/-- A blank line that ends in `\r\n`: over USB it is a request, over TCP it is blank. -/
theorem crlf_differs : ¬ ∀ (D W : Type) (_ : JsonGenerator D) (parse : JsonParser D) (registry : ControlRegistry D W)
    (A : Aead) (world : W) (encrypt_ : SecureRecord) (records reads : List Bytes), records.flatten = reads.flatten →
    records.flatten.getLast? = some 10 →
    dispatched (usb parse registry A world encrypt_ records) = dispatched (tcp parse registry world reads) ∧
      sent (usb parse registry A world encrypt_ records) = sent (tcp parse registry world reads) := by
  intro h
  have hagree := h Rat Unit inferInstance (ping_parse 1) ping_registry (markedAead fun _ _ _ => true) ()
    (.new (.replicate 32 0) (.replicate 12 0)) [[13, 10]] [[13], [10]] rfl rfl
  have hhidden := ((carriers_agree_iff () _ rfl).1 hagree).1
  simp [returns_hidden] at hhidden

end CameraStreamer.Secure.ControlCarriers
