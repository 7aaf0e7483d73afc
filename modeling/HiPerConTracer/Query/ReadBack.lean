import HiPerConTracer.Query.Queries
import HiPerConTracer.Results.Bookkeeping
import HiPerConTracer.Results.OwnLines
import Mathlib.Data.List.GetD

/-!
# Printed lines are read (`reader-ping.cc`, `reader-traceroute.cc`)

The columns of a line of version 2 are numbers and addresses, whose values the readers get back.  From a
file of such lines, `parseContents` makes the rows of the values, in their order:

    (∀ v ∈ vs, PingReadable i p v) → parseContents i o (openStream (vs.map (pingText p)) false) q =
      .ok q' → WholeRows … (bodies ++ vs.map (pingBody o backend)) q'                   (pings_read)

and of a file of Traceroute blocks the rows of the blocks (`blocks_read`).
-/

namespace HiPerConTracer.Query
open Net
open Results (Text dec hex Input Output Backend Parsed PingValues HeaderValues HopValues Timing WholeRows
  WithinRow column columnsOf)
open Results.Statement (decimal joined)

variable {i : Input} {o : Output} {p : Options}

/-! ## Values that are read back -/

/-- The text of the address is a word from which the address is made again. -/
structure AddressReadable (i : Input) (p : Options) (a : Address) : Prop where
  made : i.makeAddress (p.addressText a) = .ok a
  noSpace : ' ' ∉ p.addressText a
  notEmpty : p.addressText a ≠ []

structure TimingReadable (t : Timing) : Prop where
  timeSource : t.timeSource < 2 ^ 32
  delayAppSend : Fields.InInt64 t.delayAppSend
  delayQueuing : Fields.InInt64 t.delayQueuing
  delayAppReceive : Fields.InInt64 t.delayAppReceive
  rttApp : Fields.InInt64 t.rttApp
  rttSoftware : Fields.InInt64 t.rttSoftware
  rttHardware : Fields.InInt64 t.rttHardware

/-- A time that `parseTimeStamp` accepts. -/
structure TimeReadable (i : Input) (timeStamp : Int) : Prop where
  inTime : i.inTime timeStamp = true
  inInt64 : Fields.InInt64 timeStamp

structure PingReadable (i : Input) (p : Options) (v : PingValues) : Prop where
  protocol : v.protocol ≠ ' '
  measurementID : v.measurementID < 2 ^ 32
  sourceIP : AddressReadable i p v.sourceIP
  destinationIP : AddressReadable i p v.destinationIP
  sendTimeStamp : TimeReadable i v.sendTimeStamp
  burstSeq : v.burstSeq < 2 ^ 32
  trafficClass : v.trafficClass ≤ 0xff
  packetSize : v.packetSize < 2 ^ 32
  responseSize : v.responseSize < 2 ^ 32
  checksum : v.checksum ≤ 0xffff
  sourcePort : v.sourcePort ≤ 65535
  destinationPort : v.destinationPort ≤ 65535
  status : v.status < 2 ^ 32
  timing : TimingReadable v.timing

/-- The status flags `ffffffff` mean that there has not been a header. -/
structure HeaderReadable (i : Input) (p : Options) (h : HeaderValues) : Prop where
  protocol : h.protocol ≠ ' '
  measurementID : h.measurementID < 2 ^ 32
  sourceIP : AddressReadable i p h.sourceIP
  destinationIP : AddressReadable i p h.destinationIP
  timeStamp : TimeReadable i h.timeStamp
  roundNumber : h.roundNumber < 2 ^ 32
  totalHops_pos : 1 ≤ h.totalHops
  totalHops_le : h.totalHops ≤ 255
  trafficClass : h.trafficClass ≤ 0xff
  packetSize : h.packetSize < 2 ^ 32
  checksum : h.checksum ≤ 0xffff
  sourcePort : h.sourcePort ≤ 65535
  destinationPort : h.destinationPort ≤ 65535
  statusFlags : h.statusFlags < Results.TracerouteReader.noStatusFlags
  pathHash : Fields.InInt64 h.pathHash

structure HopReadable (i : Input) (p : Options) (v : HopValues) : Prop where
  sendTimeStamp : TimeReadable i v.sendTimeStamp
  hopNumber_pos : 1 ≤ v.hopNumber
  hopNumber_le : v.hopNumber ≤ 255
  responseSize : v.responseSize < 2 ^ 32
  /-- The flags above the status are those of the header. -/
  status : v.status < 256
  timing : TimingReadable v.timing
  hopIP : AddressReadable i p v.hopIP

/-! ## Columns -/

theorem ok_bind {ε α β : Type} (a : α) (f : α → Except ε β) : (Except.ok a >>= f) = f a := rfl

theorem parseNumber_padded {base n : Nat} (h1 : 1 < base) (hb : base ≤ 16) (width : Nat)
    (hn : n < 2 ^ 64) (what function : String) :
    Results.parseNumber i what function base (Numeral.padded base width n) = .ok n := by
  have hscan := @Numeral.scan_padded base h1 hb width n [] (fun _ hd => by cases hd) hn
  rw [List.append_nil] at hscan
  unfold Results.parseNumber
  rw [hscan]
  exact if_pos rfl

theorem parseNumber_text {base n : Nat} (h1 : 1 < base) (hb : base ≤ 16) (hn : n < 2 ^ 64)
    (what function : String) :
    Results.parseNumber i what function base (Numeral.text base n) = .ok n := by
  have hparse := parseNumber_padded (i := i) h1 hb 0 hn what function
  unfold Numeral.padded at hparse
  rwa [Nat.zero_sub, List.replicate_zero, List.nil_append] at hparse

theorem parseUnsigned_dec {n : Nat} (hn : n < 2 ^ 32) (what function : String) :
    Results.toUnsigned (Results.parseNumber i what function 10 (dec n)) = .ok n := by
  unfold dec
  rw [parseNumber_text (by omega) (by omega) (by omega)]
  show Except.ok (n % 2 ^ 32) = _
  rw [Nat.mod_eq_of_lt hn]

theorem parseStatus_hex {n : Nat} (hn : n < 2 ^ 32) :
    Results.parseStatus i (hex n) 16 = .ok n := by
  unfold Results.parseStatus hex
  rw [parseNumber_text (by omega) (by omega) (by omega)]
  show Except.ok (n % 2 ^ 32) = _
  rw [Nat.mod_eq_of_lt hn]

theorem parseTimeSource_padded {n : Nat} (width : Nat) (hn : n < 2 ^ 32) :
    Results.parseTimeSource i (Numeral.padded 16 width n) = .ok n := by
  unfold Results.parseTimeSource
  rw [parseNumber_padded (by omega) (by omega) width (by omega)]
  show Except.ok (n % 2 ^ 32) = _
  rw [Nat.mod_eq_of_lt hn]

theorem parseBounded_text {base lower upper n : Nat} (h1 : 1 < base) (hb : base ≤ 16)
    (hlower : lower ≤ n) (hupper : n ≤ upper) (hbound : upper < 2 ^ 64) (what invalid : String) :
    Results.parseBounded i what invalid base lower upper (Numeral.text base n) = .ok n := by
  unfold Results.parseBounded
  rw [parseNumber_text h1 hb (by omega)]
  exact if_neg (by omega)

theorem parseAddress_text {a : Address} (h : AddressReadable i p a) :
    Results.parseAddress i (p.addressText a) = .ok a := by
  unfold Results.parseAddress
  rw [h.made]

theorem unsigned_lt (n : Int) : unsigned 64 n < 2 ^ 64 := by
  unfold unsigned
  omega

theorem toLongLong_unsigned {n : Int} (h : Fields.InInt64 n) :
    Results.toLongLong (unsigned 64 n) = n := by
  unfold Fields.InInt64 at h
  unfold Results.toLongLong unsigned
  split <;> omega

theorem parseTimeStamp_hex {timeStamp : Int} (h : TimeReadable i timeStamp) :
    Results.parseTimeStamp i (hex (unsigned 64 timeStamp)) = .ok timeStamp := by
  unfold Results.parseTimeStamp hex
  rw [parseNumber_text (by omega) (by omega) (unsigned_lt timeStamp)]
  simp only
  rw [toLongLong_unsigned h.inInt64, if_pos h.inTime]

theorem parsePathHash_hex {n : Int} (h : Fields.InInt64 n) :
    Results.parsePathHash i (hex (unsigned 64 n)) = .ok n := by
  unfold Results.parsePathHash hex
  rw [parseNumber_text (by omega) (by omega) (unsigned_lt n)]
  exact congrArg Except.ok (toLongLong_unsigned h)

/-- Also `-1` is read, as a number without sign. -/
theorem parseNanoseconds_decimal {n : Int} (h : Fields.InInt64 n) :
    Results.parseNanoseconds i (decimal n) = .ok n := by
  have hlong := toLongLong_unsigned h
  unfold Fields.InInt64 at h
  unfold Results.parseNanoseconds decimal
  by_cases hn : n < 0
  · have hvalue : (2 ^ 64 - n.natAbs) % 2 ^ 64 = unsigned 64 n := by
      unfold unsigned
      omega
    have hscan := @Numeral.scan_minus 10 (by omega) (by omega) n.natAbs (by omega)
    rw [hvalue] at hscan
    unfold Results.parseNumber
    rw [if_pos hn, hscan]
    simp only [List.length_cons, Nat.add_comm 1, if_true]
    exact congrArg Except.ok hlong
  · have hvalue : n.natAbs = unsigned 64 n := by
      unfold unsigned
      omega
    rw [if_neg hn, parseNumber_text (by omega) (by omega) (by omega), hvalue]
    exact congrArg Except.ok hlong

theorem parseTiming_words {t : Timing} (h : TimingReadable t) (before rest : List Text) :
    Results.parseTiming i (before ++ timingWords t ++ rest) before.length = .ok t := by
  have hcolumn : ∀ k, column (before ++ timingWords t ++ rest) (before.length + k) =
      column (timingWords t ++ rest) k := by
    intro k
    unfold column
    rw [List.append_assoc, List.getD_append_right _ _ _ _ (by omega), Nat.add_sub_cancel_left]
  have hfirst := hcolumn 0
  rw [Nat.add_zero] at hfirst
  unfold Results.parseTiming
  rw [hfirst, hcolumn, hcolumn, hcolumn, hcolumn, hcolumn, hcolumn]
  simp only [timingWords, column, List.cons_append, List.getD_cons_succ, List.getD_cons_zero]
  rw [parseTimeSource_padded 8 h.timeSource, parseNanoseconds_decimal h.delayAppSend,
    parseNanoseconds_decimal h.delayQueuing, parseNanoseconds_decimal h.delayAppReceive,
    parseNanoseconds_decimal h.rttApp, parseNanoseconds_decimal h.rttSoftware,
    parseNanoseconds_decimal h.rttHardware]
  rfl

/-! ## Values -/

theorem parsePing_words {v : PingValues} (h : PingReadable i p v) (rest : List Text) :
    Results.parsePing i (pingWords p v ++ timingWords v.timing ++ rest) = .ok v := by
  have htiming : Results.parseTiming i (pingWords p v ++ timingWords v.timing ++ rest) 13 =
      .ok v.timing := parseTiming_words h.timing (pingWords p v) rest
  unfold Results.parsePing
  rw [htiming]
  simp only [pingWords, column, List.cons_append, List.getD_cons_succ, List.getD_cons_zero]
  unfold Results.parseMeasurementID Results.parseRoundNumber Results.parseTrafficClass
    Results.parsePacketSize Results.parseResponseSize Results.parseChecksum Results.parsePort
    Results.parseStatus
  rw [parseUnsigned_dec h.measurementID, ok_bind, parseAddress_text h.sourceIP, ok_bind,
    parseAddress_text h.destinationIP, ok_bind, parseTimeStamp_hex h.sendTimeStamp, ok_bind,
    parseUnsigned_dec h.burstSeq, ok_bind, hex, parseBounded_text (by omega) (by omega)
      (Nat.zero_le _) h.trafficClass (by omega), ok_bind, parseUnsigned_dec h.packetSize, ok_bind,
    parseUnsigned_dec h.responseSize, ok_bind, hex, parseBounded_text (by omega) (by omega)
      (Nat.zero_le _) h.checksum (by omega), ok_bind, dec, parseBounded_text (by omega) (by omega)
      (Nat.zero_le _) h.sourcePort (by omega), ok_bind, dec, parseBounded_text (by omega) (by omega)
      (Nat.zero_le _) h.destinationPort (by omega), ok_bind, parseUnsigned_dec h.status, ok_bind,
    ok_bind]
  rfl

theorem parseHeader_words {h : HeaderValues} (hh : HeaderReadable i p h) (rest : List Text) :
    Results.parseHeader i
      (headerWords p h ++ [hex h.statusFlags, hex (unsigned 64 h.pathHash)] ++ rest) = .ok h := by
  have hflags : h.statusFlags < 2 ^ 32 := lt_trans hh.statusFlags (by decide)
  unfold Results.parseHeader
  simp only [headerWords, column, List.cons_append, List.nil_append, List.getD_cons_succ,
    List.getD_cons_zero]
  rw [parseStatus_hex hflags, parsePathHash_hex hh.pathHash]
  unfold Results.parseMeasurementID Results.parseRoundNumber Results.parseTotalHops
    Results.parseTrafficClass Results.parsePacketSize Results.parseChecksum Results.parsePort
  rw [parseUnsigned_dec hh.measurementID, ok_bind, parseAddress_text hh.sourceIP, ok_bind,
    parseAddress_text hh.destinationIP, ok_bind, parseTimeStamp_hex hh.timeStamp, ok_bind,
    parseUnsigned_dec hh.roundNumber, ok_bind, dec, parseBounded_text (by omega) (by omega)
      hh.totalHops_pos hh.totalHops_le (by omega), ok_bind, hex, parseBounded_text (by omega)
      (by omega) (Nat.zero_le _) hh.trafficClass (by omega), ok_bind, parseUnsigned_dec hh.packetSize,
    ok_bind, hex, parseBounded_text (by omega) (by omega) (Nat.zero_le _) hh.checksum (by omega),
    ok_bind, dec, parseBounded_text (by omega) (by omega) (Nat.zero_le _) hh.sourcePort (by omega),
    ok_bind, dec, parseBounded_text (by omega) (by omega) (Nat.zero_le _) hh.destinationPort
      (by omega), ok_bind, ok_bind, ok_bind]
  rfl

/-- The first column of a hop begins with a tabulator, which is skipped as a space. -/
theorem parseTimeStamp_tab {timeStamp : Int} (h : TimeReadable i timeStamp) :
    Results.parseTimeStamp i ('\t' :: hex (unsigned 64 timeStamp)) = .ok timeStamp := by
  have hscan := @Numeral.scan_text 16 (by omega) (by omega) (unsigned 64 timeStamp) []
    (fun _ hd => by cases hd) (unsigned_lt timeStamp)
  rw [List.append_nil] at hscan
  unfold Results.parseTimeStamp Results.parseNumber hex
  rw [Numeral.scan_space (by decide) hscan]
  simp only [List.length_cons, if_true]
  rw [toLongLong_unsigned h.inInt64, if_pos h.inTime]

theorem parseHop_words {v : HopValues} (h : HopReadable i p v) (rest : List Text) :
    Results.parseHop i (hopWords v ++ timingWords v.timing ++ [p.addressText v.hopIP] ++ rest) =
      .ok v := by
  have htiming : Results.parseTiming i
      (hopWords v ++ timingWords v.timing ++ ([p.addressText v.hopIP] ++ rest)) 4 = .ok v.timing :=
    parseTiming_words h.timing (hopWords v) _
  have hstatus : v.status % 256 = v.status := Nat.mod_eq_of_lt h.status
  unfold Results.parseHop
  rw [List.append_assoc, htiming]
  simp only [hopWords, timingWords, column, List.cons_append, List.nil_append, List.getD_cons_succ,
    List.getD_cons_zero]
  unfold Results.parseHopNumber Results.parseResponseSize Results.parseStatus
  rw [parseTimeStamp_tab h.sendTimeStamp, ok_bind, dec, parseBounded_text (by omega) (by omega)
      h.hopNumber_pos h.hopNumber_le (by omega), ok_bind, parseUnsigned_dec h.responseSize, ok_bind,
    hstatus, parseUnsigned_dec (lt_trans h.status (by decide)), ok_bind, ok_bind,
    parseAddress_text h.hopIP]
  rfl

/-! ## Lines -/

/-- The line of a Ping, without its end. -/
def pingText (p : Options) (v : PingValues) : Text :=
  [' '].intercalate (pingWords p v ++ timingWords v.timing)

def headerText (p : Options) (h : HeaderValues) : Text :=
  [' '].intercalate (headerWords p h ++ [hex h.statusFlags, hex (unsigned 64 h.pathHash)])

def hopText (p : Options) (v : HopValues) : Text :=
  [' '].intercalate (hopWords v ++ timingWords v.timing ++ [p.addressText v.hopIP])

theorem pingLine_eq (p : Options) (v : PingValues) : pingLine p v = pingText p v ++ ['\n'] := rfl

theorem headerLine_eq (p : Options) (h : HeaderValues) :
    headerLine p h = headerText p h ++ ['\n'] := rfl

theorem hopLine_eq (p : Options) (v : HopValues) : hopLine p v = hopText p v ++ ['\n'] := rfl

/-- A text that is read as one column. -/
def IsWord (w : Text) : Prop := ' ' ∉ w ∧ w ≠ []

theorem isWord_text {base : Nat} (h1 : 1 < base) (hb : base ≤ 16) (n : Nat) :
    IsWord (Numeral.text base n) := ⟨Numeral.space_not_mem_text h1 hb n, Numeral.text_ne_nil n⟩

theorem isWord_dec (n : Nat) : IsWord (dec n) := isWord_text (by omega) (by omega) n

theorem isWord_hex (n : Nat) : IsWord (hex n) := isWord_text (by omega) (by omega) n

theorem isWord_padded (width n : Nat) : IsWord (Numeral.padded 16 width n) := by
  refine ⟨not_mem_padded width n, ?_⟩
  unfold Numeral.padded
  exact List.append_ne_nil_of_right_ne_nil _ (Numeral.text_ne_nil n)

theorem isWord_decimal (n : Int) : IsWord (decimal n) := by
  refine ⟨not_mem_decimal n, ?_⟩
  unfold decimal
  split
  · exact List.cons_ne_nil _ _
  · exact Numeral.text_ne_nil _

theorem AddressReadable.isWord {a : Address} (h : AddressReadable i p a) :
    IsWord (p.addressText a) := ⟨h.noSpace, h.notEmpty⟩

theorem isWord_tag {a b c : Char} (ha : a ≠ ' ') (hb : b ≠ ' ') (hc : c ≠ ' ') :
    IsWord [a, b, c] := by
  refine ⟨?_, List.cons_ne_nil _ _⟩
  simp only [List.mem_cons, List.not_mem_nil, or_false, not_or]
  exact ⟨ha.symm, hb.symm, hc.symm⟩

theorem columnsOf_words {ws : List Text} (h : ∀ w ∈ ws, IsWord w) :
    columnsOf ([' '].intercalate ws) = ws :=
  Separated.words_intercalate (fun w hw => (h w hw).1) fun w hw => (h w hw).2

theorem isWord_timingWords (t : Timing) : ∀ w ∈ timingWords t, IsWord w := by
  simp only [timingWords, List.forall_mem_cons]
  exact ⟨isWord_padded _ _, isWord_decimal _, isWord_decimal _, isWord_decimal _, isWord_decimal _,
    isWord_decimal _, isWord_decimal _, fun w hw => absurd hw List.not_mem_nil⟩

theorem columnsOf_pingText {v : PingValues} (h : PingReadable i p v) :
    columnsOf (pingText p v) = pingWords p v ++ timingWords v.timing := by
  refine columnsOf_words (List.forall_mem_append.mpr ⟨?_, isWord_timingWords v.timing⟩)
  simp only [pingWords, List.forall_mem_cons]
  exact ⟨isWord_tag (by decide) (by decide) h.protocol, isWord_dec _, h.sourceIP.isWord,
    h.destinationIP.isWord, isWord_hex _, isWord_dec _, isWord_hex _, isWord_dec _, isWord_dec _,
    isWord_hex _, isWord_dec _, isWord_dec _, isWord_dec _,
    fun w hw => absurd hw List.not_mem_nil⟩

theorem columnsOf_headerText {h : HeaderValues} (hh : HeaderReadable i p h) :
    columnsOf (headerText p h) =
      headerWords p h ++ [hex h.statusFlags, hex (unsigned 64 h.pathHash)] := by
  refine columnsOf_words ?_
  simp only [headerWords, List.cons_append, List.nil_append, List.forall_mem_cons]
  exact ⟨isWord_tag (by decide) (by decide) hh.protocol, isWord_dec _, hh.sourceIP.isWord,
    hh.destinationIP.isWord, isWord_hex _, isWord_dec _, isWord_dec _, isWord_hex _, isWord_dec _,
    isWord_hex _, isWord_dec _, isWord_dec _, isWord_hex _,
    isWord_hex _, fun w hw => absurd hw List.not_mem_nil⟩

theorem columnsOf_hopText {v : HopValues} (h : HopReadable i p v) :
    columnsOf (hopText p v) = hopWords v ++ timingWords v.timing ++ [p.addressText v.hopIP] := by
  have hfirst : IsWord ('\t' :: hex (unsigned 64 v.sendTimeStamp)) := by
    refine ⟨?_, List.cons_ne_nil _ _⟩
    rw [List.mem_cons, not_or]
    exact ⟨by decide, Numeral.space_not_mem_text (by omega) (by omega) _⟩
  refine columnsOf_words (List.forall_mem_append.mpr ⟨List.forall_mem_append.mpr
    ⟨?_, isWord_timingWords v.timing⟩, List.forall_mem_singleton.mpr h.hopIP.isWord⟩)
  simp only [hopWords, List.forall_mem_cons]
  exact ⟨hfirst, isWord_dec _, isWord_dec _, isWord_dec _, fun w hw => absurd hw List.not_mem_nil⟩

/-! ## Reading a line -/

/-- The columns of a line are in the tuple, in front of former ones. -/
theorem assignColumns_eq {maxColumns : Nat} {columns : List Text} (h : columns.length ≤ maxColumns)
    (tuple : List Text) : Results.assignColumns maxColumns columns tuple =
      columns ++ tuple.drop columns.length := by
  unfold Results.assignColumns
  rw [List.take_of_length_le h]

theorem intercalate_cons (c : Char) (w : Text) (ws : List Text) :
    [' '].intercalate ((c :: w) :: ws) = c :: [' '].intercalate (w :: ws) := by
  cases ws with
  | nil => rw [List.intercalate_singleton, List.intercalate_singleton]
  | cons w' ws => rw [List.intercalate_cons_cons, List.intercalate_cons_cons]; rfl

theorem readLine_ping {v : PingValues} (h : PingReadable i p v) (tuple : List Text) (q : Parsed) :
    ∃ tuple', Results.PingReader.readLine i o (tuple, q) (pingText p v) =
      (Results.PingReader.writeRow o q v).map fun q' => (tuple', q') := by
  have hcolumns := columnsOf_pingText h
  obtain ⟨rest, hrest⟩ : ∃ rest, pingText p v = '#' :: 'P' :: v.protocol :: rest := by
    unfold pingText pingWords
    rw [List.cons_append, intercalate_cons, intercalate_cons, intercalate_cons]
    exact ⟨_, rfl⟩
  refine ⟨Results.assignColumns Results.PingReader.columns (columnsOf (pingText p v)) tuple, ?_⟩
  unfold Results.PingReader.readLine Results.PingReader.convert
  simp only
  rw [if_neg (by rw [hrest]; simp), if_pos (by rw [hrest]; rfl), if_neg ?_, ok_bind, hcolumns,
    if_neg (by show ¬ 20 < 20; omega), assignColumns_eq (by exact Nat.le_refl 20),
    parsePing_words h, ok_bind]
  · cases Results.PingReader.writeRow o q v <;> rfl
  · rw [hrest]
    simp [h.protocol]

/-- A header ends the block before it. -/
theorem readLine_header {h : HeaderValues} (hh : HeaderReadable i p h)
    {s : Results.TracerouteReader.State} (hs : s.version = 2) :
    ∃ tuple, Results.TracerouteReader.readLine i o s (headerText p h) =
      (Results.TracerouteReader.endBlock s.header s.parsed >>= fun q =>
        Results.TracerouteReader.beginBlock o h q).map fun parsed =>
          { s with tuple, header := h, parsed } := by
  have hcolumns := columnsOf_headerText hh
  obtain ⟨rest, hrest⟩ : ∃ rest, headerText p h = '#' :: 'T' :: h.protocol :: rest := by
    unfold headerText headerWords
    rw [List.cons_append, intercalate_cons, intercalate_cons, intercalate_cons]
    exact ⟨_, rfl⟩
  have htake : (headerText p h).take 3 ≠ ['#', 'T', ' '] := by
    rw [hrest]
    simp [hh.protocol]
  refine ⟨Results.assignColumns Results.TracerouteReader.maxColumns (columnsOf (headerText p h))
    s.tuple, ?_⟩
  unfold Results.TracerouteReader.readLine Results.TracerouteReader.readTuple
    Results.TracerouteReader.convert
  simp only [htake, if_false]
  rw [if_neg (by rw [hrest]; simp), if_neg (by omega), ok_bind]
  simp only
  rw [hcolumns, if_neg (by show ¬ 14 < 4; omega), assignColumns_eq (by exact Nat.le_refl 14), ok_bind]
  unfold Results.TracerouteReader.readColumns
  rw [if_pos (by rfl), parseHeader_words hh]
  cases hend : Results.TracerouteReader.endBlock s.header s.parsed with
  | error e => rfl
  | ok q =>
    rw [ok_bind, ok_bind, ok_bind]
    cases Results.TracerouteReader.beginBlock o h q <;> rfl

theorem readLine_hop {v : HopValues} (h : HopReadable i p v) {s : Results.TracerouteReader.State}
    (hs : s.version = 2) (hflags : s.header.statusFlags ≠ Results.TracerouteReader.noStatusFlags) :
    ∃ tuple, Results.TracerouteReader.readLine i o s (hopText p v) =
      (Results.TracerouteReader.writeHop o s.header v s.parsed).map fun parsed =>
        { s with tuple, parsed } := by
  have hcolumns := columnsOf_hopText h
  obtain ⟨rest, hrest⟩ : ∃ rest, hopText p v = '\t' :: rest := by
    unfold hopText hopWords
    rw [List.cons_append, List.cons_append, intercalate_cons]
    exact ⟨_, rfl⟩
  refine ⟨Results.assignColumns Results.TracerouteReader.maxColumns (columnsOf (hopText p v))
    s.tuple, ?_⟩
  unfold Results.TracerouteReader.readLine Results.TracerouteReader.readTuple
    Results.TracerouteReader.convert
  have htake : (hopText p v).take 3 ≠ ['#', 'T', ' '] := by
    rw [hrest]
    simp
  simp only [htake, if_false]
  rw [if_neg (by rw [hrest]; simp), if_neg (by omega), ok_bind]
  simp only
  rw [hcolumns, if_neg (by show ¬ 12 < 4; omega), assignColumns_eq (by show 12 ≤ 14; omega), ok_bind]
  unfold Results.TracerouteReader.readColumns
  rw [if_neg (by simp [Results.TracerouteReader.isHeader, column, hopWords]), if_pos (by rfl),
    if_neg hflags, parseHop_words h, ok_bind]
  cases Results.TracerouteReader.writeHop o s.header v s.parsed <;> rfl

/-! ## Rows -/

variable {start : Text} {backend : Backend} {bodies : List Text} {q : Parsed}

/-- The row of a Ping. -/
def pingBody (o : Output) (backend : Backend) (v : PingValues) : Text :=
  joined backend.isSQL (Results.fieldCells backend.isSQL (Results.pingFields o backend v))

theorem writeRow_rows (h : WholeRows start backend bodies q) (v : PingValues) :
    ∃ q', Results.PingReader.writeRow o q v = .ok q' ∧
      WholeRows start backend (bodies ++ [pingBody o backend v]) q' := by
  obtain ⟨s₁, h₁, hw₁⟩ := h.beginRow
  obtain ⟨s₂, h₂, hw₂⟩ := hw₁.cells
    (Results.fieldCells backend.isSQL (Results.pingFields o backend v))
  obtain ⟨s₃, h₃, hw₃⟩ := hw₂.endRow
  have hb : s₁.backend = backend := hw₁.backend_eq
  change s₁.cells _ = _ at h₂
  change s₂.endRow = _ at h₃
  refine ⟨⟨s₃, q.rows + 1⟩, ?_, by rwa [List.nil_append] at hw₃⟩
  unfold Results.PingReader.writeRow
  rw [h₁, ok_bind, hb, h₂, ok_bind, h₃, ok_bind]
  rfl

/-- The rows of a block: one for each hop for SQL, and one for the block for NoSQL. -/
def blockBodies (o : Output) (backend : Backend) (h : HeaderValues) (hops : List HopValues) :
    List Text :=
  if backend.isSQL then hops.map fun v => joined true (Results.hopRow o backend h v)
  else [Results.blockPart o backend h hops ++ [']']]

/-- Rows, and behind them what there is of the block of a header, with these hops so far. -/
inductive InBlock (start : Text) (backend : Backend) (o : Output) (bodies : List Text)
    (h : HeaderValues) (hops : List HopValues) (q : Parsed) : Prop where
  | sql (hsql : backend.isSQL = true)
      (hrows : WholeRows start backend (bodies ++ blockBodies o backend h hops) q)
  | noSQL (hsql : backend.isSQL = false)
      (hrow : WithinRow start backend bodies (Results.blockPart o backend h hops) q)

theorem beginBlock_rows (hq : WholeRows start backend bodies q) (h : HeaderValues) :
    ∃ q', Results.TracerouteReader.beginBlock o h q = .ok q' ∧
      InBlock start backend o bodies h [] q' := by
  unfold Results.TracerouteReader.beginBlock
  rw [hq.backend_eq]
  cases hsql : backend.isSQL with
  | true =>
    refine ⟨q, if_pos rfl, .sql hsql ?_⟩
    unfold blockBodies
    rwa [if_pos hsql, List.map_nil, List.append_nil]
  | false =>
    rw [if_neg (by decide)]
    obtain ⟨s₁, h₁, hw₁⟩ := hq.beginRow
    obtain ⟨s₂, h₂, hw₂⟩ := hw₁.cells (Results.headerCells o backend h)
    have hb : s₁.backend = backend := hw₁.backend_eq
    change s₁.cells _ = _ at h₂
    rw [h₁, ok_bind, hb, h₂]
    refine ⟨⟨s₂, q.rows⟩, rfl, .noSQL hsql ?_⟩
    rw [hsql, List.nil_append] at hw₂
    unfold Results.blockPart
    rwa [List.flatMap_nil, List.append_nil]

theorem InBlock.writeHop {h : HeaderValues} {hops : List HopValues}
    (hq : InBlock start backend o bodies h hops q) (v : HopValues) :
    ∃ q', Results.TracerouteReader.writeHop o h v q = .ok q' ∧
      InBlock start backend o bodies h (hops ++ [v]) q' := by
  unfold Results.TracerouteReader.writeHop
  cases hq with
  | sql hsql hrows =>
    rw [hrows.backend_eq, if_pos hsql]
    obtain ⟨s₁, h₁, hw₁⟩ := hrows.beginRow
    obtain ⟨s₂, h₂, hw₂⟩ := hw₁.cells (Results.hopRow o backend h v)
    obtain ⟨s₃, h₃, hw₃⟩ := hw₂.endRow
    have hb : s₁.backend = backend := hw₁.backend_eq
    change s₁.cells _ = _ at h₂
    change s₂.endRow = _ at h₃
    rw [h₁, ok_bind, hb, h₂, ok_bind, h₃]
    refine ⟨_, rfl, .sql hsql ?_⟩
    unfold blockBodies at hw₃ ⊢
    rw [if_pos hsql, hsql, List.nil_append, List.append_assoc] at hw₃
    rwa [if_pos hsql, List.map_append]
  | noSQL hsql hrow =>
    rw [hrow.backend_eq, if_neg (by rw [hsql]; decide)]
    have hw₁ := hrow.append (if v.hopNumber > 1 then ", \x7b ".toList else " \x7b ".toList)
    obtain ⟨s₂, h₂, hw₂⟩ := hw₁.cells (Results.hopCells o backend v)
    have hb : q.statement.backend = backend := hrow.backend_eq
    refine ⟨⟨s₂.append " \x7d".toList, q.rows⟩, ?_, .noSQL hsql ?_⟩
    · change (q.statement.append _).cells _ = _ at h₂
      show ((q.statement.append _).cells (Results.hopCells o q.statement.backend v) >>= _) = _
      rw [hb, h₂]
      rfl
    · have hw₃ := hw₂.append " \x7d".toList
      rw [hsql] at hw₃
      unfold Results.blockPart Results.hopPart at hw₃ ⊢
      rw [List.flatMap_append, List.flatMap_singleton]
      simp only [List.append_assoc] at hw₃ ⊢
      exact hw₃

theorem InBlock.endBlock {h : HeaderValues} {hops : List HopValues}
    (hq : InBlock start backend o bodies h hops q)
    (hflags : h.statusFlags ≠ Results.TracerouteReader.noStatusFlags) :
    ∃ q', Results.TracerouteReader.endBlock h q = .ok q' ∧
      WholeRows start backend (bodies ++ blockBodies o backend h hops) q' := by
  unfold Results.TracerouteReader.endBlock
  cases hq with
  | sql hsql hrows =>
    refine ⟨q, if_neg ?_, hrows⟩
    rw [hrows.backend_eq, hsql]
    exact fun hno => absurd hno.2 (by decide)
  | noSQL hsql hrow =>
    rw [if_pos ⟨hflags, by rw [hrow.backend_eq]; exact hsql⟩]
    obtain ⟨s, hs, hrows⟩ := (hrow.append [']']).endRow
    change (q.statement.append [']']).endRow = _ at hs
    rw [hs]
    refine ⟨_, rfl, ?_⟩
    unfold blockBodies
    rwa [if_neg (by rw [hsql]; decide)]

/-! ## Files -/

theorem forLines_open {σ : Type} (body : σ → Text → Except Results.Failure σ) (s : σ)
    (lines : List Text) :
    (Results.openStream lines false).forLines body s = Run.exec body s lines := by
  have hlines : (Results.openStream lines false).lines = lines := rfl
  unfold Results.InputStream.forLines
  rw [hlines]
  cases Run.exec body s lines with
  | error e => rfl
  | ok t => rfl

theorem exec_pings {vs : List PingValues} (hv : ∀ v ∈ vs, PingReadable i p v) (tuple : List Text)
    (hq : WholeRows start backend bodies q) :
    ∃ tuple' q', Run.exec (Results.PingReader.readLine i o) (tuple, q) (vs.map (pingText p)) =
        .ok (tuple', q') ∧
      WholeRows start backend (bodies ++ vs.map (pingBody o backend)) q' := by
  induction vs generalizing tuple bodies q with
  | nil => exact ⟨tuple, q, rfl, by rwa [List.map_nil, List.append_nil]⟩
  | cons v vs ih =>
    rw [List.forall_mem_cons] at hv
    obtain ⟨tuple₁, hread⟩ := readLine_ping (o := o) hv.1 tuple q
    obtain ⟨q₁, hwrite, hq₁⟩ := writeRow_rows (o := o) hq v
    obtain ⟨tuple', q', hexec, hq'⟩ := ih hv.2 tuple₁ hq₁
    refine ⟨tuple', q', ?_, ?_⟩
    · rw [List.map_cons]
      unfold Run.exec
      rw [hread, hwrite]
      exact hexec
    · rwa [List.append_assoc, List.singleton_append] at hq'

/-- Format identifiers are skipped. -/
theorem exec_identifiers {σ : Type} {body : σ → Text → Except Results.Failure σ}
    (hskip : ∀ s line, line.take 2 = ['#', '?'] → body s line = .ok s) {lines : List Text}
    (h : ∀ line ∈ lines, line.take 2 = ['#', '?']) (s : σ) (rest : List Text) :
    Run.exec body s (lines ++ rest) = Run.exec body s rest := by
  refine Run.exec_append body s s lines rest ?_
  induction lines with
  | nil => rfl
  | cons line lines ih =>
    rw [List.forall_mem_cons] at h
    unfold Run.exec
    rw [hskip s line h.1]
    exact ih h.2

/-- **A file with Pings** gives their rows. -/
theorem pings_read {vs : List PingValues} (hv : ∀ v ∈ vs, PingReadable i p v)
    {identifiers : List Text} (hid : ∀ line ∈ identifiers, line.take 2 = ['#', '?'])
    (hq : WholeRows start backend bodies q) :
    ∃ q', Results.PingReader.parseContents i o
        (Results.openStream (identifiers ++ vs.map (pingText p)) false) q = .ok q' ∧
      WholeRows start backend (bodies ++ vs.map (pingBody o backend)) q' := by
  obtain ⟨tuple', q', hexec, hq'⟩ := exec_pings (o := o) hv
    (List.replicate Results.PingReader.columns []) hq
  refine ⟨q', ?_, hq'⟩
  unfold Results.PingReader.parseContents
  have hskip : ∀ s line, line.take 2 = ['#', '?'] →
      Results.PingReader.readLine i o s line = .ok s := fun _ _ h => if_pos h
  rw [forLines_open, exec_identifiers hskip hid, hexec]
  rfl

/-- The lines of a block. -/
def blockTexts (p : Options) (b : HeaderValues × List HopValues) : List Text :=
  headerText p b.1 :: b.2.map (hopText p)

/-- The rows, once the block has been ended. -/
def Ended (start : Text) (backend : Backend) (bodies : List Text)
    (s : Results.TracerouteReader.State) : Prop :=
  s.version = 2 ∧ ∃ q, Results.TracerouteReader.endBlock s.header s.parsed = .ok q ∧
    WholeRows start backend bodies q

theorem exec_hops {h : HeaderValues} {hops vs : List HopValues}
    (hflags : h.statusFlags ≠ Results.TracerouteReader.noStatusFlags)
    (hv : ∀ v ∈ vs, HopReadable i p v) {s : Results.TracerouteReader.State} (hversion : s.version = 2)
    (hheader : s.header = h) (hs : InBlock start backend o bodies h hops s.parsed) :
    ∃ t, Run.exec (Results.TracerouteReader.readLine i o) s (vs.map (hopText p)) = .ok t ∧
      Ended start backend (bodies ++ blockBodies o backend h (hops ++ vs)) t := by
  induction vs generalizing hops s with
  | nil =>
    rw [List.append_nil]
    rw [← hheader] at hflags hs ⊢
    exact ⟨s, rfl, hversion, hs.endBlock hflags⟩
  | cons v vs ih =>
    rw [List.forall_mem_cons] at hv
    obtain ⟨tuple, hread⟩ := readLine_hop (o := o) hv.1 hversion (by rwa [hheader])
    obtain ⟨parsed, hwrite, hparsed⟩ := hs.writeHop v
    rw [← hheader] at hwrite
    rw [hwrite] at hread
    obtain ⟨t, hexec, ht⟩ := ih hv.2 (s := { s with tuple, parsed }) hversion hheader hparsed
    refine ⟨t, ?_, ?_⟩
    · rw [List.map_cons]
      unfold Run.exec
      rw [hread]
      exact hexec
    · rwa [List.append_assoc, List.singleton_append] at ht

/-- A block that can be read. -/
def BlockReadable (i : Input) (p : Options) (b : HeaderValues × List HopValues) : Prop :=
  HeaderReadable i p b.1 ∧ ∀ v ∈ b.2, HopReadable i p v

theorem exec_blocks {bs : List (HeaderValues × List HopValues)}
    (hb : ∀ b ∈ bs, BlockReadable i p b) {s : Results.TracerouteReader.State}
    (hs : Ended start backend bodies s) :
    ∃ t, Run.exec (Results.TracerouteReader.readLine i o) s (bs.flatMap (blockTexts p)) = .ok t ∧
      Ended start backend (bodies ++ bs.flatMap fun b => blockBodies o backend b.1 b.2) t := by
  induction bs generalizing s bodies with
  | nil => exact ⟨s, rfl, by rwa [List.flatMap_nil, List.append_nil]⟩
  | cons b bs ih =>
    rw [List.forall_mem_cons] at hb
    obtain ⟨⟨hheader, hhops⟩, hrest⟩ := hb
    obtain ⟨hversion, q, hend, hq⟩ := hs
    obtain ⟨tuple, hread⟩ := readLine_header (o := o) hheader hversion
    obtain ⟨parsed, hbegin, hparsed⟩ := beginBlock_rows (o := o) hq b.1
    rw [hend, ok_bind, hbegin] at hread
    obtain ⟨u, hexec, hu⟩ := exec_hops (ne_of_lt hheader.statusFlags) hhops
      (s := { s with tuple, header := b.1, parsed }) hversion rfl hparsed
    obtain ⟨t, hexec', ht⟩ := ih hrest hu
    refine ⟨t, ?_, ?_⟩
    · unfold blockTexts
      rw [List.flatMap_cons, List.cons_append]
      unfold Run.exec
      rw [hread]
      exact (Run.exec_append _ _ _ _ _ hexec).trans hexec'
    · rwa [List.flatMap_cons, ← List.append_assoc]

/-- **A file with Traceroute blocks** gives their rows. -/
theorem blocks_read {bs : List (HeaderValues × List HopValues)}
    (hb : ∀ b ∈ bs, BlockReadable i p b) {identifiers : List Text}
    (hid : ∀ line ∈ identifiers, line.take 2 = ['#', '?'])
    (hq : WholeRows start backend bodies q) :
    ∃ q', Results.TracerouteReader.parseContents i o
        (Results.openStream (identifiers ++ bs.flatMap (blockTexts p)) false) q = .ok q' ∧
      WholeRows start backend (bodies ++ bs.flatMap fun b => blockBodies o backend b.1 b.2) q' := by
  have hstart : Ended start backend bodies (Results.TracerouteReader.State.start q) :=
    ⟨rfl, q, if_neg fun h => h.1 rfl, hq⟩
  obtain ⟨t, hexec, -, q', hend, hq'⟩ := exec_blocks (o := o) hb hstart
  refine ⟨q', ?_, hq'⟩
  unfold Results.TracerouteReader.parseContents
  have hskip : ∀ s line, line.take 2 = ['#', '?'] →
      Results.TracerouteReader.readLine i o s line = .ok s := fun _ _ h => if_pos h
  rw [forLines_open, exec_identifiers hskip hid, hexec]
  exact hend

end HiPerConTracer.Query
