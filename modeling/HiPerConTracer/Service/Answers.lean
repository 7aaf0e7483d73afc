import HiPerConTracer.Service.Responses
import HiPerConTracer.Service.Steps
import HiPerConTracer.Wire.Forms

/-!
# Answers to requests (`ICMPModule::handlePayloadResponse`, `UDPModule::handlePayloadResponse`)

The messages that are recorded are the answers of a grammar: an echo of the payload, or an ICMP error that
quotes a request.  All of them are recorded, and nothing else is

    ICMPModule.handlePayloadResponse io message = some r ↔ ICMPModule.Answer io message r
                                                             (icmp_handlePayloadResponse_iff)
    UDPModule.handlePayloadResponse io socket message = some r ↔ UDPModule.Answer io socket message r
                                                             (udp_handlePayloadResponse_iff)
-/

namespace HiPerConTracer.Service
open Net Wire Reads

/-! ## Grammar -/

/-- An IPv4 header with options, the ICMP or UDP header of its payload, and what follows. -/
def inIPv4 (ip : IPv4Header) (options payload : List UInt8) : List UInt8 := ip.bytes ++ (options ++ payload)

/-- The TraceService header that is read: that of the module. -/
structure IOModule.Owns (io : IOModule) (ts : TraceServiceHeader) : Prop where
  padding : ts.padding = []
  magicNumber : ts.magicNumber = io.magicNumber

/-- The messages that the module for ICMP records, and what it records. -/
inductive ICMPModule.Answer (io : IOModule) (message : List UInt8) : Recorded → Prop where
  | echoReply6 (icmp : ICMPHeader) (ts : TraceServiceHeader) (rest : List UInt8)
      (hv6 : io.sourceAddress.isV6 = true) (htype : icmp.type = 129)
      (hid : icmp.identifier = io.identifier) (hts : io.Owns ts)
      (hmessage : message = icmp.bytes ++ (ts.bytes ++ rest)) :
      Answer io message ⟨anyAddress, anyAddress, icmp.type, icmp.code, icmp.seqNumber,
        40 + message.length⟩
  | error6 (icmp : ICMPHeader) (ip : IPv6Header) (inner : ICMPHeader) (ts : TraceServiceHeader)
      (rest : List UInt8) (hv6 : io.sourceAddress.isV6 = true) (htype : icmp.type = 3 ∨ icmp.type = 1)
      (hversion : ip.version = 6) (hrange : ip.InRange) (hnext : ip.nextHeader = 58)
      (hid : inner.identifier = io.identifier) (hts : io.Owns ts)
      (hmessage : message = icmp.bytes ++ (ip.bytes ++ (inner.bytes ++ (ts.bytes ++ rest)))) :
      Answer io message ⟨.v6 ip.sourceAddress 0, .v6 ip.destinationAddress 0, icmp.type, icmp.code,
        inner.seqNumber, 40 + message.length⟩
  | echoReply4 (ip : IPv4Header) (options : List UInt8) (icmp : ICMPHeader) (ts : TraceServiceHeader)
      (rest : List UInt8) (hv4 : io.sourceAddress.isV6 = false) (hwire : ip.OnWire options)
      (hprotocol : ip.protocol = 1) (htype : icmp.type = 0) (hid : icmp.identifier = io.identifier)
      (hts : io.Owns ts) (hmessage : message = inIPv4 ip options (icmp.bytes ++ (ts.bytes ++ rest))) :
      Answer io message ⟨.v4 ip.destinationAddress, .v4 ip.sourceAddress, icmp.type, icmp.code,
        icmp.seqNumber, message.length⟩
  | error4 (ip : IPv4Header) (options : List UInt8) (icmp : ICMPHeader) (quoted : IPv4Header)
      (quotedOptions : List UInt8) (inner : ICMPHeader) (rest : List UInt8)
      (hv4 : io.sourceAddress.isV6 = false) (hwire : ip.OnWire options) (hprotocol : ip.protocol = 1)
      (htype : icmp.type = 11 ∨ icmp.type = 3) (hquoted : quoted.OnWire quotedOptions)
      (hquotedProtocol : quoted.protocol = 1) (hid : inner.identifier = io.identifier)
      (hmessage : message = inIPv4 ip options
        (icmp.bytes ++ inIPv4 quoted quotedOptions (inner.bytes ++ rest))) :
      Answer io message ⟨.v4 quoted.sourceAddress, .v4 quoted.destinationAddress, icmp.type, icmp.code,
        inner.seqNumber, message.length⟩

/-- The UDP header of a request of the module. -/
structure IOModule.Sends (io : IOModule) (udp : UDPHeader) : Prop where
  length : 16 ≤ udp.length
  sourcePort : udp.sourcePort = io.sourcePort
  destinationPort : udp.destinationPort = io.destinationPort

/-- The messages that the module for UDP records, and what it records. -/
inductive UDPModule.Answer (io : IOModule) (message : List UInt8) : Socket → Recorded → Prop where
  | echo (ts : TraceServiceHeader) (rest : List UInt8) (hts : io.Owns ts)
      (hmessage : message = ts.bytes ++ rest) :
      Answer io message .udp ⟨anyAddress, anyAddress, 0, 0, ts.checksumTweak,
        (if io.sourceAddress.isV6 then 40 + 8 else 20 + 8) + message.length⟩
  | error6 (icmp : ICMPHeader) (ip : IPv6Header) (udp : UDPHeader) (ts : TraceServiceHeader)
      (rest : List UInt8) (hv6 : io.sourceAddress.isV6 = true) (htype : icmp.type = 3 ∨ icmp.type = 1)
      (hversion : ip.version = 6) (hrange : ip.InRange) (hnext : ip.nextHeader = 17) (hudp : io.Sends udp)
      (hts : io.Owns ts)
      (hmessage : message = icmp.bytes ++ (ip.bytes ++ (udp.bytes ++ (ts.bytes ++ rest)))) :
      Answer io message .icmp ⟨.v6 ip.sourceAddress 0, .v6 ip.destinationAddress 0, icmp.type, icmp.code,
        ts.checksumTweak, message.length⟩
  | error4 (ip : IPv4Header) (options : List UInt8) (icmp : ICMPHeader) (quoted : IPv4Header)
      (quotedOptions : List UInt8) (udp : UDPHeader) (rest : List UInt8)
      (hv4 : io.sourceAddress.isV6 = false) (hwire : ip.OnWire options) (hprotocol : ip.protocol = 1)
      (htype : icmp.type = 11 ∨ icmp.type = 3) (hquoted : quoted.OnWire quotedOptions)
      (hquotedProtocol : quoted.protocol = 17) (hudp : io.Sends udp)
      (hmessage : message = inIPv4 ip options
        (icmp.bytes ++ inIPv4 quoted quotedOptions (udp.bytes ++ rest))) :
      Answer io message .icmp ⟨.v4 quoted.sourceAddress, .v4 quoted.destinationAddress, icmp.type,
        icmp.code, quoted.identification, message.length⟩

/-! ## What is recorded -/

variable {io : IOModule}

theorem ICMPModule.readIPv6_iff (hv6 : io.sourceAddress.isV6 = true) (message : List UInt8) (r : Recorded) :
    (readIPv6 io message.length).run' message = some r ↔ Answer io message r := by
  have haccepts := ICMPHeader.read_accepts.bind fun icmp =>
    Accepts.ite (c := icmp.type = 129 ∧ icmp.identifier = io.identifier)
      (TraceServiceHeader.read_accepts.bind fun ts =>
        (Accepts.pure (Recorded.mk anyAddress anyAddress icmp.type icmp.code icmp.seqNumber
          (40 + message.length))).guarded (c := ts.magicNumber = io.magicNumber))
      (Accepts.guarded (c := icmp.type = 3 ∨ icmp.type = 1)
        (IPv6Header.read_accepts.bind fun ip => ICMPHeader.read_accepts.bind fun inner =>
          TraceServiceHeader.read_accepts.bind fun ts =>
            (Accepts.pure (Recorded.mk (.v6 ip.sourceAddress 0) (.v6 ip.destinationAddress 0) icmp.type
              icmp.code inner.seqNumber (40 + message.length))).guarded
                (c := ip.nextHeader = 58 ∧ inner.identifier = io.identifier ∧
                  ts.magicNumber = io.magicNumber)))
  refine (haccepts.run_iff message r).trans ⟨?_, ?_⟩
  · rintro ⟨l, rest, ⟨icmp, _, _, rfl, hcases, rfl⟩, hmessage⟩
    rcases hcases with ⟨⟨htype, hid⟩, ts, _, _, ⟨hpadding, rfl⟩, ⟨hmagic, rfl, rfl⟩, rfl⟩ |
      ⟨-, htype, ip, _, _, ⟨hversion, hrange, rfl⟩, ⟨inner, _, _, rfl, ⟨ts, _, _, ⟨hpadding, rfl⟩,
        ⟨⟨hnext, hid, hmagic⟩, rfl, rfl⟩, rfl⟩, rfl⟩, rfl⟩
    · refine .echoReply6 icmp ts rest hv6 htype hid ⟨hpadding, hmagic⟩ ?_
      rw [hmessage]
      simp only [List.append_assoc, List.append_nil]
    · refine .error6 icmp ip inner ts rest hv6 htype hversion hrange hnext hid ⟨hpadding, hmagic⟩ ?_
      rw [hmessage]
      simp only [List.append_assoc, List.append_nil]
  · intro h
    cases h with
    | echoReply6 icmp ts rest _ htype hid hts hmessage =>
      refine ⟨_, rest, ⟨icmp, _, _, rfl, .inl ⟨⟨htype, hid⟩, ts, _, _, ⟨hts.padding, rfl⟩,
        ⟨hts.magicNumber, rfl, rfl⟩, rfl⟩, rfl⟩, ?_⟩
      rw [hmessage]
      simp only [List.append_assoc, List.append_nil]
    | error6 icmp ip inner ts rest _ htype hversion hrange hnext hid hts hmessage =>
      refine ⟨_, rest, ⟨icmp, _, _, rfl, .inr ⟨?_, htype, ip, _, _, ⟨hversion, hrange, rfl⟩,
        ⟨inner, _, _, rfl, ⟨ts, _, _, ⟨hts.padding, rfl⟩, ⟨⟨hnext, hid, hts.magicNumber⟩, rfl, rfl⟩, rfl⟩,
          rfl⟩, rfl⟩, rfl⟩, ?_⟩
      · rintro ⟨h129, -⟩
        rw [h129] at htype
        exact absurd htype (by decide)
      · rw [hmessage]
        simp only [List.append_assoc, List.append_nil]
    | echoReply4 _ _ _ _ _ hv4 => exact absurd (hv6.symm.trans hv4) (by decide)
    | error4 _ _ _ _ _ _ _ hv4 => exact absurd (hv6.symm.trans hv4) (by decide)

theorem ICMPModule.readIPv4_iff (hv4 : io.sourceAddress.isV6 = false) (message : List UInt8)
    (r : Recorded) : (readIPv4 io message.length).run' message = some r ↔ Answer io message r := by
  have haccepts := IPv4Header.read_accepts.bind fun ip =>
    Accepts.guarded (c := ip.protocol = 1) (ICMPHeader.read_accepts.bind fun icmp =>
      Accepts.ite (c := icmp.type = 0 ∧ icmp.identifier = io.identifier)
        (TraceServiceHeader.read_accepts.bind fun ts =>
          (Accepts.pure (Recorded.mk (.v4 ip.destinationAddress) (.v4 ip.sourceAddress) icmp.type icmp.code
            icmp.seqNumber message.length)).guarded (c := ts.magicNumber = io.magicNumber))
        (Accepts.guarded (c := icmp.type = 11 ∨ icmp.type = 3)
          (IPv4Header.read_accepts.bind fun quoted => ICMPHeader.read_accepts.bind fun inner =>
            (Accepts.pure (Recorded.mk (.v4 quoted.sourceAddress) (.v4 quoted.destinationAddress) icmp.type
              icmp.code inner.seqNumber message.length)).guarded
                (c := quoted.protocol = 1 ∧ inner.identifier = io.identifier))))
  refine (haccepts.run_iff message r).trans ⟨?_, ?_⟩
  · rintro ⟨l, rest, ⟨_, _, _, ⟨ip, options, hwire, rfl, rfl⟩, ⟨hprotocol, icmp, _, _, rfl, hcases, rfl⟩,
      rfl⟩, hmessage⟩
    rcases hcases with ⟨⟨htype, hid⟩, ts, _, _, ⟨hpadding, rfl⟩, ⟨hmagic, rfl, rfl⟩, rfl⟩ |
      ⟨-, htype, _, _, _, ⟨quoted, quotedOptions, hquoted, rfl, rfl⟩, ⟨inner, _, _, rfl,
        ⟨⟨hquotedProtocol, hid⟩, rfl, rfl⟩, rfl⟩, rfl⟩
    · refine .echoReply4 ip options icmp ts rest hv4 hwire hprotocol htype hid ⟨hpadding, hmagic⟩ ?_
      rw [hmessage]
      simp only [inIPv4, List.append_assoc, List.append_nil]
    · refine .error4 ip options icmp quoted quotedOptions inner rest hv4 hwire hprotocol htype hquoted
        hquotedProtocol hid ?_
      rw [hmessage]
      simp only [inIPv4, List.append_assoc, List.append_nil]
  · intro h
    cases h with
    | echoReply4 ip options icmp ts rest _ hwire hprotocol htype hid hts hmessage =>
      refine ⟨_, rest, ⟨_, _, _, ⟨ip, options, hwire, rfl, rfl⟩, ⟨hprotocol, icmp, _, _, rfl,
        .inl ⟨⟨htype, hid⟩, ts, _, _, ⟨hts.padding, rfl⟩, ⟨hts.magicNumber, rfl, rfl⟩, rfl⟩, rfl⟩, rfl⟩, ?_⟩
      rw [hmessage]
      simp only [inIPv4, List.append_assoc, List.append_nil]
    | error4 ip options icmp quoted quotedOptions inner rest _ hwire hprotocol htype hquoted
        hquotedProtocol hid hmessage =>
      refine ⟨_, rest, ⟨_, _, _, ⟨ip, options, hwire, rfl, rfl⟩, ⟨hprotocol, icmp, _, _, rfl,
        .inr ⟨?_, htype, _, _, _, ⟨quoted, quotedOptions, hquoted, rfl, rfl⟩, ⟨inner, _, _, rfl,
          ⟨⟨hquotedProtocol, hid⟩, rfl, rfl⟩, rfl⟩, rfl⟩, rfl⟩, rfl⟩, ?_⟩
      · rintro ⟨h0, -⟩
        rw [h0] at htype
        exact absurd htype (by decide)
      · rw [hmessage]
        simp only [inIPv4, List.append_assoc, List.append_nil]
    | echoReply6 _ _ _ hv6 => exact absurd (hv6.symm.trans hv4) (by decide)
    | error6 _ _ _ _ _ hv6 => exact absurd (hv6.symm.trans hv4) (by decide)

/-- **Answers to Echo Requests** are recorded, and nothing else. -/
theorem icmp_handlePayloadResponse_iff (io : IOModule) (message : List UInt8) (r : Recorded) :
    ICMPModule.handlePayloadResponse io message = some r ↔ ICMPModule.Answer io message r := by
  unfold ICMPModule.handlePayloadResponse
  cases hv6 : io.sourceAddress.isV6 with
  | true => exact ICMPModule.readIPv6_iff hv6 message r
  | false => exact ICMPModule.readIPv4_iff hv6 message r

theorem UDPModule.readPayload_iff (message : List UInt8) (r : Recorded) :
    (readPayload io message.length).run' message = some r ↔ Answer io message .udp r := by
  have haccepts := TraceServiceHeader.read_accepts.bind fun ts =>
    (Accepts.pure (Recorded.mk anyAddress anyAddress 0 0 ts.checksumTweak
      ((if io.sourceAddress.isV6 then 40 + 8 else 20 + 8) + message.length))).guarded
        (c := ts.magicNumber = io.magicNumber)
  refine (haccepts.run_iff message r).trans ⟨?_, ?_⟩
  · rintro ⟨l, rest, ⟨ts, _, _, ⟨hpadding, rfl⟩, ⟨hmagic, rfl, rfl⟩, rfl⟩, hmessage⟩
    refine .echo ts rest ⟨hpadding, hmagic⟩ ?_
    rw [hmessage, List.append_nil]
  · intro h
    cases h with
    | echo ts rest hts hmessage =>
      refine ⟨_, rest, ⟨ts, _, _, ⟨hts.padding, rfl⟩, ⟨hts.magicNumber, rfl, rfl⟩, rfl⟩, ?_⟩
      rw [List.append_nil]
      exact hmessage

theorem UDPModule.readIPv6Error_iff (hv6 : io.sourceAddress.isV6 = true) (message : List UInt8)
    (r : Recorded) :
    (readIPv6Error io message.length).run' message = some r ↔ Answer io message .icmp r := by
  have haccepts := ICMPHeader.read_accepts.bind fun icmp =>
    Accepts.guarded (c := icmp.type = 3 ∨ icmp.type = 1) (IPv6Header.read_accepts.bind fun ip =>
      Accepts.guarded (c := ip.nextHeader = 17) (UDPHeader.read_accepts.bind fun udp =>
        Accepts.guarded (c := udp.sourcePort = io.sourcePort ∧ udp.destinationPort = io.destinationPort)
          (TraceServiceHeader.read_accepts.bind fun ts =>
            (Accepts.pure (Recorded.mk (.v6 ip.sourceAddress 0) (.v6 ip.destinationAddress 0) icmp.type
              icmp.code ts.checksumTweak message.length)).guarded
                (c := ts.magicNumber = io.magicNumber))))
  refine (haccepts.run_iff message r).trans ⟨?_, ?_⟩
  · rintro ⟨l, rest, ⟨icmp, _, _, rfl, ⟨htype, ip, _, _, ⟨hversion, hrange, rfl⟩, ⟨hnext, udp, _, _,
      ⟨hlength, rfl⟩, ⟨⟨hsource, hdestination⟩, ts, _, _, ⟨hpadding, rfl⟩, ⟨hmagic, rfl, rfl⟩, rfl⟩, rfl⟩,
        rfl⟩, rfl⟩, hmessage⟩
    refine .error6 icmp ip udp ts rest hv6 htype hversion hrange hnext ⟨hlength, hsource, hdestination⟩
      ⟨hpadding, hmagic⟩ ?_
    rw [hmessage]
    simp only [List.append_assoc, List.append_nil]
  · intro h
    cases h with
    | error6 icmp ip udp ts rest _ htype hversion hrange hnext hudp hts hmessage =>
      refine ⟨_, rest, ⟨icmp, _, _, rfl, ⟨htype, ip, _, _, ⟨hversion, hrange, rfl⟩, ⟨hnext, udp, _, _,
        ⟨hudp.length, rfl⟩, ⟨⟨hudp.sourcePort, hudp.destinationPort⟩, ts, _, _, ⟨hts.padding, rfl⟩,
          ⟨hts.magicNumber, rfl, rfl⟩, rfl⟩, rfl⟩, rfl⟩, rfl⟩, ?_⟩
      rw [hmessage]
      simp only [List.append_assoc, List.append_nil]
    | error4 _ _ _ _ _ _ _ hv4 => exact absurd (hv6.symm.trans hv4) (by decide)

theorem UDPModule.readIPv4Error_iff (hv4 : io.sourceAddress.isV6 = false) (message : List UInt8)
    (r : Recorded) :
    (readIPv4Error io message.length).run' message = some r ↔ Answer io message .icmp r := by
  have haccepts := IPv4Header.read_accepts.bind fun ip =>
    Accepts.guarded (c := ip.protocol = 1) (ICMPHeader.read_accepts.bind fun icmp =>
      Accepts.guarded (c := icmp.type = 11 ∨ icmp.type = 3) (IPv4Header.read_accepts.bind fun quoted =>
        Accepts.guarded (c := quoted.protocol = 17) (UDPHeader.read_accepts.bind fun udp =>
          (Accepts.pure (Recorded.mk (.v4 quoted.sourceAddress) (.v4 quoted.destinationAddress) icmp.type
            icmp.code quoted.identification message.length)).guarded
              (c := udp.sourcePort = io.sourcePort ∧ udp.destinationPort = io.destinationPort))))
  refine (haccepts.run_iff message r).trans ⟨?_, ?_⟩
  · rintro ⟨l, rest, ⟨_, _, _, ⟨ip, options, hwire, rfl, rfl⟩, ⟨hprotocol, icmp, _, _, rfl, ⟨htype, _, _, _,
      ⟨quoted, quotedOptions, hquoted, rfl, rfl⟩, ⟨hquotedProtocol, udp, _, _, ⟨hlength, rfl⟩,
        ⟨⟨hsource, hdestination⟩, rfl, rfl⟩, rfl⟩, rfl⟩, rfl⟩, rfl⟩, hmessage⟩
    refine .error4 ip options icmp quoted quotedOptions udp rest hv4 hwire hprotocol htype hquoted
      hquotedProtocol ⟨hlength, hsource, hdestination⟩ ?_
    rw [hmessage]
    simp only [inIPv4, List.append_assoc, List.append_nil]
  · intro h
    cases h with
    | error4 ip options icmp quoted quotedOptions udp rest _ hwire hprotocol htype hquoted
        hquotedProtocol hudp hmessage =>
      refine ⟨_, rest, ⟨_, _, _, ⟨ip, options, hwire, rfl, rfl⟩, ⟨hprotocol, icmp, _, _, rfl, ⟨htype, _, _, _,
        ⟨quoted, quotedOptions, hquoted, rfl, rfl⟩, ⟨hquotedProtocol, udp, _, _, ⟨hudp.length, rfl⟩,
          ⟨⟨hudp.sourcePort, hudp.destinationPort⟩, rfl, rfl⟩, rfl⟩, rfl⟩, rfl⟩, rfl⟩, ?_⟩
      rw [hmessage]
      simp only [inIPv4, List.append_assoc, List.append_nil]
    | error6 _ _ _ _ _ hv6 => exact absurd (hv6.symm.trans hv4) (by decide)

/-- **Answers to UDP requests** are recorded, and nothing else. -/
theorem udp_handlePayloadResponse_iff (io : IOModule) (socket : Socket) (message : List UInt8)
    (r : Recorded) :
    UDPModule.handlePayloadResponse io socket message = some r ↔ UDPModule.Answer io message socket r := by
  unfold UDPModule.handlePayloadResponse
  cases socket with
  | udp => exact UDPModule.readPayload_iff message r
  | icmp =>
    cases hv6 : io.sourceAddress.isV6 with
    | true => exact UDPModule.readIPv6Error_iff hv6 message r
    | false => exact UDPModule.readIPv4Error_iff hv6 message r

/-! ## Requests -/

theorem front_size_le : minTraceServiceHeaderSize + ([] : List UInt8).length ≤
    maxTraceServiceHeaderSize := by decide

/-- The part of a header that is read. -/
def front (ts : TraceServiceHeader) : TraceServiceHeader :=
  { ts with padding := [], size_le := front_size_le }

theorem bytes_front (ts : TraceServiceHeader) : ts.bytes = (front ts).bytes ++ ts.padding := by
  unfold TraceServiceHeader.bytes front
  rw [List.append_nil]

theorem length_front (ts : TraceServiceHeader) : (front ts).bytes.length = 16 := rfl

/-- What is quoted of two parts reaches into the second one. -/
theorem quoted_append {l l' quoted : List UInt8} (h : quoted <+: l ++ l') (hlength : l.length ≤ quoted.length) :
    ∃ rest, quoted = l ++ rest := by
  obtain ⟨rest, hrest⟩ := List.prefix_of_prefix_length_le (List.prefix_append l l') h hlength
  exact ⟨rest, hrest.symm⟩

/-- What a request for Echo sends. -/
def sentBytes (request : Packet) : List UInt8 := request.echoRequest.bytes ++ request.tsHeader.bytes

/-- The answers to an Echo Request: an Echo Reply with its payload, or an error that quotes it, for ICMPv6 up
to the end of the TraceService header and for ICMP with its first 8 bytes. -/
inductive ICMPModule.Response (io : IOModule) (request : Packet) : List UInt8 → Prop where
  | echoReply6 (checksum : UInt16) (hv6 : io.sourceAddress.isV6 = true) :
      Response io request ({ request.echoRequest with type := 129, checksum }.bytes ++
        request.tsHeader.bytes)
  | error6 (icmp : ICMPHeader) (ip : IPv6Header) (quoted : List UInt8)
      (hv6 : io.sourceAddress.isV6 = true) (htype : icmp.type = 3 ∨ icmp.type = 1)
      (hversion : ip.version = 6) (hrange : ip.InRange) (hnext : ip.nextHeader = 58)
      (hquoted : quoted <+: sentBytes request) (hlength : 24 ≤ quoted.length) :
      Response io request (icmp.bytes ++ (ip.bytes ++ quoted))
  | echoReply4 (ip : IPv4Header) (options : List UInt8) (checksum : UInt16)
      (hv4 : io.sourceAddress.isV6 = false) (hwire : ip.OnWire options) (hprotocol : ip.protocol = 1) :
      Response io request (inIPv4 ip options
        ({ request.echoRequest with type := 0, checksum }.bytes ++ request.tsHeader.bytes))
  | error4 (ip : IPv4Header) (options : List UInt8) (icmp : ICMPHeader) (sent : IPv4Header)
      (sentOptions quoted : List UInt8) (hv4 : io.sourceAddress.isV6 = false) (hwire : ip.OnWire options)
      (hprotocol : ip.protocol = 1) (htype : icmp.type = 11 ∨ icmp.type = 3)
      (hsent : sent.OnWire sentOptions) (hsentProtocol : sent.protocol = 1)
      (hquoted : quoted <+: sentBytes request) (hlength : 8 ≤ quoted.length) :
      Response io request (inIPv4 ip options (icmp.bytes ++ inIPv4 sent sentOptions quoted))

theorem preparePacket_request {seqNumber : UInt16} {ttl round : UInt8} {sendTime : UInt64}
    {target target' : UInt32} {request : Packet}
    (h : preparePacket io.echoRequest seqNumber ttl round sendTime target = .ok (request, target')) :
    request.echoRequest.identifier = io.identifier ∧ request.echoRequest.seqNumber = seqNumber ∧
      request.tsHeader.magicNumber = io.magicNumber := by
  unfold preparePacket at h
  dsimp only at h
  split at h
  · split at h
    · cases h
      exact ⟨rfl, rfl, rfl⟩
    · cases h
  · split at h
    · cases h
    · split at h
      · cases h
      · split at h
        · cases h
          exact ⟨rfl, rfl, rfl⟩
        · cases h

/-- **Matching of Echo Requests**: every answer to a request is recorded, with its sequence number. -/
theorem icmp_response_recorded (io : IOModule) {seqNumber : UInt16} {ttl round : UInt8}
    {sendTime : UInt64} {target target' : UInt32} {request : Packet} {message : List UInt8}
    (hrequest : preparePacket io.echoRequest seqNumber ttl round sendTime target = .ok (request, target'))
    (hresponse : ICMPModule.Response io request message) :
    ∃ r, ICMPModule.handlePayloadResponse io message = some r ∧ r.seqNumber = seqNumber := by
  obtain ⟨hid, hseq, hmagic⟩ := preparePacket_request hrequest
  have hts : io.Owns (front request.tsHeader) := ⟨rfl, hmagic⟩
  cases hresponse with
  | echoReply6 checksum hv6 =>
    refine ⟨_, (icmp_handlePayloadResponse_iff io _ _).mpr
      (.echoReply6 { request.echoRequest with type := 129, checksum } (front request.tsHeader)
        request.tsHeader.padding hv6 rfl hid hts ?_), hseq⟩
    rw [bytes_front]
  | error6 icmp ip quoted hv6 htype hversion hrange hnext hquoted hlength =>
    unfold sentBytes at hquoted
    rw [bytes_front, ← List.append_assoc] at hquoted
    obtain ⟨rest, rfl⟩ := quoted_append hquoted hlength
    refine ⟨_, (icmp_handlePayloadResponse_iff io _ _).mpr
      (.error6 icmp ip request.echoRequest (front request.tsHeader) rest hv6 htype hversion hrange hnext hid
        hts ?_), hseq⟩
    rw [List.append_assoc]
  | echoReply4 ip options checksum hv4 hwire hprotocol =>
    refine ⟨_, (icmp_handlePayloadResponse_iff io _ _).mpr
      (.echoReply4 ip options { request.echoRequest with type := 0, checksum } (front request.tsHeader)
        request.tsHeader.padding hv4 hwire hprotocol rfl hid hts ?_), hseq⟩
    rw [bytes_front]
  | error4 ip options icmp sent sentOptions quoted hv4 hwire hprotocol htype hsent hsentProtocol hquoted
      hlength =>
    obtain ⟨rest, rfl⟩ := quoted_append hquoted hlength
    exact ⟨_, (icmp_handlePayloadResponse_iff io _ _).mpr
      (.error4 ip options icmp sent sentOptions request.echoRequest rest hv4 hwire hprotocol htype hsent
        hsentProtocol hid rfl), hseq⟩

/-- A module for ICMPv6. -/
def echoService : IOModule :=
  { smallService with protocol := .icmp, identifier := 4711 }

theorem icmp_response_recorded_echo :
    ∃ request target r, preparePacket echoService.echoRequest 7 64 0 0 0xffffffff = .ok (request, target) ∧
      ICMPModule.handlePayloadResponse echoService
        ({ request.echoRequest with type := 129, checksum := 0 }.bytes ++ request.tsHeader.bytes) = some r ∧
      r.seqNumber = 7 := by
  obtain ⟨request, target, hrequest, -⟩ := preparePacket_target
    (show echoService.echoRequest.echoRequest.type ≠ 0 by decide) 7 64 0 0
    (show (0xffffffff : UInt32) = 0xffffffff ∨ _ from .inl rfl)
  obtain ⟨r, hr, hseq⟩ := icmp_response_recorded echoService hrequest (.echoReply6 0 rfl)
  exact ⟨request, target, r, hrequest, hr, hseq⟩

/-- The requests of a module for UDP. -/
structure IOModule.Makes (io : IOModule) (request : UDPRequest) : Prop where
  sourcePort : request.sourcePort = io.sourcePort
  destinationPort : request.destinationPort = io.destinationPort
  magicNumber : request.magicNumber = io.magicNumber

/-- The UDP header and the payload of a packet. -/
def udpBytes (packet : UDPPacket) : List UInt8 := packet.udpHeader.bytes ++ packet.tsHeader.bytes

/-- The answers to a UDP request that has been sent with an Identification: its echo, or an error that quotes
it, for ICMPv6 up to the end of the TraceService header and for ICMP with the UDP header. -/
inductive UDPModule.Response (io : IOModule) (packet : UDPPacket) (identification : UInt16) :
    Socket → List UInt8 → Prop where
  | echo : Response io packet identification .udp packet.tsHeader.bytes
  | error6 (icmp : ICMPHeader) (ip : IPv6Header) (quoted : List UInt8)
      (hv6 : io.sourceAddress.isV6 = true) (htype : icmp.type = 3 ∨ icmp.type = 1)
      (hversion : ip.version = 6) (hrange : ip.InRange) (hnext : ip.nextHeader = 17)
      (hquoted : quoted <+: udpBytes packet) (hlength : 24 ≤ quoted.length) :
      Response io packet identification .icmp (icmp.bytes ++ (ip.bytes ++ quoted))
  | error4 (ip : IPv4Header) (options : List UInt8) (icmp : ICMPHeader) (sent : IPv4Header)
      (sentOptions quoted : List UInt8) (hv4 : io.sourceAddress.isV6 = false) (hwire : ip.OnWire options)
      (hprotocol : ip.protocol = 1) (htype : icmp.type = 11 ∨ icmp.type = 3)
      (hsent : sent.OnWire sentOptions) (hsentProtocol : sent.protocol = 17)
      (hidentification : sent.identification = identification)
      (hquoted : quoted <+: udpBytes packet) (hlength : 8 ≤ quoted.length) :
      Response io packet identification .icmp
        (inIPv4 ip options (icmp.bytes ++ inIPv4 sent sentOptions quoted))

theorem payloadLength_toNat (request : UDPRequest) :
    (UInt16.ofNat (8 + request.payloadSize)).toNat = 8 + request.payloadSize := by
  have hsize := request.packetSize_le
  refine UInt16.toNat_ofNat_of_lt' ?_
  unfold UDPRequest.payloadSize minTraceServiceHeaderSize
  show 8 + max 16 _ < 65536
  omega

theorem datagram_sends {request : UDPRequest} (h : io.Makes request) (before : List Wire.Message)
    (m : Wire.Message) : io.Sends (request.datagram before m).udpHeader := by
  rw [UDPRequest.datagram_eq]
  refine ⟨?_, h.sourcePort, h.destinationPort⟩
  show 16 ≤ UInt16.ofNat (8 + request.payloadSize)
  rw [UInt16.le_iff_toNat_le, payloadLength_toNat]
  unfold UDPRequest.payloadSize minTraceServiceHeaderSize
  show 16 ≤ 8 + max 16 _
  omega

theorem datagram_owns {request : UDPRequest} (h : io.Makes request) (before : List Wire.Message)
    (m : Wire.Message) : io.Owns (front (request.datagram before m).tsHeader) ∧
      (request.datagram before m).tsHeader.checksumTweak = m.seqNumber := by
  rw [UDPRequest.datagram_eq]
  exact ⟨⟨rfl, h.magicNumber⟩, rfl⟩

/-- **Matching of UDP requests**: every answer to a request is recorded.  It is recorded with the sequence number
of the request, except that an ICMP error has the Identification, which the kernel chooses if it is given as
zero. -/
theorem udp_response_recorded (io : IOModule) {request : UDPRequest} (hmakes : io.Makes request)
    (before : List Wire.Message) (m : Wire.Message) {identification : UInt16} {socket : Socket}
    {message : List UInt8} (hkernel : m.seqNumber ≠ 0 → identification = m.seqNumber)
    (hresponse : UDPModule.Response io (request.datagram before m) identification socket message) :
    ∃ r, UDPModule.handlePayloadResponse io socket message = some r ∧
      (r.seqNumber = m.seqNumber ↔ ¬(socket = .icmp ∧ io.sourceAddress.isV6 = false ∧ m.seqNumber = 0 ∧
        identification ≠ 0)) := by
  have hudp := datagram_sends hmakes before m
  obtain ⟨hts, hseq⟩ := datagram_owns hmakes before m
  cases hresponse with
  | echo =>
    refine ⟨_, (udp_handlePayloadResponse_iff io _ _ _).mpr
      (.echo (front (request.datagram before m).tsHeader) (request.datagram before m).tsHeader.padding hts ?_),
      iff_of_true hseq fun h => by cases h.1⟩
    rw [bytes_front]
  | error6 icmp ip quoted hv6 htype hversion hrange hnext hquoted hlength =>
    unfold udpBytes at hquoted
    rw [bytes_front, ← List.append_assoc] at hquoted
    obtain ⟨rest, rfl⟩ := quoted_append hquoted hlength
    refine ⟨_, (udp_handlePayloadResponse_iff io _ _ _).mpr
      (.error6 icmp ip (request.datagram before m).udpHeader (front (request.datagram before m).tsHeader) rest
        hv6 htype hversion hrange hnext hudp hts ?_), iff_of_true hseq fun h => ?_⟩
    · rw [List.append_assoc]
    · exact absurd (hv6.symm.trans h.2.1) (by decide)
  | error4 ip options icmp sent sentOptions quoted hv4 hwire hprotocol htype hsent hsentProtocol
      hidentification hquoted hlength =>
    obtain ⟨rest, rfl⟩ := quoted_append hquoted hlength
    refine ⟨_, (udp_handlePayloadResponse_iff io _ _ _).mpr
      (.error4 ip options icmp sent sentOptions (request.datagram before m).udpHeader rest hv4 hwire hprotocol
        htype hsent hsentProtocol hudp rfl), ?_⟩
    show sent.identification = m.seqNumber ↔ _
    rw [hidentification]
    constructor
    · rintro heq ⟨-, -, hzero, hne⟩
      exact hne (heq.trans hzero)
    · intro h
      by_contra hne
      by_cases hzero : m.seqNumber = 0
      · exact h ⟨rfl, hv4, hzero, fun hid => hne (hid.trans hzero.symm)⟩
      · exact hne (hkernel hzero)

theorem udp_response_recorded_echo :
    ∃ r, UDPModule.handlePayloadResponse smallService .udp smallPacket.tsHeader.bytes = some r ∧
      (r.seqNumber = 1 ↔ ¬(Socket.udp = .icmp ∧ smallService.sourceAddress.isV6 = false ∧
        (1 : UInt16) = 0 ∧ (1 : UInt16) ≠ 0)) :=
  udp_response_recorded smallService ⟨rfl, rfl, rfl⟩ [] ⟨1, 64, 0, 1570000000000000000⟩ (fun _ => rfl) .echo

/-! ## Success -/

/-- `recordResult` for what has been read from a message. -/
def record (io : IOModule) (r : Recorded) (d : IOModule.ReceivedData) (resultsMap : List ResultEntry) :
    List ResultEntry × Option ResultEntry :=
  io.recordResult { d with source := r.source, destination := r.destination } r.icmpType r.icmpCode
    r.seqNumber r.responseLength resultsMap

/-- The addresses do not contradict each other. -/
def Agree (a b : Address) : Prop := a.isUnspecified = true ∨ b.isUnspecified = true ∨ a = b

/-- The source and the destination in the header of an IPv4 message. -/
def sender (message : List UInt8) : Address := .v4 (UInt32.ofNat (decodeBytes message 12 4))

def receiver (message : List UInt8) : Address := .v4 (UInt32.ofNat (decodeBytes message 16 4))

theorem decodeBytes_second {i n : Nat} {a b c : List UInt8} (rest : List UInt8) (hi : (a ++ b).length = i)
    (hn : c.length = n) : decodeBytes (a ++ (b ++ (c ++ [])) ++ rest) i n = BigEndian.value c := by
  rw [List.append_nil, ← List.append_assoc a, List.append_assoc (a ++ b), decodeBytes_mid hi hn]

theorem sender_inIPv4 (ip : IPv4Header) (options payload : List UInt8) :
    sender (inIPv4 ip options payload) = .v4 ip.sourceAddress ∧
      receiver (inIPv4 ip options payload) = .v4 ip.destinationAddress := by
  unfold sender receiver inIPv4
  rw [IPv4Header.bytes_parts]
  constructor
  · rw [List.append_assoc, List.append_assoc (v4Bytes ip.sourceAddress),
      decodeBytes_mid (i := 12) (n := 4) rfl rfl, value_v4Bytes, UInt32.ofNat_toNat]
  · rw [decodeBytes_second (i := 16) (n := 4) _ rfl rfl, value_v4Bytes, UInt32.ofNat_toNat]

theorem mappingMismatch_iff (d : IOModule.ReceivedData) (e : ResultEntry) :
    IOModule.mappingMismatch d e = false ↔ Agree d.source e.source ∧
      Agree d.destination e.destination.address := by
  have hone : ∀ a b : Address, (!a.isUnspecified && !b.isUnspecified && decide (a ≠ b)) = false ↔
      Agree a b := by
    intro a b
    unfold Agree
    cases a.isUnspecified <;> cases b.isUnspecified <;> simp
  unfold IOModule.mappingMismatch
  rw [Bool.or_eq_false_iff, hone, hone]

/-- An entry without answer gets the status of a message whose addresses are not other ones. -/
theorem record_status {r : Recorded} {d : IOModule.ReceivedData} {resultsMap : List ResultEntry}
    {e : ResultEntry} (hfind : resultsMap.find? (fun e => e.seqNumber = r.seqNumber) = some e)
    (hunknown : e.status = .unknown) (status : HopStatus) :
    (record io r d resultsMap).2.map (·.status) = some status ↔
      io.responseStatus r.icmpType r.icmpCode = status ∧ Agree r.source e.source ∧
        Agree r.destination e.destination.address := by
  have hagree := mappingMismatch_iff { d with source := r.source, destination := r.destination } e
  unfold record IOModule.recordResult
  rw [hfind]
  dsimp only
  by_cases hmismatch :
      IOModule.mappingMismatch { d with source := r.source, destination := r.destination } e = true
  · rw [if_pos hmismatch]
    refine iff_of_false (fun h => by cases h) fun h => ?_
    rw [hagree.mpr h.2] at hmismatch
    cases hmismatch
  · rw [if_neg hmismatch, if_pos ((IOModule.status_withSource _ e).trans hunknown), Option.map_some,
      Option.some_inj]
    exact (and_iff_left (hagree.mp (Bool.not_eq_true _ ▸ hmismatch))).symm

theorem responseStatus_error6 (hv6 : io.sourceAddress.isV6 = true) {icmpType icmpCode : UInt8}
    (h : icmpType = 3 ∨ icmpType = 1) : io.responseStatus icmpType icmpCode ≠ .success := by
  unfold IOModule.responseStatus
  rcases h with rfl | rfl
  · rw [if_neg (fun h => absurd h.1 (by decide)), if_pos hv6, if_pos rfl]
    decide
  · rw [if_neg (fun h => absurd h.1 (by decide)), if_pos hv6, if_neg (by decide), if_pos rfl]
    split <;> decide

theorem responseStatus_error4 (hv4 : io.sourceAddress.isV6 = false) {icmpType icmpCode : UInt8}
    (h : icmpType = 11 ∨ icmpType = 3) : io.responseStatus icmpType icmpCode ≠ .success := by
  have hv6 : ¬io.sourceAddress.isV6 = true := by rw [hv4]; decide
  unfold IOModule.responseStatus
  rcases h with rfl | rfl
  · rw [if_neg (fun h => absurd h.1 (by decide)), if_neg hv6, if_pos rfl]
    decide
  · rw [if_neg (fun h => absurd h.1 (by decide)), if_neg hv6, if_neg (by decide), if_pos rfl]
    split <;> decide

/-- An Echo Reply, or a UDP response. -/
def IsEcho (r : Recorded) : Prop := r.icmpType = 0 ∨ r.icmpType = 129

theorem not_isEcho {r : Recorded} (h : r.icmpType = 11 ∨ r.icmpType = 3 ∨ r.icmpType = 1) : ¬IsEcho r := by
  rintro (h' | h') <;> rw [h'] at h <;> exact absurd h (by decide)

theorem agree_anyAddress (a : Address) : Agree anyAddress a := .inl rfl

/-- **Success** needs an echo only: the address of its sender counts for ICMP over IPv4, where it is that of the
destination, but neither for ICMPv6 nor for UDP. -/
theorem success_iff (io : IOModule) (packet : Received io.sourceAddress.isV6) {r : Recorded}
    (h : receive io packet = some r) (d : IOModule.ReceivedData) {resultsMap : List ResultEntry}
    {e : ResultEntry} (hfind : resultsMap.find? (fun e => e.seqNumber = r.seqNumber) = some e)
    (hunknown : e.status = .unknown) :
    (record io r d resultsMap).2.map (·.status) = some .success ↔
      IsEcho r ∧ (io.protocol = .icmp → io.sourceAddress.isV6 = false →
        Agree (sender packet.message) e.destination.address ∧ Agree (receiver packet.message) e.source) := by
  rw [record_status hfind hunknown]
  unfold receive at h
  cases hprotocol : io.protocol with
  | icmp =>
    rw [hprotocol] at h
    cases hsocket : packet.socket with
    | udp =>
      rw [hsocket] at h
      cases h
    | icmp =>
      rw [hsocket] at h
      cases (icmp_handlePayloadResponse_iff io _ _).mp h with
      | echoReply6 icmp ts rest hv6 htype hid hts hmessage =>
        refine iff_of_true ⟨?_, agree_anyAddress _, agree_anyAddress _⟩ ⟨.inr htype, fun _ hv4 => ?_⟩
        · show io.responseStatus icmp.type icmp.code = .success
          unfold IOModule.responseStatus
          rw [htype, if_neg (fun h => absurd h.1 (by decide)), if_pos hv6, if_neg (by decide),
            if_neg (by decide), if_pos rfl]
        · exact absurd (hv6.symm.trans hv4) (by decide)
      | error6 icmp ip inner ts rest hv6 htype hversion hrange hnext hid hts hmessage =>
        exact iff_of_false (fun h => responseStatus_error6 hv6 htype h.1) fun h => not_isEcho (.inr htype) h.1
      | echoReply4 ip options icmp ts rest hv4 hwire hprotocol htype hid hts hmessage =>
        obtain ⟨hsender, hreceiver⟩ := sender_inIPv4 ip options (icmp.bytes ++ (ts.bytes ++ rest))
        have hstatus : io.responseStatus icmp.type icmp.code = .success := by
          unfold IOModule.responseStatus
          rw [htype]
          split
          · rfl
          · rw [if_neg (by rw [hv4]; decide), if_neg (by decide), if_neg (by decide), if_pos rfl]
        rw [hmessage, hsender, hreceiver]
        constructor
        · rintro ⟨-, hsource, hdestination⟩
          exact ⟨.inl htype, fun _ _ => ⟨hdestination, hsource⟩⟩
        · rintro ⟨-, hagree⟩
          exact ⟨hstatus, (hagree rfl hv4).2, (hagree rfl hv4).1⟩
      | error4 ip options icmp quoted quotedOptions inner rest hv4 hwire hprotocol htype hquoted
          hquotedProtocol hid hmessage =>
        refine iff_of_false (fun h => responseStatus_error4 hv4 htype h.1) fun h => ?_
        exact not_isEcho (htype.imp_right .inl) h.1
  | udp =>
    rw [hprotocol] at h
    have hnoicmp : ∀ {P : Prop}, ProtocolType.udp = .icmp → P := fun h => by cases h
    have hanswer := (udp_handlePayloadResponse_iff io _ _ _).mp h
    generalize packet.message = message at hanswer ⊢
    generalize packet.socket = socket at hanswer
    cases hanswer with
    | echo ts rest hts hmessage =>
      exact iff_of_true ⟨rfl, agree_anyAddress _, agree_anyAddress _⟩ ⟨.inl rfl, fun h => hnoicmp h⟩
    | error6 icmp ip udp ts rest hv6 htype hversion hrange hnext hudp hts hmessage =>
      exact iff_of_false (fun h => responseStatus_error6 hv6 htype h.1) fun h => not_isEcho (.inr htype) h.1
    | error4 ip options icmp quoted quotedOptions udp rest hv4 hwire hprotocol htype hquoted
        hquotedProtocol hudp hmessage =>
      refine iff_of_false (fun h => responseStatus_error4 hv4 htype h.1) fun h => ?_
      exact not_isEcho (htype.imp_right .inl) h.1

/-- An entry of the small service that waits for its response. -/
def smallEntry : ResultEntry :=
  ResultEntry.initialise 0 0 1 64 64 0 50000 7 0 smallService.sourceAddress
    ⟨.v6 0xfd000000000000000000000000000002 0, 0⟩ .unknown

/-- A host that is not the destination has sent the echo. -/
theorem success_iff_otherHost :
    ∃ r, receive smallService smallEcho = some r ∧
      ((record smallService r (responseFrom (.v6 0xfd000000000000000000000000000003 0) 1) [smallEntry]).2.map
        (·.status) = some .success ↔
      IsEcho r ∧ (smallService.protocol = .icmp → smallService.sourceAddress.isV6 = false →
        Agree (sender smallEcho.message) smallEntry.destination.address ∧
          Agree (receiver smallEcho.message) smallEntry.source)) := by
  have h : receive smallService smallEcho = some ⟨anyAddress, anyAddress, 0, 0, 1, 64⟩ := rfl
  exact ⟨_, h, success_iff smallService smallEcho h _ rfl rfl⟩

end HiPerConTracer.Service
