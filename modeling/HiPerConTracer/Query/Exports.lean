import HiPerConTracer.Query.Queries

/-!
# Exports from SQL and from NoSQL databases

A measurement is stored as rows or as a document.  Both queries do the same with it

    for version 2 and for Traceroute ↔ the integers fit, and the status flags of a block are those that
      its first hop gives back
    for Ping of version 1 never                                                    (exports_iff)

since the query for documents of version 1 has 0 for the RTTs that there are none of, instead of -1.
-/

namespace HiPerConTracer.Query
open Net
open Results (Text PingValues HeaderValues HopValues Timing)

/-! ## Measurements of version 2 -/

/-- `(unsigned int)protocol`, of a signed character. -/
def protocolNumber (protocol : Char) : Nat :=
  if protocol.toNat < 128 then protocol.toNat else 2 ^ 32 - 256 + protocol.toNat

def timingDocument (t : Timing) : Fields := [
  ("timeSource", .int t.timeSource),
  ("delay.appSend", .int t.delayAppSend),
  ("delay.queuing", .int t.delayQueuing),
  ("delay.appRecv", .int t.delayAppReceive),
  ("rtt.app", .int t.rttApp),
  ("rtt.sw", .int t.rttSoftware),
  ("rtt.hw", .int t.rttHardware)]

def pingDocument (v : PingValues) : Fields := [
  ("sendTimestamp", .int (unsigned 64 v.sendTimeStamp)),
  ("measurementID", .int v.measurementID),
  ("sourceIP", .address v.sourceIP),
  ("destinationIP", .address v.destinationIP),
  ("protocol", .int (protocolNumber v.protocol)),
  ("trafficClass", .int v.trafficClass),
  ("burstSeq", .int v.burstSeq),
  ("packetSize", .int v.packetSize),
  ("responseSize", .int v.responseSize),
  ("checksum", .int v.checksum),
  ("sourcePort", .int v.sourcePort),
  ("destinationPort", .int v.destinationPort),
  ("status", .int v.status)] ++ timingDocument v.timing

/-- The columns of a row are the fields of the document. -/
def pingRow (v : PingValues) : Row := (pingDocument v).map Prod.snd

def headerDocument (h : HeaderValues) : Fields := [
  ("timestamp", .int (unsigned 64 h.timeStamp)),
  ("measurementID", .int h.measurementID),
  ("sourceIP", .address h.sourceIP),
  ("destinationIP", .address h.destinationIP),
  ("protocol", .int (protocolNumber h.protocol)),
  ("trafficClass", .int h.trafficClass),
  ("roundNumber", .int h.roundNumber),
  ("packetSize", .int h.packetSize),
  ("checksum", .int h.checksum),
  ("sourcePort", .int h.sourcePort),
  ("destinationPort", .int h.destinationPort),
  ("statusFlags", .int h.statusFlags),
  ("totalHops", .int h.totalHops),
  ("pathHash", .int h.pathHash)]

def hopDocument (v : HopValues) : Fields := [
  ("sendTimestamp", .int (unsigned 64 v.sendTimeStamp)),
  ("responseSize", .int v.responseSize),
  ("hopIP", .address v.hopIP),
  ("status", .int v.status)] ++ timingDocument v.timing

def hopRow (h : HeaderValues) (v : HopValues) : Row := [
  .int (unsigned 64 h.timeStamp),
  .int h.measurementID,
  .address h.sourceIP,
  .address h.destinationIP,
  .int (protocolNumber h.protocol),
  .int h.trafficClass,
  .int h.roundNumber,
  .int v.hopNumber,
  .int h.totalHops,
  .int h.packetSize,
  .int v.responseSize,
  .int h.checksum,
  .int h.sourcePort,
  .int h.destinationPort,
  .int (v.status ||| h.statusFlags : Nat),
  .int h.pathHash,
  .int (unsigned 64 v.sendTimeStamp),
  .address v.hopIP] ++ (timingDocument v.timing).map Prod.snd

/-- A Traceroute block, with hops that are numbered from 1 on. -/
structure Block where
  header : HeaderValues
  hops : List HopValues
  numbered : hops.map HopValues.hopNumber = List.range' 1 hops.length
  /-- The number of a hop is an `unsigned int`. -/
  numbers : hops.length < 2 ^ 32

def Block.rows (b : Block) : List Row := b.hops.map (hopRow b.header)

def Block.document (b : Block) : Document := ⟨headerDocument b.header, b.hops.map hopDocument⟩

/-! ## Measurements of version 1 -/

/-- A Ping of version 1, with times in microseconds.  Tables have 0 where documents have no field. -/
structure OldPing where
  timeStamp : Int
  fromIP : Address
  toIP : Address
  trafficClass : Option Nat
  packetSize : Option Nat
  checksum : Nat
  status : Nat
  rtt : Int

def optionalField (name : String) : Option Nat → Fields
  | none => []
  | some n => [(name, .int n)]

/-- What SELECT gives for its row. -/
def OldPing.row (m : OldPing) : Row := [
  .int (1000 * m.timeStamp),
  .int 0,
  .address m.fromIP,
  .address m.toIP,
  .int 105,
  .int (m.trafficClass.getD 0 : Nat),
  .int 0,
  .int (m.packetSize.getD 0 : Nat),
  .int 0,
  .int m.checksum,
  .int 0,
  .int 0,
  .int m.status,
  .int 0,
  .int (-1),
  .int (-1),
  .int (-1),
  .int (1000 * m.rtt),
  .int (-1),
  .int (-1)]

def OldPing.document (m : OldPing) : Fields := [
  ("timestamp", .int m.timeStamp),
  ("source", .address m.fromIP),
  ("destination", .address m.toIP)] ++
  optionalField "trafficClass" m.trafficClass ++ optionalField "packetSize" m.packetSize ++ [
  ("checksum", .int m.checksum),
  ("status", .int m.status),
  ("rtt", .int m.rtt)]

structure OldHop where
  hopIP : Address
  status : Nat
  rtt : Int

/-- A Traceroute block of version 1. -/
structure OldBlock where
  timeStamp : Int
  fromIP : Address
  toIP : Address
  trafficClass : Option Nat
  round : Nat
  totalHops : Nat
  packetSize : Option Nat
  checksum : Nat
  statusFlags : Nat
  pathHash : Int
  hops : List OldHop
  /-- The number of a hop is an `unsigned int`. -/
  numbers : hops.length < 2 ^ 32

/-- What SELECT gives for the row of a hop. -/
def OldBlock.row (b : OldBlock) (hopNumber : Nat) (v : OldHop) : Row := [
  .int (1000 * b.timeStamp),
  .int 0,
  .address b.fromIP,
  .address b.toIP,
  .int 105,
  .int (b.trafficClass.getD 0 : Nat),
  .int b.round,
  .int hopNumber,
  .int b.totalHops,
  .int (b.packetSize.getD 0 : Nat),
  .int 0,
  .int b.checksum,
  .int 0,
  .int 0,
  .int (v.status ||| b.statusFlags : Nat),
  .int b.pathHash,
  .int (1000 * b.timeStamp),
  .address v.hopIP,
  .int 0,
  .int (-1),
  .int (-1),
  .int (-1),
  .int (1000 * v.rtt),
  .int (-1),
  .int (-1)]

def OldBlock.rows (b : OldBlock) : List Row := (b.hops.zipIdx 1).map fun (v, n) => b.row n v

def OldHop.document (v : OldHop) : Fields := [
  ("hop", .address v.hopIP),
  ("status", .int v.status),
  ("rtt", .int v.rtt)]

def OldBlock.document (b : OldBlock) : Document where
  fields := [
    ("timestamp", .int b.timeStamp),
    ("source", .address b.fromIP),
    ("destination", .address b.toIP)] ++
    optionalField "trafficClass" b.trafficClass ++ [
    ("round", .int b.round),
    ("totalHops", .int b.totalHops)] ++
    optionalField "packetSize" b.packetSize ++ [
    ("checksum", .int b.checksum),
    ("statusFlags", .int b.statusFlags),
    ("pathHash", .int b.pathHash)]
  hops := b.hops.map OldHop.document

/-! ## Stored measurements -/

inductive Stored where
  | pingOne (m : OldPing)
  | pingTwo (v : PingValues)
  | tracerouteOne (b : OldBlock)
  | tracerouteTwo (b : Block)

/-- What the SQL queries do with the rows of a measurement. -/
def sqlActions (p : Options) : Stored → List Action
  | .pingOne m => sqlPingActions p m.row
  | .pingTwo v => sqlPingActions p (pingRow v)
  | .tracerouteOne b => b.rows.flatMap (sqlTracerouteActions p)
  | .tracerouteTwo b => b.rows.flatMap (sqlTracerouteActions p)

/-- What the NoSQL queries do with the document. -/
def noSQLActions (p : Options) : Stored → List Action
  | .pingOne m => noSQLPingActions p (noSQLPingOne p) m.document
  | .pingTwo v => noSQLPingActions p (noSQLPingTwo p) (pingDocument v)
  | .tracerouteOne b => noSQLTracerouteOne p b.document
  | .tracerouteTwo b => noSQLTracerouteTwo p b.document

/-! ## What the importer writes -/

/-- The text of a cell in a statement. -/
def Cell.text (o : Results.Output) (backend : Results.Backend) : Cell → Text
  | .int value => Results.Statement.decimal value
  | .address a => Results.Statement.encodeAddress o.addressText o.base64 backend a

theorem unsignedText_eq (n : Nat) : Results.unsignedText n = Results.Statement.decimal n := by
  unfold Results.unsignedText Results.Statement.decimal
  rw [if_neg (by omega), Int.natAbs_natCast]

theorem pingFields_eq (o : Results.Output) (backend : Results.Backend) (v : PingValues) :
    Results.pingFields o backend v = (pingDocument v).map fun (name, c) => (name, c.text o backend) := by
  simp only [Results.pingFields, pingDocument, Results.timingFields, timingDocument, Results.timePointText,
    Results.protocolText, unsignedText_eq, List.map_append, List.map_cons, List.map_nil, Cell.text,
    unsigned, protocolNumber]

theorem hopRow_eq (o : Results.Output) (backend : Results.Backend) (h : HeaderValues) (v : HopValues) :
    Results.hopRow o backend h v = (hopRow h v).map (Cell.text o backend) := by
  simp only [Results.hopRow, hopRow, Results.timingFields, timingDocument, Results.fieldCells,
    Results.timePointText, Results.protocolText, unsignedText_eq, List.map_append, List.map_cons,
    List.map_nil, Cell.text, unsigned, protocolNumber, if_true]

theorem hopCells_eq (o : Results.Output) (backend : Results.Backend) (v : HopValues) :
    Results.hopCells o backend v =
      Results.fieldCells false ((hopDocument v).map fun (name, c) => (name, c.text o backend)) := by
  simp only [Results.hopCells, hopDocument, Results.timingFields, timingDocument,
    Results.timePointText, unsignedText_eq, List.map_append, List.map_cons,
    List.map_nil, Cell.text, unsigned]

theorem headerCells_eq (o : Results.Output) (backend : Results.Backend) (h : HeaderValues) :
    Results.headerCells o backend h =
      Results.fieldCells false ((headerDocument h).map fun (name, c) => (name, c.text o backend)) ++
        ["\"hops\": [ ".toList] := by
  simp only [Results.headerCells, headerDocument, Results.timePointText, Results.protocolText,
    unsignedText_eq, List.map_cons, List.map_nil, Cell.text, unsigned, protocolNumber]

/-! ## Integers that fit -/

open Fields

def TimingFits (t : Timing) : Prop :=
  InInt32 t.timeSource ∧
    ∀ n ∈ [t.delayAppSend, t.delayQueuing, t.delayAppReceive, t.rttApp, t.rttSoftware, t.rttHardware],
      InInt64 n

def PingFits (v : PingValues) : Prop :=
  InInt64 (unsigned 64 v.sendTimeStamp) ∧
    (∀ n ∈ [v.measurementID, protocolNumber v.protocol, v.trafficClass, v.burstSeq, v.packetSize,
      v.responseSize, v.checksum, v.sourcePort, v.destinationPort, v.status], InInt32 n) ∧
    TimingFits v.timing

def HeaderFits (h : HeaderValues) : Prop :=
  (∀ n ∈ [(unsigned 64 h.timeStamp : Int), h.measurementID, h.pathHash], InInt64 n) ∧
    ∀ n ∈ [protocolNumber h.protocol, h.trafficClass, h.roundNumber, h.totalHops, h.packetSize,
      h.checksum, h.sourcePort, h.destinationPort, h.statusFlags], InInt32 n

def HopFits (v : HopValues) : Prop :=
  InInt64 (unsigned 64 v.sendTimeStamp) ∧ InInt32 v.responseSize ∧ InInt32 v.status ∧
    TimingFits v.timing

def OldBlock.HeaderFits (b : OldBlock) : Prop :=
  InInt64 b.timeStamp ∧ InInt64 b.pathHash ∧
    ∀ n ∈ [b.trafficClass.getD 0, b.round, b.totalHops, b.packetSize.getD 0, b.checksum,
      b.statusFlags], InInt32 n

def OldHop.Fits (v : OldHop) : Prop := InInt32 v.status ∧ InInt64 v.rtt

/-- The status flags that the row of a hop gives back are those of the block. -/
def FlagsRecovered (statusFlags status : Nat) : Prop :=
  statusFlags % 256 = 0 ∧ (status ||| statusFlags) / 256 = statusFlags / 256

/-- When both queries do the same. -/
def Agrees : Stored → Prop
  | .pingOne _ => False
  | .pingTwo v => PingFits v
  | .tracerouteOne b =>
      b.HeaderFits ∧ (∀ v ∈ b.hops, v.Fits) ∧
        ∃ v ∈ b.hops.head?, FlagsRecovered b.statusFlags v.status
  | .tracerouteTwo b =>
      HeaderFits b.header ∧ (∀ v ∈ b.hops, HopFits v) ∧
        ∃ v ∈ b.hops.head?, FlagsRecovered b.header.statusFlags v.status

/-! ## Reading documents -/

theorem lookup_of_mem {d : Fields} (hd : (d.map Prod.fst).Nodup) {x : String × Cell} (hx : x ∈ d) :
    d.lookup x.1 = some x.2 := by
  induction d with
  | nil => simp at hx
  | cons y d ih =>
    rw [List.map_cons, List.nodup_cons] at hd
    rcases List.mem_cons.mp hx with rfl | hx
    · rw [List.lookup_cons, beq_self_eq_true]
    · have hne : x.1 ≠ y.1 := by
        intro he
        apply hd.1
        rw [← he]
        exact List.mem_map_of_mem hx
      rw [List.lookup_cons, beq_false_of_ne hne]
      exact ih hd.2 hx

theorem bind_eq_ok {α β : Type} {m : Except Ending α} {f : α → Except Ending β} {b : β} :
    (m >>= f) = .ok b ↔ ∃ a, m = .ok a ∧ f a = .ok b := by
  cases m <;> simp [bind, Except.bind]

theorem pure_eq_ok {α : Type} {a b : α} : (pure a : Except Ending α) = .ok b ↔ a = b := by
  simp [pure, Except.pure]

theorem guarded_eq_ok {α : Type} {q : Prop} [Decidable q] {a b : α} {e : Ending} :
    (if q then Except.ok a else Except.error e) = Except.ok b ↔ q ∧ a = b := by
  by_cases h : q <;> simp [h]

theorem noSQLTiming_eq_ok {d : Fields} {t w : Timing}
    (hd : ∀ x ∈ timingDocument t, d.lookup x.1 = some x.2) :
    noSQLTiming d = .ok w ↔
      TimingFits t ∧ { t with timeSource := unsigned 32 t.timeSource } = w := by
  simp only [timingDocument, List.forall_mem_cons, List.not_mem_nil, false_imp_iff, implies_true,
    and_true] at hd
  obtain ⟨h1, h2, h3, h4, h5, h6, h7⟩ := hd
  simp only [noSQLTiming, bind_eq_ok, getInteger, getBigInt, h1, h2, h3, h4, h5, h6, h7,
    guarded_eq_ok, pure_eq_ok, TimingFits, List.forall_mem_cons, List.not_mem_nil, false_imp_iff,
    implies_true, and_true, and_assoc, exists_and_left, exists_eq_left']

/-- The values that a query reads of a Ping of version 2. -/
def fetchedPing (p : Options) (v : PingValues) : PingValues where
  sendTimeStamp := unsigned 64 (unsigned 64 v.sendTimeStamp)
  sourceIP := decodeAddress v.sourceIP
  destinationIP := decodeAddress v.destinationIP
  measurementID := mapMeasurementID p (unsigned 64 v.measurementID) (decodeAddress v.sourceIP)
  protocol := Char.ofNat (unsigned 8 (protocolNumber v.protocol))
  trafficClass := unsigned 8 v.trafficClass
  burstSeq := unsigned 32 v.burstSeq
  packetSize := unsigned 32 v.packetSize
  responseSize := unsigned 32 v.responseSize
  checksum := unsigned 16 v.checksum
  sourcePort := unsigned 16 v.sourcePort
  destinationPort := unsigned 16 v.destinationPort
  status := unsigned 32 v.status
  timing := { v.timing with timeSource := unsigned 32 v.timing.timeSource }

theorem noSQLPingTwo_eq_ok {p : Options} {v w : PingValues} :
    noSQLPingTwo p (pingDocument v) = .ok w ↔ PingFits v ∧ fetchedPing p v = w := by
  have hd : ∀ x ∈ pingDocument v, (pingDocument v).lookup x.1 = some x.2 := by
    intro x hx
    apply lookup_of_mem _ hx
    simp [pingDocument, timingDocument]
  have ht : ∀ x ∈ timingDocument v.timing, (pingDocument v).lookup x.1 = some x.2 :=
    fun x hx => hd x (List.mem_append_right _ hx)
  have hf := fun x hx => hd x (List.mem_append_left _ hx)
  simp only [List.forall_mem_cons, List.not_mem_nil, false_imp_iff, implies_true, and_true] at hf
  obtain ⟨h1, h2, h3, h4, h5, h6, h7, h8, h9, h10, h11, h12, h13⟩ := hf
  simp only [noSQLPingTwo, bind_eq_ok, getInteger, getBigInt, getAddress, h1, h2, h3, h4, h5, h6, h7,
    h8, h9, h10, h11, h12, h13, noSQLTiming_eq_ok ht, guarded_eq_ok, pure_eq_ok, Except.ok.injEq,
    PingFits, List.forall_mem_cons, List.not_mem_nil, false_imp_iff, implies_true, and_true, and_assoc,
    exists_and_left, exists_eq_left', fetchedPing]

/-- The values that a query reads of the header of a document of version 2. -/
def fetchedHeader (p : Options) (h : HeaderValues) : HeaderValues where
  timeStamp := unsigned 64 (unsigned 64 h.timeStamp)
  sourceIP := decodeAddress h.sourceIP
  destinationIP := decodeAddress h.destinationIP
  measurementID := mapMeasurementID p (unsigned 64 h.measurementID) (decodeAddress h.sourceIP)
  protocol := Char.ofNat (unsigned 8 (protocolNumber h.protocol))
  trafficClass := unsigned 8 h.trafficClass
  roundNumber := unsigned 32 h.roundNumber
  totalHops := unsigned 32 h.totalHops
  packetSize := unsigned 32 h.packetSize
  checksum := unsigned 16 h.checksum
  sourcePort := unsigned 16 h.sourcePort
  destinationPort := unsigned 16 h.destinationPort
  statusFlags := unsigned 32 h.statusFlags
  pathHash := h.pathHash

theorem noSQLHeaderTwo_eq_ok {p : Options} {h w : HeaderValues} :
    noSQLHeaderTwo p (headerDocument h) = .ok w ↔ HeaderFits h ∧ fetchedHeader p h = w := by
  have hd : ∀ x ∈ headerDocument h, (headerDocument h).lookup x.1 = some x.2 := by
    intro x hx
    apply lookup_of_mem _ hx
    simp [headerDocument]
  -- Only the list of the fields is unfolded, not the document that is read.
  generalize hdoc : headerDocument h = d at hd ⊢
  have hf : ∀ x ∈ headerDocument h, d.lookup x.1 = some x.2 := fun x hx => hd x (hdoc ▸ hx)
  simp only [headerDocument, List.forall_mem_cons, List.not_mem_nil, false_imp_iff, implies_true,
    and_true] at hf
  obtain ⟨h1, h2, h3, h4, h5, h6, h7, h8, h9, h10, h11, h12, h13, h14⟩ := hf
  simp only [noSQLHeaderTwo, bind_eq_ok, getInteger, getBigInt, getAddress, h1, h2, h3, h4, h5, h6, h7,
    h8, h9, h10, h11, h12, h13, h14, guarded_eq_ok, pure_eq_ok, Except.ok.injEq, HeaderFits,
    List.forall_mem_cons, List.not_mem_nil, false_imp_iff, implies_true, and_true, and_assoc,
    exists_and_left, exists_eq_left', fetchedHeader]
  tauto

/-- The values that a query reads of a hop of a document of version 2. -/
def fetchedHop (hopNumber : Nat) (v : HopValues) : HopValues where
  sendTimeStamp := unsigned 64 (unsigned 64 v.sendTimeStamp)
  hopNumber := hopNumber
  responseSize := unsigned 32 v.responseSize
  hopIP := decodeAddress v.hopIP
  status := unsigned 32 v.status
  timing := { v.timing with timeSource := unsigned 32 v.timing.timeSource }

theorem noSQLHopTwo_eq_ok {n : Nat} {v w : HopValues} :
    noSQLHopTwo n (hopDocument v) = .ok w ↔ HopFits v ∧ fetchedHop n v = w := by
  have hd : ∀ x ∈ hopDocument v, (hopDocument v).lookup x.1 = some x.2 := by
    intro x hx
    apply lookup_of_mem _ hx
    simp [hopDocument, timingDocument]
  have ht : ∀ x ∈ timingDocument v.timing, (hopDocument v).lookup x.1 = some x.2 :=
    fun x hx => hd x (List.mem_append_right _ hx)
  have hf := fun x hx => hd x (List.mem_append_left _ hx)
  simp only [List.forall_mem_cons, List.not_mem_nil, false_imp_iff, implies_true, and_true] at hf
  obtain ⟨h1, h2, h3, h4⟩ := hf
  simp only [noSQLHopTwo, bind_eq_ok, getInteger, getBigInt, getAddress, h1, h2, h3, h4,
    noSQLTiming_eq_ok ht, guarded_eq_ok, pure_eq_ok, Except.ok.injEq, HopFits, and_assoc,
    exists_and_left, exists_eq_left', fetchedHop]

/-- The values that a query reads of the header of a document of version 1. -/
def OldBlock.fetchedHeader (p : Options) (b : OldBlock) : HeaderValues where
  timeStamp := unsigned 64 (1000 * b.timeStamp)
  sourceIP := decodeAddress b.fromIP
  destinationIP := decodeAddress b.toIP
  measurementID := mapMeasurementID p 0 (decodeAddress b.fromIP)
  protocol := 'i'
  trafficClass := unsigned 8 (b.trafficClass.getD 0 : Nat)
  roundNumber := unsigned 32 b.round
  totalHops := unsigned 32 b.totalHops
  packetSize := unsigned 32 (b.packetSize.getD 0 : Nat)
  checksum := unsigned 16 b.checksum
  sourcePort := 0
  destinationPort := 0
  statusFlags := unsigned 32 b.statusFlags
  pathHash := b.pathHash

theorem noSQLHeaderOne_eq_ok {p : Options} {b : OldBlock} {w : HeaderValues} :
    noSQLHeaderOne p b.document.fields = .ok w ↔ b.HeaderFits ∧ b.fetchedHeader p = w := by
  have hzero : InInt32 0 := by decide
  unfold OldBlock.HeaderFits OldBlock.fetchedHeader OldBlock.document noSQLHeaderOne
  -- The optional fields are there or not.
  cases b.trafficClass <;> cases b.packetSize <;>
    simp [-bind_pure_comp, optionalField, bind_eq_ok, getIntegerOr, getInteger, getBigInt, getAddress,
      List.lookup_cons, List.lookup_nil, guarded_eq_ok, pure_eq_ok, and_assoc, hzero] <;>
    tauto

/-- The values that a query reads of a hop of a document of version 1. -/
def OldHop.fetched (timeStamp : Int) (hopNumber : Nat) (v : OldHop) : HopValues where
  sendTimeStamp := timeStamp
  hopNumber := hopNumber
  responseSize := 0
  hopIP := decodeAddress v.hopIP
  status := unsigned 32 v.status
  timing := ⟨0, -1, -1, -1, (1000 * v.rtt).bmod (2 ^ 64), -1, -1⟩

theorem noSQLHopOne_eq_ok {timeStamp : Int} {n : Nat} {v : OldHop} {w : HopValues} :
    noSQLHopOne timeStamp n v.document = .ok w ↔ v.Fits ∧ v.fetched timeStamp n = w := by
  simp [-bind_pure_comp, noSQLHopOne, OldHop.document, OldHop.Fits, OldHop.fetched, bind_eq_ok,
    getInteger, getBigInt, getAddress, List.lookup_cons, guarded_eq_ok, pure_eq_ok, and_assoc]

/-! ## Reading rows -/

theorem bmod_of_inInt32 {n : Int} (h : InInt32 n) : n.bmod (2 ^ 32) = n := by
  unfold InInt32 at h
  rw [Int.bmod_eq_of_le] <;> omega

theorem bmod_of_inInt64 {n : Int} (h : InInt64 n) : n.bmod (2 ^ 64) = n := by
  unfold InInt64 at h
  rw [Int.bmod_eq_of_le] <;> omega

theorem unsigned_of_inInt32 {n : Nat} (h : InInt32 n) : unsigned 32 n = n := by
  unfold InInt32 at h
  unfold unsigned
  omega

theorem unsigned_bmod {n : Nat} (h : n < 2 ^ 32) : unsigned 32 ((n : Int).bmod (2 ^ 32)) = n := by
  have hcast : ((2 ^ 32 : Nat) : Int) = 2 ^ 32 := rfl
  unfold unsigned
  rw [← hcast, Int.bmod_emod]
  omega

theorem unsigned_bmod_long (n : Int) : unsigned 64 (n.bmod (2 ^ 64)) = unsigned 64 n := by
  have hcast : ((2 ^ 64 : Nat) : Int) = 2 ^ 64 := rfl
  unfold unsigned
  rw [← hcast, Int.bmod_emod]

theorem unsigned_zero (bits : Nat) : unsigned bits 0 = 0 := by simp [unsigned]

theorem inInt32_or {m n : Nat} (hm : InInt32 m) (hn : InInt32 n) : InInt32 (m ||| n : Nat) := by
  have h := Nat.or_lt_two_pow (x := m) (y := n) (n := 31)
  unfold InInt32 at hm hn ⊢
  omega

theorem sqlPing_pingRow {p : Options} {v : PingValues} (h : PingFits v) :
    sqlPing p (pingRow v) = fetchedPing p v := by
  obtain ⟨h0, hi, ht0, ht⟩ := h
  simp only [List.forall_mem_cons, List.not_mem_nil, false_imp_iff, implies_true, and_true] at hi ht
  simp [-Nat.reducePow, sqlPing, fetchedPing, pingRow, pingDocument, timingDocument, Row.getInteger,
    Row.getBigInt, Row.getAddress, Row.int, bmod_of_inInt32, bmod_of_inInt64, *]

/-- The status flags in the row of a hop. -/
def recoveredFlags (statusFlags status : Nat) : Nat :=
  (status ||| statusFlags) - (status ||| statusFlags) % 256

theorem sqlTracerouteHeader_hopRow {p : Options} {h : HeaderValues} {v : HopValues}
    (hh : HeaderFits h) (hv : HopFits v) :
    sqlTracerouteHeader p (hopRow h v) =
      { fetchedHeader p h with statusFlags := recoveredFlags h.statusFlags v.status } := by
  obtain ⟨hb, hi⟩ := hh
  simp only [List.forall_mem_cons, List.not_mem_nil, false_imp_iff, implies_true, and_true] at hi hb
  have hor : InInt32 (v.status ||| h.statusFlags : Nat) := inInt32_or hv.2.2.1 hi.2.2.2.2.2.2.2.2
  simp [-Nat.reducePow, sqlTracerouteHeader, fetchedHeader, hopRow, Row.getInteger, Row.getBigInt,
    Row.getAddress, Row.int, bmod_of_inInt32, bmod_of_inInt64, unsigned_of_inInt32, recoveredFlags, *]

theorem sqlTracerouteHop_hopRow {h : HeaderValues} {v : HopValues}
    (hh : HeaderFits h) (hv : HopFits v) (hn : v.hopNumber < 2 ^ 32) :
    sqlTracerouteHop (hopRow h v) =
      { fetchedHop v.hopNumber v with status := v.status ||| h.statusFlags } := by
  obtain ⟨hb, hi⟩ := hh
  obtain ⟨hv0, hv1, hv2, hv3, hv4⟩ := hv
  simp only [List.forall_mem_cons, List.not_mem_nil, false_imp_iff, implies_true, and_true] at hi hv4
  have hor : InInt32 (v.status ||| h.statusFlags : Nat) := inInt32_or hv2 hi.2.2.2.2.2.2.2.2
  simp [-Nat.reducePow, sqlTracerouteHop, fetchedHop, hopRow, timingDocument, Row.getInteger,
    Row.getBigInt, Row.getAddress, Row.int, bmod_of_inInt32, bmod_of_inInt64, unsigned_of_inInt32,
    unsigned_bmod, *]

theorem sqlTracerouteHeader_row {p : Options} {b : OldBlock} {n : Nat} {v : OldHop}
    (hb : b.HeaderFits) (hv : v.Fits) :
    sqlTracerouteHeader p (b.row n v) =
      { b.fetchedHeader p with statusFlags := recoveredFlags b.statusFlags v.status } := by
  obtain ⟨h0, h1, hi⟩ := hb
  simp only [List.forall_mem_cons, List.not_mem_nil, false_imp_iff, implies_true, and_true] at hi
  have hor : InInt32 (v.status ||| b.statusFlags : Nat) := inInt32_or hv.1 hi.2.2.2.2.2
  have hi' : Char.ofNat (unsigned 8 (Int.bmod 105 (2 ^ 32))) = 'i' := by decide
  simp [-Nat.reducePow, sqlTracerouteHeader, OldBlock.fetchedHeader, OldBlock.row, Row.getInteger,
    Row.getBigInt, Row.getAddress, Row.int, bmod_of_inInt32, bmod_of_inInt64, unsigned_of_inInt32,
    unsigned_bmod_long, unsigned_zero, recoveredFlags, *]

theorem sqlTracerouteHop_row {b : OldBlock} {n : Nat} {v : OldHop}
    (hb : b.HeaderFits) (hv : v.Fits) (hn : n < 2 ^ 32) :
    sqlTracerouteHop (b.row n v) =
      { v.fetched (unsigned 64 (1000 * b.timeStamp)) n with status := v.status ||| b.statusFlags } := by
  obtain ⟨h0, h1, hi⟩ := hb
  simp only [List.forall_mem_cons, List.not_mem_nil, false_imp_iff, implies_true, and_true] at hi
  have hor : InInt32 (v.status ||| b.statusFlags : Nat) := inInt32_or hv.1 hi.2.2.2.2.2
  have hminus : Int.bmod (-1) (2 ^ 64) = -1 := by decide
  simp [-Nat.reducePow, sqlTracerouteHop, OldHop.fetched, OldBlock.row, Row.getInteger, Row.getBigInt,
    Row.getAddress, Row.int, bmod_of_inInt32, unsigned_of_inInt32, unsigned_bmod, unsigned_bmod_long,
    unsigned_zero, *]

/-! ## Blocks of both versions -/

/-- What the formats of Traceroute blocks have in common. -/
structure BlockFormat (γ : Type) where
  hops : List γ
  numbers : hops.length < 2 ^ 32
  row : Nat → γ → Row
  fields : Fields
  hopFields : γ → Fields
  readHeader : Options → Fields → Except Ending HeaderValues
  readHop : HeaderValues → Nat → Fields → Except Ending HopValues
  statusFlags : Nat
  status : γ → Nat
  HeaderFits : Prop
  HopFits : γ → Prop
  header : Options → HeaderValues
  hop : Nat → γ → HopValues
  readHeader_eq_ok : ∀ {p w}, readHeader p fields = .ok w ↔ HeaderFits ∧ header p = w
  readHop_eq_ok : ∀ {p n v w}, readHop (header p) n (hopFields v) = .ok w ↔ HopFits v ∧ hop n v = w
  header_statusFlags : ∀ {p}, HeaderFits → (header p).statusFlags = statusFlags
  hop_status : ∀ {n v}, HopFits v → (hop n v).status = status v
  row_hopNumber : ∀ {n v}, n < 2 ^ 32 → (sqlTracerouteHop (row n v)).hopNumber = n
  row_header : ∀ {p n v}, HeaderFits → HopFits v →
    sqlTracerouteHeader p (row n v) =
      { header p with statusFlags := recoveredFlags statusFlags (status v) }
  row_hop : ∀ {n v}, HeaderFits → HopFits v → n < 2 ^ 32 →
    sqlTracerouteHop (row n v) = { hop n v with status := status v ||| statusFlags }

namespace BlockFormat
variable {γ : Type} (f : BlockFormat γ) (p : Options)

def rows : List Row := (f.hops.zipIdx 1).map fun (v, n) => f.row n v

def sql : List Action := f.rows.flatMap (sqlTracerouteActions p)

def noSQL : List Action :=
  noSQLTracerouteActions p (f.readHeader p) f.readHop ⟨f.fields, f.hops.map f.hopFields⟩

/-- The hops of a block, with what is written for each. -/
def hopTexts (text : Nat → γ → Text) (start : Nat) (hops : List γ) : List Text :=
  (hops.zipIdx start).map fun (v, n) => text n v

variable {f p}

theorem sql_hops {start : Nat} {hops : List γ} (hs : 2 ≤ start) (hb : start + hops.length ≤ 2 ^ 32) :
    ((hops.zipIdx start).map fun (v, n) => f.row n v).flatMap (sqlTracerouteActions p) =
      (hopTexts (fun n v => hopLine p (sqlTracerouteHop (f.row n v))) start hops).map .hop := by
  induction hops generalizing start with
  | nil => rfl
  | cons v hops ih =>
    have hn : (sqlTracerouteHop (f.row start v)).hopNumber ≠ 1 := by
      rw [f.row_hopNumber (by simp at hb; omega)]
      omega
    have hrest := @ih (start + 1) (by omega) (by simp at hb; omega)
    simp only [List.zipIdx_cons, List.map_cons, List.flatMap_cons, hrest, hopTexts,
      sqlTracerouteActions, if_neg hn, outputTracerouteHop, List.nil_append, List.cons_append]

theorem sql_eq {v : γ} {hops : List γ} (h : f.hops = v :: hops) :
    f.sql p = outputTracerouteHeader p (sqlTracerouteHeader p (f.row 1 v)) ::
      (hopTexts (fun n v => hopLine p (sqlTracerouteHop (f.row n v))) 1 f.hops).map .hop := by
  have hb := f.numbers
  rw [h] at hb
  simp only [List.length_cons] at hb
  have hn : (sqlTracerouteHop (f.row 1 v)).hopNumber = 1 := f.row_hopNumber (by omega)
  unfold sql rows
  simp only [h, List.zipIdx_cons, List.map_cons, List.flatMap_cons, hopTexts, sqlTracerouteActions,
    if_pos hn, outputTracerouteHop, List.cons_append, List.nil_append]
  have hrest := @sql_hops γ f p (1 + 1) hops (by omega) (by omega)
  unfold hopTexts at hrest
  rw [hrest]

theorem noSQLHopActions_fit {start : Nat} {hops : List γ} (hf : ∀ v ∈ hops, f.HopFits v) :
    noSQLHopActions p (f.readHop (f.header p)) start (hops.map f.hopFields) =
      (hopTexts (fun n v => hopLine p (f.hop n v)) (start + 1) hops).map .hop := by
  induction hops generalizing start with
  | nil => rfl
  | cons v hops ih =>
    obtain ⟨hv, hrest⟩ := List.forall_mem_cons.mp hf
    have hread : f.readHop (f.header p) (start + 1) (f.hopFields v) = .ok (f.hop (start + 1) v) :=
      f.readHop_eq_ok.mpr ⟨hv, rfl⟩
    simp only [List.map_cons, noSQLHopActions, hread, ih hrest, hopTexts, List.zipIdx_cons,
      outputTracerouteHop]

theorem noSQLHopActions_misfit {start : Nat} {hops : List γ} (hf : ¬ ∀ v ∈ hops, f.HopFits v) :
    .badData ∈ noSQLHopActions p (f.readHop (f.header p)) start (hops.map f.hopFields) := by
  induction hops generalizing start with
  | nil => simp at hf
  | cons v hops ih =>
    rw [List.map_cons]
    unfold noSQLHopActions
    cases hread : f.readHop (f.header p) (start + 1) (f.hopFields v) with
    | error e => simp
    | ok w =>
      have hv : f.HopFits v := (f.readHop_eq_ok.mp hread).1
      have hrest : ¬ ∀ v ∈ hops, f.HopFits v :=
        fun hr => hf (List.forall_mem_cons.mpr ⟨hv, hr⟩)
      exact List.mem_cons_of_mem _ (ih hrest)

/-- A document whose integers fit is read. -/
theorem noSQL_eq (hh : f.HeaderFits) (hf : ∀ v ∈ f.hops, f.HopFits v) :
    f.noSQL p = outputTracerouteHeader p (f.header p) ::
      (hopTexts (fun n v => hopLine p (f.hop n v)) 1 f.hops).map .hop := by
  have hread : f.readHeader p f.fields = .ok (f.header p) := f.readHeader_eq_ok.mpr ⟨hh, rfl⟩
  unfold noSQL noSQLTracerouteActions
  simp only [hread, noSQLHopActions_fit hf]

/-- Any other document is bad data. -/
theorem badData_mem_noSQL (h : ¬ (f.HeaderFits ∧ ∀ v ∈ f.hops, f.HopFits v)) :
    .badData ∈ f.noSQL p := by
  unfold noSQL noSQLTracerouteActions
  cases hread : f.readHeader p f.fields with
  | error e => simp
  | ok w =>
    obtain ⟨hh, rfl⟩ := f.readHeader_eq_ok.mp hread
    exact List.mem_cons_of_mem _ (noSQLHopActions_misfit fun hf => h ⟨hh, hf⟩)

/-- What is printed of the status of a hop does not depend on status flags without low bits. -/
theorem hopLine_status {v : HopValues} {flags : Nat} (h : flags % 256 = 0) :
    hopLine p { v with status := v.status ||| flags } = hopLine p v := by
  have hmod : (v.status ||| flags) % 256 = v.status % 256 := by
    rw [show 256 = 2 ^ 8 from rfl, Nat.or_mod_two_pow, ← show 256 = 2 ^ 8 from rfl, h, Nat.or_zero]
  unfold hopLine hopWords
  simp only [hmod]

theorem recoveredFlags_eq_iff (flags status : Nat) :
    recoveredFlags flags status = flags ↔ FlagsRecovered flags status := by
  unfold recoveredFlags FlagsRecovered
  omega

/-- In a document whose integers fit, a row gives the header with the status flags that it has got. -/
theorem header_row {n : Nat} {v : γ} (hh : f.HeaderFits) (hv : f.HopFits v) :
    sqlTracerouteHeader p (f.row n v) = f.header p ↔ FlagsRecovered f.statusFlags (f.status v) := by
  rw [f.row_header hh hv, ← recoveredFlags_eq_iff]
  constructor
  · intro he
    have hflags := congrArg HeaderValues.statusFlags he
    rwa [f.header_statusFlags hh] at hflags
  · intro he
    rw [he, ← f.header_statusFlags (p := p) hh]

theorem hopTexts_row (hh : f.HeaderFits) (hf : ∀ v ∈ f.hops, f.HopFits v)
    (hflags : f.statusFlags % 256 = 0) :
    hopTexts (fun n v => hopLine p (sqlTracerouteHop (f.row n v))) 1 f.hops =
      hopTexts (fun n v => hopLine p (f.hop n v)) 1 f.hops := by
  unfold hopTexts
  apply List.map_congr_left
  rintro ⟨v, n⟩ hmem
  obtain ⟨hlow, hhigh, hv⟩ := List.mem_zipIdx hmem
  have hv : f.HopFits v := hf v (by rw [hv]; exact List.getElem_mem _)
  have hn : n < 2 ^ 32 := by
    have hb := f.numbers
    omega
  dsimp only
  rw [f.row_hop hh hv hn, ← f.hop_status (n := n) hv]
  exact hopLine_status hflags

/-- Both queries do the same with a block exactly if its integers fit, and its first hop gives back the
status flags. -/
theorem same_iff (f : BlockFormat γ) :
    (∀ (p : Options) (e : Export), e.exec p (f.sql p) = e.exec p (f.noSQL p)) ↔
      f.HeaderFits ∧ (∀ v ∈ f.hops, f.HopFits v) ∧
        ∃ v ∈ f.hops.head?, FlagsRecovered f.statusFlags (f.status v) := by
  constructor
  · intro hsame
    let p : Options := ⟨false, [], fun _ => [], fun _ => none⟩
    have hplain : Export.start.exec p (f.sql p) = Export.start.exec p (f.noSQL p) := hsame p _
    have hfits : (Export.start.exec p (f.sql p)).ended = none →
        f.HeaderFits ∧ ∀ v ∈ f.hops, f.HopFits v := by
      intro hended
      by_contra hbad
      apply Export.ended_of_mem Export.start (badData_mem_noSQL (p := p) hbad)
      rw [← hplain, hended]
    cases hops : f.hops with
    | nil =>
      -- An SQL database has nothing of a block without hops.
      have hnone : f.sql p = [] := by simp [sql, rows, hops]
      rw [hnone] at hplain hfits
      obtain ⟨hh, hf⟩ := hfits rfl
      rw [noSQL_eq hh hf] at hplain
      have hstream := congrArg Export.stream hplain
      rw [outputTracerouteHeader, Export.exec_start rfl] at hstream
      simp [Export.exec, Export.start] at hstream
    | cons v hops' =>
      rw [sql_eq hops, outputTracerouteHeader, Export.exec_start rfl] at hplain hfits
      obtain ⟨hh, hf⟩ := hfits rfl
      have hv : f.HopFits v := hf v (by simp [hops])
      refine ⟨hh, by rwa [← hops], v, rfl, ?_⟩
      rw [noSQL_eq hh hf, outputTracerouteHeader, Export.exec_start rfl] at hplain
      have hline : headerLine p (sqlTracerouteHeader p (f.row 1 v)) = headerLine p (f.header p) := by
        have hstream := congrArg Export.stream hplain
        simp only [List.cons_append, List.nil_append, List.cons.injEq] at hstream
        exact hstream.2.1
      rw [f.row_header hh hv] at hline
      rw [← recoveredFlags_eq_iff, ← f.header_statusFlags (p := p) hh]
      rw [← f.header_statusFlags (p := p) hh] at hline
      exact headerLine_statusFlags hline
  · rintro ⟨hh, hf, v, hv, hflags⟩ p e
    obtain ⟨hops, hcons⟩ : ∃ hops, f.hops = v :: hops := by
      rw [Option.mem_def, List.head?_eq_some_iff] at hv
      exact hv
    have hfit : f.HopFits v := hf v (by simp [hcons])
    have hactions : f.sql p = f.noSQL p := by
      rw [sql_eq hcons, noSQL_eq hh hf, (header_row hh hfit).mpr hflags, hopTexts_row hh hf hflags.1]
    rw [hactions]

end BlockFormat

theorem row_hopNumber {r : Row} {n : Nat} (h : r.int 8 = n) (hn : n < 2 ^ 32) :
    (sqlTracerouteHop r).hopNumber = n := by
  show unsigned 32 ((r.int 8).bmod (2 ^ 32)) = n
  rw [h, unsigned_bmod hn]

def OldBlock.format (b : OldBlock) : BlockFormat OldHop where
  hops := b.hops
  numbers := b.numbers
  row := b.row
  fields := b.document.fields
  hopFields := OldHop.document
  readHeader := noSQLHeaderOne
  readHop := fun h => noSQLHopOne h.timeStamp
  statusFlags := b.statusFlags
  status := OldHop.status
  HeaderFits := b.HeaderFits
  HopFits := OldHop.Fits
  header := b.fetchedHeader
  hop := fun n v => v.fetched (unsigned 64 (1000 * b.timeStamp)) n
  readHeader_eq_ok := noSQLHeaderOne_eq_ok
  readHop_eq_ok := noSQLHopOne_eq_ok
  header_statusFlags := fun h => unsigned_of_inInt32 (h.2.2 _ (by simp))
  hop_status := fun h => unsigned_of_inInt32 h.1
  row_hopNumber := row_hopNumber rfl
  row_header := sqlTracerouteHeader_row
  row_hop := sqlTracerouteHop_row

def Block.format (b : Block) : BlockFormat HopValues where
  hops := b.hops
  numbers := b.numbers
  row := fun n v => hopRow b.header { v with hopNumber := n }
  fields := headerDocument b.header
  hopFields := hopDocument
  readHeader := noSQLHeaderTwo
  readHop := fun _ => noSQLHopTwo
  statusFlags := b.header.statusFlags
  status := HopValues.status
  HeaderFits := HeaderFits b.header
  HopFits := HopFits
  header := fun p => fetchedHeader p b.header
  hop := fetchedHop
  readHeader_eq_ok := noSQLHeaderTwo_eq_ok
  readHop_eq_ok := noSQLHopTwo_eq_ok
  header_statusFlags := fun h => unsigned_of_inInt32 (h.2 _ (by simp))
  hop_status := fun h => unsigned_of_inInt32 h.2.2.1
  row_hopNumber := row_hopNumber rfl
  row_header := fun hh hv => sqlTracerouteHeader_hopRow hh hv
  row_hop := fun hh hv hn => sqlTracerouteHop_hopRow hh hv hn

theorem Block.rows_format (b : Block) : b.rows = b.format.rows := by
  apply List.ext_getElem
  · simp [rows, format, BlockFormat.rows]
  · intro i h1 h2
    have hi : i < b.hops.length := by simpa [rows] using h1
    have hn : b.hops[i].hopNumber = 1 + i := by
      have hnumber := congrArg (fun l => l[i]?) b.numbered
      simpa [hi] using hnumber
    simp [rows, format, BlockFormat.rows, ← hn]

/-! ## Pings -/

/-- Items from one measurement are the same for the program exactly if their lines are. -/
theorem ping_line_eq {p : Options} {v w : PingValues}
    (h : ∀ e : Export, e.exec p [outputPing p v] = e.exec p [outputPing p w])
    (hp : p.deduplication = false) : pingLine p v = pingLine p w := by
  have hstart := congrArg Export.stream (h Export.start)
  have hnil : ∀ u, [outputPing p u] = outputPing p u :: ([] : List Text).map .hop := fun _ => rfl
  rw [hnil v, hnil w, outputPing, outputPing, Export.exec_start hp, Export.exec_start hp] at hstart
  simpa using hstart

/-- A line of a Ping ends with the hardware RTT. -/
theorem pingLine_end (p : Options) (v : PingValues) :
    ∃ s : Text, pingLine p v = s ++ Results.Statement.decimal v.timing.rttHardware ++ ['\n'] := by
  have hsplit : pingWords p v ++ timingWords v.timing =
      (pingWords p v ++ (timingWords v.timing).take 5) ++
        [Results.Statement.decimal v.timing.rttSoftware,
          Results.Statement.decimal v.timing.rttHardware] := by
    simp [timingWords]
  unfold pingLine
  rw [hsplit, line_last]
  exact ⟨_, rfl⟩

/-- A hardware RTT of -1 and one of 0 are printed differently. -/
theorem pingLine_ne {p : Options} {v w : PingValues} (hv : v.timing.rttHardware = -1)
    (hw : w.timing.rttHardware = 0) : pingLine p v ≠ pingLine p w := by
  intro he
  obtain ⟨s, hs⟩ := pingLine_end p v
  obtain ⟨t, ht⟩ := pingLine_end p w
  have hminus : Results.Statement.decimal (-1) = ['-', '1'] := by decide
  have hzero : Results.Statement.decimal 0 = ['0'] := by decide
  rw [hs, ht, hv, hw, hminus, hzero] at he
  have hlast := congrArg List.reverse he
  simp at hlast

theorem noSQLPingOne_rttHardware {p : Options} {d : Fields} {w : PingValues}
    (h : noSQLPingOne p d = .ok w) : w.timing.rttHardware = 0 := by
  unfold noSQLPingOne at h
  simp only [bind_eq_ok, pure_eq_ok] at h
  obtain ⟨_, -, _, -, _, -, _, -, _, -, _, -, _, -, _, -, rfl⟩ := h
  rfl

theorem sqlPing_row_rttHardware (p : Options) (m : OldPing) :
    (sqlPing p m.row).timing.rttHardware = -1 := by
  show Int.bmod (-1) (2 ^ 64) = -1
  decide

theorem ended_outputPing {p : Options} (hp : p.deduplication = false) (v : PingValues) :
    (Export.start.exec p [outputPing p v]).ended = none := by
  show (Export.start.exec p (.item _ _ _ :: ([] : List Text).map .hop)).ended = none
  rw [Export.exec_start hp]
  rfl

/-- What is bad data for the one query is written by the other. -/
theorem ping_same {p : Options} (hp : p.deduplication = false) {r : Row} {d : Fields}
    {read : Fields → Except Ending PingValues}
    (h : ∀ e : Export, e.exec p (sqlPingActions p r) = e.exec p (noSQLPingActions p read d)) :
    ∃ w, read d = .ok w ∧ pingLine p (sqlPing p r) = pingLine p w := by
  unfold sqlPingActions noSQLPingActions at h
  cases hread : read d with
  | error e =>
    have hstart := congrArg Export.ended (h Export.start)
    rw [ended_outputPing hp, hread] at hstart
    exact absurd hstart.symm (Export.ended_of_mem _ (by simp))
  | ok w =>
    rw [hread] at h
    exact ⟨w, rfl, ping_line_eq h hp⟩

theorem noSQLPingActions_ok {p : Options} {read : Fields → Except Ending PingValues} {d : Fields}
    {w : PingValues} (h : read d = .ok w) : noSQLPingActions p read d = [outputPing p w] := by
  unfold noSQLPingActions
  rw [h]

/-! ## All measurements -/

/-- The queries do the same with a measurement, with all options and in every state of the export, if and
only if it agrees. -/
theorem exports_iff (x : Stored) :
    (∀ (p : Options) (e : Export), e.exec p (sqlActions p x) = e.exec p (noSQLActions p x)) ↔
      Agrees x := by
  cases x with
  | pingOne m =>
    constructor
    · intro h
      let p : Options := ⟨false, [], fun _ => [], fun _ => none⟩
      have hp : ∀ e : Export, e.exec p (sqlPingActions p m.row) =
          e.exec p (noSQLPingActions p (noSQLPingOne p) m.document) := h p
      obtain ⟨w, hread, hline⟩ := ping_same rfl hp
      exact pingLine_ne (sqlPing_row_rttHardware p m) (noSQLPingOne_rttHardware hread) hline
    · exact False.elim
  | pingTwo v =>
    constructor
    · intro h
      let p : Options := ⟨false, [], fun _ => [], fun _ => none⟩
      have hp : ∀ e : Export, e.exec p (sqlPingActions p (pingRow v)) =
          e.exec p (noSQLPingActions p (noSQLPingTwo p) (pingDocument v)) := h p
      obtain ⟨w, hread, -⟩ := ping_same rfl hp
      exact (noSQLPingTwo_eq_ok.mp hread).1
    · intro hfits p e
      have hread : noSQLPingTwo p (pingDocument v) = .ok (fetchedPing p v) := by
        rw [noSQLPingTwo_eq_ok]
        exact ⟨hfits, rfl⟩
      rw [sqlActions, noSQLActions, noSQLPingActions_ok hread, sqlPingActions,
        sqlPing_pingRow hfits]
  | tracerouteOne b => exact b.format.same_iff
  | tracerouteTwo b =>
    have hrows : ∀ p, sqlActions p (.tracerouteTwo b) = b.format.sql p := by
      intro p
      show b.rows.flatMap _ = _
      rw [b.rows_format]
      rfl
    simp only [hrows]
    exact b.format.same_iff

/-- A Ping of version 1. -/
def oldPing : OldPing where
  timeStamp := 1000000
  fromIP := .v4 0x0a000001
  toIP := .v4 0x0a000002
  trafficClass := some 0
  packetSize := some 84
  checksum := 0x1234
  status := 255
  rtt := 2000

theorem oldPing_differs :
    ¬ ∀ (p : Options) (e : Export),
      e.exec p (sqlActions p (.pingOne oldPing)) = e.exec p (noSQLActions p (.pingOne oldPing)) := by
  intro h
  have hstream := congrArg Export.stream (h ⟨false, [], fun _ => ['a'], fun _ => none⟩ Export.start)
  exact absurd hstream (by decide)

end HiPerConTracer.Query
