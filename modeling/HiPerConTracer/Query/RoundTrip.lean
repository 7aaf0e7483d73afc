import HiPerConTracer.Lib.Grouping
import HiPerConTracer.Query.Exports
import HiPerConTracer.Query.ReadBack

/-!
# From lines to lines (`hpct-importer`, `hpct-query`)

Rows of a database have the cells of the rows that the readers have made of lines.  Without
deduplication, `hpct-query` prints the lines again that the rows have come from, in the order in which
the database has sorted them:

    order sorted by time →
      Prints p "Ping 2" (order.flatMap actions) (order.map (pingText p))       (pings_exported)

and the lines of a Traceroute block stay together, behind their header (`rows_exported`).
-/

namespace HiPerConTracer.Query
open Net
open Results (Text Input Output Backend PingValues HeaderValues HopValues WholeRows)
open SortedSet (Sorted)
open Grouping (members memberKey)
open Results.Statement (joined)

variable {i : Input} {p : Options}

/-! ## What is printed -/

/-- The lines of a file, with the identification if there are any. -/
def exportTexts (p : Options) (outputType : String) (lines : List Text) : List Text :=
  if lines = [] then []
  else ("#? HPCT ".toList ++ outputType.toList ++ [' '] ++ p.programID) :: lines

/-- The lines, with their ends. -/
def printed (p : Options) (outputType : String) (lines : List Text) : List Text :=
  (exportTexts p outputType lines).map (· ++ ['\n'])

/-- An item with its time and the lines of its hops. -/
structure Item where
  timeStamp : Nat
  text : Text
  hops : List Text

def Item.lines (x : Item) : List Text := x.text :: x.hops

def Item.actions (outputType : String) (x : Item) : List Action :=
  .item outputType.toList x.timeStamp (x.text ++ ['\n']) :: (x.hops.map (· ++ ['\n'])).map .hop

theorem Export.exec_items (hp : p.deduplication = false) {outputType : String} {xs : List Item}
    {e : Export} (he : e.ended = none) (hlines : e.lines ≠ 0)
    (hlast : ∀ x ∈ xs, e.lastTimeStamp ≤ x.timeStamp)
    (hsorted : xs.Pairwise (·.timeStamp ≤ ·.timeStamp)) :
    (e.exec p (xs.flatMap (Item.actions outputType))).ended = none ∧
      (e.exec p (xs.flatMap (Item.actions outputType))).stream =
        e.stream ++ (xs.flatMap Item.lines).map (· ++ ['\n']) := by
  induction xs generalizing e with
  | nil => exact ⟨he, (List.append_nil _).symm⟩
  | cons x xs ih =>
    rw [List.forall_mem_cons] at hlast
    rw [List.pairwise_cons] at hsorted
    have hnew : ¬ (p.deduplication = true ∧ e.lastTimeStamp = x.timeStamp ∧
        e.dedupLastItem = x.text ++ ['\n']) := by
      rw [hp]
      exact fun h => absurd h.1 (by decide)
    rw [List.flatMap_cons, List.flatMap_cons, exec_append]
    unfold Item.actions
    rw [exec_item he hlast.1 hnew, if_neg hlines]
    obtain ⟨hended, hstream⟩ := ih (e := { e with
        stream := e.stream ++ [] ++ [x.text ++ ['\n']] ++ x.hops.map (· ++ ['\n'])
        lines := e.lines + 1 + (x.hops.map (· ++ ['\n'])).length
        lastTimeStamp := x.timeStamp
        dedupLastItem := if p.deduplication then x.text ++ ['\n'] else e.dedupLastItem
        dedupInProgress := false }) he (by simp) hsorted.1 hsorted.2
    refine ⟨hended, hstream.trans ?_⟩
    unfold Item.lines
    simp only [List.append_nil, List.append_assoc, List.map_append, List.map_cons,
      List.cons_append, List.nil_append]

/-- An export that is not ended early, with these lines. -/
def Prints (p : Options) (outputType : String) (actions : List Action) (lines : List Text) : Prop :=
  (Export.start.exec p actions).ended = none ∧
    (Export.start.exec p actions).stream = printed p outputType lines

/-- **An export without deduplication** prints the lines of the items. -/
theorem Export.exec_sorted (hp : p.deduplication = false) (outputType : String) {xs : List Item}
    (hsorted : xs.Pairwise (·.timeStamp ≤ ·.timeStamp)) :
    Prints p outputType (xs.flatMap (Item.actions outputType)) (xs.flatMap Item.lines) := by
  cases xs with
  | nil => exact ⟨rfl, rfl⟩
  | cons x xs =>
    rw [List.pairwise_cons] at hsorted
    unfold Prints
    rw [List.flatMap_cons, List.flatMap_cons, exec_append]
    unfold Item.actions
    rw [exec_start hp]
    obtain ⟨hended, hstream⟩ := @Export.exec_items p hp outputType xs { Export.start with
        stream := [identification p outputType.toList, x.text ++ ['\n']] ++
          x.hops.map (· ++ ['\n'])
        lines := 1 + (x.hops.map (· ++ ['\n'])).length
        lastTimeStamp := x.timeStamp } rfl (by simp) hsorted.1 hsorted.2
    refine ⟨hended, hstream.trans ?_⟩
    unfold printed exportTexts Item.lines
    rw [if_neg (by simp)]
    unfold identification
    simp only [List.cons_append, List.nil_append, List.append_assoc, List.map_append, List.map_cons]

/-! ## Pings -/

/-- A measurement ID of 0 is kept, when there is no other one for the address. -/
def MeasurementIDKept (p : Options) (measurementID : Nat) (sourceIP : Address) : Prop :=
  measurementID = 0 → p.addressToMeasurementID sourceIP = none

/-- The values of a line fit into the columns of a database, in which they are what they are. -/
structure PingStored (i : Input) (p : Options) (v : PingValues) : Prop extends PingReadable i p v where
  fits : PingFits v
  time : 0 ≤ v.sendTimeStamp
  protocol_lt : v.protocol.toNat < 128
  mapped : MeasurementIDKept p v.measurementID v.sourceIP
  sourceIP_decoded : decodeAddress v.sourceIP = v.sourceIP
  destinationIP_decoded : decodeAddress v.destinationIP = v.destinationIP

theorem unsigned_of_lt {bits n : Nat} (h : n < 2 ^ bits) : unsigned bits n = n := by
  unfold unsigned
  have hcast : ((n : Int) % 2 ^ bits) = (n % 2 ^ bits : Nat) := by
    rw [Int.natCast_emod, Int.natCast_pow]
    rfl
  rw [hcast, Int.toNat_natCast, Nat.mod_eq_of_lt h]

theorem unsigned_time {n : Int} (h : 0 ≤ n) (hfits : Fields.InInt64 (unsigned 64 n))
    (hin : Fields.InInt64 n) : (unsigned 64 (unsigned 64 n) : Int) = n := by
  unfold Fields.InInt64 at hfits hin
  unfold unsigned at hfits ⊢
  omega

theorem mapMeasurementID_kept {n : Nat} {a : Address} (hn : n < 2 ^ 32)
    (h : MeasurementIDKept p n a) : mapMeasurementID p n a = n := by
  unfold mapMeasurementID
  by_cases hzero : n = 0
  · rw [if_pos hzero, h hzero, hzero]
    rfl
  · rw [if_neg hzero, Nat.mod_eq_of_lt hn]

theorem protocol_kept {c : Char} (h : c.toNat < 128) :
    Char.ofNat (unsigned 8 (protocolNumber c)) = c := by
  unfold protocolNumber
  rw [if_pos h, unsigned_of_lt (by omega), Char.ofNat_toNat]

/-- What a query reads of the row of a Ping. -/
theorem fetchedPing_eq {v : PingValues} (h : PingStored i p v) : fetchedPing p v = v := by
  have htime := unsigned_time h.time h.fits.1 h.sendTimeStamp.inInt64
  unfold fetchedPing
  rw [h.sourceIP_decoded, h.destinationIP_decoded, htime, protocol_kept h.protocol_lt,
    unsigned_of_lt (lt_of_lt_of_le h.measurementID (by decide)),
    mapMeasurementID_kept h.measurementID h.mapped, unsigned_of_lt h.burstSeq,
    unsigned_of_lt h.packetSize, unsigned_of_lt h.responseSize, unsigned_of_lt h.status,
    unsigned_of_lt (Nat.lt_succ_of_le h.trafficClass),
    unsigned_of_lt (Nat.lt_succ_of_le h.checksum), unsigned_of_lt (Nat.lt_succ_of_le h.sourcePort),
    unsigned_of_lt (Nat.lt_succ_of_le h.destinationPort), unsigned_of_lt h.timing.timeSource]

def pingItem (p : Options) (v : PingValues) : Item := ⟨unsigned 64 v.sendTimeStamp, pingText p v, []⟩

theorem sqlPingActions_eq {v : PingValues} (h : PingStored i p v) :
    sqlPingActions p (pingRow v) = (pingItem p v).actions "Ping 2" := by
  unfold sqlPingActions
  rw [sqlPing_pingRow h.fits, fetchedPing_eq h]
  rfl

theorem noSQLPingActions_eq {v : PingValues} (h : PingStored i p v) :
    noSQLPingActions p (noSQLPingTwo p) (pingDocument v) = (pingItem p v).actions "Ping 2" := by
  have hread : noSQLPingTwo p (pingDocument v) = .ok v :=
    noSQLPingTwo_eq_ok.mpr ⟨h.fits, fetchedPing_eq h⟩
  rw [noSQLPingActions_ok hread]
  rfl

theorem unsigned_mono {m n : Int} (hm : 0 ≤ m) (hmn : m ≤ n) (hn : Fields.InInt64 n) :
    unsigned 64 m ≤ unsigned 64 n := by
  unfold Fields.InInt64 at hn
  unfold unsigned
  omega

/-- **Pings are exported** as the lines that they have come from, in the order of the database. -/
theorem pings_exported (hp : p.deduplication = false) {order : List PingValues}
    (hv : ∀ v ∈ order, PingStored i p v)
    (hsorted : order.Pairwise (·.sendTimeStamp ≤ ·.sendTimeStamp)) {actions : PingValues → List Action}
    (hactions : ∀ v ∈ order, actions v = (pingItem p v).actions "Ping 2") :
    Prints p "Ping 2" (order.flatMap actions) (order.map (pingText p)) := by
  have hitems : order.flatMap actions = (order.map (pingItem p)).flatMap (Item.actions "Ping 2") := by
    rw [List.flatMap_map]
    exact List.flatMap_congr hactions
  have htexts : order.map (pingText p) = (order.map (pingItem p)).flatMap Item.lines := by
    rw [List.flatMap_map]
    exact List.map_eq_flatMap
  have hitemsSorted : (order.map (pingItem p)).Pairwise (·.timeStamp ≤ ·.timeStamp) := by
    rw [List.pairwise_map]
    refine hsorted.imp_of_mem fun ha hb hle => ?_
    exact unsigned_mono (hv _ ha).time hle (hv _ hb).sendTimeStamp.inInt64
  rw [hitems, htexts]
  exact Export.exec_sorted hp "Ping 2" hitemsSorted

/-! ## Traceroute blocks -/

structure HeaderStored (i : Input) (p : Options) (h : HeaderValues) : Prop
    extends HeaderReadable i p h where
  fits : HeaderFits h
  time : 0 ≤ h.timeStamp
  protocol_lt : h.protocol.toNat < 128
  mapped : MeasurementIDKept p h.measurementID h.sourceIP
  sourceIP_decoded : decodeAddress h.sourceIP = h.sourceIP
  destinationIP_decoded : decodeAddress h.destinationIP = h.destinationIP
  /-- The low bits are those of the status of a hop. -/
  flags : h.statusFlags % 256 = 0

structure HopStored (i : Input) (p : Options) (v : HopValues) : Prop extends HopReadable i p v where
  fits : HopFits v
  time : 0 ≤ v.sendTimeStamp
  hopIP_decoded : decodeAddress v.hopIP = v.hopIP

/-- A block without hops has no rows. -/
structure BlockStored (i : Input) (p : Options) (b : Block) : Prop where
  header : HeaderStored i p b.header
  hops : ∀ v ∈ b.hops, HopStored i p v
  hops_ne_nil : b.hops ≠ []

theorem fetchedHeader_eq {h : HeaderValues} (hh : HeaderStored i p h) : fetchedHeader p h = h := by
  have hfits : Fields.InInt64 (unsigned 64 h.timeStamp) := hh.fits.1 _ (by simp)
  have htime := unsigned_time hh.time hfits hh.timeStamp.inInt64
  have hflags : h.statusFlags < 2 ^ 32 := lt_trans hh.statusFlags (by decide)
  unfold fetchedHeader
  rw [hh.sourceIP_decoded, hh.destinationIP_decoded, htime, protocol_kept hh.protocol_lt,
    unsigned_of_lt (lt_of_lt_of_le hh.measurementID (by decide)),
    mapMeasurementID_kept hh.measurementID hh.mapped, unsigned_of_lt hh.roundNumber,
    unsigned_of_lt (lt_of_le_of_lt hh.totalHops_le (by decide)), unsigned_of_lt hh.packetSize,
    unsigned_of_lt (Nat.lt_succ_of_le hh.trafficClass),
    unsigned_of_lt (Nat.lt_succ_of_le hh.checksum), unsigned_of_lt (Nat.lt_succ_of_le hh.sourcePort),
    unsigned_of_lt (Nat.lt_succ_of_le hh.destinationPort), unsigned_of_lt hflags]

theorem fetchedHop_eq {v : HopValues} (h : HopStored i p v) : fetchedHop v.hopNumber v = v := by
  have htime := unsigned_time h.time h.fits.1 h.sendTimeStamp.inInt64
  unfold fetchedHop
  rw [h.hopIP_decoded, htime, unsigned_of_lt h.responseSize,
    unsigned_of_lt (lt_trans h.status (by decide)), unsigned_of_lt h.timing.timeSource]

theorem flagsRecovered {flags status : Nat} (hflags : flags % 256 = 0) (hstatus : status < 256) :
    FlagsRecovered flags status := by
  refine ⟨hflags, ?_⟩
  have hor : status ||| flags = flags ||| status := Nat.or_comm _ _
  obtain ⟨k, rfl⟩ := Nat.dvd_of_mod_eq_zero hflags
  have hadd : 2 ^ 8 * k + status = 2 ^ 8 * k ||| status := Nat.two_pow_add_eq_or_of_lt hstatus k
  rw [hor, show 256 = 2 ^ 8 from rfl, ← hadd]
  omega

theorem Block.hopNumber_eq (b : Block) {v : HopValues} {n : Nat} (h : (v, n) ∈ b.hops.zipIdx 1) :
    v.hopNumber = n := by
  obtain ⟨hlow, hhigh, hv⟩ := List.mem_zipIdx h
  have hnumber := congrArg (fun l => l[n - 1]?) b.numbered
  have hindex : n - 1 < b.hops.length := by omega
  simp only [List.getElem?_map, List.getElem?_eq_getElem hindex, Option.map_some,
    List.getElem?_range' hindex, Option.some.injEq] at hnumber
  rw [hv, hnumber]
  omega

/-- The hops are numbered as they are found. -/
theorem Block.hopTexts_eq (b : Block) (hb : ∀ v ∈ b.hops, HopStored i p v) :
    BlockFormat.hopTexts (fun n v => hopLine p (fetchedHop n v)) 1 b.hops =
      (b.hops.map (hopText p)).map (· ++ ['\n']) := by
  have hlines : BlockFormat.hopTexts (fun n v => hopLine p (fetchedHop n v)) 1 b.hops =
      (b.hops.zipIdx 1).map (fun x => hopLine p x.1) := by
    unfold BlockFormat.hopTexts
    refine List.map_congr_left ?_
    rintro ⟨v, n⟩ hmem
    have hv : v ∈ b.hops := by
      obtain ⟨-, -, heq⟩ := List.mem_zipIdx hmem
      rw [heq]
      exact List.getElem_mem _
    have hfetched := fetchedHop_eq (hb v hv)
    rw [b.hopNumber_eq hmem] at hfetched
    exact congrArg (hopLine p) hfetched
  have hfst : (b.hops.zipIdx 1).map (fun x => hopLine p x.1) = b.hops.map (hopLine p) := by
    have hzip := congrArg (List.map (hopLine p)) (List.zipIdx_map_fst 1 b.hops)
    rwa [List.map_map] at hzip
  rw [hlines, hfst, List.map_map]
  rfl

/-- The lines of a block. -/
def Block.lines (p : Options) (b : Block) : List Text := blockTexts p (b.header, b.hops)

def blockItem (p : Options) (b : Block) : Item :=
  ⟨unsigned 64 b.header.timeStamp, headerText p b.header, b.hops.map (hopText p)⟩

/-- The rows of a block, in the order of their hops. -/
theorem sqlTracerouteActions_eq {b : Block} (h : BlockStored i p b) :
    b.rows.flatMap (sqlTracerouteActions p) = (blockItem p b).actions "Traceroute 2" := by
  have hsql : b.rows.flatMap (sqlTracerouteActions p) = b.format.sql p := by
    rw [b.rows_format]
    rfl
  obtain ⟨v, hops, hcons⟩ := List.exists_cons_of_ne_nil h.hops_ne_nil
  have hhops : b.format.hops = v :: hops := hcons
  have hfits : ∀ v ∈ b.format.hops, HopFits v := fun v hv => (h.hops v hv).fits
  have hv := h.hops v (by rw [hcons]; exact List.mem_cons_self)
  have hheader : sqlTracerouteHeader p (b.format.row 1 v) = b.header :=
    ((BlockFormat.header_row h.header.fits hv.fits).mpr
      (flagsRecovered h.header.flags hv.status)).trans (fetchedHeader_eq h.header)
  rw [hsql, BlockFormat.sql_eq hhops, hheader,
    BlockFormat.hopTexts_row h.header.fits hfits h.header.flags]
  exact congrArg (fun texts => outputTracerouteHeader p b.header :: texts.map Action.hop)
    (b.hopTexts_eq h.hops)

theorem noSQLTracerouteTwo_eq {b : Block} (h : BlockStored i p b) :
    noSQLTracerouteTwo p b.document = (blockItem p b).actions "Traceroute 2" := by
  have hfits : ∀ v ∈ b.format.hops, HopFits v := fun v hv => (h.hops v hv).fits
  have hnoSQL : b.format.noSQL p = outputTracerouteHeader p (fetchedHeader p b.header) ::
      (BlockFormat.hopTexts (fun n v => hopLine p (fetchedHop n v)) 1 b.hops).map .hop :=
    BlockFormat.noSQL_eq h.header.fits hfits
  show b.format.noSQL p = _
  rw [hnoSQL, fetchedHeader_eq h.header, b.hopTexts_eq h.hops]
  rfl

/-- **Blocks are exported** as the lines that they have come from, in the order of the database. -/
theorem blocks_exported (hp : p.deduplication = false) {order : List Block}
    (hb : ∀ b ∈ order, BlockStored i p b)
    (hsorted : order.Pairwise (·.header.timeStamp ≤ ·.header.timeStamp)) :
    Prints p "Traceroute 2" (order.flatMap fun b => (blockItem p b).actions "Traceroute 2")
      (order.flatMap (Block.lines p)) := by
  have hitems : (order.flatMap fun b => (blockItem p b).actions "Traceroute 2") =
      (order.map (blockItem p)).flatMap (Item.actions "Traceroute 2") :=
    (List.flatMap_map ..).symm
  have htexts : order.flatMap (Block.lines p) =
      (order.map (blockItem p)).flatMap Item.lines := by
    rw [List.flatMap_map]
    rfl
  have hitemsSorted : (order.map (blockItem p)).Pairwise (·.timeStamp ≤ ·.timeStamp) := by
    rw [List.pairwise_map]
    refine hsorted.imp_of_mem fun ha hb' hle => ?_
    exact unsigned_mono (hb _ ha).header.time hle (hb _ hb').header.timeStamp.inInt64
  rw [hitems, htexts]
  exact Export.exec_sorted hp "Traceroute 2" hitemsSorted

section Order
variable {α : Type} [LinearOrder α] (addressKey : Address → α)

/-- The primary key of the rows of a block, without the hop, by which they are sorted. -/
def headerKey (h : HeaderValues) : Int ×ₗ Nat ×ₗ α ×ₗ α ×ₗ Nat ×ₗ Nat ×ₗ Nat :=
  toLex (h.timeStamp, toLex (h.measurementID, toLex (addressKey h.sourceIP,
    toLex (addressKey h.destinationIP, toLex (protocolNumber h.protocol,
      toLex (h.trafficClass, h.roundNumber))))))

def blockKey (b : Block) : Int ×ₗ Nat ×ₗ α ×ₗ α ×ₗ Nat ×ₗ Nat ×ₗ Nat := headerKey addressKey b.header

variable {addressKey}

theorem blockKey_timeStamp {a b : Block} (h : blockKey addressKey a ≤ blockKey addressKey b) :
    a.header.timeStamp ≤ b.header.timeStamp := by
  rcases Prod.Lex.le_iff.mp h with hlt | heq
  · exact le_of_lt hlt
  · exact le_of_eq heq.1

theorem Block.hops_sorted (b : Block) : Sorted HopValues.hopNumber b.hops := by
  have hrange : (b.hops.map HopValues.hopNumber).Pairwise (· < ·) := by
    rw [b.numbered]
    exact List.pairwise_lt_range'
  exact List.pairwise_map.mp hrange

/-- **Rows of Traceroute**, sorted by their primary key, give the lines of whole blocks. -/
theorem rows_exported (hp : p.deduplication = false) {bs : List Block}
    (hb : ∀ b ∈ bs, BlockStored i p b) (hkeys : (bs.map (blockKey addressKey)).Nodup)
    {rows : List (Block × HopValues)} (hperm : rows.Perm (members Block.hops bs))
    (hsorted : rows.Pairwise (memberKey (blockKey addressKey) HopValues.hopNumber · ≤
      memberKey (blockKey addressKey) HopValues.hopNumber ·)) :
    ∃ order, order.Perm bs ∧ Sorted (blockKey addressKey) order ∧
      Prints p "Traceroute 2"
        (rows.flatMap fun x => sqlTracerouteActions p (hopRow x.1.header x.2))
        (order.flatMap (Block.lines p)) := by
  obtain ⟨order, horder, hkey, rfl⟩ :=
    Grouping.exists_members_eq hkeys (fun b _ => b.hops_sorted) hperm hsorted
  have hb' : ∀ b ∈ order, BlockStored i p b := fun b hin => hb b (horder.mem_iff.mp hin)
  have hactions : ((members Block.hops order).flatMap fun x =>
      sqlTracerouteActions p (hopRow x.1.header x.2)) =
        order.flatMap fun b => (blockItem p b).actions "Traceroute 2" := by
    unfold members
    rw [List.flatMap_assoc]
    refine List.flatMap_congr fun b hin => ?_
    rw [← sqlTracerouteActions_eq (hb' b hin)]
    unfold Block.rows
    rw [List.flatMap_map, List.flatMap_map]
  rw [hactions]
  exact ⟨order, horder, hkey, blocks_exported hp hb'
    (hkey.imp fun hlt => blockKey_timeStamp (le_of_lt hlt))⟩

/-- **Documents of Traceroute** give the same lines. -/
theorem documents_exported (hp : p.deduplication = false) {order : List Block}
    (hb : ∀ b ∈ order, BlockStored i p b) (hsorted : Sorted (blockKey addressKey) order) :
    Prints p "Traceroute 2" (order.flatMap fun b => noSQLTracerouteTwo p b.document)
      (order.flatMap (Block.lines p)) := by
  have hactions : (order.flatMap fun b => noSQLTracerouteTwo p b.document) =
      order.flatMap fun b => (blockItem p b).actions "Traceroute 2" :=
    List.flatMap_congr fun b hin => noSQLTracerouteTwo_eq (hb b hin)
  rw [hactions]
  exact blocks_exported hp hb (hsorted.imp fun hlt => blockKey_timeStamp (le_of_lt hlt))

end Order

/-! ## What is imported -/

variable {o : Output} {backend : Backend}

/-- The text of a record, with the names of the fields for NoSQL. -/
def fieldsText (o : Output) (backend : Backend) (d : Fields) : Text :=
  joined backend.isSQL (Results.fieldCells backend.isSQL (d.map fun (name, c) => (name, c.text o backend)))

/-- The text of a document of a Traceroute, without its opening brace. -/
def documentText (o : Output) (backend : Backend) (d : Document) : Text :=
  joined false (Results.fieldCells false (d.fields.map fun (name, c) => (name, c.text o backend)) ++
    ["\"hops\": [ ".toList]) ++
  [','].intercalate (d.hops.map fun hop =>
    " \x7b ".toList ++ fieldsText o backend hop ++ " \x7d".toList) ++ [']']

/-- The texts of the rows, or of the document, of a block. -/
def Block.texts (o : Output) (backend : Backend) (b : Block) : List Text :=
  if backend.isSQL then b.rows.map fun r => joined true (r.map (Cell.text o backend))
  else [documentText o backend b.document]

/-- The importer writes the cells that the queries read. -/
theorem pingBody_eq (v : PingValues) : pingBody o backend v = fieldsText o backend (pingDocument v) := by
  unfold pingBody fieldsText
  rw [pingFields_eq]

theorem hopPart_eq (hsql : backend.isSQL = false) (v : HopValues) :
    Results.hopPart o backend v = (if v.hopNumber > 1 then [','] else []) ++
      (" \x7b ".toList ++ fieldsText o backend (hopDocument v) ++ " \x7d".toList) := by
  unfold Results.hopPart fieldsText
  rw [hopCells_eq, hsql]
  split <;> rfl

theorem Block.hopParts_eq (hsql : backend.isSQL = false) (b : Block) :
    b.hops.flatMap (Results.hopPart o backend) = [','].intercalate (b.document.hops.map fun hop =>
      " \x7b ".toList ++ fieldsText o backend hop ++ " \x7d".toList) := by
  unfold Block.document
  have hnumbered := b.numbered
  cases hhops : b.hops with
  | nil => rfl
  | cons v vs =>
    rw [hhops, List.map_cons, List.length_cons, List.range'_succ, List.cons.injEq] at hnumbered
    have hlater : vs.flatMap (Results.hopPart o backend) = Separated.marked ',' (vs.map fun v =>
        " \x7b ".toList ++ fieldsText o backend (hopDocument v) ++ " \x7d".toList) := by
      unfold Separated.marked
      rw [List.flatMap_map]
      refine List.flatMap_congr fun u hu => ?_
      have hnumber : u.hopNumber ∈ List.range' (1 + 1) vs.length := by
        rw [← hnumbered.2]
        exact List.mem_map_of_mem hu
      have hgt := (List.mem_range'_1.mp hnumber).1
      rw [hopPart_eq hsql, if_pos (by omega)]
      rfl
    rw [List.flatMap_cons, hopPart_eq hsql, if_neg (by omega), hlater, List.nil_append]
    have hsplit := @Separated.intercalate_append _ ','
      [" \x7b ".toList ++ fieldsText o backend (hopDocument v) ++ " \x7d".toList]
      (List.cons_ne_nil _ _) (vs.map fun v =>
        " \x7b ".toList ++ fieldsText o backend (hopDocument v) ++ " \x7d".toList)
    rw [List.intercalate_singleton] at hsplit
    rw [← hsplit, List.map_cons, List.map_cons, List.map_map]
    rfl

theorem Block.texts_eq (b : Block) : blockBodies o backend b.header b.hops = b.texts o backend := by
  unfold blockBodies Block.texts
  by_cases hsql : backend.isSQL = true
  · rw [if_pos hsql, if_pos hsql]
    unfold Block.rows
    rw [List.map_map]
    exact List.map_congr_left fun v _ => congrArg (joined true) (hopRow_eq o backend b.header v)
  · rw [if_neg hsql, if_neg hsql]
    unfold Results.blockPart documentText
    rw [b.hopParts_eq (Bool.eq_false_iff.mpr hsql), headerCells_eq]
    rfl

/-! ## Files -/

/-- From a file with these lines, the reader makes these rows. -/
def ReadsAs (parseContents : Results.InputStream → Results.Parsed → Except Results.Failure Results.Parsed)
    (backend : Backend) (lines rows : List Text) : Prop :=
  ∀ start bodies q, WholeRows start backend bodies q →
    ∃ q', parseContents (Results.openStream lines false) q = .ok q' ∧
      WholeRows start backend (bodies ++ rows) q'

theorem pings_readsAs {vs : List PingValues} (hv : ∀ v ∈ vs, PingStored i p v)
    {identifiers : List Text} (hid : ∀ line ∈ identifiers, line.take 2 = ['#', '?']) :
    ReadsAs (Results.PingReader.parseContents i o) backend (identifiers ++ vs.map (pingText p))
      (vs.map fun v => fieldsText o backend (pingDocument v)) := by
  intro start bodies q hq
  obtain ⟨q', hparse, hq'⟩ := pings_read (fun v hin => (hv v hin).toPingReadable) hid hq
  refine ⟨q', hparse, ?_⟩
  rwa [List.map_congr_left fun v _ => pingBody_eq v] at hq'

theorem blocks_readsAs {bs : List Block} (hb : ∀ b ∈ bs, BlockStored i p b)
    {identifiers : List Text} (hid : ∀ line ∈ identifiers, line.take 2 = ['#', '?']) :
    ReadsAs (Results.TracerouteReader.parseContents i o) backend
      (identifiers ++ bs.flatMap (Block.lines p)) (bs.flatMap (Block.texts o backend)) := by
  intro start bodies q hq
  have hreadable : ∀ x ∈ bs.map (fun b => (b.header, b.hops)), BlockReadable i p x := by
    intro x hx
    obtain ⟨b, hin, rfl⟩ := List.mem_map.mp hx
    exact ⟨(hb b hin).header.toHeaderReadable,
      fun v hv => ((hb b hin).hops v hv).toHopReadable⟩
  obtain ⟨q', hparse, hq'⟩ := blocks_read (o := o) hreadable hid hq
  rw [List.flatMap_map] at hparse hq'
  refine ⟨q', hparse, ?_⟩
  rwa [List.flatMap_congr fun b _ => b.texts_eq] at hq'

/-- The lines of an export, as those of a file. -/
theorem exportTexts_eq (p : Options) (outputType : String) (lines : List Text) :
    ∃ identifiers : List Text, (∀ line ∈ identifiers, line.take 2 = ['#', '?']) ∧
      exportTexts p outputType lines = identifiers ++ lines := by
  unfold exportTexts
  by_cases h : lines = []
  · rw [if_pos h]
    exact ⟨[], fun line hin => absurd hin List.not_mem_nil, h.symm⟩
  · rw [if_neg h]
    exact ⟨["#? HPCT ".toList ++ outputType.toList ++ [' '] ++ p.programID],
      List.forall_mem_singleton.mpr rfl, rfl⟩

end HiPerConTracer.Query
