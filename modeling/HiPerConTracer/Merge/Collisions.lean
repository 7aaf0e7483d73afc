import HiPerConTracer.Merge.Scheduling

/-!
# Rows of version 2 and their identity (`hpct-results.cc`, `postgresql-schema.sql`)

The primary keys of the tables have the protocol, the traffic class, the burst sequence or round number
and the hop number; `operator<` has the round number of a Traceroute and the position of a hop in its
block, and nothing of these for Ping.  For well-formed files of version 2:

    all rows are in the sorted output ↔
      no two rows agree in what `operator<` compares                              (rows_kept_iff)

So two Ping rows with the time stamp, the measurement identifier and the addresses in common make the
merge fail, although their keys differ.
-/

namespace HiPerConTracer.Merge
open Net
open Results (Text column spaced cString entry entryNumber)

variable {p : Setup} {type : InputType}

/-! ## Rows -/

/-- The primary key of a row: the burst sequence or the round number, and no hop for Ping. -/
structure PrimaryKey where
  timeStamp : Nat
  measurementID : Nat
  sourceIP : Address
  destinationIP : Address
  protocol : Char
  trafficClass : Nat
  sequence : Nat
  hopNumber : Nat
deriving DecidableEq

/-- A row of a file: its key, the position of its line in the block, and its columns. -/
structure Row where
  key : PrimaryKey
  position : Nat
  columns : List Text
deriving DecidableEq

/-- The columns of a line. -/
def lineColumns (n : Nat) (line : Text) : Option (List Text) :=
  let words := line.splitOn ' '
  if words.length = n ∧ '\x00' ∉ line then some words else none

/-- A number that is the whole column. -/
def number (base : Nat) (word : Text) : Option Nat :=
  match Numeral.scan base word with
  | .error _ => none
  | .ok (n, index) => if index = word.length then some n else none

/-- The protocol of a line of the type. -/
def protocolOf (type : InputType) (word : Text) : Option Char :=
  match word with
  | ['#', letter, protocol] => if letter = type.letter then some protocol else none
  | _ => none

/-- The traffic class is behind the total hops of a Traceroute. -/
def trafficClassColumn : InputType → Nat
  | .traceroute => 7
  | _ => 6

/-- The key in the columns of a line with a `#`, without a hop. -/
def primaryKey (p : Setup) (type : InputType) (words : List Text) : Option PrimaryKey := do
  let protocol ← protocolOf type (column words 0)
  let measurementID ← number 10 (column words 1)
  let sourceIP ← (p.makeAddress (column words 2)).toOption
  let destinationIP ← (p.makeAddress (column words 3)).toOption
  let timeStamp ← number 16 (column words 4)
  let sequence ← number 10 (column words 5)
  let trafficClass ← number 16 (column words (trafficClassColumn type))
  return {
    timeStamp := timeStamp
    measurementID := measurementID % 2 ^ 32
    sourceIP := sourceIP
    destinationIP := destinationIP
    protocol := protocol
    trafficClass := trafficClass
    sequence := sequence % 2 ^ 32
    hopNumber := 0 }

/-- The columns of a hop, behind the TAB and perhaps a space. -/
def hopColumns (line : Text) : Option (List Text) :=
  match line with
  | '\t' :: ' ' :: rest => lineColumns 12 rest
  | '\t' :: rest => lineColumns 12 rest
  | _ => none

def hopRows (key : PrimaryKey) (header : List Text) : Nat → List Text → Option (List Row)
  | _, [] => some []
  | k, line :: lines => do
    let words ← hopColumns line
    let hopNumber ← number 10 (column words 1)
    let rows ← hopRows key header (k + 1) lines
    return ⟨{ key with hopNumber := hopNumber }, (k + 1) % 2 ^ 32, header ++ [['~']] ++ words⟩ :: rows

/-- The rows of a block: a line of Ping, or the hops of a Traceroute. -/
def blockRecords (p : Setup) (type : InputType) (block : List Text) : Option (List Row) :=
  match type, block with
  | .ping, [line] => do
    let words ← lineColumns 20 line
    let key ← primaryKey p .ping words
    return [⟨key, 0, words⟩]
  | .traceroute, line :: lines => do
    let words ← lineColumns 14 line
    let key ← primaryKey p .traceroute words
    hopRows key words 0 lines
  | _, _ => none

/-- A Ping or Traceroute file of version 2. -/
structure WellFormed2 (p : Setup) (type : InputType) (lines : List Text) : Prop where
  first : ∃ line rest, lines = line :: rest ∧ Accepts type 2 line
  noOrphans : (blocks lines).1 = []
  accepted : ∀ block ∈ (blocks lines).2, (blockRecords p type block).isSome

instance (p : Setup) (type : InputType) (lines : List Text) : Decidable (WellFormed2 p type lines) :=
  decidable_of_iff
    ((∃ line ∈ lines.head?, Accepts type 2 line) ∧ (blocks lines).1 = [] ∧
      ∀ block ∈ (blocks lines).2, (blockRecords p type block).isSome)
    ⟨fun ⟨⟨line, hline, haccepts⟩, noOrphans, accepted⟩ =>
      ⟨⟨line, lines.tail, (List.cons_head?_tail hline).symm, haccepts⟩, noOrphans, accepted⟩,
      fun h => ⟨h.first.elim fun line ⟨_, hlines, haccepts⟩ => ⟨line, by rw [hlines]; rfl, haccepts⟩,
        h.noOrphans, h.accepted⟩⟩

/-- The rows of a file. -/
def fileRecords (p : Setup) (type : InputType) (lines : List Text) : List Row :=
  (blocks lines).2.flatMap fun block => (blockRecords p type block).getD []

/-- The line of a row in the output. -/
def Row.text (p : Setup) (r : Row) : Text := [p.separator].intercalate r.columns

/-- The round number, which is that of a Traceroute. -/
def Row.roundNumber (type : InputType) (r : Row) : Nat :=
  if type = .traceroute then r.key.sequence else 0

/-- What two rows have in common that `operator<` takes for the same. -/
structure Row.Collides (type : InputType) (a b : Row) : Prop where
  timeStamp : a.key.timeStamp = b.key.timeStamp
  measurementID : a.key.measurementID = b.key.measurementID
  sourceIP : a.key.sourceIP = b.key.sourceIP
  destinationIP : a.key.destinationIP = b.key.destinationIP
  roundNumber : a.roundNumber type = b.roundNumber type
  position : a.position = b.position

instance (type : InputType) (a b : Row) : Decidable (a.Collides type b) :=
  decidable_of_iff
    (a.key.timeStamp = b.key.timeStamp ∧ a.key.measurementID = b.key.measurementID ∧
      a.key.sourceIP = b.key.sourceIP ∧ a.key.destinationIP = b.key.destinationIP ∧
      a.roundNumber type = b.roundNumber type ∧ a.position = b.position)
    ⟨fun ⟨h1, h2, h3, h4, h5, h6⟩ => ⟨h1, h2, h3, h4, h5, h6⟩,
      fun h => ⟨h.timeStamp, h.measurementID, h.sourceIP, h.destinationIP, h.roundNumber, h.position⟩⟩

/-- The entry of a row. -/
def Row.entry (p : Setup) (type : InputType) (r : Row) : OutputEntry where
  measurementID := r.key.measurementID
  sourceIP := r.key.sourceIP
  destinationIP := r.key.destinationIP
  timeStamp := r.key.timeStamp
  roundNumber := r.roundNumber type
  seqNumber := r.position
  line := r.text p

theorem Row.key_entry_iff (a b : Row) :
    (a.entry p type).key = (b.entry p type).key ↔ a.Collides type b := by
  unfold OutputEntry.key
  simp only [EmbeddingLike.apply_eq_iff_eq, Prod.mk.injEq]
  constructor
  · rintro ⟨h1, h2, h3, h4, h5, h6⟩
    exact ⟨h1, h2, h3, h4, h5, h6⟩
  · intro h
    exact ⟨h.timeStamp, h.measurementID, h.sourceIP, h.destinationIP, h.roundNumber, h.position⟩

/-! ## Columns of lines -/

theorem lineColumns_some {n : Nat} {line : Text} {words : List Text}
    (h : lineColumns n line = some words) :
    line = spaced words ∧ words.length = n ∧ (∀ w ∈ words, ' ' ∉ w) ∧ cString line = line := by
  unfold lineColumns at h
  dsimp only at h
  split at h
  · next hline =>
    cases h
    refine ⟨List.intercalate_splitOn ' ' |>.symm, hline.1, ?_, ?_⟩
    · intro w hw
      exact Separated.not_mem_of_mem_splitOn hw
    · unfold cString
      rw [List.takeWhile_eq_self_iff]
      intro c hc
      refine decide_eq_true fun hnull => hline.2 ?_
      rw [← hnull]
      exact hc
  · cases h

theorem applySeparator_spaced {words : List Text} (hne : words ≠ []) (h : ∀ w ∈ words, ' ' ∉ w)
    (separator : Char) :
    applySeparator (spaced words) separator = ([separator].intercalate words, words.length) := by
  unfold applySeparator spaced
  rw [Separated.map_intercalate separator h, Separated.count_intercalate hne h]

theorem takeWhile_spaced {w : Text} {words : List Text} (h : ' ' ∉ w) :
    (spaced (w :: words)).takeWhile (· ≠ ' ') = w ∧
      (spaced (w :: words)).dropWhile (· ≠ ' ') =
        match words with
        | [] => []
        | _ :: _ => ' ' :: spaced words := by
  have hw : ∀ c ∈ w, decide (c ≠ ' ') = true := by
    intro c hc
    refine decide_eq_true fun heq => h ?_
    rw [← heq]
    exact hc
  unfold spaced
  cases words with
  | nil =>
    rw [List.intercalate_singleton]
    exact ⟨List.takeWhile_eq_self_iff.mpr hw, List.dropWhile_eq_nil_iff.mpr hw⟩
  | cons v words =>
    rw [List.intercalate_cons_cons, List.append_assoc]
    constructor
    · rw [List.takeWhile_append_of_pos hw]
      simp
    · rw [List.dropWhile_append_of_pos hw]
      simp

/-- The begins of the columns. -/
theorem firstEntries_spaced {n : Nat} {words : List Text} (hn : n ≤ words.length)
    (h : ∀ w ∈ words, ' ' ∉ w) :
    (firstEntries n (spaced words)).length = n ∧
      ∀ k < n, column (firstEntries n (spaced words)) k = spaced (words.drop k) := by
  induction n generalizing words with
  | zero => exact ⟨rfl, nofun⟩
  | succ n ih =>
    cases words with
    | nil => cases hn
    | cons w words =>
      rw [List.forall_mem_cons] at h
      unfold firstEntries
      rw [(takeWhile_spaced h.1).2]
      cases words with
      | nil =>
        obtain rfl : n = 0 := by simpa using hn
        refine ⟨rfl, fun k hk => ?_⟩
        obtain rfl : k = 0 := by omega
        rfl
      | cons v words =>
        have hn' : n ≤ (v :: words).length := by simpa using hn
        obtain ⟨hlength, hcolumn⟩ := ih hn' h.2
        refine ⟨congrArg Nat.succ hlength, fun k hk => ?_⟩
        cases k with
        | zero => rfl
        | succ k => exact hcolumn k (by omega)

theorem column_eq_getElem {words : List Text} {k : Nat} (hk : k < words.length) :
    column words k = words[k] := by
  unfold column
  rw [List.getD_eq_getElem?_getD, List.getElem?_eq_getElem hk]
  rfl

theorem entry_spaced {value words : List Text} {k : Nat} (hk : k < words.length)
    (h : ∀ w ∈ words, ' ' ∉ w) (hvalue : column value k = spaced (words.drop k)) :
    entry value k = column words k := by
  unfold entry
  rw [hvalue, List.drop_eq_getElem_cons hk, (takeWhile_spaced (h _ (List.getElem_mem hk))).1,
    column_eq_getElem hk]

/-- A number is read up to the end of its column. -/
theorem entryNumber_spaced {value words : List Text} {k base n : Nat} {function bad : String}
    (hb : base ≤ 36) (hk : k < words.length) (h : ∀ w ∈ words, ' ' ∉ w)
    (hvalue : column value k = spaced (words.drop k)) (hn : number base (column words k) = some n) :
    entryNumber value k base function bad = .ok n := by
  have hentry := entry_spaced hk h hvalue
  have hscan : Numeral.scan base (column words k) = .ok (n, (column words k).length) := by
    unfold number at hn
    split at hn
    · cases hn
    · next m index hscan =>
      split at hn
      · next hindex =>
        cases hn
        rw [hscan, hindex]
      · cases hn
  have hsplit : ∃ rest : Text, column value k = column words k ++ rest ∧
      ∀ d ∈ rest.head?, Numeral.isDigitOf 36 d = false := by
    rw [hvalue, column_eq_getElem hk, List.drop_eq_getElem_cons hk]
    cases words.drop (k + 1) with
    | nil => exact ⟨[], by unfold spaced; simp, nofun⟩
    | cons v others =>
      refine ⟨' ' :: spaced (v :: others), ?_, ?_⟩
      · unfold spaced
        rw [List.intercalate_cons_cons]
        simp
      · intro d hd
        cases hd
        decide
  obtain ⟨rest, hcolumn, hrest⟩ := hsplit
  unfold entryNumber
  rw [hentry, hcolumn, Numeral.scan_append hb hrest hscan]
  dsimp only
  rw [if_pos rfl]

/-! ## Entries of rows -/

/-- A line with a `#` and a key. -/
theorem headerEntry_eq {n : Nat} {line : Text} {words : List Text} {key : PrimaryKey}
    (hwords : lineColumns n line = some words) (hn : 6 ≤ n)
    (hkey : primaryKey p type words = some key) :
    6 ≤ (firstEntries 6 (cString line)).length ∧
      headerEntry p type line = .ok {
        measurementID := key.measurementID
        sourceIP := key.sourceIP
        destinationIP := key.destinationIP
        timeStamp := key.timeStamp
        roundNumber := if type = .traceroute then key.sequence else 0
        seqNumber := 0
        line := line } := by
  obtain ⟨hline, hlength, hspace, hcstring⟩ := lineColumns_some hwords
  have hentries := firstEntries_spaced (n := 6) (by omega) hspace
  rw [← hline] at hentries
  obtain ⟨hcount, hcolumn⟩ := hentries
  rw [hcstring]
  refine ⟨by omega, ?_⟩
  have haddress : ∀ k < 6, ∀ a, (p.makeAddress (column words k)).toOption = some a →
      parseAddress p (entry (firstEntries 6 line) k) = .ok a := by
    intro k hk a ha
    rw [entry_spaced (by omega) hspace (hcolumn k hk)]
    unfold parseAddress
    cases hmake : p.makeAddress (column words k) with
    | error what =>
      rw [hmake] at ha
      cases ha
    | ok b =>
      rw [hmake] at ha
      cases ha
      rfl
  have hnumber : ∀ k < 6, ∀ (base m : Nat) (function bad : String), base ≤ 36 →
      number base (column words k) = some m →
      entryNumber (firstEntries 6 line) k base function bad = .ok m := by
    intro k hk base m function bad hb hm
    exact entryNumber_spaced hb (by omega) hspace (hcolumn k hk) hm
  unfold primaryKey at hkey
  simp only [Option.bind_eq_bind, Option.bind_eq_some_iff, Option.pure_def, Option.some.injEq] at hkey
  obtain ⟨protocol, -, measurementID, hmeasurementID, sourceIP, hsourceIP, destinationIP,
    hdestinationIP, timeStamp, htimeStamp, sequence, hsequence, trafficClass, -, rfl⟩ := hkey
  unfold headerEntry
  simp only [hcstring, hnumber 1 (by decide) 10 _ _ _ (by decide) hmeasurementID,
    haddress 2 (by decide) _ hsourceIP, haddress 3 (by decide) _ hdestinationIP,
    hnumber 4 (by decide) 16 _ _ _ (by decide) htimeStamp,
    hnumber 5 (by decide) 10 _ _ _ (by decide) hsequence]
  by_cases htype : type = .traceroute
  · simp only [if_pos htype]
    rfl
  · simp only [if_neg htype]
    rfl

theorem finishRow_spaced {e : OutputEntry} {words : List Text} {columns : Nat}
    (hline : e.line = spaced words) (hspace : ∀ w ∈ words, ' ' ∉ w) (hcolumns : words.length = columns)
    (hpos : 0 < columns) :
    finishRow p columns e = .ok { e with line := [p.separator].intercalate words } := by
  have hne : words ≠ [] := by
    intro hnil
    rw [hnil] at hcolumns
    exact absurd hcolumns.symm (by simpa using Nat.ne_of_gt hpos)
  unfold finishRow
  rw [hline, applySeparator_spaced hne hspace]
  dsimp only
  rw [if_neg (not_not.mpr hcolumns)]

/-- The begin of a line with a key. -/
theorem line_begin {n : Nat} {line : Text} {words : List Text} {key : PrimaryKey}
    (hwords : lineColumns n line = some words) (hkey : primaryKey p type words = some key) :
    ∃ c rest, line = '#' :: type.letter :: c :: rest := by
  obtain ⟨hline, -, -, -⟩ := lineColumns_some hwords
  unfold primaryKey at hkey
  simp only [Option.bind_eq_bind, Option.bind_eq_some_iff] at hkey
  obtain ⟨protocol, hprotocol, -⟩ := hkey
  unfold protocolOf at hprotocol
  split at hprotocol
  · next letter c hword =>
    split at hprotocol
    · next hletter =>
      cases words with
      | nil => cases hword
      | cons w words =>
        obtain rfl : w = ['#', letter, c] := hword
        subst hletter
        cases words with
        | nil => exact ⟨c, [], hline⟩
        | cons v words =>
          refine ⟨c, ' ' :: spaced (v :: words), ?_⟩
          rw [hline]
          unfold spaced
          rw [List.intercalate_cons_cons]
          rfl
    · cases hprotocol
  · cases hprotocol

/-- A line with a `#` of version 2. -/
theorem readLine_begin {line : Text} {c : Char} {rest : Text} {columns : Nat} {v : Variables}
    (htype : type ≠ .unknown) (hversion : v.version = 2)
    (hline : line = '#' :: type.letter :: c :: rest)
    (hcount : 6 ≤ (firstEntries 6 (cString line)).length) {e : OutputEntry}
    (he : headerEntry p type line = .ok e) :
    readLine p type columns v line =
      if type ≠ .traceroute then
        match finishRow p columns e with
        | .error e => .error e
        | .ok row => .ok (⟨2, none, v.oldTimeStamp⟩, some row)
      else .ok (⟨2, some e, v.oldTimeStamp⟩, none) := by
  have hletter : type.letter ≠ '?' := by
    cases type with
    | unknown => exact absurd rfl htype
    | traceroute => decide
    | ping => decide
    | jitter => decide
  have hskipped : isSkipped line = false := by
    unfold isSkipped
    rw [hline]
    refine decide_eq_false ?_
    rintro (hshort | ⟨-, hid⟩)
    · simp only [List.length_cons] at hshort
      omega
    · exact hletter hid
  rw [readLine_header hskipped (by rw [hline]; rfl)]
  unfold readHeader convert
  rw [hversion, if_neg (by decide)]
  dsimp only
  rewrite [if_neg (by omega), he]
  rfl

theorem ping_blockRows {line : Text} {words : List Text} {key : PrimaryKey}
    (hwords : lineColumns 20 line = some words) (hkey : primaryKey p .ping words = some key) :
    blockRows p .ping 2 [line] = some [Row.entry p .ping ⟨key, 0, words⟩] := by
  obtain ⟨hcount, hentry⟩ := headerEntry_eq hwords (by decide) hkey
  obtain ⟨hline, hlength, hspace, -⟩ := lineColumns_some hwords
  obtain ⟨c, rest, hbegin⟩ := line_begin hwords hkey
  have hcolumns : InputType.ping.columns = 20 := by decide +kernel
  unfold blockRows rowsOf
  rw [readLine_begin (by decide) rfl hbegin hcount hentry, if_pos (by decide), hcolumns,
    finishRow_spaced hline hspace hlength (by decide)]
  rfl

/-- The columns of a hop behind those of its header. -/
theorem spaced_hop {header words : List Text} (hheader : header ≠ []) (hwords : words ≠ []) :
    spaced header ++ " ~ ".toList ++ spaced words = spaced (header ++ [['~']] ++ words) := by
  have hmark : header ++ [['~']] ++ words = header ++ (['~'] :: words) := by simp
  unfold spaced
  rw [hmark, Separated.intercalate_append hheader, Separated.marked_eq_intercalate]
  cases words with
  | nil => exact absurd rfl hwords
  | cons w words =>
    rw [List.intercalate_cons_cons, List.intercalate_cons_cons, List.append_assoc]
    rfl

/-- The line of a hop is its columns behind one character or two. -/
theorem hopColumns_some {line : Text} {words : List Text} (h : hopColumns line = some words) :
    line.head? = some '\t' ∧ 2 ≤ line.length ∧ words.length = 12 ∧ (∀ w ∈ words, ' ' ∉ w) ∧
      (if line.getD 1 '\x00' ≠ ' ' then line.drop 1 else line.drop 2) = spaced words := by
  unfold hopColumns at h
  split at h
  · next rest =>
    obtain ⟨hline, hlength, hspace, -⟩ := lineColumns_some h
    refine ⟨rfl, by simp, hlength, hspace, ?_⟩
    show (if ' ' ≠ ' ' then ' ' :: rest else rest) = spaced words
    rw [if_neg (not_not.mpr rfl)]
    exact hline
  · next rest hno =>
    obtain ⟨hline, hlength, hspace, -⟩ := lineColumns_some h
    have hne : rest ≠ [] := by
      intro hnil
      rw [hnil] at h
      cases h
    cases rest with
    | nil => exact absurd rfl hne
    | cons c rest =>
      refine ⟨rfl, by simp, hlength, hspace, ?_⟩
      have hc : c ≠ ' ' := fun heq => hno rest (by rw [heq])
      show (if c ≠ ' ' then c :: rest else rest) = spaced words
      rw [if_pos hc]
      exact hline
  · cases h

/-- The hops behind a header: the entry of the header counts them. -/
theorem hop_rows {key : PrimaryKey} {header : List Text} {k : Nat} {lines : List Text}
    {rows : List Row} {e : OutputEntry} {v : Variables}
    (hheader : header.length = 14 ∧ ∀ w ∈ header, ' ' ∉ w)
    (he : e = { Row.entry p .traceroute ⟨key, k % 2 ^ 32, header⟩ with line := spaced header })
    (hv : v.version = 2 ∧ v.newEntry = some e)
    (h : hopRows key header k lines = some rows) :
    rowsOf p .traceroute 27 v lines = some (rows.map (Row.entry p .traceroute)) := by
  induction lines generalizing k rows e v with
  | nil =>
    cases h
    rfl
  | cons line lines ih =>
    unfold hopRows at h
    simp only [Option.bind_eq_bind, Option.bind_eq_some_iff, Option.pure_def, Option.some.injEq] at h
    obtain ⟨words, hwords, hopNumber, -, others, hothers, rfl⟩ := h
    obtain ⟨hhead, hlength, hcount, hspace, hline⟩ := hopColumns_some hwords
    have hne : header ≠ [] := by
      intro hnil
      rw [hnil] at hheader
      exact absurd hheader.1 (by decide)
    have hne' : words ≠ [] := by
      intro hnil
      rw [hnil] at hcount
      cases hcount
    obtain ⟨hversion, hentry⟩ := hv
    let next : OutputEntry := { e with seqNumber := (e.seqNumber + 1) % 2 ^ 32 }
    have hnext : next =
        { Row.entry p .traceroute ⟨key, (k + 1) % 2 ^ 32, header⟩ with line := spaced header } := by
      show ({ e with seqNumber := (e.seqNumber + 1) % 2 ^ 32 } : OutputEntry) = _
      rw [he]
      show (⟨_, _, _, _, _, (k % 2 ^ 32 + 1) % 2 ^ 32, _⟩ : OutputEntry) =
        ⟨_, _, _, _, _, (k + 1) % 2 ^ 32, _⟩
      rw [Nat.mod_add_mod]
      rfl
    have hrow : finishRow p 27 (hopEntry next line) =
        .ok (Row.entry p .traceroute ⟨{ key with hopNumber := hopNumber }, (k + 1) % 2 ^ 32,
          header ++ [['~']] ++ words⟩) := by
      have hnextline : (hopEntry next line).line = spaced (header ++ [['~']] ++ words) := by
        show next.line ++ " ~ ".toList ++ _ = _
        rw [hline, hnext]
        exact spaced_hop hne hne'
      rw [finishRow_spaced hnextline ?_ ?_ (by decide)]
      · unfold hopEntry
        rw [hnext]
        rfl
      · intro w hw
        simp only [List.mem_append, List.mem_singleton] at hw
        rcases hw with (hw | rfl) | hw
        · exact hheader.2 w hw
        · decide
        · exact hspace w hw
      · rw [List.length_append, List.length_append, hheader.1, hcount]
        rfl
    have hread : readLine p .traceroute 27 v line =
        .ok (⟨2, some next, v.oldTimeStamp⟩, some (Row.entry p .traceroute
          ⟨{ key with hopNumber := hopNumber }, (k + 1) % 2 ^ 32, header ++ [['~']] ++ words⟩)) := by
      unfold readLine
      rw [if_neg (by omega), hhead, if_neg (by decide), if_pos rfl, if_pos rfl]
      unfold readHop convert
      rw [hversion, if_neg (by decide), hentry]
      dsimp only
      rw [hrow]
    unfold rowsOf
    rw [hread]
    dsimp only
    rw [ih hnext ⟨rfl, rfl⟩ hothers]
    rfl

theorem traceroute_blockRows {line : Text} {lines : List Text} {words : List Text}
    {key : PrimaryKey} {rows : List Row} (hwords : lineColumns 14 line = some words)
    (hkey : primaryKey p .traceroute words = some key) (hrows : hopRows key words 0 lines = some rows) :
    blockRows p .traceroute 2 (line :: lines) = some (rows.map (Row.entry p .traceroute)) := by
  obtain ⟨hcount, hentry⟩ := headerEntry_eq hwords (by decide) hkey
  obtain ⟨hline, hlength, hspace, -⟩ := lineColumns_some hwords
  obtain ⟨c, rest, hbegin⟩ := line_begin hwords hkey
  have hcolumns : InputType.traceroute.columns = 27 := by decide +kernel
  unfold blockRows rowsOf
  rw [readLine_begin (by decide) rfl hbegin hcount hentry, if_neg (by decide), hcolumns]
  dsimp only
  rw [hop_rows ⟨hlength, hspace⟩ (by rw [hline]; rfl) ⟨rfl, rfl⟩ hrows]
  rfl

/-- The rows of a block are read as they are. -/
theorem blockRows_records {block : List Text} {rows : List Row}
    (h : blockRecords p type block = some rows) :
    blockRows p type 2 block = some (rows.map (Row.entry p type)) := by
  unfold blockRecords at h
  split at h
  · simp only [Option.bind_eq_bind, Option.bind_eq_some_iff, Option.pure_def, Option.some.injEq] at h
    obtain ⟨words, hwords, key, hkey, rfl⟩ := h
    exact ping_blockRows hwords hkey
  · simp only [Option.bind_eq_bind, Option.bind_eq_some_iff] at h
    obtain ⟨words, hwords, key, hkey, hrows⟩ := h
    exact traceroute_blockRows hwords hkey hrows
  · cases h

namespace WellFormed2
variable {lines : List Text}

theorem fileVersion_eq (h : WellFormed2 p type lines) : fileVersion type lines = 2 := by
  obtain ⟨line, rest, rfl, haccepts⟩ := h.first
  exact haccepts.version_eq

theorem wellFormed (h : WellFormed2 p type lines) : WellFormed p type lines := by
  refine ⟨?_, h.noOrphans, ?_⟩
  · rw [h.fileVersion_eq]
    exact h.first
  · intro block hblock
    obtain ⟨rows, hrows⟩ := Option.isSome_iff_exists.mp (h.accepted block hblock)
    rw [h.fileVersion_eq, blockRows_records hrows]
    rfl

theorem fileRows_eq (h : WellFormed2 p type lines) :
    fileRows p type lines = (fileRecords p type lines).map (Row.entry p type) := by
  unfold fileRows fileBlocks versionedRows fileRecords
  rw [List.flatMap_map, List.map_flatMap]
  refine List.flatMap_congr fun block hblock => ?_
  obtain ⟨rows, hrows⟩ := Option.isSome_iff_exists.mp (h.accepted block hblock)
  rw [h.fileVersion_eq, blockRows_records hrows, hrows]
  rfl

end WellFormed2

/-! ## Merging -/

/-- The rows of all files. -/
def allRecords (p : Setup) (type : InputType) (files : List (List Text)) : List Row :=
  files.flatMap (fileRecords p type)

/-- The program succeeds, and the output has each row once, behind the column names. -/
def KeepsRows (p : Setup) (type : InputType) (files : List (List Text)) (schedule : List Nat) : Prop :=
  ∃ lines, output p true files schedule = some (namesLine p type :: lines) ∧
    lines.Perm ((allRecords p type files).map (Row.text p))

/-- **Merging.**  All rows of well-formed files are kept if, and only if, no two of them agree in what
`operator<` compares. -/
theorem rows_kept_iff {files : List (List Text)} (hne : files ≠ [])
    (h : ∀ lines ∈ files, WellFormed2 p type lines) {schedule : List Nat}
    (hjoined : Joined p true files schedule) :
    KeepsRows p type files schedule ↔
      (allRecords p type files).Pairwise fun a b => ¬ a.Collides type b := by
  have hrows : files.flatMap (fileRows p type) = (allRecords p type files).map (Row.entry p type) := by
    unfold allRecords
    rw [List.map_flatMap]
    exact List.flatMap_congr fun lines hlines => (h lines hlines).fileRows_eq
  have hkeys : ((files.flatMap (fileRows p type)).map OutputEntry.key).Nodup ↔
      (allRecords p type files).Pairwise fun a b => ¬ a.Collides type b := by
    rw [hrows, List.map_map]
    show ((allRecords p type files).map _).Pairwise (· ≠ ·) ↔ _
    rw [List.pairwise_map]
    exact List.Pairwise.iff fun {a b} => not_congr (Row.key_entry_iff a b)
  have houtput := sorted_output hne (fun lines hlines => (h lines hlines).wellFormed) hjoined
  rw [← hkeys]
  constructor
  · rintro ⟨lines, hlines, -⟩
    by_contra hno
    rw [if_neg hno, hlines] at houtput
    cases houtput
  · intro hnodup
    rw [if_pos hnodup] at houtput
    obtain ⟨rows, hperm, -, houtput⟩ := houtput
    refine ⟨_, houtput, ?_⟩
    have hlines := hperm.map OutputEntry.line
    rw [hrows, List.map_map] at hlines
    exact hlines

/-- Rounds of a Traceroute have different round numbers. -/
theorem rounds_kept :
    KeepsRows twoAddresses .traceroute [roundsFile ["1"], roundsFile ["0"]] [1, 0, 1, 0, 1, 0] :=
  (rows_kept_iff (List.cons_ne_nil _ _) (by decide +kernel) (by decide +kernel)).mpr
    (by decide +kernel)

/-- A Ping row with a protocol, a burst sequence and a traffic class. -/
def pingRow (protocol : Char) (burstSeq trafficClass : String) : Text :=
  ['#', 'P', protocol] ++ " 1 10.0.0.1 10.0.0.2 178f2cc6c7ea013a ".toList ++ burstSeq.toList ++ [' '] ++
    trafficClass.toList ++ " 44 44 90e1 0 0 255 00000000 -1 -1 -1 1000 -1 -1".toList

/-- Two rows of the same time, with different protocols, burst sequences and traffic classes. -/
def sameTime : List (List Text) :=
  [["#? HPCT Ping 2 HiPerConTracer".toList, pingRow 'i' "0" "0", pingRow 'u' "1" "4"]]

theorem not_keepsRows {files : List (List Text)} {schedule : List Nat}
    (h : output p true files schedule = none) : ¬ KeepsRows p type files schedule := by
  rintro ⟨lines, hlines, -⟩
  rw [h] at hlines
  cases hlines

/-- Rows that differ are rejected as duplicates. -/
theorem same_time_rejected :
    (∀ lines ∈ sameTime, WellFormed2 twoAddresses .ping lines) ∧
      ((allRecords twoAddresses .ping sameTime).map (·.key)).Nodup ∧
      Joined twoAddresses true sameTime [0, 0, 0] ∧
      ¬ KeepsRows twoAddresses .ping sameTime [0, 0, 0] := by
  have hkeys : (allRecords twoAddresses .ping sameTime).map (·.key) =
      [⟨0x178f2cc6c7ea013a, 1, .v4 0x0a000001, .v4 0x0a000002, 'i', 0, 0, 0⟩,
        ⟨0x178f2cc6c7ea013a, 1, .v4 0x0a000001, .v4 0x0a000002, 'u', 4, 1, 0⟩] := by decide +kernel
  refine ⟨by decide +kernel, ?_, by decide +kernel, not_keepsRows (by decide +kernel)⟩
  rw [hkeys]
  decide

end HiPerConTracer.Merge
