import HiPerConTracer.Results.Readers
import Mathlib.Data.List.TakeWhile

/-!
# Traceroute rows and the lines they come from

The row of a hop should come from its line and from the header line of its block.  The columns are
kept in `tuple[]` from one line to the next, and the minimum of four columns is that of neither kind
of line, so a short line is completed with columns of earlier lines.  For the lines of a file that
are accepted:

    each row comes from its own lines ↔
      each header line has 14 columns, and each hop line 12   (rows_own_lines_iff)

The version is kept in the same way: all header lines behind one of version 1 have to be of
version 1.
-/

namespace HiPerConTracer.Results
open Net

variable {i : Input} {o : Output}

namespace TracerouteReader

/-! ## Own lines -/

/-- A header line of version 1. -/
def IsOld (line : Text) : Prop := line.take 3 = ['#', 'T', ' ']

instance (line : Text) : Decidable (IsOld line) := inferInstanceAs (Decidable (_ = _))

/-- The line of a block as it is parsed, and the time stamp of the block, from its header line. -/
def ownLine (headerLine line : Text) (timeStamp : Nat) : Option (Text × Nat) :=
  if IsOld headerLine then (convertOldTracerouteLine line timeStamp).toOption
  else some (line, timeStamp)

/-- The values of a header, from its line alone. -/
def ownHeader (i : Input) (line : Text) : Option HeaderValues :=
  match ownLine line line 0 with
  | none => none
  | some (converted, _) => (parseHeader i (columnsOf converted)).toOption

/-- The values of a hop, from its line and the header line of its block. -/
def ownHop (i : Input) (headerLine line : Text) : Option HopValues :=
  match ownLine headerLine headerLine 0 with
  | none => none
  | some (_, timeStamp) =>
    match ownLine headerLine line timeStamp with
    | none => none
    | some (converted, _) => (parseHop i (columnsOf converted)).toOption

/-! ## Reading -/

/-- The state of the loop, and the line of the header that it has. -/
structure Reading where
  state : State
  headerLine : Text

def Reading.start (p : Parsed) : Reading := ⟨State.start p, []⟩

/-- `readLine`, with the header line. -/
def read (i : Input) (o : Output) (r : Reading) (line : Text) : Except Failure Reading :=
  (readLine i o r.state line).map fun s =>
    ⟨s, if line.take 2 ≠ ['#', '?'] ∧ isHeader s.tuple then line else r.headerLine⟩

/-- What a line leads to comes from the line and its header line. -/
def Own (i : Input) (o : Output) (r : Reading) (line : Text) : Prop :=
  line.take 2 ≠ ['#', '?'] → ∀ t, read i o r line = .ok t →
    if isHeader t.state.tuple then ownHeader i line = some t.state.header
    else t.state.header = r.state.header ∧
      ∃ v, ownHop i r.headerLine line = some v ∧
        writeHop o r.state.header v r.state.parsed = .ok t.state.parsed

/-- The line as it is parsed has all the columns of its kind, and a header line that is converted is
of version 1. -/
def Complete (r : Reading) (line : Text) : Prop :=
  line.take 2 ≠ ['#', '?'] → ∀ s converted, convert r.state line = .ok (s, converted) →
    if isHeader (columnsOf converted) then
      14 ≤ (columnsOf converted).length ∧ (s.version < 2 → IsOld line)
    else 12 ≤ (columnsOf converted).length

/-- The header of the state comes from its line, which is of the version of the state. -/
structure Owned (i : Input) (r : Reading) : Prop where
  header : ownHeader i r.headerLine = some r.state.header
  version : r.state.version = if IsOld r.headerLine then 1 else 2
  timeStamp : IsOld r.headerLine →
    ∃ line, ownLine r.headerLine r.headerLine 0 = some (line, r.state.oldTimeStamp)

/-- There has not been a header, or the state has its own. -/
def HeaderOwned (i : Input) (r : Reading) : Prop :=
  r.state.header.statusFlags = noStatusFlags ∧ r.state.version = 2 ∨ Owned i r

/-! ## Columns -/

theorem column_assignColumns {columns tuple : List Text} {k : Nat} (hk : k < maxColumns)
    (hlength : k < columns.length) :
    column (assignColumns maxColumns columns tuple) k = column columns k := by
  unfold column assignColumns
  rw [List.getD_eq_getElem?_getD, List.getD_eq_getElem?_getD, List.getElem?_append_left,
    List.getElem?_take_of_lt hk]
  rw [List.length_take]
  omega

theorem parseTiming_congr {a b : List Text} {k : Nat}
    (h : ∀ j < 7, column a (k + j) = column b (k + j)) : parseTiming i a k = parseTiming i b k := by
  unfold parseTiming
  rw [show column a k = column b k from h 0 (by decide), h 1 (by decide), h 2 (by decide),
    h 3 (by decide), h 4 (by decide), h 5 (by decide), h 6 (by decide)]

theorem parseHeader_congr {a b : List Text} (h : ∀ k < 14, column a k = column b k) :
    parseHeader i a = parseHeader i b := by
  unfold parseHeader
  rw [h 0 (by decide), h 1 (by decide), h 2 (by decide), h 3 (by decide), h 4 (by decide),
    h 5 (by decide), h 6 (by decide), h 7 (by decide), h 8 (by decide), h 9 (by decide),
    h 10 (by decide), h 11 (by decide), h 12 (by decide), h 13 (by decide)]

theorem parseHop_congr {a b : List Text} (h : ∀ k < 12, column a k = column b k) :
    parseHop i a = parseHop i b := by
  have ht : parseTiming i a 4 = parseTiming i b 4 :=
    parseTiming_congr fun j hj => h (4 + j) (by omega)
  unfold parseHop
  rw [h 0 (by decide), h 1 (by decide), h 2 (by decide), h 3 (by decide), ht, h 11 (by decide)]

/-! ## Conversion -/

theorem spaced_head {c : Char} {first : Text} {columns : List Text} (h : first.head? = some c) :
    (spaced (first :: columns)).head? = some c := by
  cases first with
  | nil => cases h
  | cons d rest =>
    cases columns with
    | nil => exact h
    | cons next columns => exact h

/-- The first column of a line begins with the line. -/
theorem column_head {line : Text} {c : Char} (h : line.head? = some c) (hc : c ≠ ' ') :
    (column (columnsOf line) 0).head? = some c := by
  cases line with
  | nil => cases h
  | cons d rest =>
    obtain rfl := Option.some.inj h
    unfold columnsOf Separated.words
    rw [List.splitOn_cons_eq_if_modifyHead, if_neg (by simpa using hc)]
    cases hsplit : rest.splitOn ' ' with
    | nil => exact absurd hsplit (List.splitOn_ne_nil _ _)
    | cons w ws => rfl

theorem entry_head {value : List Text} {c : Char} (h : (column value 0).head? = some c)
    (hc : c ≠ ' ') : (entry value 0).head? = some c := by
  unfold entry
  cases hv : column value 0 with
  | nil =>
    rw [hv] at h
    cases h
  | cons d rest =>
    rw [hv] at h
    obtain rfl := Option.some.inj h
    rw [List.takeWhile_cons_of_pos (by simpa using hc)]
    rfl

/-- A converted header line. -/
theorem column_oldHeaderColumns {value : List Text} (hhead : (column value 0).head? = some '#')
    (timeStamp : Nat) :
    (column (columnsOf (spaced (oldHeaderColumns value timeStamp))) 0).head? = some '#' := by
  refine column_head (spaced_head ?_) (by decide)
  rw [List.head?_append, entry_head hhead (by decide)]
  rfl

/-- A converted hop line. -/
theorem column_oldHopColumns (value : List Text) (timeStamp status rtt : Nat) :
    (column (columnsOf (spaced (oldHopColumns value timeStamp status rtt))) 0).head? =
      some '\t' :=
  column_head (spaced_head rfl) (by decide)

/-! ## Parsing -/

/-- An address has dots or colons. -/
def AddressNotation (i : Input) : Prop :=
  ∀ value a, i.makeAddress value = .ok a → '.' ∈ value ∨ ':' ∈ value

theorem parseAddress_notation (hi : AddressNotation i) {value : Text} {a : Address}
    (h : parseAddress i value = .ok a) : ∃ c ∈ value, Numeral.isScanned c = false := by
  unfold parseAddress at h
  split at h
  · next hvalue =>
    rcases hi value _ hvalue with hin | hin
    · exact ⟨'.', hin, by decide⟩
    · exact ⟨':', hin, by decide⟩
  · cases h

theorem parseNumber_scanned {what function : String} {base n : Nat} {value : Text}
    (hb : base ≤ 36) (h : parseNumber i what function base value = .ok n) :
    value ≠ [] ∧ ∀ c ∈ value, Numeral.isScanned c = true := by
  unfold parseNumber at h
  split at h
  · cases h
  · next number index hscan =>
    split at h
    · next hindex =>
      refine ⟨fun hnil => ?_, ?_⟩
      · rw [hnil] at hscan
        cases hscan
      · have hall := Numeral.scan_scanned hb hscan
        rw [hindex, List.take_length] at hall
        exact hall
    · cases h

theorem column_of_le {columns : List Text} {k : Nat} (h : columns.length ≤ k) :
    column columns k = [] := by
  unfold column
  rw [List.getD_eq_getElem?_getD, List.getElem?_eq_none h]
  rfl

theorem parseHeader_length {columns : List Text} {v : HeaderValues}
    (h : parseHeader i columns = .ok v) : 14 ≤ columns.length := by
  unfold parseHeader at h
  iterate 12 obtain ⟨_, -, h⟩ := Run.bind_ok h
  obtain ⟨_, hlast, -⟩ := Run.bind_ok h
  obtain ⟨pathHash, hpathHash, -⟩ := Run.map_ok hlast
  by_contra hlength
  exact (parseNumber_scanned (by decide) hpathHash).1 (column_of_le (by omega))

theorem parseHop_length (hi : AddressNotation i) {columns : List Text} {v : HopValues}
    (h : parseHop i columns = .ok v) : 12 ≤ columns.length := by
  unfold parseHop at h
  iterate 5 obtain ⟨_, -, h⟩ := Run.bind_ok h
  obtain ⟨hopIP, hhopIP, -⟩ := Run.bind_ok h
  obtain ⟨c, hc, -⟩ := parseAddress_notation hi hhopIP
  by_contra hlength
  rw [column_of_le (by omega)] at hc
  cases hc

/-- What is parsed as a number in one case is no address in the other. -/
theorem parseHeader_columns (hi : AddressNotation i) {columns : List Text} {v : HeaderValues}
    (h : parseHeader i columns = .ok v) :
    (∀ c ∈ column columns 1, Numeral.isScanned c = true) ∧
      ∀ k, k = 2 ∨ k = 3 → ∃ c ∈ column columns k, Numeral.isScanned c = false := by
  unfold parseHeader at h
  obtain ⟨_, hid, h⟩ := Run.bind_ok h
  obtain ⟨_, hsource, h⟩ := Run.bind_ok h
  obtain ⟨_, hdestination, -⟩ := Run.bind_ok h
  obtain ⟨number, hnumber, -⟩ := Run.map_ok hid
  refine ⟨(parseNumber_scanned (by decide) hnumber).2, ?_⟩
  rintro k (rfl | rfl)
  · exact parseAddress_notation hi hsource
  · exact parseAddress_notation hi hdestination

/-! ## One line -/

theorem isHeader_assignColumns {columns tuple : List Text} (h : 0 < columns.length) :
    isHeader (assignColumns maxColumns columns tuple) = isHeader columns := by
  unfold isHeader
  rw [column_assignColumns (by decide) h]

theorem isHop_assignColumns {columns tuple : List Text} (h : 0 < columns.length) :
    isHop (assignColumns maxColumns columns tuple) = isHop columns := by
  unfold isHop
  rw [column_assignColumns (by decide) h]

/-- What a line that is read has done. -/
structure LineRead (i : Input) (o : Output) (s : State) (line : Text) (t : State)
    (s' : State) (converted : Text) : Prop where
  convert : convert s line = .ok (s', converted)
  enough : 4 ≤ (columnsOf converted).length
  columns : readColumns i o
    { s' with tuple := assignColumns maxColumns (columnsOf converted) s'.tuple } = .ok t

theorem readLine_ok {s t : State} {line : Text} (hline : line.take 2 ≠ ['#', '?'])
    (h : readLine i o s line = .ok t) : ∃ s' converted, LineRead i o s line t s' converted := by
  unfold readLine at h
  rw [if_neg hline] at h
  obtain ⟨u, hu, hcolumns⟩ := Run.bind_ok h
  unfold readTuple at hu
  obtain ⟨⟨s', converted⟩, hconvert, hu⟩ := Run.bind_ok hu
  simp only at hu
  split at hu
  · cases hu
  · next henough =>
    cases hu
    exact ⟨s', converted, hconvert, Nat.not_lt.mp henough, hcolumns⟩

theorem readColumns_header {s t : State} (hheader : isHeader s.tuple = true)
    (h : readColumns i o s = .ok t) :
    parseHeader i s.tuple = .ok t.header ∧ t.tuple = s.tuple ∧ t.version = s.version ∧
      t.oldTimeStamp = s.oldTimeStamp := by
  unfold readColumns at h
  rw [if_pos hheader] at h
  obtain ⟨_, -, h⟩ := Run.bind_ok h
  obtain ⟨header, hparse, h⟩ := Run.bind_ok h
  obtain ⟨_, -, h⟩ := Run.bind_ok h
  cases h
  exact ⟨hparse, rfl, rfl, rfl⟩

theorem readColumns_hop {s t : State} (hheader : isHeader s.tuple = false)
    (h : readColumns i o s = .ok t) :
    isHop s.tuple = true ∧ s.header.statusFlags ≠ noStatusFlags ∧
      (∃ v, parseHop i s.tuple = .ok v ∧ writeHop o s.header v s.parsed = .ok t.parsed) ∧
      t.header = s.header ∧ t.tuple = s.tuple ∧ t.version = s.version ∧
      t.oldTimeStamp = s.oldTimeStamp := by
  unfold readColumns at h
  rw [if_neg (by rw [hheader]; decide)] at h
  split at h
  · next hhop =>
    split at h
    · cases h
    · next hflags =>
      obtain ⟨v, hparse, h⟩ := Run.bind_ok h
      obtain ⟨parsed, hwrite, h⟩ := Run.bind_ok h
      cases h
      exact ⟨hhop, hflags, ⟨v, hparse, hwrite⟩, rfl, rfl, rfl, rfl⟩
  · cases h

theorem convert_ok {s s' : State} {line converted : Text}
    (h : convert s line = .ok (s', converted)) :
    s'.header = s.header ∧ s'.parsed = s.parsed ∧
      s'.version = (if IsOld line then 1 else s.version) ∧
      (s'.version < 2 →
        convertOldTracerouteLine line s.oldTimeStamp = .ok (converted, s'.oldTimeStamp)) ∧
      (¬ s'.version < 2 → converted = line ∧ s'.oldTimeStamp = s.oldTimeStamp) := by
  unfold convert at h
  by_cases hold : IsOld line
  · rw [if_pos hold]
    simp only [if_pos (show line.take 3 = ['#', 'T', ' '] from hold)] at h
    rw [if_pos (show 1 < 2 by decide)] at h
    obtain ⟨⟨out, timeStamp⟩, hconvert, h⟩ := Run.bind_ok h
    cases h
    exact ⟨rfl, rfl, rfl, fun _ => hconvert, fun hno => absurd (show 1 < 2 by decide) hno⟩
  · rw [if_neg hold]
    simp only [if_neg (show ¬ line.take 3 = ['#', 'T', ' '] from hold)] at h
    by_cases hversion : s.version < 2
    · rw [if_pos hversion] at h
      obtain ⟨⟨out, timeStamp⟩, hconvert, h⟩ := Run.bind_ok h
      cases h
      exact ⟨rfl, rfl, rfl, fun _ => hconvert, fun hno => absurd hversion hno⟩
    · rw [if_neg hversion] at h
      cases h
      exact ⟨rfl, rfl, rfl, fun hyes => absurd hyes hversion, fun _ => ⟨rfl, rfl⟩⟩

/-! ## Entries -/

theorem obtainEntries_next {k n : Nat} {s : Text} {es : List Text}
    (h : obtainEntries k s = .ok es) (hn : n + 1 < es.length) :
    column es n = entry es n ++ ' ' :: column es (n + 1) := by
  induction k generalizing s n es with
  | zero => cases h
  | succ k ih =>
    unfold obtainEntries at h
    split at h
    · cases h
      simp only [List.length_cons, List.length_nil] at hn
      omega
    · next c rest hdrop =>
      obtain ⟨es', hes', rfl⟩ := Run.map_ok h
      cases n with
      | zero =>
        have hspace : c = ' ' := by
          have hhead := List.head?_dropWhile_not (· ≠ ' ') s
          rw [hdrop] at hhead
          simpa using hhead
        show s = s.takeWhile (· ≠ ' ') ++ ' ' :: column es' 0
        rw [hspace] at hdrop
        rw [obtainEntries_head hes', ← hdrop]
        exact List.takeWhile_append_dropWhile.symm
      | succ n =>
        rw [List.length_cons] at hn
        show column es' n = entry es' n ++ ' ' :: column es' (n + 1)
        exact ih hes' (by omega)

theorem not_mem_entry (value : List Text) (k : Nat) : ' ' ∉ entry value k := by
  intro hin
  have hno := List.mem_takeWhile_imp hin
  simp at hno

/-- The second column of a line with entries. -/
theorem column_one {line : Text} {value : List Text}
    (h : obtainEntries 11 (cString line) = .ok value) (hlength : 2 < value.length)
    (h0 : entry value 0 ≠ []) (h1 : entry value 1 ≠ []) :
    column (columnsOf line) 1 = entry value 1 := by
  have hline : line = entry value 0 ++ ' ' :: (entry value 1 ++ ' ' ::
      (column value 2 ++ line.dropWhile (· ≠ '\x00'))) := by
    calc line = cString line ++ line.dropWhile (· ≠ '\x00') :=
          List.takeWhile_append_dropWhile.symm
      _ = _ := by
          rw [← obtainEntries_head h, obtainEntries_next h (by omega),
            obtainEntries_next h (by omega)]
          simp only [List.append_assoc, List.cons_append]
  unfold columnsOf
  rw [hline, Separated.words_cons (not_mem_entry value 0) h0,
    Separated.words_cons (not_mem_entry value 1) h1]
  rfl

theorem not_mem_oldHeaderColumns (value : List Text) (timeStamp : Nat) :
    ∀ w ∈ oldHeaderColumns value timeStamp, ' ' ∉ w := by
  have hentry := not_mem_entry value
  have htext : ' ' ∉ Numeral.text 16 timeStamp := Numeral.space_not_mem_text (by decide) (by decide) timeStamp
  simp only [oldHeaderColumns, List.forall_mem_cons]
  refine ⟨?_, by decide, hentry 1, hentry 2, htext, hentry 4, hentry 6, ?_, ?_, hentry 5, by decide,
    by decide, hentry 7, hentry 8, by simp⟩
  · rw [List.mem_append, not_or]
    exact ⟨hentry 0, by decide⟩
  · split
    · exact hentry 9
    · decide
  · split
    · exact hentry 10
    · decide

theorem isHeader_head {columns : List Text} (h : isHeader columns = true) :
    (column columns 0).head? = some '#' := by
  have htake := (of_decide_eq_true h).2
  cases hcolumn : column columns 0 with
  | nil =>
    rw [hcolumn] at htake
    cases htake
  | cons c rest =>
    rw [hcolumn, List.take_succ_cons] at htake
    rw [(List.cons.inj htake).1]
    rfl

/-- The columns that become addresses: the fifth one if there are empty ones in front of it. -/
theorem column_filter {a b c d e : Text} (rest : List Text) (ha : a ≠ []) (hb : b ≠ [])
    (he : e ≠ []) :
    (∃ k, (k = 2 ∨ k = 3) ∧ column ((a :: b :: c :: d :: e :: rest).filter (· ≠ [])) k = e) ∨
      c ≠ [] ∧ column ((a :: b :: c :: d :: e :: rest).filter (· ≠ [])) 2 = c := by
  have htwo : ∀ w : List Text, (a :: b :: w).filter (· ≠ []) = a :: b :: w.filter (· ≠ []) := by
    intro w
    rw [List.filter_cons, if_pos (decide_eq_true ha), List.filter_cons,
      if_pos (decide_eq_true hb)]
  have hfive : (e :: rest).filter (· ≠ []) = e :: rest.filter (· ≠ []) := by
    rw [List.filter_cons, if_pos (decide_eq_true he)]
  rw [htwo]
  by_cases hc : c = []
  · left
    by_cases hd : d = []
    · refine ⟨2, Or.inl rfl, ?_⟩
      rw [hc, hd, List.filter_cons, if_neg (by decide), List.filter_cons, if_neg (by decide), hfive]
      rfl
    · refine ⟨3, Or.inr rfl, ?_⟩
      rw [hc, List.filter_cons, if_neg (by decide), List.filter_cons,
        if_pos (decide_eq_true hd), hfive]
      rfl
  · right
    refine ⟨hc, ?_⟩
    rw [List.filter_cons, if_pos (decide_eq_true hc)]
    rfl

/-- A header line that is not of version 1 has other values when it is converted: what becomes an
address is a number in the line. -/
theorem converted_not_own (hi : AddressNotation i) {line converted : Text} {timeStamp : Nat}
    {timeStamp' : Nat} {tuple : List Text} {v w : HeaderValues}
    (hconvert : convertOldTracerouteLine line timeStamp = .ok (converted, timeStamp'))
    (hheader : isHeader (columnsOf converted) = true)
    (hfour : 4 ≤ (columnsOf converted).length)
    (hparse : parseHeader i (assignColumns maxColumns (columnsOf converted) tuple) = .ok v)
    (hown : parseHeader i (columnsOf line) = .ok w) : False := by
  obtain ⟨value, hvalue, hkind⟩ := convertOldTracerouteLine_ok hconvert
  rcases hkind with ⟨hhead, hnine, rfl, -⟩ | ⟨-, -, status, rtt, rfl⟩
  · have h0 : entry value 0 ≠ [] := by
      intro hnil
      have hsome := entry_head hhead (by decide)
      rw [hnil] at hsome
      cases hsome
    have hcolumn : ∀ k, k = 2 ∨ k = 3 →
        ∃ c ∈ column (columnsOf (spaced (oldHeaderColumns value timeStamp'))) k,
          Numeral.isScanned c = false := by
      intro k hk
      have hin := (parseHeader_columns hi hparse).2 k hk
      rwa [column_assignColumns (by rcases hk with rfl | rfl <;> decide)
        (by rcases hk with rfl | rfl <;> omega)] at hin
    have hwords : columnsOf (spaced (oldHeaderColumns value timeStamp')) =
        (oldHeaderColumns value timeStamp').filter (· ≠ []) :=
      Separated.words_intercalate_filter (not_mem_oldHeaderColumns value timeStamp')
    have htime : ∀ c ∈ Numeral.text 16 timeStamp', Numeral.isScanned c = true := by
      intro c hc
      have hdigit := Numeral.isDigitOf_text (by decide) (by decide) timeStamp' c hc
      unfold Numeral.isScanned
      rw [Numeral.isDigitOf_mono (by decide) hdigit, Bool.or_true]
    have hfirst : entry value 0 ++ ['i'] ≠ [] := List.append_ne_nil_of_left_ne_nil h0 _
    rw [hwords] at hcolumn
    rcases column_filter (a := entry value 0 ++ ['i']) (b := ['0']) (c := entry value 1)
      (d := entry value 2) (e := Numeral.text 16 timeStamp')
      ((oldHeaderColumns value timeStamp').drop 5) hfirst (by decide)
      (Numeral.text_ne_nil timeStamp') with ⟨k, hk, htext⟩ | ⟨h1, hentry⟩
    · obtain ⟨c, hc, hno⟩ := hcolumn k hk
      have hin : c ∈ Numeral.text 16 timeStamp' := htext ▸ hc
      rw [htime c hin] at hno
      cases hno
    · obtain ⟨c, hc, hno⟩ := hcolumn 2 (Or.inl rfl)
      have hin : c ∈ entry value 1 := hentry ▸ hc
      have hscanned := (parseHeader_columns hi hown).1
      rw [column_one hvalue (by omega) h0 h1] at hscanned
      rw [hscanned c hin] at hno
      cases hno
  · have htab := column_oldHopColumns value timeStamp status rtt
    rw [isHeader_head hheader] at htab
    cases htab

/-! ## Headers -/

theorem parseHeader_assignColumns {columns tuple : List Text} (h : 14 ≤ columns.length) :
    parseHeader i (assignColumns maxColumns columns tuple) = parseHeader i columns :=
  parseHeader_congr fun k hk =>
    column_assignColumns (show k < maxColumns from hk) (by omega)

theorem parseHop_assignColumns {columns tuple : List Text} (h : 12 ≤ columns.length) :
    parseHop i (assignColumns maxColumns columns tuple) = parseHop i columns :=
  parseHop_congr fun k hk =>
    column_assignColumns (show k < maxColumns from by unfold maxColumns; omega) (by omega)

theorem ownLine_old {headerLine line converted : Text} {timeStamp timeStamp' : Nat}
    (hold : IsOld headerLine)
    (h : convertOldTracerouteLine line timeStamp = .ok (converted, timeStamp')) :
    ownLine headerLine line timeStamp = some (converted, timeStamp') := by
  unfold ownLine
  rw [if_pos hold, h]
  rfl

theorem ownLine_new {headerLine : Text} (hold : ¬ IsOld headerLine) (line : Text)
    (timeStamp : Nat) : ownLine headerLine line timeStamp = some (line, timeStamp) := by
  unfold ownLine
  rw [if_neg hold]

/-- A header line that is converted sets the time stamp, whatever it has been. -/
theorem convert_header {line converted : Text} {timeStamp timeStamp' : Nat}
    (h : convertOldTracerouteLine line timeStamp = .ok (converted, timeStamp'))
    (hheader : isHeader (columnsOf converted) = true) (time : Nat) :
    convertOldTracerouteLine line time = .ok (converted, timeStamp') := by
  obtain ⟨value, -, hkind⟩ := convertOldTracerouteLine_ok h
  rcases hkind with ⟨-, -, -, hconvert⟩ | ⟨-, -, status, rtt, rfl⟩
  · exact hconvert time
  · have htab := column_oldHopColumns value timeStamp status rtt
    rw [isHeader_head hheader] at htab
    cases htab

/-- A hop line that is converted keeps the time stamp. -/
theorem convert_hop {line converted : Text} {timeStamp timeStamp' : Nat}
    (h : convertOldTracerouteLine line timeStamp = .ok (converted, timeStamp'))
    (hhop : isHop (columnsOf converted) = true) : timeStamp' = timeStamp ∧ ¬ IsOld line := by
  have hcolumn : (column (columnsOf converted) 0).head? = some '\t' := of_decide_eq_true hhop
  obtain ⟨value, hvalue, hkind⟩ := convertOldTracerouteLine_ok h
  rcases hkind with ⟨hhead, -, rfl, -⟩ | ⟨hhead, rfl, -⟩
  · rw [column_oldHeaderColumns hhead] at hcolumn
    cases hcolumn
  · refine ⟨rfl, fun hold => ?_⟩
    have htab := line_head hvalue hhead
    cases line with
    | nil => cases htab
    | cons c rest =>
      obtain rfl := Option.some.inj htab
      cases (List.cons.inj hold).1

/-- A line that is a header of version 1 is converted to a header line. -/
theorem not_isHop_of_isOld {s s' : State} {line converted : Text} (hold : IsOld line)
    (h : convert s line = .ok (s', converted)) : isHop (columnsOf converted) = false := by
  obtain ⟨-, -, hversion, hconvert, -⟩ := convert_ok h
  rw [if_pos hold] at hversion
  cases hhop : isHop (columnsOf converted) with
  | false => rfl
  | true => exact absurd hold (convert_hop (hconvert (by omega)) hhop).2

/-! ## Steps -/

theorem eq_ok_of_toOption {ε α : Type} {x : Except ε α} {a : α} (h : x.toOption = some a) :
    x = .ok a := by
  cases x with
  | error e => cases h
  | ok b => exact congrArg Except.ok (Option.some.inj h)

theorem parseHeader_own {columns tuple : List Text} {v : HeaderValues}
    (h : parseHeader i (assignColumns maxColumns columns tuple) = .ok v) :
    (parseHeader i columns).toOption = some v ↔ 14 ≤ columns.length := by
  constructor
  · intro hown
    exact parseHeader_length (eq_ok_of_toOption hown)
  · intro hlength
    rw [parseHeader_assignColumns hlength] at h
    rw [h]
    rfl

theorem parseHop_own (hi : AddressNotation i) {columns tuple : List Text} {v : HopValues}
    (h : parseHop i (assignColumns maxColumns columns tuple) = .ok v) :
    (∃ w, (parseHop i columns).toOption = some w) ↔ 12 ≤ columns.length := by
  constructor
  · rintro ⟨w, hown⟩
    exact parseHop_length hi (eq_ok_of_toOption hown)
  · intro hlength
    rw [parseHop_assignColumns hlength] at h
    rw [h]
    exact ⟨v, rfl⟩

/-- **Header lines.**  A header has its own values if and only if its line is complete, and then it
is that of the state. -/
theorem header_own (hi : AddressNotation i) {s s' t : State} {line converted : Text}
    (hversions : s.version = 1 ∨ s.version = 2) (hread : LineRead i o s line t s' converted)
    (hheader : isHeader (columnsOf converted) = true) :
    (ownHeader i line = some t.header ↔
        14 ≤ (columnsOf converted).length ∧ (s'.version < 2 → IsOld line)) ∧
      (ownHeader i line = some t.header → Owned i ⟨t, line⟩) := by
  have hfour := hread.enough
  obtain ⟨-, -, hversion, hold, hnew⟩ := convert_ok hread.convert
  obtain ⟨hparse, -, htversion, httime⟩ :=
    readColumns_header (by rwa [isHeader_assignColumns (by omega)]) hread.columns
  have howned : ownHeader i line = some t.header → t.version = (if IsOld line then 1 else 2) →
      (IsOld line → ∃ l, ownLine line line 0 = some (l, t.oldTimeStamp)) → Owned i ⟨t, line⟩ :=
    fun h1 h2 h3 => ⟨h1, h2, h3⟩
  by_cases hline : IsOld line
  · rw [if_pos hline] at hversion
    have hconvert := ownLine_old hline (convert_header (hold (by omega)) hheader 0)
    have hown : ownHeader i line = (parseHeader i (columnsOf converted)).toOption := by
      unfold ownHeader
      rw [hconvert]
    refine ⟨?_, fun h => howned h ?_ fun _ => ⟨converted, ?_⟩⟩
    · rw [hown, parseHeader_own hparse]
      exact ⟨fun h => ⟨h, fun _ => hline⟩, fun h => h.1⟩
    · rw [if_pos hline, htversion, hversion]
    · rw [httime]
      exact hconvert
  · rw [if_neg hline] at hversion
    have hown : ownHeader i line = (parseHeader i (columnsOf line)).toOption := by
      unfold ownHeader
      rw [ownLine_new hline]
    by_cases htwo : s'.version < 2
    · have hno : ownHeader i line ≠ some t.header := by
        intro h
        rw [hown] at h
        exact converted_not_own hi (hold htwo) hheader hfour hparse (eq_ok_of_toOption h)
      exact ⟨⟨fun h => absurd h hno, fun h => absurd (h.2 htwo) hline⟩, fun h => absurd h hno⟩
    · obtain ⟨rfl, -⟩ := hnew htwo
      refine ⟨?_, fun h => howned h ?_ fun h => absurd h hline⟩
      · rw [hown, parseHeader_own hparse]
        exact ⟨fun h => ⟨h, fun h => absurd h htwo⟩, fun h => h.1⟩
      · rw [if_neg hline, htversion, hversion]
        omega

/-- **Hop lines.**  A hop has its own values if and only if its line is complete. -/
theorem hop_own (hi : AddressNotation i) {r : Reading} {line converted : Text} {s' t : State}
    (hr : Owned i r) (hread : LineRead i o r.state line t s' converted)
    (hheader : isHeader (columnsOf converted) = false) :
    (t.header = r.state.header ∧
        (∃ v, ownHop i r.headerLine line = some v ∧
          writeHop o r.state.header v r.state.parsed = .ok t.parsed) ↔
      12 ≤ (columnsOf converted).length) ∧ Owned i ⟨t, r.headerLine⟩ := by
  have hfour := hread.enough
  obtain ⟨hheader', hparsed, hversion, hold, hnew⟩ := convert_ok hread.convert
  obtain ⟨hhop, -, ⟨v, hparse, hwrite⟩, htheader, -, htversion, httime⟩ :=
    readColumns_hop (by rwa [isHeader_assignColumns (by omega)]) hread.columns
  rw [isHop_assignColumns (by omega)] at hhop
  have hline : ¬ IsOld line := by
    intro hyes
    rw [not_isHop_of_isOld hyes hread.convert] at hhop
    cases hhop
  rw [if_neg hline] at hversion
  simp only at hparse hwrite htheader htversion httime
  rw [hheader'] at hwrite htheader
  rw [hparsed] at hwrite
  have htime : s'.oldTimeStamp = r.state.oldTimeStamp := by
    by_cases htwo : s'.version < 2
    · exact (convert_hop (hold htwo) hhop).1
    · exact (hnew htwo).2
  have hown : ownHop i r.headerLine line = (parseHop i (columnsOf converted)).toOption := by
    have hrversion := hr.version
    by_cases hheaderLine : IsOld r.headerLine
    · rw [if_pos hheaderLine] at hrversion
      obtain ⟨l, hl⟩ := hr.timeStamp hheaderLine
      unfold ownHop
      simp only [hl, ownLine_old hheaderLine (hold (by omega))]
    · rw [if_neg hheaderLine] at hrversion
      obtain ⟨rfl, -⟩ := hnew (by omega)
      unfold ownHop
      simp only [ownLine_new hheaderLine]
  refine ⟨?_, ?_, ?_, ?_⟩
  · rw [hown, ← parseHop_own hi hparse]
    constructor
    · rintro ⟨-, w, hw, -⟩
      exact ⟨w, hw⟩
    · rintro ⟨w, hw⟩
      refine ⟨htheader, w, hw, ?_⟩
      have hlength := parseHop_length hi (eq_ok_of_toOption hw)
      rw [parseHop_assignColumns hlength, eq_ok_of_toOption hw] at hparse
      rw [Except.ok.inj hparse]
      exact hwrite
  · rw [htheader]
    exact hr.header
  · rw [htversion, hversion]
    exact hr.version
  · rw [httime, htime]
    exact hr.timeStamp

/-- **Step.**  What a line leads to is its own if and only if it is complete. -/
theorem read_own (hi : AddressNotation i) {r t : Reading} {line : Text} (hr : HeaderOwned i r)
    (h : read i o r line = .ok t) :
    (Own i o r line ↔ Complete r line) ∧ (Own i o r line → HeaderOwned i t) := by
  obtain ⟨s, hs, ht⟩ := Run.map_ok h
  by_cases hline : line.take 2 = ['#', '?']
  · have hsame : t = r := by
      unfold readLine at hs
      rw [if_pos hline] at hs
      cases hs
      rw [← ht, if_neg (fun hyes => hyes.1 hline)]
    rw [hsame]
    exact ⟨⟨fun _ hno => absurd hline hno, fun _ hno => absurd hline hno⟩, fun _ => hr⟩
  · obtain ⟨s', converted, hread⟩ := readLine_ok hline hs
    have hfour := hread.enough
    have hversions : r.state.version = 1 ∨ r.state.version = 2 := by
      rcases hr with hr | hr
      · exact Or.inr hr.2
      · have hversion := hr.version
        split at hversion
        · exact Or.inl hversion
        · exact Or.inr hversion
    have hown : Own i o r line ↔
        if isHeader s.tuple then ownHeader i line = some s.header
        else s.header = r.state.header ∧ ∃ v, ownHop i r.headerLine line = some v ∧
          writeHop o r.state.header v r.state.parsed = .ok s.parsed := by
      constructor
      · intro hown
        have h' := hown hline t h
        rwa [← ht] at h'
      · intro hown _ t' ht'
        obtain rfl := Except.ok.inj (h.symm.trans ht')
        rwa [← ht]
    have hcomplete : Complete r line ↔
        if isHeader (columnsOf converted) then
          14 ≤ (columnsOf converted).length ∧ (s'.version < 2 → IsOld line)
        else 12 ≤ (columnsOf converted).length := by
      constructor
      · intro hcomplete
        exact hcomplete hline s' converted hread.convert
      · intro hcomplete _ u out hu
        obtain ⟨rfl, rfl⟩ := Prod.mk.inj (Except.ok.inj (hread.convert.symm.trans hu))
        exact hcomplete
    rw [hown, hcomplete]
    cases hheader : isHeader (columnsOf converted) with
    | true =>
      obtain ⟨-, htuple, -, -⟩ :=
        readColumns_header (by rwa [isHeader_assignColumns (by omega)]) hread.columns
      have hs' : isHeader s.tuple = true := by
        rwa [htuple, isHeader_assignColumns (by omega)]
      obtain ⟨hiff, howned⟩ := header_own hi hversions hread hheader
      rw [if_pos hs', if_pos rfl]
      refine ⟨hiff, fun h => Or.inr ?_⟩
      rw [← ht, if_pos ⟨hline, hs'⟩]
      exact howned h
    | false =>
      obtain ⟨-, hflags, -, -, htuple, -, -⟩ :=
        readColumns_hop (by rwa [isHeader_assignColumns (by omega)]) hread.columns
      have hs' : isHeader s.tuple = false := by
        rwa [htuple, isHeader_assignColumns (by omega)]
      -- without a header, the hop is rejected
      have hr' : Owned i r := by
        rcases hr with hr | hr
        · simp only [(convert_ok hread.convert).1] at hflags
          exact absurd hr.1 hflags
        · exact hr
      obtain ⟨hiff, howned⟩ := hop_own hi hr' hread hheader
      rw [if_neg (by rw [hs']; decide), if_neg (by decide)]
      refine ⟨hiff, fun _ => Or.inr ?_⟩
      rw [← ht, if_neg (fun hyes => by rw [hs'] at hyes; cases hyes.2)]
      exact howned

/-- **Own lines.**  For the lines of a file that are accepted, each row comes from its line and the
header line of its block if and only if every header line has 14 columns, every hop line has 12, and
all header lines behind one of version 1 are of version 1. -/
theorem rows_own_lines_iff (hi : AddressNotation i) {p : Parsed} {lines : List Text} {t : State}
    (h : Run.exec (readLine i o) (State.start p) lines = .ok t) :
    Run.Meets (read i o) (Own i o) (Reading.start p) lines ↔
      Run.Meets (read i o) Complete (Reading.start p) lines := by
  have hmap : (Run.exec (read i o) (Reading.start p) lines).map (·.state) =
      Run.exec (readLine i o) (State.start p) lines := by
    refine Run.exec_map (fun r line => ?_) (Reading.start p) lines
    unfold read
    cases readLine i o r.state line with
    | error e => rfl
    | ok s => rfl
  rw [h] at hmap
  obtain ⟨u, hu, -⟩ := Run.map_ok hmap
  exact Run.meets_congr (fun r line t hr ht => read_own hi hr ht) (Or.inl ⟨rfl, rfl⟩) hu

/-! ## Files of version 2 -/

/-- A line of version 2 with all the columns of its kind. -/
def IsFull (line : Text) : Prop :=
  ¬ IsOld line ∧
    (if isHeader (columnsOf line) then 14 else 12) ≤ (columnsOf line).length

instance (line : Text) : Decidable (IsFull line) :=
  inferInstanceAs (Decidable (¬ IsOld line ∧
    (if isHeader (columnsOf line) then 14 else 12) ≤ (columnsOf line).length))

theorem readLine_version {s t : State} {line : Text} (hline : ¬ IsOld line)
    (h : readLine i o s line = .ok t) : t.version = s.version := by
  by_cases hcomment : line.take 2 = ['#', '?']
  · unfold readLine at h
    rw [if_pos hcomment] at h
    cases h
    rfl
  · obtain ⟨s', converted, hread⟩ := readLine_ok hcomment h
    obtain ⟨-, -, hversion, -, -⟩ := convert_ok hread.convert
    rw [if_neg hline] at hversion
    rw [← hversion]
    cases hheader : isHeader (assignColumns maxColumns (columnsOf converted) s'.tuple) with
    | true =>
      obtain ⟨-, -, htversion, -⟩ := readColumns_header hheader hread.columns
      exact htversion
    | false =>
      obtain ⟨-, -, -, -, -, htversion, -⟩ := readColumns_hop hheader hread.columns
      exact htversion

theorem complete_of_isFull {r : Reading} {line : Text} (hversion : r.state.version = 2)
    (h : IsFull line) : Complete r line := by
  intro _ s converted hconvert
  obtain ⟨-, -, hs, -, hnew⟩ := convert_ok hconvert
  rw [if_neg h.1] at hs
  obtain ⟨hsame, -⟩ := hnew (by omega)
  rw [hsame]
  have hlength := h.2
  cases hheader : isHeader (columnsOf line) with
  | true =>
    rw [hheader] at hlength
    exact ⟨hlength, fun hlt => by omega⟩
  | false =>
    rw [hheader] at hlength
    exact hlength

theorem meets_complete {lines : List Text} (h : ∀ line ∈ lines, IsFull line) {r : Reading}
    (hversion : r.state.version = 2) : Run.Meets (read i o) Complete r lines := by
  induction lines generalizing r with
  | nil => trivial
  | cons line lines ih =>
    rw [List.forall_mem_cons] at h
    refine ⟨complete_of_isFull hversion h.1, fun t ht => ih h.2 ?_⟩
    obtain ⟨s, hs, rfl⟩ := Run.map_ok ht
    exact (readLine_version h.1.1 hs).trans hversion

/-! ## A block -/

def blockHeader : Text :=
  "#Ti 1 10.0.0.1 10.0.0.2 178f2cc6c7ea013a 0 2 0 44 90e1 0 0 200 a7cfb997ef00d133".toList

def firstHop (rtt address : String) : Text :=
  "\t178f2cc6c7ea013a 1 56 1 00000000 -1 -1 -1 ".toList ++ rtt.toList ++ " -1 -1 ".toList ++
    address.toList

theorem addressNotation_twoAddresses : AddressNotation twoAddresses := by
  intro value a h
  left
  simp only [twoAddresses] at h
  split at h
  · next heq =>
    rw [heq]
    decide
  · split at h
    · next heq =>
      rw [heq]
      decide
    · cases h

theorem rows_own_lines_block :
    Run.Meets (read twoAddresses tracerouteTable) (Own twoAddresses tracerouteTable)
      (Reading.start (beginParsing tracerouteTable false .sqlPostgreSQL))
      [blockHeader, firstHop "1000" "10.0.0.1"] := by
  obtain ⟨t, ht⟩ := Run.exists_of_isOk (r := Run.exec (readLine twoAddresses tracerouteTable)
    (State.start (beginParsing tracerouteTable false .sqlPostgreSQL))
    [blockHeader, firstHop "1000" "10.0.0.1"]) (by decide +kernel)
  rw [rows_own_lines_iff addressNotation_twoAddresses ht]
  exact meets_complete (by decide +kernel) rfl

/-- The RTT and the address of the hop in the last line of a file, in the row written for it. -/
def lastHop (lines : List Text) : Except Failure (Int × Address) := do
  let s ← Run.exec (readLine twoAddresses tracerouteTable)
    (State.start (beginParsing tracerouteTable false .sqlPostgreSQL)) lines
  let v ← parseHop twoAddresses s.tuple
  return (v.timing.rttApp, v.hopIP)

/-- A hop line with four columns has the RTT and the address of the hop in front of it. -/
theorem short_hop_completed :
    lastHop [blockHeader, firstHop "1000" "10.0.0.1", "\t178f2cc6c7ea013b 2 56 1".toList] =
      .ok (1000, .v4 0x0a000001) ∧
    lastHop [blockHeader, firstHop "2000" "10.0.0.2", "\t178f2cc6c7ea013b 2 56 1".toList] =
      .ok (2000, .v4 0x0a000002) :=
  ⟨by decide +kernel, by decide +kernel⟩

end TracerouteReader

end HiPerConTracer.Results
