import HiPerConTracer.Results.Readers
import Mathlib.Data.List.TakeWhile

/-!
# The bookkeeping of statements

`parseContents` gets a statement outside of a row, with as many rows as the caller has counted, and
leaves such a statement behind unless it throws an exception:

    no header has the status flags ffffffff (NoSQL), and no line of version 1 has twelve columns →
      each file ends with an exception, or with whole rows   (parseContents_wholeRows)

The status flags ffffffff mean that there has not been a header.  A header with these flags leaves
its row open, and the next one fails the assertion of `beginRow`.
-/

namespace HiPerConTracer.Results
open Net Statement

variable {i : Input} {o : Output}

/-! ## Rows -/

/-- A row with what it contains. -/
def rowText (isSQL : Bool) (body : Text) : Text :=
  ['\n'] ++ (if isSQL then ['('] else ['\x7b']) ++ body ++ rowEnd isSQL

/-- Rows with commas between them. -/
def rowsText (isSQL : Bool) (bodies : List Text) : Text :=
  [','].intercalate (bodies.map (rowText isSQL))

/-- A statement with rows that contain the bodies, outside of a row. -/
structure WholeRows (start : Text) (backend : Backend) (bodies : List Text) (p : Parsed) :
    Prop where
  backend_eq : p.statement.backend = backend
  outside : p.statement.inTuple = false
  counted : p.statement.rows = bodies.length
  rows : p.rows = bodies.length
  text : p.statement.text = start ++ rowsText backend.isSQL bodies

/-- A statement within the row behind these rows, of which a part has been written. -/
structure WithinRow (start : Text) (backend : Backend) (bodies : List Text) (part : Text)
    (p : Parsed) : Prop where
  backend_eq : p.statement.backend = backend
  inside : p.statement.inTuple = true
  counted : p.statement.rows = bodies.length
  rows : p.rows = bodies.length
  text : p.statement.text =
    start ++ rowsText backend.isSQL bodies ++ rowBegin backend.isSQL bodies.length true ++ part

variable {start : Text} {backend : Backend} {bodies : List Text} {part : Text} {p : Parsed}

theorem WholeRows.beginRow (h : WholeRows start backend bodies p) :
    ∃ s, p.statement.beginRow true = .ok s ∧ WithinRow start backend bodies [] ⟨s, p.rows⟩ := by
  unfold Statement.beginRow
  rw [if_neg (by rw [h.outside]; decide)]
  refine ⟨_, rfl, h.backend_eq, rfl, h.counted, h.rows, ?_⟩
  show p.statement.text ++ rowBegin p.statement.backend.isSQL p.statement.rows true = _
  rw [h.text, h.backend_eq, h.counted, List.append_nil]

theorem WithinRow.append (h : WithinRow start backend bodies part p) (t : Text) :
    WithinRow start backend bodies (part ++ t) ⟨p.statement.append t, p.rows⟩ := by
  refine ⟨h.backend_eq, h.inside, h.counted, h.rows, ?_⟩
  show p.statement.text ++ t = _
  rw [h.text, List.append_assoc _ part t]

theorem WithinRow.cells (h : WithinRow start backend bodies part p) (cs : List Text) :
    ∃ s, p.statement.cells cs = .ok s ∧
      WithinRow start backend bodies (part ++ joined backend.isSQL cs) ⟨s, p.rows⟩ := by
  refine ⟨_, cells_eq h.inside cs, ?_⟩
  rw [h.backend_eq]
  exact h.append _

theorem WithinRow.endRow (h : WithinRow start backend bodies part p) :
    ∃ s, p.statement.endRow = .ok s ∧
      WholeRows start backend (bodies ++ [part]) ⟨s, p.rows + 1⟩ := by
  have hlength : (bodies ++ [part]).length = bodies.length + 1 := by simp
  unfold Statement.endRow
  rw [if_pos h.inside]
  refine ⟨_, rfl, h.backend_eq, rfl, ?_, ?_, ?_⟩
  · show p.statement.rows + 1 = _
    rw [h.counted, hlength]
  · show p.rows + 1 = _
    rw [h.rows, hlength]
  · show p.statement.text ++ rowEnd p.statement.backend.isSQL = _
    rw [h.text, h.backend_eq]
    unfold rowsText
    rw [List.map_append, List.map_singleton, Separated.intercalate_append_singleton]
    unfold rowBegin rowText
    simp only [List.map_eq_nil_iff, List.length_eq_zero_iff, if_true, List.append_assoc]

/-- A statement outside of a row, all of whose rows are of a kind. -/
def Closed (start : Text) (backend : Backend) (IsRow : Text → Prop) (p : Parsed) : Prop :=
  ∃ bodies, WholeRows start backend bodies p ∧ ∀ b ∈ bodies, IsRow b

theorem WholeRows.closed {IsRow : Text → Prop} (h : WholeRows start backend (bodies ++ [part]) p)
    (hbodies : ∀ b ∈ bodies, IsRow b) (hpart : IsRow part) : Closed start backend IsRow p := by
  refine ⟨bodies ++ [part], h, ?_⟩
  rw [List.forall_mem_append, List.forall_mem_singleton]
  exact ⟨hbodies, hpart⟩

/-! ## Columns -/

/-- A result without failing assertion and without write behind an array. -/
abbrev Sound {α : Type} (P : α → Prop) (r : Except Failure α) : Prop :=
  Run.Ends (fun e => e.isException = true) P r

theorem parseNumber_sound (what function : String) (base : Nat) (value : Text) :
    Sound (fun _ => True) (parseNumber i what function base value) := by
  unfold parseNumber
  split
  · rfl
  · split
    · trivial
    · rfl

theorem parseBounded_sound (what invalid : String) (base lower upper : Nat) (value : Text) :
    Sound (fun _ => True) (parseBounded i what invalid base lower upper value) := by
  have h := parseNumber_sound (i := i) what "stoul" base value
  unfold parseBounded
  split
  · next he =>
    rw [he] at h
    exact h
  · split
    · rfl
    · trivial

theorem parseAddress_sound (value : Text) : Sound (fun _ => True) (parseAddress i value) := by
  unfold parseAddress
  split
  · trivial
  · rfl

theorem parseTimeStamp_sound (value : Text) : Sound (fun _ => True) (parseTimeStamp i value) := by
  have h := parseNumber_sound (i := i) "Bad time stamp format " "stoull" 16 value
  unfold parseTimeStamp
  split
  · next he =>
    rw [he] at h
    exact h
  · split
    · trivial
    · rfl

theorem toUnsigned_sound {r : Except Failure Nat} (h : Sound (fun _ => True) r) :
    Sound (fun _ => True) (toUnsigned r) := h.map fun _ _ => trivial

theorem parseNanoseconds_sound (value : Text) :
    Sound (fun _ => True) (parseNanoseconds i value) :=
  (parseNumber_sound _ _ _ _).map fun _ _ => trivial

theorem parseTiming_sound (tuple : List Text) (k : Nat) :
    Sound (fun _ => True) (parseTiming i tuple k) := by
  unfold parseTiming
  refine (toUnsigned_sound (parseNumber_sound _ _ _ _)).bind fun _ _ => ?_
  refine (parseNanoseconds_sound _).bind fun _ _ => ?_
  refine (parseNanoseconds_sound _).bind fun _ _ => ?_
  refine (parseNanoseconds_sound _).bind fun _ _ => ?_
  refine (parseNanoseconds_sound _).bind fun _ _ => ?_
  refine (parseNanoseconds_sound _).bind fun _ _ => ?_
  refine (parseNanoseconds_sound _).bind fun _ _ => ?_
  trivial

theorem parsePing_sound (tuple : List Text) : Sound (fun _ => True) (parsePing i tuple) := by
  unfold parsePing
  refine (toUnsigned_sound (parseNumber_sound _ _ _ _)).bind fun _ _ => ?_
  refine (parseAddress_sound _).bind fun _ _ => ?_
  refine (parseAddress_sound _).bind fun _ _ => ?_
  refine (parseTimeStamp_sound _).bind fun _ _ => ?_
  refine (toUnsigned_sound (parseNumber_sound _ _ _ _)).bind fun _ _ => ?_
  refine (parseBounded_sound _ _ _ _ _ _).bind fun _ _ => ?_
  refine (toUnsigned_sound (parseNumber_sound _ _ _ _)).bind fun _ _ => ?_
  refine (toUnsigned_sound (parseNumber_sound _ _ _ _)).bind fun _ _ => ?_
  refine (parseBounded_sound _ _ _ _ _ _).bind fun _ _ => ?_
  refine (parseBounded_sound _ _ _ _ _ _).bind fun _ _ => ?_
  refine (parseBounded_sound _ _ _ _ _ _).bind fun _ _ => ?_
  refine (toUnsigned_sound (parseNumber_sound _ _ _ _)).bind fun _ _ => ?_
  refine (parseTiming_sound _ _).bind fun _ _ => ?_
  trivial

theorem parseHeader_sound (tuple : List Text) : Sound (fun _ => True) (parseHeader i tuple) := by
  unfold parseHeader
  refine (toUnsigned_sound (parseNumber_sound _ _ _ _)).bind fun _ _ => ?_
  refine (parseAddress_sound _).bind fun _ _ => ?_
  refine (parseAddress_sound _).bind fun _ _ => ?_
  refine (parseTimeStamp_sound _).bind fun _ _ => ?_
  refine (toUnsigned_sound (parseNumber_sound _ _ _ _)).bind fun _ _ => ?_
  refine (parseBounded_sound _ _ _ _ _ _).bind fun _ _ => ?_
  refine (parseBounded_sound _ _ _ _ _ _).bind fun _ _ => ?_
  refine (toUnsigned_sound (parseNumber_sound _ _ _ _)).bind fun _ _ => ?_
  refine (parseBounded_sound _ _ _ _ _ _).bind fun _ _ => ?_
  refine (parseBounded_sound _ _ _ _ _ _).bind fun _ _ => ?_
  refine (parseBounded_sound _ _ _ _ _ _).bind fun _ _ => ?_
  refine (toUnsigned_sound (parseNumber_sound _ _ _ _)).bind fun _ _ => ?_
  refine ((parseNumber_sound _ _ _ _).map (Q := fun _ => True) fun _ _ => trivial).bind
    fun _ _ => ?_
  trivial

theorem parseHop_sound (tuple : List Text) : Sound (fun _ => True) (parseHop i tuple) := by
  unfold parseHop
  refine (parseTimeStamp_sound _).bind fun _ _ => ?_
  refine (parseBounded_sound _ _ _ _ _ _).bind fun _ _ => ?_
  refine (toUnsigned_sound (parseNumber_sound _ _ _ _)).bind fun _ _ => ?_
  refine (toUnsigned_sound (parseNumber_sound _ _ _ _)).bind fun _ _ => ?_
  refine (parseTiming_sound _ _).bind fun _ _ => ?_
  refine (parseAddress_sound _).bind fun _ _ => ?_
  trivial

/-! ## Conversions -/

/-- The arrays of the conversion have room for the columns of the line. -/
def FewColumns (line : Text) : Prop := (cString line).count ' ' < 11

theorem dropWhile_count {s rest : Text} {c : Char} (h : s.dropWhile (· ≠ ' ') = c :: rest) :
    s.count ' ' = rest.count ' ' + 1 := by
  have hsplit := List.takeWhile_append_dropWhile (p := (· ≠ ' ')) (l := s)
  have hc : c = ' ' := by
    have hhead := List.head?_dropWhile_not (· ≠ ' ') s
    rw [h] at hhead
    simpa using hhead
  have hnone : (s.takeWhile (· ≠ ' ')).count ' ' = 0 := by
    rw [List.count_eq_zero]
    intro hin
    simpa using List.mem_takeWhile_imp hin
  rw [← hsplit, h, List.count_append, hnone, hc, List.count_cons_self]
  omega

theorem obtainEntries_few {k : Nat} {s : Text} (h : s.count ' ' < k) :
    ∃ es, obtainEntries k s = .ok es ∧ es.length = s.count ' ' + 1 := by
  induction k generalizing s with
  | zero => omega
  | succ k ih =>
    unfold obtainEntries
    split
    · next hnil =>
      refine ⟨[s], rfl, ?_⟩
      have hnone : s.count ' ' = 0 := by
        rw [List.count_eq_zero]
        intro hin
        rw [List.dropWhile_eq_nil_iff] at hnil
        simpa using hnil ' ' hin
      rw [hnone]
      rfl
    · next c rest hcons =>
      have hcount := dropWhile_count hcons
      obtain ⟨es, hes, hlength⟩ := ih (s := rest) (by omega)
      rw [hes]
      refine ⟨s :: es, rfl, ?_⟩
      rw [List.length_cons]
      omega

theorem entryNumber_sound (value : List Text) (k base : Nat) (function bad : String) :
    Sound (fun _ => True) (entryNumber value k base function bad) := by
  unfold entryNumber
  split
  · rfl
  · split
    · trivial
    · rfl

theorem convertOldPingLine_sound {line : Text} (h : FewColumns line) :
    Sound (fun _ => True) (convertOldPingLine line) := by
  obtain ⟨es, hes, -⟩ := obtainEntries_few h
  have h3 := entryNumber_sound es 3 16 "stoull" "Bad time stamp"
  have h6 := entryNumber_sound es 6 10 "stoull" "Bad RTT value"
  unfold convertOldPingLine
  rw [hes]
  simp only
  split
  · split
    · rfl
    · next he =>
      rw [he] at h3
      exact h3
    · split
      · rfl
      · next he =>
        rw [he] at h6
        exact h6
      · trivial
  · rfl

theorem convertOldTracerouteLine_sound {line : Text} (h : FewColumns line) (timeStamp : Nat) :
    Sound (fun _ => True) (convertOldTracerouteLine line timeStamp) := by
  obtain ⟨es, hes, -⟩ := obtainEntries_few h
  have h3 := entryNumber_sound es 3 16 "stoull" "Bad time stamp"
  have h2 := entryNumber_sound es 2 16 "stoul" "Bad status value"
  have h3' := entryNumber_sound es 3 10 "stoull" "Bad RTT value"
  unfold convertOldTracerouteLine
  rw [hes]
  simp only
  split
  · split
    · next he =>
      rw [he] at h3
      exact h3
    · trivial
  · split
    · split
      · next he =>
        rw [he] at h2
        exact h2
      · split
        · next he =>
          rw [he] at h3'
          exact h3'
        · trivial
    · rfl

/-! ## Loops -/

theorem forLines_sound {σ : Type} {stream : InputStream} {body : σ → Text → Except Failure σ}
    {P : σ → Prop} {C : σ → Text → Prop} (hstep : ∀ s a, P s → C s a → Sound P (body s a))
    {s : σ} (hs : P s) (hc : Run.Meets body C s stream.lines) :
    Sound P (stream.forLines body s) := by
  have hrun := Run.exec_ends (E := fun e : Failure => e.isException = true) hstep hs hc
  unfold InputStream.forLines InputStream.getlineEnd
  split
  · next he =>
    rw [he] at hrun
    exact hrun
  · next t ht =>
    rw [ht] at hrun
    split
    · next he =>
      split at he
      · cases he
        rfl
      · cases he
    · exact hrun

/-! ## Ping -/

/-- The body of a Ping row. -/
def IsPingRow (o : Output) (backend : Backend) (body : Text) : Prop :=
  ∃ v, body = joined backend.isSQL (fieldCells backend.isSQL (pingFields o backend v))

namespace PingReader

theorem writeRow_closed (h : Closed start backend (IsPingRow o backend) p) (v : PingValues) :
    ∃ p', writeRow o p v = .ok p' ∧ Closed start backend (IsPingRow o backend) p' := by
  obtain ⟨bodies, hrows, hbodies⟩ := h
  obtain ⟨s₁, h₁, hw₁⟩ := hrows.beginRow
  obtain ⟨s₂, h₂, hw₂⟩ := hw₁.cells (fieldCells backend.isSQL (pingFields o backend v))
  obtain ⟨s₃, h₃, hw₃⟩ := hw₂.endRow
  refine ⟨⟨s₃, p.rows + 1⟩, ?_, hw₃.closed hbodies ⟨v, List.nil_append _⟩⟩
  have hb : s₁.backend = backend := hw₁.backend_eq
  change s₁.cells _ = _ at h₂
  change s₂.endRow = _ at h₃
  unfold writeRow
  rw [h₁]
  show (s₁.cells (fieldCells s₁.backend.isSQL (pingFields o s₁.backend v)) >>= _) = _
  rw [hb, h₂]
  show (s₂.endRow >>= _) = _
  rw [h₃]
  rfl

/-- A line that is converted has few columns. -/
def Admitted (_ : List Text × Parsed) (line : Text) : Prop :=
  line.take 3 = ['#', 'P', ' '] → FewColumns line

theorem readLine_sound {state : List Text × Parsed} {line : Text}
    (h : Closed start backend (IsPingRow o backend) state.2) (hc : Admitted state line) :
    Sound (fun t => Closed start backend (IsPingRow o backend) t.2) (readLine i o state line) := by
  obtain ⟨tuple, p⟩ := state
  unfold readLine
  simp only
  split
  · exact h
  · split
    · have hconvert : Sound (fun _ => True) (convert line) := by
        unfold convert
        split
        · next htake => exact convertOldPingLine_sound (hc htake)
        · trivial
      refine hconvert.bind fun line' _ => ?_
      split
      · rfl
      · refine (parsePing_sound _).bind fun v _ => ?_
        obtain ⟨p', hp', hclosed⟩ := writeRow_closed h v
        rw [hp']
        exact hclosed
    · rfl

theorem parseContents_sound {stream : InputStream}
    (h : Closed start backend (IsPingRow o backend) p)
    (hc : Run.Meets (readLine i o) Admitted (List.replicate columns [], p) stream.lines) :
    Sound (Closed start backend (IsPingRow o backend)) (parseContents i o stream p) :=
  (forLines_sound (P := fun t => Closed start backend (IsPingRow o backend) t.2)
    (fun _ _ hs hc => readLine_sound hs hc) h hc).map fun _ ht => ht

end PingReader

/-! ## Traceroute -/

/-- What a hop adds to the row of its block. -/
def hopPart (o : Output) (backend : Backend) (v : HopValues) : Text :=
  (if v.hopNumber > 1 then ", \x7b ".toList else " \x7b ".toList) ++
    joined false (hopCells o backend v) ++ " \x7d".toList

/-- The row of a block with these hops so far. -/
def blockPart (o : Output) (backend : Backend) (h : HeaderValues) (hops : List HopValues) : Text :=
  joined false (headerCells o backend h) ++ hops.flatMap (hopPart o backend)

/-- The body of a Traceroute row: a hop with its header for SQL, and a block for NoSQL. -/
def IsTracerouteRow (o : Output) (backend : Backend) (body : Text) : Prop :=
  match backend.isSQL with
  | true => ∃ h v, body = joined true (hopRow o backend h v)
  | false => ∃ h hops, body = blockPart o backend h hops ++ [']']

namespace TracerouteReader

/-- Between two rows, or within the row of the block of a header. -/
inductive Kept (start : Text) (backend : Backend) (o : Output) (h : HeaderValues) (p : Parsed) :
    Prop where
  | between (hflags : backend.isSQL = true ∨ h.statusFlags = noStatusFlags)
      (hclosed : Closed start backend (IsTracerouteRow o backend) p)
  | within (hsql : backend.isSQL = false) (hflags : h.statusFlags ≠ noStatusFlags)
      (bodies : List Text) (hops : List HopValues)
      (hrow : WithinRow start backend bodies (blockPart o backend h hops) p)
      (hbodies : ∀ b ∈ bodies, IsTracerouteRow o backend b)

theorem Kept.endBlock {h : HeaderValues} (hk : Kept start backend o h p) :
    ∃ p', endBlock h p = .ok p' ∧ Closed start backend (IsTracerouteRow o backend) p' := by
  unfold TracerouteReader.endBlock
  cases hk with
  | between hflags hclosed =>
    refine ⟨p, ?_, hclosed⟩
    obtain ⟨bodies, hrows, -⟩ := hclosed
    rw [if_neg]
    rintro ⟨hne, hsql⟩
    rw [hrows.backend_eq] at hsql
    rcases hflags with hyes | heq
    · rw [hsql] at hyes
      cases hyes
    · exact hne heq
  | within hsql hflags bodies hops hrow hbodies =>
    rw [if_pos ⟨hflags, by rw [hrow.backend_eq]; exact hsql⟩]
    obtain ⟨s, hs, hrows⟩ := (hrow.append [']']).endRow
    change (p.statement.append [']']).endRow = _ at hs
    rw [hs]
    refine ⟨_, rfl, hrows.closed hbodies ?_⟩
    unfold IsTracerouteRow
    rw [hsql]
    exact ⟨h, hops, rfl⟩

theorem beginBlock_kept {h : HeaderValues}
    (hc : Closed start backend (IsTracerouteRow o backend) p)
    (hflags : backend.isSQL = false → h.statusFlags ≠ noStatusFlags) :
    ∃ p', beginBlock o h p = .ok p' ∧ Kept start backend o h p' := by
  obtain ⟨bodies, hrows, hbodies⟩ := hc
  unfold beginBlock
  rw [hrows.backend_eq]
  cases hsql : backend.isSQL with
  | true =>
    rw [if_pos rfl]
    exact ⟨p, rfl, .between (Or.inl hsql) ⟨bodies, hrows, hbodies⟩⟩
  | false =>
    rw [if_neg (by decide)]
    obtain ⟨s₁, h₁, hw₁⟩ := hrows.beginRow
    obtain ⟨s₂, h₂, hw₂⟩ := hw₁.cells (headerCells o backend h)
    have hb : s₁.backend = backend := hw₁.backend_eq
    change s₁.cells _ = _ at h₂
    rw [h₁]
    show ∃ p', (s₁.cells (headerCells o s₁.backend h) >>= _) = .ok p' ∧ _
    rw [hb, h₂]
    refine ⟨⟨s₂, p.rows⟩, rfl, .within hsql (hflags hsql) bodies [] ?_ hbodies⟩
    rw [hsql, List.nil_append] at hw₂
    unfold blockPart
    rw [List.flatMap_nil, List.append_nil]
    exact hw₂

theorem Kept.writeHop {h : HeaderValues} (hk : Kept start backend o h p)
    (hflags : h.statusFlags ≠ noStatusFlags) (v : HopValues) :
    ∃ p', writeHop o h v p = .ok p' ∧ Kept start backend o h p' := by
  unfold TracerouteReader.writeHop
  cases hk with
  | between hsql hclosed =>
    replace hsql : backend.isSQL = true := hsql.resolve_right hflags
    obtain ⟨bodies, hrows, hbodies⟩ := hclosed
    rw [hrows.backend_eq, if_pos hsql]
    obtain ⟨s₁, h₁, hw₁⟩ := hrows.beginRow
    obtain ⟨s₂, h₂, hw₂⟩ := hw₁.cells (hopRow o backend h v)
    obtain ⟨s₃, h₃, hw₃⟩ := hw₂.endRow
    have hb : s₁.backend = backend := hw₁.backend_eq
    change s₁.cells _ = _ at h₂
    change s₂.endRow = _ at h₃
    rw [h₁]
    show ∃ p', (s₁.cells (hopRow o s₁.backend h v) >>= _) = .ok p' ∧ _
    rw [hb, h₂]
    show ∃ p', (s₂.endRow >>= _) = .ok p' ∧ _
    rw [h₃]
    refine ⟨_, rfl, .between (Or.inl hsql) (hw₃.closed hbodies ?_)⟩
    unfold IsTracerouteRow
    rw [hsql]
    exact ⟨h, v, List.nil_append _⟩
  | within hsql _ bodies hops hrow hbodies =>
    rw [hrow.backend_eq, if_neg (by rw [hsql]; decide)]
    have hw₁ := hrow.append (if v.hopNumber > 1 then ", \x7b ".toList else " \x7b ".toList)
    obtain ⟨s₂, h₂, hw₂⟩ := hw₁.cells (hopCells o backend v)
    have hb : p.statement.backend = backend := hrow.backend_eq
    refine ⟨⟨s₂.append " \x7d".toList, p.rows⟩, ?_,
      .within hsql hflags bodies (hops ++ [v]) ?_ hbodies⟩
    · change (p.statement.append _).cells _ = _ at h₂
      show ((p.statement.append _).cells (hopCells o p.statement.backend v) >>= _) = _
      rw [hb, h₂]
      rfl
    · have hw₃ := hw₂.append " \x7d".toList
      rw [hsql] at hw₃
      unfold blockPart hopPart
      rw [List.flatMap_append, List.flatMap_singleton]
      unfold blockPart hopPart at hw₃
      simp only [List.append_assoc] at hw₃ ⊢
      exact hw₃

/-- A line that is converted has few columns, and, for NoSQL, the status flags of a header are not
those that mean that there has not been a header. -/
def Admitted (i : Input) (backend : Backend) (s : State) (line : Text) : Prop :=
  (line.take 3 = ['#', 'T', ' '] ∨ s.version < 2 → FewColumns line) ∧
  (backend.isSQL = false → ∀ t h, readTuple i s line = .ok t → isHeader t.tuple = true →
    parseHeader i t.tuple = .ok h → h.statusFlags ≠ noStatusFlags)

/-- The columns of the line change neither the rows nor the header. -/
theorem readTuple_sound {s : State} {line : Text}
    (h : line.take 3 = ['#', 'T', ' '] ∨ s.version < 2 → FewColumns line) :
    Sound (fun t => readTuple i s line = .ok t ∧ t.header = s.header ∧ t.parsed = s.parsed)
      (readTuple i s line) := by
  have hconvert : Sound (fun r => r.1.header = s.header ∧ r.1.parsed = s.parsed)
      (convert s line) := by
    unfold convert
    by_cases htake : line.take 3 = ['#', 'T', ' ']
    · simp only [htake, if_true]
      rw [if_pos (by decide)]
      exact (convertOldTracerouteLine_sound (h (Or.inl htake)) _).bind fun _ _ => ⟨rfl, rfl⟩
    · simp only [htake, if_false]
      split
      · next hversion =>
        exact (convertOldTracerouteLine_sound (h (Or.inr hversion)) _).bind fun _ _ => ⟨rfl, rfl⟩
      · exact ⟨rfl, rfl⟩
  have hread : Sound (fun t => t.header = s.header ∧ t.parsed = s.parsed) (readTuple i s line) := by
    unfold readTuple
    refine hconvert.bind fun ⟨s', line'⟩ hr => ?_
    simp only
    split
    · rfl
    · exact hr
  cases hres : readTuple i s line with
  | error e =>
    rw [hres] at hread
    exact hread
  | ok t =>
    rw [hres] at hread
    exact ⟨rfl, hread⟩

theorem readColumns_sound {s : State} (h : Kept start backend o s.header s.parsed)
    (hflags : backend.isSQL = false → ∀ h, isHeader s.tuple = true →
      parseHeader i s.tuple = .ok h → h.statusFlags ≠ noStatusFlags) :
    Sound (fun t => Kept start backend o t.header t.parsed) (readColumns i o s) := by
  unfold readColumns
  split
  · next hheader =>
    obtain ⟨p₁, h₁, hclosed⟩ := h.endBlock
    rw [h₁]
    have hsound := parseHeader_sound (i := i) s.tuple
    cases hparse : parseHeader i s.tuple with
    | error e =>
      rw [hparse] at hsound
      exact hsound
    | ok header =>
      obtain ⟨p₂, h₂, hkept⟩ := beginBlock_kept (h := header) hclosed
        fun hsql => hflags hsql header hheader hparse
      show Sound _ (beginBlock o header p₁ >>= _)
      rw [h₂]
      exact hkept
  · split
    · split
      · rfl
      · next hne =>
        refine (parseHop_sound _).bind fun v _ => ?_
        obtain ⟨p', hp', hkept⟩ := h.writeHop hne v
        rw [hp']
        exact hkept
    · rfl

theorem readLine_sound {s : State} {line : Text} (h : Kept start backend o s.header s.parsed)
    (hc : Admitted i backend s line) :
    Sound (fun t => Kept start backend o t.header t.parsed) (readLine i o s line) := by
  unfold readLine
  split
  · exact h
  · refine (readTuple_sound hc.1).bind fun t ht => ?_
    obtain ⟨htuple, hheader, hparsed⟩ := ht
    refine readColumns_sound ?_ fun hsql h => hc.2 hsql t h htuple
    rw [hheader, hparsed]
    exact h

theorem parseContents_sound {stream : InputStream}
    (h : Closed start backend (IsTracerouteRow o backend) p)
    (hc : Run.Meets (readLine i o) (Admitted i backend) (State.start p) stream.lines) :
    Sound (Closed start backend (IsTracerouteRow o backend)) (parseContents i o stream p) := by
  have hstart : Kept start backend o (State.start p).header (State.start p).parsed :=
    .between (Or.inr rfl) h
  refine (forLines_sound (P := fun s : State => Kept start backend o s.header s.parsed)
    (fun _ _ hs hc => readLine_sound hs hc) hstart hc).bind fun s hs => ?_
  obtain ⟨p', hp', hclosed⟩ := hs.endBlock
  rw [hp']
  exact hclosed

end TracerouteReader

/-! ## Files -/

/-- `parseContents` of the two readers. -/
def parseContents (isPing : Bool) (o : Output) (p : Parsed) (file : Input × InputStream) :
    Except Failure Parsed :=
  if isPing then PingReader.parseContents file.1 o file.2 p
  else TracerouteReader.parseContents file.1 o file.2 p

/-- The lines of a file are admitted, each in the state before it. -/
def AdmittedFile (isPing : Bool) (o : Output) (p : Parsed) (file : Input × InputStream) : Prop :=
  match isPing with
  | true => Run.Meets (PingReader.readLine file.1 o) PingReader.Admitted
      (List.replicate PingReader.columns [], p) file.2.lines
  | false => Run.Meets (TracerouteReader.readLine file.1 o)
      (TracerouteReader.Admitted file.1 p.statement.backend) (TracerouteReader.State.start p)
      file.2.lines

/-- A row of the reader. -/
def IsRow (isPing : Bool) (o : Output) (backend : Backend) (body : Text) : Prop :=
  match isPing with
  | true => IsPingRow o backend body
  | false => IsTracerouteRow o backend body

/-- The statement is outside of a row, and has as many rows as have been counted, with commas
between them, behind its begin. -/
def Bookkept (isPing : Bool) (o : Output) (backend : Backend) (p : Parsed) : Prop :=
  p.statement.inTuple = false ∧ p.statement.rows = p.rows ∧
  ∃ bodies, bodies.length = p.rows ∧ (∀ b ∈ bodies, IsRow isPing o backend b) ∧
    p.statement.text = beginText o isPing backend ++ rowsText backend.isSQL bodies

theorem Closed.bookkept {isPing : Bool}
    (h : Closed (beginText o isPing backend) backend (IsRow isPing o backend) p) :
    Bookkept isPing o backend p := by
  obtain ⟨bodies, hrows, hbodies⟩ := h
  exact ⟨hrows.outside, hrows.counted.trans hrows.rows.symm, bodies, hrows.rows.symm, hbodies,
    hrows.text⟩

theorem finishParsing_ok (h : p.statement.rows = p.rows) : ∃ s, finishParsing p = .ok s := by
  unfold finishParsing
  rw [if_neg (not_not_intro h)]
  split <;> exact ⟨_, rfl⟩

/-- **Bookkeeping.**  Each file of a transaction, all of whose lines are admitted, ends with an
exception or with whole rows, and no assertion fails. -/
theorem parseContents_wholeRows (isPing : Bool) (o : Output) (backend : Backend)
    (files : List (Input × InputStream))
    (hc : Run.Meets (parseContents isPing o) (AdmittedFile isPing o)
      (beginParsing o isPing backend) files) :
    Sound (fun p => Bookkept isPing o backend p ∧ ∃ s, finishParsing p = .ok s)
      (Run.exec (parseContents isPing o) (beginParsing o isPing backend) files) := by
  have hstart : Closed (beginText o isPing backend) backend (IsRow isPing o backend)
      (beginParsing o isPing backend) := by
    refine ⟨[], ⟨rfl, rfl, rfl, rfl, ?_⟩, fun b hb => absurd hb List.not_mem_nil⟩
    exact (List.append_nil _).symm
  refine (Run.exec_ends (fun p file hp hfile => ?_) hstart hc).mono fun p hp => ?_
  · obtain ⟨bodies, hrows, hbodies⟩ := hp
    unfold AdmittedFile at hfile
    unfold parseContents
    cases isPing with
    | true => exact PingReader.parseContents_sound ⟨bodies, hrows, hbodies⟩ hfile
    | false =>
      rw [hrows.backend_eq] at hfile
      exact TracerouteReader.parseContents_sound ⟨bodies, hrows, hbodies⟩ hfile
  · exact ⟨hp.bookkept, finishParsing_ok hp.bookkept.2.1⟩

/-- A header with these status flags. -/
def headerLine (statusFlags : String) : Text :=
  "#Ti 1 10.0.0.1 10.0.0.2 178f2cc6c7ea013a 0 1 0 44 90e1 0 0 ".toList ++ statusFlags.toList ++
    " a7cfb997ef00d133".toList

def hopLine (hopNumber : String) : Text :=
  "\t178f2cc6c7ea013a ".toList ++ hopNumber.toList ++
    " 56 1 00000000 -1 -1 -1 1000 -1 -1 10.0.0.2".toList

/-- Whether the line is no header, or has other status flags than `noStatusFlags`. -/
def otherFlags (i : Input) (s : TracerouteReader.State) (line : Text) : Bool :=
  match TracerouteReader.readTuple i s line with
  | .error _ => true
  | .ok t =>
    match parseHeader i t.tuple with
    | .error _ => true
    | .ok h => h.statusFlags ≠ TracerouteReader.noStatusFlags

/-- A line of version 2 with such flags. -/
def admittedLine (i : Input) (s : TracerouteReader.State) (line : Text) : Bool :=
  line.take 3 ≠ ['#', 'T', ' '] && s.version = 2 && otherFlags i s line

theorem admittedLine_admitted {i : Input} {s : TracerouteReader.State} {line : Text}
    {backend : Backend} (h : admittedLine i s line = true) :
    TracerouteReader.Admitted i backend s line := by
  unfold admittedLine at h
  simp only [Bool.and_eq_true, decide_eq_true_eq] at h
  obtain ⟨⟨hline, hversion⟩, hflags⟩ := h
  refine ⟨?_, fun _ t header ht _ hparse => ?_⟩
  · rintro (heq | hlt)
    · exact absurd heq hline
    · omega
  · unfold otherFlags at hflags
    simp only [ht, hparse] at hflags
    exact of_decide_eq_true hflags

def admittedFile (o : Output) (p : Parsed) (file : Input × InputStream) : Bool :=
  Run.checks (TracerouteReader.readLine file.1 o) (admittedLine file.1) (TracerouteReader.State.start p)
    file.2.lines

theorem admittedFile_admitted {o : Output} {p : Parsed} {file : Input × InputStream}
    (h : admittedFile o p file = true) : AdmittedFile false o p file :=
  Run.meets_of_checks (fun _ _ => admittedLine_admitted) h

/-- Two files: a block with two hops, and one with a hop. -/
def twoFiles : List (Input × InputStream) :=
  [(twoAddresses, openStream [headerLine "200", hopLine "1", hopLine "2"] false),
    (twoAddresses, openStream [headerLine "200", hopLine "1"] false)]

/-- The two files are two rows. -/
theorem parseContents_wholeRows_two :
    (∃ p, Run.exec (parseContents false tracerouteTable)
        (beginParsing tracerouteTable false .noSqlMongoDB) twoFiles = .ok p ∧ p.rows = 2) ∧
    Sound (fun p => Bookkept false tracerouteTable .noSqlMongoDB p ∧ ∃ s, finishParsing p = .ok s)
      (Run.exec (parseContents false tracerouteTable)
        (beginParsing tracerouteTable false .noSqlMongoDB) twoFiles) := by
  constructor
  · have hpasses : Run.passes (fun p => decide (p.rows = 2)) (Run.exec (parseContents false
        tracerouteTable) (beginParsing tracerouteTable false .noSqlMongoDB) twoFiles) = true := by
      decide +kernel
    obtain ⟨p, hp, hrows⟩ := Run.exists_of_passes hpasses
    exact ⟨p, hp, of_decide_eq_true hrows⟩
  · have hchecks : Run.checks (parseContents false tracerouteTable) (admittedFile tracerouteTable)
        (beginParsing tracerouteTable false .noSqlMongoDB) twoFiles = true := by decide +kernel
    exact parseContents_wholeRows false tracerouteTable .noSqlMongoDB twoFiles
      (Run.meets_of_checks (fun _ _ => admittedFile_admitted) hchecks)

/-- With these status flags, a block leaves its row open, and two blocks fail an assertion. -/
theorem statusFlags_ffffffff_leave_row :
    (∃ p, Run.exec (parseContents false tracerouteTable)
        (beginParsing tracerouteTable false .noSqlMongoDB)
        [(twoAddresses, openStream [headerLine "ffffffff"] false)] = .ok p ∧
      p.statement.inTuple = true) ∧
    Run.exec (parseContents false tracerouteTable) (beginParsing tracerouteTable false .noSqlMongoDB)
      [(twoAddresses, openStream [headerLine "ffffffff", headerLine "200"] false)] =
        .error .assertion :=
  ⟨Run.exists_of_passes (by decide +kernel), by decide +kernel⟩

end HiPerConTracer.Results
