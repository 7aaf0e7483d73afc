import HiPerConTracer.Tools.TimePoint
import HiPerConTracer.Writer.OutputStream

/-!
# Results writer (`resultswriter.cc`)

The rows of a service are inserted into files, with a new file once the transaction length is over.  A
file without rows is discarded when it is closed; the other ones get their final names.  For any calls,
behind the destruction of the writer:

    the files, in the order of their numbers, have the inserted rows behind a header each, and
      at every moment, a file with a final name has a header and its rows             (files_published)
-/

namespace HiPerConTracer.Writer
open Results (Text)

variable {β : Type}

/-! ## Writer -/

/-- What a writer is made with, and what `specifyOutputFormat` sets. -/
structure Settings where
  programID : Text
  directory : Text
  uniqueID : Text
  /-- Seconds. -/
  transactionLength : Nat
  timestampDepth : Nat
  compressor : CompressorType
  outputFormatName : Text
  outputFormatVersion : Nat

/-- The state of a writer; the counters have 64 bits, which no run uses up. -/
structure ResultsWriter where
  inserts : Nat
  seqNumber : Nat
  output : OutputStream
  /-- Nanoseconds of the steady clock. -/
  outputCreationTime : Int

/-- What the clocks give in a call: the steady clock, before and behind the opening of a file, and the
system clock. -/
structure Clock where
  now : Int
  created : Int
  system : Int

namespace Settings
variable (s : Settings)

def specifyOutputFormat (outputFormatName : Text) (outputFormatVersion : Nat) : Settings :=
  { s with outputFormatName := outputFormatName, outputFormatVersion := outputFormatVersion }

/-- The directories of `makeDirectoryHierarchy`, without those of the data file. -/
def makeDirectoryHierarchy (system : Int) : List Text :=
  if s.timestampDepth > 0 then
    [Tools.timePointToString system 0 (Tools.hierarchyFormat s.timestampDepth)]
  else []

/-- The name of the file with a number. -/
def fileName (seqNumber : Nat) : Text :=
  s.uniqueID ++ ['-'] ++ Numeral.padded 10 9 seqNumber ++ ['.', 'h', 'p', 'c', 't'] ++
    getExtensionForCompressor s.compressor

def targetFileName (seqNumber : Nat) (system : Int) : Path :=
  ⟨s.directory :: s.makeDirectoryHierarchy system, s.fileName seqNumber⟩

def header : Text :=
  "#? HPCT ".toList ++ s.outputFormatName ++ [' '] ++ Numeral.text 10 s.outputFormatVersion ++ [' '] ++
    s.programID ++ ['\n']

end Settings

namespace ResultsWriter

def make : ResultsWriter := ⟨0, 0, .start, 0⟩

/-- `changeFile`; the result says whether the new file is open. -/
def changeFile (s : Settings) (codec : Codec β) (t : Clock) (createNewFile : Bool)
    (w : ResultsWriter) : ResultsWriter × List (Op β) × Bool :=
  let (output, closed) :=
    match w.output.closeStream codec (w.inserts > 0) with
    | none => (w.output, [])
    | some (output, ops) => (output, ops)
  let w := { w with output := output, inserts := 0, seqNumber := w.seqNumber + 1 }
  if createNewFile then
    match w.output.openStream codec (s.targetFileName w.seqNumber t.system) .fromExtension with
    | none => (w, closed, false)
    | some (output, opened) =>
      ({ w with output := output, outputCreationTime := t.created }, closed ++ opened,
        output.isComplete)
  else (w, closed, true)

/-- `prepare`, behind the creation of the directory. -/
def prepare (s : Settings) (codec : Codec β) (t : Clock) (w : ResultsWriter) :
    ResultsWriter × List (Op β) × Bool :=
  w.changeFile s codec t true

def mayStartNewTransaction (s : Settings) (codec : Codec β) (t : Clock) (w : ResultsWriter) :
    ResultsWriter × List (Op β) × Bool :=
  if Int.tdiv (t.now - w.outputCreationTime) 1000000000 > s.transactionLength then
    w.changeFile s codec t true
  else (w, [], true)

def insert (s : Settings) (tuple : Text) (w : ResultsWriter) : ResultsWriter × List (Op β) :=
  let (output, header) :=
    if w.inserts = 0 ∧ s.outputFormatName ≠ [] then w.output.write s.header else (w.output, [])
  let (output, row) := output.write (tuple ++ ['\n'])
  ({ w with output := output, inserts := w.inserts + 1 }, header ++ row)

/-- The destructor, with that of the output stream. -/
def destroy (s : Settings) (codec : Codec β) (w : ResultsWriter) : List (Op β) :=
  let (w, changed, _) := w.changeFile s codec ⟨0, 0, 0⟩ false
  match w.output.closeStream codec false with
  | none => changed
  | some (_, closed) => changed ++ closed

end ResultsWriter

/-! ## Calls -/

inductive Call where
  | insert (tuple : Text)
  | mayStartNewTransaction (t : Clock)

/-- The rows that are inserted. -/
def inserted (calls : List Call) : List Text :=
  calls.flatMap fun call =>
    match call with
    | .insert tuple => [tuple]
    | .mayStartNewTransaction _ => []

namespace ResultsWriter

def call (s : Settings) (codec : Codec β) (w : ResultsWriter) : Call → ResultsWriter × List (Op β)
  | .insert tuple => w.insert s tuple
  | .mayStartNewTransaction t =>
    let (w, ops, _) := w.mayStartNewTransaction s codec t
    (w, ops)

/-- The operations of calls, and of the destruction behind them. -/
def callAll (s : Settings) (codec : Codec β) (w : ResultsWriter) : List Call → List (Op β)
  | [] => w.destroy s codec
  | c :: calls => (w.call s codec c).2 ++ callAll s codec (w.call s codec c).1 calls

/-- The operations in the life of a writer. -/
def life (s : Settings) (codec : Codec β) (t : Clock) (calls : List Call) : List (Op β) :=
  (make.prepare s codec t).2.1 ++ callAll s codec (make.prepare s codec t).1 calls

end ResultsWriter

/-! ## Names -/

/-- A temporary file. -/
def IsTmp (p : Path) : Prop := ['.', 't', 'm', 'p'] <:+ p.name

theorem isTmp_tmp (p : Path) : IsTmp p.tmp := List.suffix_append _ _

theorem getExtensionForCompressor_last (type : CompressorType) :
    (['.', 'h', 'p', 'c', 't'] ++ getExtensionForCompressor type).getLast? ≠ some 'p' := by
  cases type <;> decide

namespace Settings
variable {s : Settings}

theorem not_isTmp_fileName (directory : List Text) (n : Nat) : ¬ IsTmp ⟨directory, s.fileName n⟩ := by
  rintro ⟨begin', h⟩
  have hlast := congrArg List.getLast? h
  unfold fileName at hlast
  rw [List.append_assoc (s.uniqueID ++ ['-'] ++ Numeral.padded 10 9 n), List.getLast?_append,
    List.getLast?_append] at hlast
  have hne := getExtensionForCompressor_last s.compressor
  cases hext : (['.', 'h', 'p', 'c', 't'] ++ getExtensionForCompressor s.compressor).getLast? with
  | none => simp at hext
  | some c =>
    rw [hext] at hlast hne
    exact hne hlast.symm

theorem padded_injective {m n : Nat} (h : Numeral.padded 10 9 m = Numeral.padded 10 9 n) : m = n := by
  have hvalue : ∀ k, Numeral.value 10 (Numeral.padded 10 9 k) = k := by
    intro k
    unfold Numeral.padded
    rw [Numeral.value_zeros, Numeral.value_text (by decide) (by decide)]
  rw [← hvalue m, ← hvalue n, h]

theorem fileName_injective {m n : Nat} (h : s.fileName m = s.fileName n) : m = n := by
  unfold fileName at h
  have hprefix := List.append_cancel_right (List.append_cancel_right h)
  exact padded_injective (List.append_cancel_left hprefix)

end Settings
/-! ## Files -/

/-- The content of a file with rows. -/
def Settings.text (s : Settings) (tuples : List Text) : Text :=
  s.header ++ tuples.flatMap (· ++ ['\n'])

/-- A file that has its final name. -/
structure PublishedFile where
  seqNumber : Nat
  directory : List Text
  tuples : List Text

namespace PublishedFile

def path (s : Settings) (f : PublishedFile) : Path := ⟨f.directory, s.fileName f.seqNumber⟩

def file (s : Settings) (codec : Codec β) (f : PublishedFile) : Path × Option β :=
  (f.path s,
    some (codec.compress (obtainCompressorFromExtension (s.fileName f.seqNumber)) (s.text f.tuples)))

end PublishedFile

/-- Files with increasing numbers, each of which has rows. -/
structure Published (fs : List PublishedFile) (seqNumber : Nat) : Prop where
  increasing : (fs.map (·.seqNumber)).Pairwise (· < ·)
  below : ∀ f ∈ fs, f.seqNumber < seqNumber
  nonempty : ∀ f ∈ fs, f.tuples ≠ []

/-- Each file with a final name is complete, and gives a header and rows when it is read. -/
def Complete (s : Settings) (codec : Codec β) (d : Disk.Files Path β) : Prop :=
  ∀ e ∈ d, ¬ IsTmp e.1 → ∃ tuples content, tuples ≠ [] ∧ e.2 = some content ∧
    codec.decompress (obtainCompressorFromExtension e.1.name) content = s.text tuples

variable {s : Settings} {codec : Codec β}

theorem complete_append {d d' : Disk.Files Path β} (h : Complete s codec d)
    (h' : Complete s codec d') : Complete s codec (d ++ d') := by
  intro e he
  rcases List.mem_append.mp he with he | he
  · exact h e he
  · exact h' e he

theorem complete_tmp (p : Path) (content : Option β) : Complete s codec [(p.tmp, content)] := by
  intro e he hfinal
  obtain rfl := List.mem_singleton.mp he
  exact absurd (isTmp_tmp p) hfinal

namespace Published
variable {fs : List PublishedFile} {n : Nat}

theorem complete (h : Published fs n) (codec : Codec β) :
    Complete s codec (fs.map (PublishedFile.file s codec)) := by
  intro e he _
  obtain ⟨f, hf, rfl⟩ := List.mem_map.mp he
  exact ⟨f.tuples, _, h.nonempty f hf, rfl, codec.lossless _ _⟩

/-- The file with the next number is another one. -/
theorem untouched (h : Published fs n) (codec : Codec β) {p : Path} (hp : p.name = s.fileName n) :
    Disk.Untouched p (fs.map (PublishedFile.file s codec)) := by
  intro e he heq
  obtain ⟨f, hf, rfl⟩ := List.mem_map.mp he
  have hname : s.fileName f.seqNumber = s.fileName n := by
    rw [← hp]
    exact congrArg Path.name heq
  exact absurd (Settings.fileName_injective hname) (Nat.ne_of_lt (h.below f hf))

theorem untouched_tmp (fs : List PublishedFile) (codec : Codec β) (p : Path) :
    Disk.Untouched p.tmp (fs.map (PublishedFile.file s codec)) := by
  intro e he heq
  obtain ⟨f, hf, rfl⟩ := List.mem_map.mp he
  refine Settings.not_isTmp_fileName (s := s) f.directory f.seqNumber ?_
  show IsTmp (PublishedFile.file s codec f).1
  rw [heq]
  exact isTmp_tmp p

theorem mono (h : Published fs n) : Published fs (n + 1) where
  increasing := h.increasing
  below f hf := Nat.lt_succ_of_lt (h.below f hf)
  nonempty := h.nonempty

/-- The next file. -/
theorem append (h : Published fs n) (directory : List Text) {tuples : List Text}
    (hne : tuples ≠ []) : Published (fs ++ [⟨n, directory, tuples⟩]) (n + 1) where
  increasing := by
    rw [List.map_append, List.pairwise_append]
    refine ⟨h.increasing, List.pairwise_singleton _ _, ?_⟩
    intro a ha b hb
    obtain ⟨f, hf, rfl⟩ := List.mem_map.mp ha
    obtain rfl := List.mem_singleton.mp hb
    exact h.below f hf
  below f hf := by
    rcases List.mem_append.mp hf with hf | hf
    · exact Nat.lt_succ_of_lt (h.below f hf)
    · obtain rfl := List.mem_singleton.mp hf
      exact Nat.lt_succ_self n
  nonempty f hf := by
    rcases List.mem_append.mp hf with hf | hf
    · exact h.nonempty f hf
    · obtain rfl := List.mem_singleton.mp hf
      exact hne

end Published

/-! ## Steps -/

/-- A file is made and written under a temporary name, and only a renaming gives it its final name. -/
def ByRename : Op β → Prop
  | .create p => IsTmp p
  | .write p => IsTmp p
  | .close p _ => IsTmp p
  | .rename p p' => p = p'.tmp
  | .remove _ => True

/-- What operations lead to, and that at every moment files with final names are complete. -/
structure Leads (s : Settings) (codec : Codec β) (d : Disk.Files Path β) (ops : List (Op β))
    (d' : Disk.Files Path β) : Prop where
  run_eq : Disk.run d ops = d'
  always : Disk.Always (Complete s codec) d ops
  byRename : ∀ op ∈ ops, ByRename op

theorem Leads.append {d d' d'' : Disk.Files Path β} {ops ops' : List (Op β)}
    (h : Leads s codec d ops d') (h' : Leads s codec d' ops' d'') :
    Leads s codec d (ops ++ ops') d'' where
  run_eq := by rw [Disk.run_append, h.run_eq, h'.run_eq]
  always := by
    apply Disk.always_append h.always
    rw [h.run_eq]
    exact h'.always
  byRename op hop := by
    rcases List.mem_append.mp hop with hop | hop
    · exact h.byRename op hop
    · exact h'.byRename op hop

theorem leads_nil {d : Disk.Files Path β} (h : Complete s codec d) : Leads s codec d [] d :=
  ⟨rfl, Disk.always_nil h, nofun⟩

theorem leads_cons {d d' : Disk.Files Path β} {op : Op β} {ops : List (Op β)}
    (h : Complete s codec d) (hop : ByRename op) (h' : Leads s codec (Disk.apply d op) ops d') :
    Leads s codec d (op :: ops) d' where
  run_eq := h'.run_eq
  always := Disk.always_cons h h'.always
  byRename op' hop' := by
    rcases List.mem_cons.mp hop' with rfl | hop'
    · exact hop
    · exact h'.byRename op' hop'

/-- The writer has a file with rows, behind the published ones. -/
structure Writing (s : Settings) (codec : Codec β) (w : ResultsWriter) (d : Disk.Files Path β)
    (fs : List PublishedFile) (rows : List Text) (p : Path) : Prop where
  published : Published fs w.seqNumber
  name_eq : p.name = s.fileName w.seqNumber
  disk_eq : d = fs.map (PublishedFile.file s codec) ++ [(p.tmp, none)]
  output_eq : w.output = ⟨some p, some p.tmp, some p.tmp, obtainCompressorFromExtension p.name,
    if rows = [] then [] else s.text rows⟩
  inserts_eq : w.inserts = rows.length

/-- All files are closed. -/
structure Closed (s : Settings) (codec : Codec β) (o : OutputStream) (d : Disk.Files Path β)
    (fs : List PublishedFile) (seqNumber : Nat) : Prop where
  published : Published fs seqNumber
  disk_eq : d = fs.map (PublishedFile.file s codec)
  output_eq : o = ⟨none, none, none, o.compressor, []⟩

namespace Writing
variable {w : ResultsWriter} {d : Disk.Files Path β} {fs : List PublishedFile} {rows : List Text}
  {p : Path}

theorem complete (h : Writing s codec w d fs rows p) : Complete s codec d := by
  rw [h.disk_eq]
  exact complete_append (h.published.complete codec) (complete_tmp p none)

/-- **Closing.**  The file is published if it has rows, and removed otherwise. -/
theorem close (h : Writing s codec w d fs rows p) : ∃ o ops d' fs',
    w.output.closeStream codec (w.inserts > 0) = some (o, ops) ∧ Leads s codec d ops d' ∧
      Closed s codec o d' fs' (w.seqNumber + 1) ∧
      fs'.flatMap (·.tuples) = fs.flatMap (·.tuples) ++ rows := by
  have hcomplete := h.complete
  have htmp := Published.untouched_tmp (s := s) fs codec p
  have hclosed : ∀ content, Disk.apply d (.close p.tmp content) =
      fs.map (PublishedFile.file s codec) ++ [(p.tmp, some content)] := by
    intro content
    rw [h.disk_eq]
    exact Disk.put_last htmp none (some content)
  have hcomplete' : ∀ content, Complete s codec (Disk.apply d (.close p.tmp content)) := by
    intro content
    rw [hclosed]
    exact complete_append (h.published.complete codec) (complete_tmp p _)
  rw [h.output_eq, OutputStream.closeStream_open, h.inserts_eq]
  by_cases hrows : rows = []
  · subst hrows
    refine ⟨_, _, fs.map (PublishedFile.file s codec), fs, rfl, ?_,
      ⟨h.published.mono, rfl, rfl⟩, (List.append_nil _).symm⟩
    refine leads_cons hcomplete (isTmp_tmp p) (leads_cons (hcomplete' _) trivial ?_)
    rw [hclosed]
    show Leads s codec (Disk.remove p.tmp _) [] _
    rw [Disk.remove_last htmp]
    exact leads_nil (h.published.complete codec)
  · have hpos : rows.length > 0 := List.length_pos_iff.mpr hrows
    have hpublished := h.published.append p.directory hrows
    have hfile : fs.map (PublishedFile.file s codec) ++
        [(p, some (codec.compress (obtainCompressorFromExtension p.name) (s.text rows)))] =
          (fs ++ [PublishedFile.mk w.seqNumber p.directory rows]).map (PublishedFile.file s codec) := by
      rw [List.map_append]
      congr 1
      show [(p, _)] = [((⟨p.directory, s.fileName w.seqNumber⟩ : Path), _)]
      rw [← h.name_eq]
    refine ⟨_, _, _, fs ++ [PublishedFile.mk w.seqNumber p.directory rows], rfl, ?_, ⟨hpublished, rfl, rfl⟩, ?_⟩
    · refine leads_cons hcomplete (isTmp_tmp p) (leads_cons (hcomplete' _) ?_ ?_)
      · rw [if_pos (decide_eq_true hpos)]
        rfl
      · rw [hclosed, if_pos (decide_eq_true hpos), if_neg hrows]
        have hrenamed := Disk.rename_last htmp (h.published.untouched codec h.name_eq)
          (some (codec.compress (obtainCompressorFromExtension p.name) (s.text rows)))
        show Leads s codec (Disk.rename p.tmp p _) [] _
        rw [hrenamed, hfile]
        exact leads_nil (hpublished.complete codec)
    · rw [List.flatMap_append]
      simp

end Writing

theorem Closed.complete {o : OutputStream} {d : Disk.Files Path β} {fs : List PublishedFile} {n : Nat}
    (h : Closed s codec o d fs n) : Complete s codec d := by
  rw [h.disk_eq]
  exact h.published.complete codec

/-- **Opening.**  A file without rows. -/
theorem Closed.opening {o : OutputStream} {d : Disk.Files Path β} {fs : List PublishedFile} {n : Nat}
    (h : Closed s codec o d fs n) {p : Path} (hp : p.name = s.fileName n) (created : Int) :
    ∃ o' ops d', o.openStream codec p .fromExtension = some (o', ops) ∧ o'.isComplete = true ∧
      Leads s codec d ops d' ∧ Writing s codec ⟨0, n, o', created⟩ d' fs [] p := by
  have htmp := Published.untouched_tmp (s := s) fs codec p
  have hremoved : Disk.apply d (.remove p) = d := by
    rw [h.disk_eq]
    exact Disk.remove_untouched (h.published.untouched codec hp)
  have hcreated : Disk.apply d (.create p.tmp) = d ++ [(p.tmp, none)] := by
    rw [h.disk_eq]
    exact Disk.put_untouched htmp none
  have hwriting : Writing s codec
      ⟨0, n, ⟨some p, some p.tmp, some p.tmp, obtainCompressorFromExtension p.name, []⟩, created⟩
      (d ++ [(p.tmp, none)]) fs [] p := by
    refine ⟨h.published, hp, ?_, rfl, rfl⟩
    rw [h.disk_eq]
  rw [h.output_eq]
  refine ⟨_, _, _, OutputStream.openStream_closed codec p _ _, rfl, ?_, hwriting⟩
  refine leads_cons h.complete trivial ?_
  rw [hremoved]
  refine leads_cons h.complete (isTmp_tmp p) ?_
  rw [hcreated]
  exact leads_nil hwriting.complete

/-- A writer that is made has no files. -/
theorem closed_make : Closed s codec ResultsWriter.make.output [] [] 1 :=
  ⟨⟨List.Pairwise.nil, nofun, nofun⟩, rfl, rfl⟩

namespace Writing
variable {w : ResultsWriter} {d : Disk.Files Path β} {fs : List PublishedFile} {rows : List Text}
  {p : Path}

/-- **Rotation.**  The rows are published, and the next file has none. -/
theorem changeFile (h : Writing s codec w d fs rows p) (t : Clock) :
    ∃ d' fs' p', (w.changeFile s codec t true).2.2 = true ∧
      Leads s codec d (w.changeFile s codec t true).2.1 d' ∧
      Writing s codec (w.changeFile s codec t true).1 d' fs' [] p' ∧
      fs'.flatMap (·.tuples) = fs.flatMap (·.tuples) ++ rows := by
  obtain ⟨o, ops, d', fs', hclose, hleads, hclosed, hrows⟩ := h.close
  have hname : (s.targetFileName (w.seqNumber + 1) t.system).name = s.fileName (w.seqNumber + 1) :=
    rfl
  obtain ⟨o', ops', d'', hopen, hcomplete, hleads', hwriting⟩ := hclosed.opening hname t.created
  have heq : w.changeFile s codec t true =
      (⟨0, w.seqNumber + 1, o', t.created⟩, ops ++ ops', o'.isComplete) := by
    unfold ResultsWriter.changeFile
    rw [hclose]
    dsimp only
    rw [if_pos rfl, hopen]
  rw [heq]
  exact ⟨d'', fs', _, hcomplete, hleads.append hleads', hwriting, hrows⟩

/-- **Destruction.**  The rows are published, and all files are closed. -/
theorem destroy (h : Writing s codec w d fs rows p) :
    ∃ fs' n, Leads s codec d (w.destroy s codec) (fs'.map (PublishedFile.file s codec)) ∧
      Published fs' n ∧ fs'.flatMap (·.tuples) = fs.flatMap (·.tuples) ++ rows := by
  obtain ⟨o, ops, d', fs', hclose, hleads, hclosed, hrows⟩ := h.close
  have heq : w.destroy s codec = ops := by
    have hchange : w.changeFile s codec ⟨0, 0, 0⟩ false =
        (⟨0, w.seqNumber + 1, o, w.outputCreationTime⟩, ops, true) := by
      unfold ResultsWriter.changeFile
      rw [hclose]
      rfl
    unfold ResultsWriter.destroy
    rw [hchange]
    dsimp only
    rw [hclosed.output_eq, OutputStream.closeStream_closed]
    exact List.append_nil ops
  rw [hclosed.disk_eq] at hleads
  rw [heq]
  exact ⟨fs', _, hleads, hclosed.published, hrows⟩

/-- **Insertion.**  The first row of a file has the header in front of it. -/
theorem insert (h : Writing s codec w d fs rows p) (hname : s.outputFormatName ≠ []) (tuple : Text) :
    ∃ w' ops, w.insert s tuple = (w', ops) ∧ Leads s codec d ops d ∧
      Writing s codec w' d fs (rows ++ [tuple]) p := by
  have hwrite : Disk.apply d (.write p.tmp) = d := by
    rw [h.disk_eq]
    exact Disk.put_last (Published.untouched_tmp fs codec p) none none
  have hone : Leads s codec d [.write p.tmp] d := by
    refine leads_cons h.complete (isTmp_tmp p) ?_
    rw [hwrite]
    exact leads_nil h.complete
  have hwriting : Writing s codec
      ⟨w.inserts + 1, w.seqNumber, { w.output with text := s.text (rows ++ [tuple]) },
        w.outputCreationTime⟩ d fs (rows ++ [tuple]) p := by
    refine ⟨h.published, h.name_eq, h.disk_eq, ?_, ?_⟩
    · rw [h.output_eq, if_neg (List.append_ne_nil_of_right_ne_nil _ (List.cons_ne_nil _ _))]
    · show w.inserts + 1 = _
      rw [h.inserts_eq, List.length_append]
      rfl
  refine ⟨_, if rows = [] then [.write p.tmp] ++ [.write p.tmp] else [] ++ [.write p.tmp], ?_, ?_,
    hwriting⟩
  · unfold ResultsWriter.insert
    rw [h.output_eq, h.inserts_eq]
    by_cases hrows : rows = []
    · subst hrows
      rw [if_pos ⟨rfl, hname⟩, if_pos rfl, if_pos rfl]
      simp [OutputStream.write, Settings.text]
    · have hpos := List.length_pos_iff.mpr hrows
      rw [if_neg (fun hno => absurd hno.1 (Nat.ne_of_gt hpos)), if_neg hrows, if_neg hrows]
      simp [OutputStream.write, Settings.text]
  · split
    · exact hone.append hone
    · exact hone

end Writing

/-- A call, with any file that is open behind it. -/
theorem Writing.call {w : ResultsWriter} {d : Disk.Files Path β} {fs : List PublishedFile}
    {rows : List Text} {p : Path} (h : Writing s codec w d fs rows p)
    (hname : s.outputFormatName ≠ []) (c : Call) :
    ∃ d' fs' rows' p', Leads s codec d (w.call s codec c).2 d' ∧
      Writing s codec (w.call s codec c).1 d' fs' rows' p' ∧
      fs'.flatMap (·.tuples) ++ rows' = fs.flatMap (·.tuples) ++ rows ++ inserted [c] := by
  cases c with
  | insert tuple =>
    obtain ⟨w', ops, heq, hleads, hwriting⟩ := h.insert hname tuple
    have hcall : w.call s codec (.insert tuple) = (w', ops) := heq
    rw [hcall]
    exact ⟨d, fs, rows ++ [tuple], p, hleads, hwriting, (List.append_assoc _ _ _).symm⟩
  | mayStartNewTransaction t =>
    have hcall : w.call s codec (.mayStartNewTransaction t) =
        ((w.mayStartNewTransaction s codec t).1, (w.mayStartNewTransaction s codec t).2.1) := rfl
    rw [hcall]
    by_cases htime : Int.tdiv (t.now - w.outputCreationTime) 1000000000 > s.transactionLength
    · obtain ⟨d', fs', p', -, hleads, hwriting, hrows⟩ := h.changeFile t
      have hmay : w.mayStartNewTransaction s codec t = w.changeFile s codec t true := if_pos htime
      rw [hmay]
      refine ⟨d', fs', [], p', hleads, hwriting, ?_⟩
      rw [hrows]
      rfl
    · have hmay : w.mayStartNewTransaction s codec t = (w, ([] : List (Op β)), true) := if_neg htime
      rw [hmay]
      exact ⟨d, fs, rows, p, leads_nil h.complete, h, (List.append_nil _).symm⟩

/-- **Calls and destruction.** -/
theorem Writing.callAll {w : ResultsWriter} {d : Disk.Files Path β} {fs : List PublishedFile}
    {rows : List Text} {p : Path} (h : Writing s codec w d fs rows p)
    (hname : s.outputFormatName ≠ []) (calls : List Call) :
    ∃ fs' n, Leads s codec d (w.callAll s codec calls)
        (fs'.map (PublishedFile.file s codec)) ∧ Published fs' n ∧
      fs'.flatMap (·.tuples) = fs.flatMap (·.tuples) ++ rows ++ inserted calls := by
  induction calls generalizing w d fs rows p with
  | nil =>
    obtain ⟨fs', n, hleads, hpublished, hrows⟩ := h.destroy
    exact ⟨fs', n, hleads, hpublished, hrows.trans (List.append_nil _).symm⟩
  | cons c calls ih =>
    obtain ⟨d', fs', rows', p', hleads, hwriting, hrows⟩ := h.call hname c
    obtain ⟨fs'', n, hleads', hpublished, hrows'⟩ := ih hwriting
    refine ⟨fs'', n, hleads.append hleads', hpublished, ?_⟩
    have hinserted : inserted (c :: calls) = inserted [c] ++ inserted calls := by
      unfold inserted
      rw [List.flatMap_cons, List.flatMap_singleton]
    rw [hrows', hrows, hinserted, List.append_assoc]

/-- **Publication.**  Behind any calls and the destruction, the files have the inserted rows in their
order; and at every moment, each file with a final name is complete, with a header and rows, and has
got its name from a temporary file. -/
theorem files_published (s : Settings) (codec : Codec β) (hname : s.outputFormatName ≠ [])
    (t : Clock) (calls : List Call) :
    (∃ fs : List PublishedFile,
      Disk.run [] (ResultsWriter.life s codec t calls) = fs.map (PublishedFile.file s codec) ∧
      (fs.map (·.seqNumber)).Pairwise (· < ·) ∧ (∀ f ∈ fs, f.tuples ≠ []) ∧
      fs.flatMap (·.tuples) = inserted calls) ∧
    (∀ done, done <+: ResultsWriter.life s codec t calls → Complete s codec (Disk.run [] done)) ∧
    ∀ op ∈ ResultsWriter.life s codec t calls, ByRename op := by
  have hmake : Closed s codec ResultsWriter.make.output [] [] 1 := closed_make
  have hfirst : (s.targetFileName 1 t.system).name = s.fileName 1 := rfl
  obtain ⟨o, ops, d, hopen, -, hleads, hwriting⟩ := hmake.opening hfirst t.created
  have hprepare : ResultsWriter.make.prepare s codec t = (⟨0, 1, o, t.created⟩, ops, o.isComplete) := by
    have hclose : ResultsWriter.make.output.closeStream codec
        (decide (ResultsWriter.make.inserts > 0)) = some (⟨none, none, none, .none, []⟩, []) := rfl
    have hopen' : OutputStream.openStream codec
        (s.targetFileName (ResultsWriter.make.seqNumber + 1) t.system) .fromExtension
        ⟨none, none, none, .none, []⟩ = some (o, ops) := hopen
    unfold ResultsWriter.prepare ResultsWriter.changeFile
    rw [hclose]
    dsimp only
    rw [if_pos rfl, hopen']
    rfl
  obtain ⟨fs, n, hleads', hpublished, hrows⟩ := hwriting.callAll hname calls
  have hlife := hleads.append hleads'
  unfold ResultsWriter.life
  rw [hprepare]
  exact ⟨⟨fs, hlife.run_eq, hpublished.increasing, hpublished.nonempty, hrows⟩, hlife.always,
    hlife.byRename⟩

/-! ## Two files -/

/-- Files without compression. -/
def plain : Codec Text := ⟨fun _ text => text, fun _ text => text, fun _ _ => rfl⟩

def pingSettings : Settings where
  programID := "HiPerConTracer".toList
  directory := "results".toList
  uniqueID := "Ping-P1-10.0.0.1".toList
  transactionLength := 60
  timestampDepth := 0
  compressor := .none
  outputFormatName := "Ping".toList
  outputFormatVersion := 2

/-- The clocks so many seconds after the begin. -/
def atSecond (n : Int) : Clock := ⟨n * 1000000000, n * 1000000000, n * 1000000000⟩

/-- Two rows, a period without rows, and another row. -/
def pingCalls : List Call := [
  .insert "#Pi 1".toList,
  .insert "#Pi 2".toList,
  .mayStartNewTransaction (atSecond 61),
  .mayStartNewTransaction (atSecond 200),
  .insert "#Pi 3".toList]

theorem files_published_ping :
    (∃ fs : List PublishedFile,
      Disk.run [] (ResultsWriter.life pingSettings plain (atSecond 0) pingCalls) =
        fs.map (PublishedFile.file pingSettings plain) ∧
      (fs.map (·.seqNumber)).Pairwise (· < ·) ∧ (∀ f ∈ fs, f.tuples ≠ []) ∧
      fs.flatMap (·.tuples) = inserted pingCalls) ∧
    (∀ done, done <+: ResultsWriter.life pingSettings plain (atSecond 0) pingCalls →
      Complete pingSettings plain (Disk.run [] done)) ∧
    ∀ op ∈ ResultsWriter.life pingSettings plain (atSecond 0) pingCalls, ByRename op :=
  files_published pingSettings plain (by decide) (atSecond 0) pingCalls

example : Disk.run [] (ResultsWriter.life pingSettings plain (atSecond 0) pingCalls) =
    [(⟨["results".toList], "Ping-P1-10.0.0.1-000000001.hpct".toList⟩,
        some "#? HPCT Ping 2 HiPerConTracer\n#Pi 1\n#Pi 2\n".toList),
      (⟨["results".toList], "Ping-P1-10.0.0.1-000000003.hpct".toList⟩,
        some "#? HPCT Ping 2 HiPerConTracer\n#Pi 3\n".toList)] := by
  decide +kernel

end HiPerConTracer.Writer
