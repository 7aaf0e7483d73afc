import HiPerConTracer.Lib.Calendar
import HiPerConTracer.Net.AddressText
import HiPerConTracer.Service.IOModule
import HiPerConTracer.Writer.ResultsWriter

/-!
# Names of results files (`resultswriter.cc`, `hipercontracer.cc`)

`makeResultsWriter` puts the service, the IO module, the measurement or process, the source and the time
into the name of the files of a writer, and `changeFile` a number and the extensions.  The time is one of
`boost::posix_time`, in microseconds.
-/

namespace HiPerConTracer.Writer
open Net Service
open Results (Text)

/-! ## Times -/

/-- `boost::posix_time::ptime`. -/
structure PTime extends Calendar.DateTime where
  microseconds : Nat
  year_range : 1400 ≤ year ∧ year ≤ 9999
  microseconds_lt : microseconds < 1000000

namespace PTime

/-- Nanoseconds since 1970-01-01, in all years. -/
def timeStamp (t : PTime) : Int :=
  t.timegm * 1000000000 + t.microseconds * 1000

def dateText (t : PTime) : Text :=
  Numeral.padded 10 4 t.year ++ Numeral.padded 10 2 t.month ++ Numeral.padded 10 2 t.day

def clockText (t : PTime) : Text :=
  Numeral.padded 10 2 t.hours ++ Numeral.padded 10 2 t.minutes ++ Numeral.padded 10 2 t.seconds

/-- A fraction of zero is not printed. -/
def fractionText (t : PTime) : Text :=
  if t.microseconds = 0 then [] else '.' :: Numeral.padded 10 6 t.microseconds

/-- `to_iso_string`. -/
def toIsoString (t : PTime) : Text := t.dateText ++ 'T' :: t.clockText ++ t.fractionText

end PTime

/-! ## Names -/

/-- The services, and the readers of their files. -/
inductive FileType where
  | ping
  | traceroute
deriving DecidableEq, Repr

/-- `Identification`. -/
def FileType.identification : FileType → Text
  | .ping => ['P', 'i', 'n', 'g']
  | .traceroute => ['T', 'r', 'a', 'c', 'e', 'r', 'o', 'u', 't', 'e']

/-- The names in `REGISTER_IOMODULE`. -/
def moduleName : ProtocolType → Text
  | .icmp => ['I', 'C', 'M', 'P']
  | .udp => ['U', 'D', 'P']

/-- What `main` gives to `makeResultsWriter`. -/
def resultsPrefix (type : FileType) (ioModule : ProtocolType) : Text :=
  type.identification ++ '-' :: moduleName ioModule

/-- What the operating system says to a process. -/
structure Host where
  interfaceName : UInt32 → Option Text
  /-- Names of interfaces have no slashes. -/
  interfaceName_valid : ∀ scopeID name, interfaceName scopeID = some name → '/' ∉ name
  pid : Nat
  universalTime : PTime

/-- The measurement, or the process. -/
def identifierText (host : Host) (measurementID : UInt32) : Text :=
  if measurementID ≠ 0 then '#' :: Numeral.text 10 measurementID.toNat
  else 'P' :: Numeral.text 10 host.pid

def replaceSpaces (text : Text) : Text := text.map fun c => if c = ' ' then '-' else c

def uniqueID (host : Host) (measurementID : UInt32) (sourceAddress : Address)
    (resultsPrefix : Text) : Text :=
  replaceSpaces (resultsPrefix ++ '-' :: identifierText host measurementID ++
    '-' :: addressText host.interfaceName sourceAddress ++ '-' :: host.universalTime.toIsoString)

/-- `makeResultsWriter`; the output format is specified afterwards. -/
def makeResultsWriter (host : Host) (programID : Text) (measurementID : UInt32)
    (sourceAddress : Address) (resultsPrefix resultsDirectory : Text)
    (resultsTransactionLength resultsTimestampDepth : Nat) (compressor : CompressorType) :
    Option Settings :=
  if resultsDirectory = [] then none
  else
    some {
      programID := programID
      directory := resultsDirectory
      uniqueID := uniqueID host measurementID sourceAddress resultsPrefix
      transactionLength := resultsTransactionLength
      timestampDepth := resultsTimestampDepth
      compressor := compressor
      outputFormatName := []
      outputFormatVersion := 0 }

/-! ## Characters -/

/-- Neither a slash, which would separate directories, nor a space, which would be replaced. -/
def isPlain (c : Char) : Bool := c ≠ '/' ∧ c ≠ ' '

theorem isPlain_digits {text : Text} (h : ∀ c ∈ text, ∃ d < 10, c = Nat.digitChar d) :
    ∀ c ∈ text, isPlain c = true := by
  intro c hc
  obtain ⟨d, hd, rfl⟩ := h c hc
  have hdigit : ∀ d < 10, isPlain (Nat.digitChar d) = true := by decide
  exact hdigit d hd

theorem isPlain_text (n : Nat) : ∀ c ∈ Numeral.text 10 n, isPlain c = true :=
  isPlain_digits fun _ hc => Numeral.mem_text (by decide) hc

theorem isPlain_padded (width n : Nat) : ∀ c ∈ Numeral.padded 10 width n, isPlain c = true :=
  isPlain_digits fun _ hc => Numeral.mem_padded (by decide) hc

theorem isPlain_plainText (a : Address) : ∀ c ∈ Net.plainText a, isPlain c = true := by
  intro c hc
  have haddress := isAddressChar_plainText a c hc
  have hslash : c ≠ '/' := by
    rintro rfl
    cases haddress
  have hspace : c ≠ ' ' := by
    rintro rfl
    cases haddress
  exact decide_eq_true ⟨hslash, hspace⟩

theorem isPlain_cons {c : Char} {text : Text} (hc : isPlain c = true)
    (h : ∀ x ∈ text, isPlain x = true) : ∀ x ∈ c :: text, isPlain x = true :=
  List.forall_mem_cons.mpr ⟨hc, h⟩

theorem isPlain_append {text text' : Text} (h : ∀ c ∈ text, isPlain c = true)
    (h' : ∀ c ∈ text', isPlain c = true) : ∀ c ∈ text ++ text', isPlain c = true :=
  List.forall_mem_append.mpr ⟨h, h'⟩

theorem isPlain_resultsPrefix (type : FileType) (ioModule : ProtocolType) :
    ∀ c ∈ resultsPrefix type ioModule, isPlain c = true := by
  cases type <;> cases ioModule <;> exact List.all_eq_true.mp rfl

theorem isPlain_identifierText (host : Host) (measurementID : UInt32) :
    ∀ c ∈ identifierText host measurementID, isPlain c = true := by
  unfold identifierText
  split
  · exact isPlain_cons rfl (isPlain_text _)
  · exact isPlain_cons rfl (isPlain_text _)

theorem isPlain_toIsoString (t : PTime) : ∀ c ∈ t.toIsoString, isPlain c = true := by
  have hfraction : ∀ c ∈ t.fractionText, isPlain c = true := by
    unfold PTime.fractionText
    split
    · exact List.forall_mem_nil _
    · exact isPlain_cons rfl (isPlain_padded _ _)
  have hdate := isPlain_append (isPlain_append (isPlain_padded 4 t.year) (isPlain_padded 2 t.month))
    (isPlain_padded 2 t.day)
  have hclock := isPlain_append (isPlain_append (isPlain_padded 2 t.hours)
    (isPlain_padded 2 t.minutes)) (isPlain_padded 2 t.seconds)
  exact isPlain_append (isPlain_append hdate (isPlain_cons rfl hclock)) hfraction

/-! ## The parts of a name -/

theorem replaceSpaces_append (text text' : Text) :
    replaceSpaces (text ++ text') = replaceSpaces text ++ replaceSpaces text' :=
  List.map_append

theorem replaceSpaces_eq {text : Text} (h : ∀ c ∈ text, isPlain c = true) :
    replaceSpaces text = text := by
  unfold replaceSpaces
  refine (List.map_congr_left fun c hc => ?_).trans (List.map_id _)
  exact if_neg (of_decide_eq_true (h c hc)).2

theorem slash_not_mem_replaceSpaces {text : Text} (h : '/' ∉ text) : '/' ∉ replaceSpaces text := by
  intro hmem
  obtain ⟨c, hc, heq⟩ := List.mem_map.mp hmem
  split at heq
  · cases heq
  · exact h (heq ▸ hc)

theorem slash_not_mem_of_isPlain {text : Text} (h : ∀ c ∈ text, isPlain c = true) : '/' ∉ text :=
  fun hmem => absurd (h '/' hmem) (by decide)

theorem slash_not_mem_zone (host : Host) (value : BitVec 128) (scopeID : UInt32) :
    '/' ∉ zone host.interfaceName value scopeID := by
  have hdigits := slash_not_mem_of_isPlain (isPlain_text scopeID.toNat)
  unfold zone
  simp only
  split
  · next name hname =>
    split
    · exact host.interfaceName_valid scopeID name hname
    · exact hdigits
  · exact hdigits

variable (host : Host) (type : FileType) (ioModule : ProtocolType) (measurementID : UInt32)

/-- What is in front of the source in a name. -/
def nameBegin : Text := resultsPrefix type ioModule ++ '-' :: identifierText host measurementID ++ ['-']

theorem isPlain_nameBegin : ∀ c ∈ nameBegin host type ioModule measurementID, isPlain c = true :=
  isPlain_append (isPlain_append (isPlain_resultsPrefix type ioModule)
    (isPlain_cons (by decide) (isPlain_identifierText host measurementID)))
    (List.all_eq_true.mp (by decide))

variable {host} {type} {ioModule} {measurementID} {sourceAddress : Address}

theorem uniqueID_eq {text : Text}
    (h : addressText host.interfaceName sourceAddress = Net.plainText sourceAddress ++ text) :
    uniqueID host measurementID sourceAddress (resultsPrefix type ioModule) =
      nameBegin host type ioModule measurementID ++ Net.plainText sourceAddress ++
        replaceSpaces (text ++ '-' :: host.universalTime.toIsoString) := by
  have hplain := isPlain_append (isPlain_nameBegin host type ioModule measurementID)
    (isPlain_plainText sourceAddress)
  rw [← replaceSpaces_eq hplain, ← replaceSpaces_append]
  unfold uniqueID nameBegin
  rw [h]
  simp only [List.append_assoc, List.cons_append, List.nil_append]

theorem uniqueID_of_not_hasScope (h : sourceAddress.hasScope = false) :
    uniqueID host measurementID sourceAddress (resultsPrefix type ioModule) =
      nameBegin host type ioModule measurementID ++ Net.plainText sourceAddress ++
        '-' :: host.universalTime.toIsoString := by
  have haddress := addressText_of_not_hasScope host.interfaceName h
  rw [uniqueID_eq (haddress.trans (List.append_nil _).symm), List.nil_append,
    replaceSpaces_eq (isPlain_cons (by decide) (isPlain_toIsoString host.universalTime))]

theorem uniqueID_of_hasScope (h : sourceAddress.hasScope = true) :
    ∃ text, uniqueID host measurementID sourceAddress (resultsPrefix type ioModule) =
      nameBegin host type ioModule measurementID ++ Net.plainText sourceAddress ++ '%' :: text := by
  obtain ⟨value, scopeID, haddress⟩ := addressText_of_hasScope host.interfaceName h
  exact ⟨_, uniqueID_eq haddress⟩

theorem slash_not_mem_uniqueID :
    '/' ∉ uniqueID host measurementID sourceAddress (resultsPrefix type ioModule) := by
  have hbegin := slash_not_mem_of_isPlain (isPlain_append
    (isPlain_nameBegin host type ioModule measurementID) (isPlain_plainText sourceAddress))
  have htime := slash_not_mem_of_isPlain (isPlain_cons (c := '-') (by decide)
    (isPlain_toIsoString host.universalTime))
  cases hscope : sourceAddress.hasScope with
  | false =>
    rw [uniqueID_of_not_hasScope hscope, List.mem_append, not_or]
    exact ⟨hbegin, htime⟩
  | true =>
    obtain ⟨value, scopeID, haddress⟩ := addressText_of_hasScope host.interfaceName hscope
    rw [uniqueID_eq haddress, List.mem_append, not_or]
    refine ⟨hbegin, slash_not_mem_replaceSpaces ?_⟩
    rw [List.cons_append, List.mem_cons, List.mem_append, not_or, not_or]
    exact ⟨by decide, slash_not_mem_zone host value scopeID, htime⟩

theorem slash_not_mem_fileName {s : Settings}
    (h : s.uniqueID = uniqueID host measurementID sourceAddress (resultsPrefix type ioModule))
    (n : Nat) : '/' ∉ s.fileName n := by
  have hnumber := slash_not_mem_of_isPlain (isPlain_padded 9 n)
  have hextension : '/' ∉ getExtensionForCompressor s.compressor := by
    cases s.compressor <;> decide
  unfold Settings.fileName
  simp only [List.mem_append, not_or]
  rw [h]
  exact ⟨⟨⟨⟨slash_not_mem_uniqueID, by decide⟩, hnumber⟩, by decide⟩, hextension⟩

end HiPerConTracer.Writer
