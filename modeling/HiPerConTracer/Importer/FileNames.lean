import HiPerConTracer.Importer.Queues
import HiPerConTracer.Lib.Binary64
import HiPerConTracer.Lib.Regex
import HiPerConTracer.Writer.FileNames

/-!
# Names of results files in the importer (`reader-ping.cc`, `reader-traceroute.cc`, `tools.h`)

The readers find the source, the time stamp and the number of a file by a regular expression for its
name.  They do not find the files of all writers: for any service, IO module, measurement, source, time,
number and compressor, a reader makes an entry with these values

    ↔ the source has no scope identifier, the microseconds are not zero and survive a double,
      the time is a time point of the reader, there is no extension .zst or .zz,
      and the number has 32 bits                                       (fileName_imported_iff)
-/

namespace HiPerConTracer.Importer
open Calendar Net Service Writer
open Results (Text)

/-! ## Regular expression -/

section
open Regex

def isUpper (c : Char) : Bool := 'A' ≤ c && c ≤ 'Z'

def isDigit (c : Char) : Bool := '0' ≤ c && c ≤ '9'

/-- `\\.(hpct|results)(\\.xz|\\.bz2|\\.gz|)` -/
def extensionRegExp : Regex :=
  seq (single '.') <|
  seq (group (alt (text ['h', 'p', 'c', 't']) (text ['r', 'e', 's', 'u', 'l', 't', 's']))) <|
  group (alt (text ['.', 'x', 'z']) (alt (text ['.', 'b', 'z', '2']) (alt (text ['.', 'g', 'z']) empty)))

/-- `[0-9]{8}T[0-9]+\\.[0-9]{6}` -/
def timeRegExp : Regex :=
  seq (times isDigit 8) <| seq (single 'T') <| seq (run isDigit) <| seq (single '.') <| times isDigit 6

/-- `-([0-9]{8}T[0-9]+\\.[0-9]{6})-([0-9]*)`, and the extensions. -/
def timeNumberRegExp : Regex :=
  seq (single '-') <| seq (group timeRegExp) <|
  seq (single '-') <| seq (group (many isDigit)) extensionRegExp

/-- `FileNameRegExp` -/
def fileNameRegExp (type : FileType) : Regex :=
  seq (text type.identification) <| seq (single '-') <|
  seq (group (alt (seq (run isUpper) (single '-')) empty)) <|
  seq (group (char fun c => c == '#' || c == 'P')) <| seq (group (run isDigit)) <|
  seq (single '-') <| seq (group (run isAddressChar)) timeNumberRegExp

end

/-! ## Time stamps -/

/-- `_M_extract_num`: up to `length` digits, with a value in a range. -/
def extractNumber (length min max : Nat) (text : Text) : Option (Nat × Text) :=
  let digits := (text.take length).takeWhile isDigit
  let value := Numeral.value 10 digits
  if digits = [] ∨ value < min ∨ max < value then none else some (value, text.drop digits.length)

def extractChar (c : Char) : Text → Option Text
  | [] => none
  | x :: text => if x = c then some text else none

/-- `std::get_time` and `timegm`, for the format %Y%m%dT%H%M%S. -/
def getTime (text : Text) : Option (Int × Text) := do
  let (year, text) ← extractNumber 4 0 9999 text
  let (month, text) ← extractNumber 2 1 12 text
  let (day, text) ← extractNumber 2 1 31 text
  let text ← extractChar 'T' text
  let (hours, text) ← extractNumber 2 0 23 text
  let (minutes, text) ← extractNumber 2 0 59 text
  let (seconds, text) ← extractNumber 2 0 60 text
  some (timegm year month day hours minutes seconds, text)

/-- The nanoseconds of the fraction in these digits, through a double. -/
def fractionNanoseconds (digits : Text) : Nat :=
  ((Binary64.ofQuotient (Numeral.value 10 digits) (10 ^ digits.length)).mulNat 1000000000).trunc

/-- The time points of a reader are nanoseconds since the epoch, in 64 bits. -/
def readerTimePoint (nanoseconds : Int) : Int := nanoseconds.bmod (2 ^ 64)

/-- From 1677 to 2262. -/
def IsReaderTimePoint (nanoseconds : Int) : Prop := -2 ^ 63 ≤ nanoseconds ∧ nanoseconds < 2 ^ 63

instance (nanoseconds : Int) : Decidable (IsReaderTimePoint nanoseconds) :=
  inferInstanceAs (Decidable (_ ∧ _))

/-- `stringToTimePoint`, for a fraction of digits. -/
def stringToTimePoint (text : Text) : Option Int := do
  let (seconds, text) ← getTime text
  let timePoint := readerTimePoint (seconds * 1000000000)
  match text with
  | [] => some timePoint
  | '.' :: d :: digits => some (readerTimePoint (timePoint + fractionNanoseconds (d :: digits)))
  | _ => none

/-! ## Entries -/

/-- The path of a text, in which slashes separate the elements. -/
def FilesystemPath.ofText (text : Text) : FilesystemPath :=
  let parts := text.splitOn '/'
  let directories := parts.dropLast.filter (· ≠ [])
  let name := parts.getLastD []
  ⟨text.head? = some '/',
    (if directories = [] ∧ name = [] then [] else directories ++ [name]).map String.ofList⟩

/-- `atol`, for digits. -/
def atol (digits : Text) : Nat := min (Numeral.value 10 digits) (2 ^ 63 - 1)

/-- What `regex_match` and `makeInputFileEntry` find in the name of a file. -/
def nameParts (type : FileType) (filename : String) : Option NameParts :=
  match (fileNameRegExp type).find filename.toList with
  | some [_, _, id, source, time, seqNumber, _, _] =>
    (stringToTimePoint time).map fun timeStamp =>
      ⟨UInt32.ofNat (atol id), String.ofList source, timeStamp, atol seqNumber % 2 ^ 32⟩
  | _ => none

/-! ## Microseconds as doubles -/

/-- The fraction in 53 bits is above 2^82 / 10^9, or what it loses is small, or it is rounded up. -/
def survivesDouble (microseconds : Nat) : Bool :=
  let fraction := microseconds * 2 ^ Binary64.scale microseconds 1000000
  4835703278458516 < fraction / 1000000 ∨ fraction % 1000000 ≤ 268435 ∨ 500000 < fraction % 1000000

/-- The product with 10^9 has 29 or 30 bits more in front of the point. -/
theorem scale_product {m e : Nat} (hm1 : 2 ^ 52 ≤ m) (hm2 : m ≤ 2 ^ 53) (he : 52 ≤ e) :
    e = Binary64.scale (m * 1000000000) (2 ^ e) + if m ≤ 4835703278458516 then 29 else 30 := by
  have hlt : m * 1000000000 < 2 ^ 53 * 2 ^ e := by
    have := Nat.pow_le_pow_right (show 0 < 2 by decide) he
    omega
  obtain ⟨hlow, hhigh⟩ := Binary64.scale_spec (by omega) (Nat.two_pow_pos e) hlt
  generalize Binary64.scale (m * 1000000000) (2 ^ e) = e' at hlow hhigh ⊢
  -- the bits of the product bound the difference of the scales
  have hbits : ∀ b, 2 ^ b ≤ m * 1000000000 → m * 1000000000 < 2 ^ (b + 1) → b + e' = 52 + e := by
    intro b hb1 hb2
    have h1 : 2 ^ (b + e') < 2 ^ (53 + e) := by
      calc 2 ^ (b + e') = 2 ^ b * 2 ^ e' := Nat.pow_add 2 b e'
        _ ≤ m * 1000000000 * 2 ^ e' := Nat.mul_le_mul_right _ hb1
        _ < 2 ^ 53 * 2 ^ e := hhigh
        _ = 2 ^ (53 + e) := (Nat.pow_add 2 53 e).symm
    have h2 : 2 ^ (52 + e) < 2 ^ (b + 1 + e') := by
      calc 2 ^ (52 + e) = 2 ^ 52 * 2 ^ e := Nat.pow_add 2 52 e
        _ ≤ m * 1000000000 * 2 ^ e' := hlow
        _ < 2 ^ (b + 1) * 2 ^ e' := Nat.mul_lt_mul_of_pos_right hb2 (Nat.two_pow_pos e')
        _ = 2 ^ (b + 1 + e') := (Nat.pow_add 2 (b + 1) e').symm
    have h1 := (Nat.pow_lt_pow_iff_right (by decide)).mp h1
    have h2 := (Nat.pow_lt_pow_iff_right (by decide)).mp h2
    omega
  split
  · have := hbits 81 (by omega) (by omega)
    omega
  · have := hbits 82 (by omega) (by omega)
    omega

/-- The multiplication with 10^9 and the division, behind the rounding of the fraction to `m`. -/
theorem nearest_product_iff {n m t p b : Nat} (hb : b = 29 ∨ b = 30) (hp : 2 ^ 22 ≤ p)
    (hn : n = t * 2 ^ b) (hm : 2 * (m * 1000000) ≤ 2 * n + 1000000) :
    (t * 1000 ≤ Binary64.nearest (m * 1000000000) (2 ^ b) ∧
      Binary64.nearest (m * 1000000000) (2 ^ b) ≤ t * 1000 + p - 1) ↔
    2 * n * 1000 ≤ 2 * m * 1000000000 + 2 ^ b := by
  have hle := Binary64.nearest_mul_le (m * 1000000000) (2 ^ b)
  rw [Binary64.le_nearest_iff (Nat.two_pow_pos b) (by omega)]
  generalize Binary64.nearest (m * 1000000000) (2 ^ b) = result at hle ⊢
  rcases hb with rfl | rfl
  · constructor
    · omega
    · omega
  · constructor
    · omega
    · omega

/-- The rounding to `m`, where halves do not occur. -/
theorem nearest_million {n : Nat} (h : n % 64 = 0) :
    n / 1000000 = Binary64.nearest n 1000000 ∧ n % 1000000 < 500000 ∨
      n / 1000000 + 1 = Binary64.nearest n 1000000 ∧ 500000 < n % 1000000 := by
  unfold Binary64.nearest
  split
  · omega
  · omega

/-- **Through a double.**  Microseconds become the right nanoseconds unless the double is too small. -/
theorem fractionNanoseconds_eq_iff {k : Nat} (hk : 0 < k) (hk' : k < 1000000) :
    fractionNanoseconds (Numeral.padded 10 6 k) = k * 1000 ↔ survivesDouble k = true := by
  obtain ⟨hlow, hhigh⟩ := Binary64.scale_spec hk (show 0 < 1000000 by decide) (by omega)
  have hexponent : 52 ≤ Binary64.scale k 1000000 := by
    have hpow : 2 ^ 52 < 2 ^ Binary64.scale k 1000000 := by
      refine Nat.lt_of_mul_lt_mul_left (a := 1000000) ?_
      calc 1000000 * 2 ^ 52 ≤ k * 2 ^ Binary64.scale k 1000000 := by omega
        _ < 1000000 * 2 ^ Binary64.scale k 1000000 :=
          Nat.mul_lt_mul_of_pos_right hk' (Nat.two_pow_pos _)
    exact ((Nat.pow_lt_pow_iff_right (by decide)).mp hpow).le
  unfold fractionNanoseconds survivesDouble
  rw [Numeral.value_padded (by decide) (by decide), Numeral.padded_length (by decide) (by decide) hk']
  unfold Binary64.ofQuotient Binary64.mulNat Binary64.trunc Binary64.ofQuotient
  simp only [decide_eq_true_eq]
  rw [show 10 ^ 6 = 1000000 from rfl]
  generalize Binary64.scale k 1000000 = e at hlow hhigh hexponent ⊢
  have h64 : k * 2 ^ e % 64 = 0 := by
    rw [show e = 6 + (e - 6) by omega, Nat.pow_add, Nat.mul_left_comm]
    exact Nat.mul_mod_right _ _
  have hm := nearest_million h64
  have hle := Binary64.nearest_mul_le (k * 2 ^ e) 1000000
  generalize Binary64.nearest (k * 2 ^ e) 1000000 = m at hm hle ⊢
  have hscale := scale_product (m := m) (by omega) (by omega) hexponent
  generalize Binary64.scale (m * 1000000000) (2 ^ e) = e' at hscale ⊢
  obtain ⟨b, hb, hbits⟩ : ∃ b, e = e' + b ∧ (b = 29 ∧ m ≤ 4835703278458516 ∨
      b = 30 ∧ 4835703278458516 < m) := by
    split at hscale
    · next hle => exact ⟨29, hscale, .inl ⟨rfl, hle⟩⟩
    · next hlt => exact ⟨30, hscale, .inr ⟨rfl, Nat.lt_of_not_le hlt⟩⟩
  have hpos : 2 ^ 22 ≤ 2 ^ e' := Nat.pow_le_pow_right (by decide) (by omega)
  have hpow : 2 ^ e = 2 ^ b * 2 ^ e' := by rw [hb, Nat.pow_add, Nat.mul_comm]
  have hmul : k * 2 ^ e = k * 2 ^ e' * 2 ^ b := by rw [hpow, Nat.mul_comm (2 ^ b), Nat.mul_assoc]
  have hproduct : Binary64.nearest (m * 1000000000 * 2 ^ e') (2 ^ e) =
      Binary64.nearest (m * 1000000000) (2 ^ b) := by
    rw [hpow, Binary64.nearest_mul_right _ _ (Nat.two_pow_pos e')]
  rw [Nat.div_eq_iff (Nat.two_pow_pos e'), hproduct, Nat.mul_right_comm k 1000,
    nearest_product_iff (by omega) hpos hmul hle]
  generalize k * 2 ^ e = n at hlow hhigh hm ⊢
  rcases hbits with ⟨rfl, hbits⟩ | ⟨rfl, hbits⟩
  · omega
  · omega

theorem fractionNanoseconds_padded_le {k : Nat} (hk : k < 1000000) :
    fractionNanoseconds (Numeral.padded 10 6 k) ≤ 2000000001 := by
  unfold fractionNanoseconds
  rw [Numeral.value_padded (by decide) (by decide), Numeral.padded_length (by decide) (by decide) hk]
  unfold Binary64.mulNat
  refine (Binary64.trunc_ofQuotient_le _ _).trans (Nat.succ_le_succ ?_)
  refine Nat.div_le_of_le_mul ?_
  have hmantissa := Binary64.mantissa_ofQuotient_le k (10 ^ 6)
  generalize (Binary64.ofQuotient k (10 ^ 6)).mantissa = m at hmantissa ⊢
  have hone : 1 ≤ 2 ^ (Binary64.ofQuotient k (10 ^ 6)).exponent := Nat.one_le_two_pow
  have hexponent : (Binary64.ofQuotient k (10 ^ 6)).exponent = Binary64.scale k (10 ^ 6) := rfl
  rw [hexponent] at hone ⊢
  have hle : k * 2 ^ Binary64.scale k (10 ^ 6) / 10 ^ 6 ≤ 2 ^ Binary64.scale k (10 ^ 6) := by
    refine Nat.div_le_of_le_mul ?_
    exact Nat.mul_le_mul_right _ hk.le
  omega

/-! ## Reading times back -/

theorem isDigit_digitChar : ∀ d < 10, isDigit (Nat.digitChar d) = true := by decide

theorem isDigit_text (n : Nat) : ∀ c ∈ Numeral.text 10 n, isDigit c = true := by
  intro c hc
  obtain ⟨d, hd, rfl⟩ := Numeral.mem_text (by decide) hc
  exact isDigit_digitChar d hd

theorem isDigit_padded (width n : Nat) : ∀ c ∈ Numeral.padded 10 width n, isDigit c = true := by
  intro c hc
  obtain ⟨d, hd, rfl⟩ := Numeral.mem_padded (by decide) hc
  exact isDigit_digitChar d hd

theorem extractNumber_padded {width lo hi n : Nat} (hw : 0 < width) (hn : n < 10 ^ width)
    (hlo : lo ≤ n) (hhi : n ≤ hi) (rest : Text) :
    extractNumber width lo hi (Numeral.padded 10 width n ++ rest) = some (n, rest) := by
  have hlength := Numeral.padded_length (show 1 < 10 by decide) hw hn
  have hdigits : (Numeral.padded 10 width n).takeWhile isDigit = Numeral.padded 10 width n :=
    List.takeWhile_eq_self_iff.mpr (isDigit_padded width n)
  have hne : Numeral.padded 10 width n ≠ [] := by
    rw [← List.length_pos_iff, hlength]
    exact hw
  have hrange : ¬ (Numeral.padded 10 width n = [] ∨ n < lo ∨ hi < n) := by
    rintro (h | h | h)
    · exact hne h
    · omega
    · omega
  unfold extractNumber
  rw [List.take_left' hlength, hdigits]
  simp only
  rw [Numeral.value_padded (by decide) (by decide), List.drop_left, if_neg hrange]

theorem extractChar_cons (c : Char) (text : Text) : extractChar c (c :: text) = some text := if_pos rfl

theorem getTime_iso (t : PTime) (rest : Text) :
    getTime (t.dateText ++ 'T' :: (t.clockText ++ rest)) =
      some (timegm t.year t.month t.day t.hours t.minutes t.seconds, rest) := by
  have hyears := t.year_range
  have htwo : ∀ {lo hi n : Nat} (rest : Text), lo ≤ n → n ≤ hi → hi < 100 →
      extractNumber 2 lo hi (Numeral.padded 10 2 n ++ rest) = some (n, rest) :=
    fun rest hlo hhi h => extractNumber_padded (by decide) (by omega) hlo hhi rest
  have hyear := fun rest => extractNumber_padded (show 0 < 4 by decide)
    (show t.year < 10 ^ 4 by omega) (Nat.zero_le _) hyears.2 rest
  have hmonth := fun rest => htwo rest t.month_range.1 t.month_range.2 (by decide)
  have hday := fun rest => htwo rest t.day_range.1 t.day_le (by decide)
  have hhours := fun rest => htwo rest (Nat.zero_le _) (Nat.le_of_lt_succ t.hours_lt) (by decide)
  have hminutes := fun rest => htwo rest (Nat.zero_le _) (Nat.le_of_lt_succ t.minutes_lt) (by decide)
  have hseconds := fun rest => htwo rest (Nat.zero_le _) t.seconds_lt.le (by decide)
  unfold getTime PTime.dateText PTime.clockText
  simp only [List.append_assoc, hyear, hmonth, hday, extractChar_cons, hhours, hminutes, hseconds,
    Option.bind_eq_bind, Option.bind_some]

/-- The time stamp of a file, from the text of its time. -/
theorem stringToTimePoint_toIsoString {t : PTime} (h : t.microseconds ≠ 0) :
    stringToTimePoint t.toIsoString =
      some (readerTimePoint (timegm t.year t.month t.day t.hours t.minutes t.seconds * 1000000000 +
        fractionNanoseconds (Numeral.padded 10 6 t.microseconds))) := by
  have hfraction : t.fractionText = '.' :: Numeral.padded 10 6 t.microseconds := if_neg h
  have hlength := Numeral.padded_length (show 1 < 10 by decide) (show 0 < 6 by decide)
    (show t.microseconds < 10 ^ 6 from t.microseconds_lt)
  unfold stringToTimePoint PTime.toIsoString
  rw [List.append_assoc, List.cons_append, getTime_iso, hfraction, Option.bind_eq_bind, Option.bind_some]
  cases hdigits : Numeral.padded 10 6 t.microseconds with
  | nil =>
    rw [hdigits] at hlength
    cases hlength
  | cons d digits =>
    refine congrArg some ?_
    unfold readerTimePoint
    exact Int.bmod_add_bmod

/-- What the 64 bits hold is a time point, and is the same time up to their width. -/
theorem readerTimePoint_eq_iff {nanoseconds t : Int} :
    readerTimePoint nanoseconds = t ↔ IsReaderTimePoint t ∧ (2 ^ 64 : Int) ∣ nanoseconds - t := by
  unfold readerTimePoint IsReaderTimePoint
  rw [Int.bmod_eq_iff (by decide)]
  push_cast
  omega

theorem timeStamp_eq_iff {t : PTime} (h : t.microseconds ≠ 0) :
    stringToTimePoint t.toIsoString = some t.timeStamp ↔
      survivesDouble t.microseconds = true ∧ IsReaderTimePoint t.timeStamp := by
  have hfraction := fractionNanoseconds_padded_le t.microseconds_lt
  have hmicroseconds := t.microseconds_lt
  rw [stringToTimePoint_toIsoString h, ← fractionNanoseconds_eq_iff (by omega) t.microseconds_lt,
    Option.some_inj]
  rw [readerTimePoint_eq_iff, and_comm]
  refine and_congr_left fun _ => ?_
  unfold PTime.timeStamp DateTime.timegm
  omega

/-- A number comes back if it has 32 bits. -/
theorem atol_eq_iff {n : Nat} (hn : n < 2 ^ 64) :
    atol (Numeral.padded 10 9 n) % 2 ^ 32 = n ↔ n < 2 ^ 32 := by
  unfold atol
  rw [Numeral.value_padded (by decide) (by decide)]
  omega

/-! ## Finding the parts of a name -/

theorem dateText_length (t : PTime) : t.dateText.length = 8 := by
  have hyear := t.year_range.2
  have hmonth := t.month_range.2
  have hday := t.day_le
  unfold PTime.dateText
  rw [List.length_append, List.length_append, Numeral.padded_length (by decide) (by decide) (by omega),
    Numeral.padded_length (by decide) (by decide) (by omega),
    Numeral.padded_length (by decide) (by decide) (by omega)]

theorem isDigit_dateText (t : PTime) : ∀ c ∈ t.dateText, isDigit c = true := by
  unfold PTime.dateText
  simp only [List.forall_mem_append]
  exact ⟨⟨isDigit_padded 4 _, isDigit_padded 2 _⟩, isDigit_padded 2 _⟩

theorem isDigit_clockText (t : PTime) : ∀ c ∈ t.clockText, isDigit c = true := by
  unfold PTime.clockText
  simp only [List.forall_mem_append]
  exact ⟨⟨isDigit_padded 2 _, isDigit_padded 2 _⟩, isDigit_padded 2 _⟩

theorem clockText_ne_nil (t : PTime) : t.clockText ≠ [] := by
  unfold PTime.clockText Numeral.padded
  refine List.append_ne_nil_of_right_ne_nil _ (List.append_ne_nil_of_right_ne_nil _ ?_)
  exact Numeral.text_ne_nil _

/-- The time is found up to its seconds. -/
theorem timeRegExp_ways_clock (t : PTime) {text : Text} (h : Regex.Stops isDigit text) :
    timeRegExp.ways (t.dateText ++ 'T' :: (t.clockText ++ text)) =
      (Regex.seq (.single '.') (.times isDigit 6)).ways text := by
  unfold timeRegExp
  rw [Regex.ways_seq_plain (Regex.ways_times 8 (dateText_length t) (isDigit_dateText t)),
    Regex.ways_seq_plain (Regex.ways_single _ _),
    Regex.ways_run_seq (clockText_ne_nil t) (isDigit_clockText t) h (Regex.Rejects.single rfl).seq]

theorem timeRegExp_ways {t : PTime} (h : t.microseconds ≠ 0) (rest : Text) :
    timeRegExp.ways (t.toIsoString ++ rest) = [([], rest)] := by
  have hfraction : t.fractionText = '.' :: Numeral.padded 10 6 t.microseconds := if_neg h
  have hlength := Numeral.padded_length (show 1 < 10 by decide) (show 0 < 6 by decide)
    (show t.microseconds < 10 ^ 6 from t.microseconds_lt)
  unfold PTime.toIsoString
  simp only [hfraction, List.append_assoc, List.cons_append]
  rw [timeRegExp_ways_clock t (by rfl), Regex.ways_seq_plain (Regex.ways_single _ _),
    Regex.ways_times 6 hlength (isDigit_padded 6 _)]

/-- Without a fraction, there is no point behind the digits of the time. -/
theorem timeRegExp_ways_nil {t : PTime} (h : t.microseconds = 0) (rest : Text) :
    timeRegExp.ways (t.toIsoString ++ '-' :: rest) = [] := by
  have hfraction : t.fractionText = [] := if_pos h
  unfold PTime.toIsoString
  simp only [hfraction, List.append_assoc, List.cons_append, List.nil_append]
  rw [timeRegExp_ways_clock t (by rfl)]
  rfl

theorem extensionRegExp_find (compressor : CompressorType) :
    extensionRegExp.find (['.', 'h', 'p', 'c', 't'] ++ getExtensionForCompressor compressor) =
      if compressor = .zstd ∨ compressor = .zlib then none
      else some [['h', 'p', 'c', 't'], getExtensionForCompressor compressor] := by
  cases compressor <;> rfl

theorem moduleName_ways (ioModule : ProtocolType) (rest : Text) :
    (Regex.seq (.run isUpper) (.single '-')).ways (moduleName ioModule ++ ['-'] ++ rest) =
      [([], rest)] := by
  have hne : moduleName ioModule ≠ [] := by cases ioModule <;> decide
  have hupper : ∀ c ∈ moduleName ioModule, isUpper c = true := by
    cases ioModule <;> exact List.all_eq_true.mp rfl
  rw [List.append_assoc, Regex.ways_run_seq hne hupper (by rfl) (Regex.Rejects.single rfl)]
  exact Regex.ways_single '-' rest

theorem identifierText_eq (host : Host) (measurementID : UInt32) :
    ∃ c n, identifierText host measurementID = c :: Numeral.text 10 n ∧
      (c == '#' || c == 'P') = true := by
  unfold identifierText
  split
  · exact ⟨'#', _, rfl, rfl⟩
  · exact ⟨'P', _, rfl, rfl⟩

theorem fileNameRegExp_ways (host : Host) (type : FileType) (ioModule : ProtocolType)
    (measurementID : UInt32) (rest : Text) :
    ∃ c id, (fileNameRegExp type).ways (nameBegin host type ioModule measurementID ++ rest) =
      ((Regex.seq (.group (.run isAddressChar)) timeNumberRegExp).ways rest).map
        (Regex.withGroups [moduleName ioModule ++ ['-'], [c], id]) := by
  obtain ⟨c, n, hidentifier, hc⟩ := identifierText_eq host measurementID
  refine ⟨c, Numeral.text 10 n, ?_⟩
  have htext : nameBegin host type ioModule measurementID ++ rest = type.identification ++
      '-' :: (moduleName ioModule ++ ['-'] ++ (c :: (Numeral.text 10 n ++ '-' :: rest))) := by
    unfold nameBegin resultsPrefix
    rw [hidentifier]
    simp only [List.append_assoc, List.cons_append, List.nil_append]
  rw [htext]
  unfold fileNameRegExp
  rw [Regex.ways_seq_plain (Regex.ways_text _ _), Regex.ways_seq_plain (Regex.ways_single _ _),
    Regex.ways_optional (moduleName_ways ioModule _) (by cases ioModule <;> rfl),
    Regex.ways_seq (Regex.ways_group_char hc),
    Regex.ways_run (Numeral.text_ne_nil n) (isDigit_text n) (by rfl) (Regex.Rejects.single rfl).seq,
    Regex.ways_seq_plain (Regex.ways_single _ _), Regex.map_withGroups, Regex.map_withGroups]
  rfl

theorem extensionRegExp_rejects : Regex.Rejects isDigit extensionRegExp := (Regex.Rejects.single rfl).seq

theorem timeNumberRegExp_rejects : Regex.Rejects isAddressChar timeNumberRegExp :=
  (Regex.Rejects.single rfl).seq

variable {host : Host} {type : FileType} {ioModule : ProtocolType} {measurementID : UInt32}
  {sourceAddress : Address}

/-- The name of a file behind the source. -/
def nameEnd (t : PTime) (n : Nat) (compressor : CompressorType) : Text :=
  t.toIsoString ++ '-' :: (Numeral.padded 10 9 n ++
    (['.', 'h', 'p', 'c', 't'] ++ getExtensionForCompressor compressor))

theorem timeNumberRegExp_ways {t : PTime} (h : t.microseconds ≠ 0) (n : Nat)
    (compressor : CompressorType) :
    timeNumberRegExp.ways ('-' :: nameEnd t n compressor) =
      (extensionRegExp.ways (['.', 'h', 'p', 'c', 't'] ++ getExtensionForCompressor compressor)).map
        (Regex.withGroups [t.toIsoString, Numeral.padded 10 9 n]) := by
  unfold timeNumberRegExp nameEnd
  rw [Regex.ways_seq_plain (Regex.ways_single _ _),
    Regex.ways_seq (Regex.ways_group (timeRegExp_ways h _)),
    Regex.ways_seq_plain (Regex.ways_single _ _),
    Regex.ways_many (isDigit_padded 9 n) (by rfl) extensionRegExp_rejects, Regex.map_withGroups]
  rfl

theorem timeNumberRegExp_ways_nil {t : PTime} (h : t.microseconds = 0) (n : Nat)
    (compressor : CompressorType) : timeNumberRegExp.ways ('-' :: nameEnd t n compressor) = [] := by
  have hgroup := timeRegExp_ways_nil h (Numeral.padded 10 9 n ++
    (['.', 'h', 'p', 'c', 't'] ++ getExtensionForCompressor compressor))
  unfold timeNumberRegExp nameEnd
  rw [Regex.ways_seq_plain (Regex.ways_single _ _)]
  refine Regex.ways_seq_nil ?_
  simp only [Regex.ways, hgroup, List.map_nil]

/-- Behind the begin of a name, the source is found up to the next character. -/
theorem sourceRegExp_ways (sourceAddress : Address) {rest : Text}
    (h : Regex.Stops isAddressChar rest) :
    (Regex.seq (.group (.run isAddressChar)) timeNumberRegExp).ways (Net.plainText sourceAddress ++ rest) =
      (timeNumberRegExp.ways rest).map (Regex.withGroups [Net.plainText sourceAddress]) :=
  Regex.ways_run (plainText_ne_nil sourceAddress) (isAddressChar_plainText sourceAddress) h
    timeNumberRegExp_rejects

variable (host) (type) (ioModule) (measurementID) in
/-- The name is searched from the source on. -/
theorem find_name (sourceAddress : Address) {rest : Text} (h : Regex.Stops isAddressChar rest) :
    ∃ c id, (fileNameRegExp type).find
        (nameBegin host type ioModule measurementID ++ Net.plainText sourceAddress ++ rest) =
      (timeNumberRegExp.find rest).map
        ([moduleName ioModule ++ ['-'], [c], id, Net.plainText sourceAddress] ++ ·) := by
  obtain ⟨c, id, hways⟩ := fileNameRegExp_ways host type ioModule measurementID
    (Net.plainText sourceAddress ++ rest)
  rw [sourceRegExp_ways sourceAddress h, Regex.map_withGroups, ← List.append_assoc] at hways
  exact ⟨c, id, Regex.find_of_ways hways⟩

theorem timeNumberRegExp_find {t : PTime} (n : Nat) (compressor : CompressorType) :
    timeNumberRegExp.find ('-' :: nameEnd t n compressor) =
      if t.microseconds = 0 ∨ compressor = .zstd ∨ compressor = .zlib then none
      else some [t.toIsoString, Numeral.padded 10 9 n, ['h', 'p', 'c', 't'],
        getExtensionForCompressor compressor] := by
  by_cases h : t.microseconds = 0
  · rw [Regex.find_of_ways_nil (timeNumberRegExp_ways_nil h n compressor), if_pos (.inl h)]
  · rw [Regex.find_of_ways (timeNumberRegExp_ways h n compressor), extensionRegExp_find]
    by_cases hc : compressor = .zstd ∨ compressor = .zlib
    · rw [if_pos hc, if_pos (.inr hc)]
      rfl
    · rw [if_neg hc, if_neg (by rw [not_or]; exact ⟨h, hc⟩)]
      rfl

/-! ## Writers and readers -/

/-- A path as a text. -/
def pathText (path : Path) : Text := path.directory.flatMap (· ++ ['/']) ++ path.name

theorem splitOn_pathText {path : Path} (h : '/' ∉ path.name) :
    ∃ parts, (pathText path).splitOn '/' = parts ++ [path.name] := by
  unfold pathText
  rcases List.eq_nil_or_concat path.directory with hnil | ⟨init, last, hconcat⟩
  · rw [hnil]
    exact ⟨[], List.splitOn_eq_singleton h⟩
  · refine ⟨(init.flatMap (· ++ ['/']) ++ last).splitOn '/', ?_⟩
    rw [hconcat, List.concat_eq_append, List.flatMap_append, List.flatMap_singleton,
      ← List.append_assoc, List.append_assoc _ ['/'], List.singleton_append]
    have hsplit := List.splitOnP_append_cons (p := fun c => c == '/')
      (init.flatMap (· ++ ['/']) ++ last) path.name (beq_self_eq_true '/')
    exact hsplit.trans (congrArg _ (List.splitOn_eq_singleton h))

theorem filename_ofText {path : Path} (h : '/' ∉ path.name) :
    (FilesystemPath.ofText (pathText path)).filename = String.ofList path.name := by
  obtain ⟨parts, hparts⟩ := splitOn_pathText h
  unfold FilesystemPath.ofText FilesystemPath.filename
  rw [hparts]
  simp only [List.dropLast_concat, List.getLastD_concat]
  split
  · next hnone =>
    rw [hnone.2]
    rfl
  · rw [List.map_append, List.map_singleton, List.getLastD_concat]

theorem fileName_of_hasScope {s : Settings}
    (h : s.uniqueID = uniqueID host measurementID sourceAddress (resultsPrefix type ioModule))
    (hscope : sourceAddress.hasScope = true) (n : Nat) :
    ∃ rest, s.fileName n =
      nameBegin host type ioModule measurementID ++ Net.plainText sourceAddress ++ '%' :: rest := by
  obtain ⟨text, huniqueID⟩ : ∃ text, s.uniqueID =
      nameBegin host type ioModule measurementID ++ Net.plainText sourceAddress ++ '%' :: text := by
    rw [h]
    exact uniqueID_of_hasScope hscope
  unfold Settings.fileName
  rw [huniqueID]
  simp only [List.append_assoc, List.cons_append]
  exact ⟨_, rfl⟩

theorem fileName_of_not_hasScope {s : Settings}
    (h : s.uniqueID = uniqueID host measurementID sourceAddress (resultsPrefix type ioModule))
    (hscope : sourceAddress.hasScope = false) (n : Nat) :
    s.fileName n = nameBegin host type ioModule measurementID ++ Net.plainText sourceAddress ++
      '-' :: nameEnd host.universalTime n s.compressor := by
  unfold Settings.fileName nameEnd
  rw [h, uniqueID_of_not_hasScope hscope]
  simp only [List.append_assoc, List.cons_append, List.nil_append]

/-- What the reader finds in the name of a file. -/
theorem nameParts_fileName {s : Settings} {n : Nat}
    (h : s.uniqueID = uniqueID host measurementID sourceAddress (resultsPrefix type ioModule))
    (directory : List Text) :
    ∃ id, nameParts type (FilesystemPath.ofText (pathText ⟨directory, s.fileName n⟩)).filename =
      if sourceAddress.hasScope = true ∨ host.universalTime.microseconds = 0 ∨
        s.compressor = .zstd ∨ s.compressor = .zlib then none
      else (stringToTimePoint host.universalTime.toIsoString).map fun timeStamp =>
        ⟨id, String.ofList (Net.plainText sourceAddress), timeStamp,
          atol (Numeral.padded 10 9 n) % 2 ^ 32⟩ := by
  unfold nameParts
  rw [filename_ofText (slash_not_mem_fileName h n), String.toList_ofList]
  simp only
  cases hscope : sourceAddress.hasScope with
  | true =>
    obtain ⟨rest, hname⟩ := fileName_of_hasScope h hscope n
    have hstop : Regex.Stops isAddressChar ('%' :: rest) := rfl
    obtain ⟨c, id, hfind⟩ := find_name host type ioModule measurementID sourceAddress hstop
    refine ⟨0, ?_⟩
    rw [hname, hfind, if_pos (.inl rfl)]
    rfl
  | false =>
    have hstop : Regex.Stops isAddressChar ('-' :: nameEnd host.universalTime n s.compressor) := rfl
    obtain ⟨c, id, hfind⟩ := find_name host type ioModule measurementID sourceAddress hstop
    refine ⟨UInt32.ofNat (atol id), ?_⟩
    rw [fileName_of_not_hasScope h hscope, hfind, timeNumberRegExp_find]
    by_cases hnone : host.universalTime.microseconds = 0 ∨ s.compressor = .zstd ∨ s.compressor = .zlib
    · rw [if_pos hnone, if_pos (.inr hnone)]
      rfl
    · rw [if_neg hnone, if_neg (by rw [not_or]; exact ⟨Bool.false_ne_true, hnone⟩)]
      rfl

/-- What can be imported. -/
structure IsImportable (creationTime : PTime) (sourceAddress : Address) (compressor : CompressorType)
    (seqNumber : Nat) : Prop where
  hasScope : sourceAddress.hasScope = false
  microseconds : creationTime.microseconds ≠ 0
  survivesDouble : survivesDouble creationTime.microseconds = true
  timeStamp : IsReaderTimePoint creationTime.timeStamp
  compressor : compressor ≠ .zstd ∧ compressor ≠ .zlib
  seqNumber : seqNumber < 2 ^ 32

section
variable {programID resultsDirectory : Text} {transactionLength timestampDepth : Nat}
  {compressor : CompressorType} {s : Settings}

theorem uniqueID_of_makeResultsWriter
    (h : makeResultsWriter host programID measurementID sourceAddress (resultsPrefix type ioModule)
      resultsDirectory transactionLength timestampDepth compressor = some s) :
    s.uniqueID = uniqueID host measurementID sourceAddress (resultsPrefix type ioModule) ∧
      s.compressor = compressor := by
  unfold makeResultsWriter at h
  split at h
  · cases h
  · cases h
    exact ⟨rfl, rfl⟩

/-- The file that `changeFile` creates. -/
def createdFile (s : Settings) (n : UInt64) (system : Int) : FilesystemPath :=
  .ofText (pathText (s.targetFileName n.toNat system))

/-- The entry with what a writer puts into the name of a file. -/
def writtenEntry (host : Host) (sourceAddress : Address) (n : UInt64)
    (dataFile : FilesystemPath) : TracerouteFileEntry :=
  ⟨String.ofList (addressText host.interfaceName sourceAddress), host.universalTime.timeStamp,
    n.toNat, dataFile⟩

/-- **Which files are imported.**  The reader makes an entry with the source, the time and the number of
a file if and only if the writer has been made in such a way. -/
theorem fileName_imported_iff
    (h : makeResultsWriter host programID measurementID sourceAddress (resultsPrefix type ioModule)
      resultsDirectory transactionLength timestampDepth compressor = some s)
    (system : Int) (n : UInt64) (crc32 : String → UInt32 → UInt32)
    (workers : Nat) :
    (∃ worker, (tracerouteFileEntry (nameParts type) crc32).makeInputFileEntry
        (createdFile s n system) workers =
      some (worker, writtenEntry host sourceAddress n (createdFile s n system))) ↔
    IsImportable host.universalTime sourceAddress compressor n.toNat := by
  obtain ⟨huniqueID, rfl⟩ := uniqueID_of_makeResultsWriter h
  obtain ⟨id, hparts⟩ := nameParts_fileName (n := n.toNat) huniqueID
    (s.directory :: s.makeDirectoryHierarchy system)
  have hentry : (∃ worker, (tracerouteFileEntry (nameParts type) crc32).makeInputFileEntry
      (createdFile s n system) workers =
        some (worker, writtenEntry host sourceAddress n (createdFile s n system))) ↔
      ∃ m, nameParts type (createdFile s n system).filename = some m ∧
        m.source = String.ofList (addressText host.interfaceName sourceAddress) ∧
        m.timeStamp = host.universalTime.timeStamp ∧ m.seqNumber = n.toNat := by
    unfold tracerouteFileEntry writtenEntry
    simp only
    cases nameParts type (createdFile s n system).filename with
    | none => simp only [reduceCtorEq, exists_false, false_and]
    | some m =>
      simp only [Option.some.injEq, Prod.mk.injEq, TracerouteFileEntry.mk.injEq, and_true,
        exists_and_right, exists_eq', true_and, exists_eq_left']
  rw [hentry]
  unfold createdFile Settings.targetFileName
  rw [hparts]
  constructor
  · rintro ⟨m, hm, hsource, htime, hnumber⟩
    split at hm
    · cases hm
    · next hsome =>
      simp only [not_or] at hsome
      obtain ⟨hscope, hmicroseconds, hzstd, hzlib⟩ := hsome
      obtain ⟨timeStamp, hstring, rfl⟩ := Option.map_eq_some_iff.mp hm
      obtain ⟨hdouble, hrange⟩ :=
        (timeStamp_eq_iff hmicroseconds).mp (hstring.trans (congrArg some htime))
      exact ⟨Bool.eq_false_iff.mpr hscope, hmicroseconds, hdouble, hrange, ⟨hzstd, hzlib⟩,
        (atol_eq_iff n.toNat_lt).mp hnumber⟩
  · intro h
    have htime := (timeStamp_eq_iff h.microseconds).mpr ⟨h.survivesDouble, h.timeStamp⟩
    rw [if_neg (by simp only [h.hasScope, h.microseconds, h.compressor.1, h.compressor.2,
      Bool.false_eq_true, or_self, not_false_eq_true]), htime]
    refine ⟨_, rfl, ?_, rfl, (atol_eq_iff n.toNat_lt).mpr h.seqNumber⟩
    rw [addressText_of_not_hasScope _ h.hasScope]

end

/-- A process at 2024-02-29 12:34:56, with these microseconds. -/
def leapHost (microseconds : Nat) (h : microseconds < 1000000) : Host where
  interfaceName := fun _ => none
  interfaceName_valid := fun _ _ h => by cases h
  pid := 4711
  universalTime := ⟨⟨2024, 2, 29, 12, 34, 56, by decide, by decide, by decide, by decide, by decide⟩,
    microseconds, by decide, h⟩

/-- The settings of Ping over ICMP from ::1. -/
def leapSettings (microseconds : Nat) (h : microseconds < 1000000) : Settings where
  programID := []
  directory := ['.']
  uniqueID := uniqueID (leapHost microseconds h) 7 (.v6 1 0) (resultsPrefix .ping .icmp)
  transactionLength := 60
  timestampDepth := 0
  compressor := .xz
  outputFormatName := []
  outputFormatVersion := 0

theorem makeResultsWriter_leap (microseconds : Nat) (h : microseconds < 1000000) :
    makeResultsWriter (leapHost microseconds h) [] 7 (.v6 1 0) (resultsPrefix .ping .icmp) ['.'] 60 0
      .xz = some (leapSettings microseconds h) := rfl

theorem fileName_imported_leap :
    ∃ worker, (tracerouteFileEntry (nameParts .ping) fun _ _ => 0).makeInputFileEntry
        (createdFile (leapSettings 64 (by decide)) 1 0) 1 =
      some (worker, writtenEntry (leapHost 64 (by decide)) (.v6 1 0) 1
        (createdFile (leapSettings 64 (by decide)) 1 0)) :=
  (fileName_imported_iff (makeResultsWriter_leap 64 (by decide)) 0 1 (fun _ _ => 0) 1).mpr
    ⟨by decide, by decide, by decide +kernel, by decide +kernel, by decide, by decide⟩

/-- The file of a writer that is made in a whole second. -/
theorem fileName_wholeSecond :
    makeResultsWriter (leapHost 0 (by decide)) [] 7 (.v6 1 0) (resultsPrefix .ping .icmp) ['.'] 60 0
        .xz = some (leapSettings 0 (by decide)) ∧
      ¬ ∃ entry, (tracerouteFileEntry (nameParts .ping) fun _ _ => 0).makeInputFileEntry
        (createdFile (leapSettings 0 (by decide)) 1 0) 1 = some entry := by
  have hwriter := makeResultsWriter_leap 0 (by decide)
  obtain ⟨id, hparts⟩ := nameParts_fileName (n := 1) (uniqueID_of_makeResultsWriter hwriter).1
    ((leapSettings 0 (by decide)).directory ::
      (leapSettings 0 (by decide)).makeDirectoryHierarchy 0)
  rw [if_pos (.inr (.inl rfl))] at hparts
  refine ⟨hwriter, ?_⟩
  rintro ⟨entry, hentry⟩
  unfold tracerouteFileEntry createdFile Settings.targetFileName at hentry
  rw [show UInt64.toNat 1 = 1 from rfl] at hentry
  simp only [hparts, reduceCtorEq] at hentry

end HiPerConTracer.Importer
