import HiPerConTracer.Lib.Numeral
import HiPerConTracer.Lib.Separated
import HiPerConTracer.Service.Outstanding
import HiPerConTracer.Service.PrematureTimeout

/-!
# What the path hash is computed from

A path is the source and, for each hop, the address that has responded, or a star.  Its text
determines it (`pathText_injective`).  What `processResults` hashes has the address of the
destination instead, for every hop that is not a star:

    the path is hashed ↔ each hop without response is a timeout, and each response is from the
      destination   (processResults_hashes_path)
-/

namespace HiPerConTracer.Service
open Net IOModule Traceroute

variable {p : Parameters}

/-! ## Paths -/

/-- Texts of addresses, without scope identifier, that tell them apart. -/
structure AddressText (text : Address → String) : Prop where
  noDash : ∀ a : Address, a.dropScopeID = a → '-' ∉ (text a).toList
  notStar : ∀ a : Address, a.dropScopeID = a → text a ≠ "*"
  injective : ∀ a b : Address, a.dropScopeID = a → b.dropScopeID = b → text a = text b → a = b

/-- The text of a hop: the address that has responded, or a star. -/
def hopText (text : Address → String) : Option Address → String
  | some a => text a
  | none => "*"

/-- The text of a path. -/
def pathOf (text : Address → String) (source : Address) (hops : List (Option Address)) : String :=
  hops.foldl (fun s hop => s ++ ("-" ++ hopText text hop)) (text source)

/-- The address that has responded. -/
def responder (e : ResultEntry) : Option Address := if e.status.isResponse then some e.hop else none

theorem foldl_marked {α : Type} (f : α → String) (l : List α) (s : String) :
    (l.foldl (fun s x => s ++ ("-" ++ f x)) s).toList =
      s.toList ++ Separated.marked '-' (l.map fun x => (f x).toList) := by
  induction l generalizing s with
  | nil => simp [Separated.marked]
  | cons x xs ih =>
    rw [List.foldl_cons, ih]
    simp [Separated.marked, List.append_assoc]

/-- Texts that are put together in the same way are equal if their words are. -/
theorem foldl_marked_injective {α β : Type} {f : α → String} {g : β → String} {l : List α}
    {l' : List β} {s : String} (hl : ∀ x ∈ l, '-' ∉ (f x).toList)
    (hl' : ∀ x ∈ l', '-' ∉ (g x).toList)
    (h : l.foldl (fun s x => s ++ ("-" ++ f x)) s = l'.foldl (fun s x => s ++ ("-" ++ g x)) s) :
    l.map f = l'.map g := by
  have htext := congrArg String.toList h
  rw [foldl_marked, foldl_marked, List.append_cancel_left_eq] at htext
  have hwords : (l.map f).map String.toList = (l'.map g).map String.toList := by
    rw [List.map_map, List.map_map]
    exact Separated.marked_injective (List.forall_mem_map.mpr hl) (List.forall_mem_map.mpr hl') htext
  exact List.map_injective_iff.mpr (fun _ _ => String.toList_inj.mp) hwords

/-- Hops with addresses without scope identifier. -/
def Plain (hops : List (Option Address)) : Prop := ∀ a, some a ∈ hops → a.dropScopeID = a

theorem hopText_noDash {text : Address → String} (ht : AddressText text)
    {hops : List (Option Address)} (h : Plain hops) :
    ∀ hop ∈ hops, '-' ∉ (hopText text hop).toList := by
  intro hop hin
  cases hop with
  | none =>
    show '-' ∉ "*".toList
    decide
  | some a => exact ht.noDash a (h a hin)

/-- The text determines the path. -/
theorem pathOf_injective {text : Address → String} (ht : AddressText text) {source : Address}
    {hops hops' : List (Option Address)} (h : Plain hops) (h' : Plain hops')
    (heq : pathOf text source hops = pathOf text source hops') : hops = hops' := by
  have hmap := foldl_marked_injective (hopText_noDash ht h) (hopText_noDash ht h') heq
  clear heq
  induction hops generalizing hops' with
  | nil => exact (List.map_eq_nil_iff.mp hmap.symm).symm
  | cons hop hops ih =>
    cases hops' with
    | nil => cases hmap
    | cons hop' hops' =>
      rw [List.map_cons, List.map_cons, List.cons.injEq] at hmap
      have hrest := ih (fun a ha => h a (List.mem_cons_of_mem _ ha))
        (fun a ha => h' a (List.mem_cons_of_mem _ ha)) hmap.2
      rw [hrest, List.cons.injEq]
      refine ⟨?_, rfl⟩
      cases hop with
      | none =>
        cases hop' with
        | none => rfl
        | some b => exact absurd hmap.1.symm (ht.notStar b (h' b List.mem_cons_self))
      | some a =>
        cases hop' with
        | none => exact absurd hmap.1 (ht.notStar a (h a List.mem_cons_self))
        | some b =>
          exact congrArg some (ht.injective a b (h a List.mem_cons_self)
            (h' b List.mem_cons_self) hmap.1)

/-! ## Entries -/

/-- What holds of the entries of each state before the results are processed. -/
structure Formed (e : ResultEntry) : Prop where
  status : e.status ≠ .timeout
  destination : e.destination.address.dropScopeID = e.destination.address
  hop : e.status.isResponse = true → e.hop.dropScopeID = e.hop

structure Reached (s : State) : Prop where
  accounted : Accounted s
  formed : ∀ e ∈ s.resultsMap, Formed e

theorem Formed.withSource {e : ResultEntry} (h : Formed e) (data : ReceivedData) :
    Formed (withSource data e) := by
  unfold IOModule.withSource
  split
  · exact ⟨h.status, h.destination, h.hop⟩
  · exact h

theorem Formed.of_first {e e' : ResultEntry} (h : Formed e) (hrequest : e'.request = e.request)
    {a : Address} (hhop : e'.hop = a.dropScopeID) (hstatus : e'.status.isResponse = true) :
    Formed e' := by
  refine ⟨HopStatus.isResponse_ne_timeout hstatus, ?_, fun _ => ?_⟩
  · have hdestination := congrArg ResultEntry.Request.destination hrequest
    change e'.destination = e.destination at hdestination
    rw [hdestination]
    exact h.destination
  · rw [hhop, Address.dropScopeID_dropScopeID]

theorem Reached.sendRequests {inputs : Inputs} {s t : State} (h : Reached s)
    (hsend : sendRequests p inputs s = .ok t) : Reached t := by
  refine ⟨(h.accounted.sendRequests hsend).1, ?_⟩
  cases sendRequests_result h.accounted.good hsend with
  | waiting => exact h.formed
  | skipped => exact h.formed
  | sent d hd hmin hle io n new hsent =>
    show ∀ e ∈ io.resultsMap, _
    rw [hsent.resultsMap, List.forall_mem_append]
    refine ⟨h.formed, fun e he => ?_⟩
    obtain ⟨q, -, hreq⟩ := forall₂_mem_right hsent.requests he
    refine ⟨?_, ?_, fun hyes => ?_⟩
    · rcases hsent.status e he with hu | herr
      · rw [hu]
        decide
      · exact HopStatus.isSendError_ne_timeout herr
    · rw [hreq.destination_eq]
      exact Address.dropScopeID_dropScopeID _
    · rcases hsent.status e he with hu | herr
      · exact absurd hu (HopStatus.isResponse_ne_unknown hyes)
      · rw [HopStatus.isSendError_not_isResponse herr] at hyes
        cases hyes

theorem Reached.response {data : ReceivedData} {s t : State} (h : Reached s)
    (hr : ResponseResult p (methods p) data s t) : Reached t := by
  refine ⟨(h.accounted.response hr).1, ?_⟩
  cases hr with
  | ignored => exact h.formed
  | later l₁ e l₂ hmap hstatus =>
    have hold := h.formed
    rw [hmap, List.forall_mem_append, List.forall_mem_cons] at hold
    show ∀ x ∈ l₁ ++ IOModule.withSource data e :: l₂, _
    rw [List.forall_mem_append, List.forall_mem_cons]
    exact ⟨hold.1, hold.2.1.withSource data, hold.2.2⟩
  | first l₁ e e' l₂ hmap hunknown hrequest hhop hstatus =>
    have hold := h.formed
    rw [hmap, List.forall_mem_append, List.forall_mem_cons] at hold
    rw [newResult_eq]
    show ∀ x ∈ l₁ ++ e' :: l₂, _
    rw [List.forall_mem_append, List.forall_mem_cons]
    exact ⟨hold.1, hold.2.1.of_first hrequest hhop hstatus, hold.2.2⟩

theorem formed_prepareRun (newRound : Bool) (s : State) :
    ∀ e ∈ (prepareRun p newRound s).1.resultsMap, Formed e := by
  rw [(prepareRun_prepared newRound s).resultsMap]
  exact fun e he => absurd he List.not_mem_nil

theorem Reached.start (p : Parameters) (now : Nat) (seqNumber : UInt16)
    (destinations : List DestinationInfo) : Reached (State.start p now seqNumber destinations) :=
  ⟨.start p now seqNumber destinations, fun _ he => absurd he List.not_mem_nil⟩

theorem Reached.congr {s t : State} (h : Reached s) (hsame : SameRequests s t) : Reached t := by
  refine ⟨h.accounted.congr hsame, ?_⟩
  rw [hsame.resultsMap]
  exact h.formed

theorem Reached.timeout {inputs : Inputs} {s t : State} (h : Reached s)
    (ht : handleTimeoutEvent p (methods p) inputs s = .ok t) : ∀ e ∈ t.resultsMap, Formed e := by
  have hgood := h.accounted.good
  cases handleTimeoutEvent_ok ht with
  | stopped _ ht =>
    rw [ht]
    exact h.formed
  | again _ u _ _ _ _ _ hu hsend =>
    have hu' : Reached u := by
      rw [hu]
      exact ⟨⟨hgood, h.accounted.nodup, h.accounted.outstanding⟩, h.formed⟩
    exact (hu'.sendRequests hsend).formed
  | next _ _ _ u _ _ _ hu hsend =>
    have hprep := (Accounted.prepareRun (p := p) (s := u) (by rw [hu]; exact hgood) false).1
    exact (Reached.sendRequests ⟨hprep, formed_prepareRun false u⟩ hsend).formed
  | last _ _ _ u _ _ _ hu ht =>
    obtain ⟨_, _, _, heq, -⟩ := scheduleIntervalEvent_cases (p := p) inputs.random
      (prepareRun p false u).1
    rw [ht, heq]
    exact formed_prepareRun false u

theorem Reached.step {s t : State} {event : Event} (h : Reached s)
    (hs : step p (methods p) s event = .ok t) : Reached t := by
  refine ⟨(h.accounted.step hs).1, ?_⟩
  have hr := step_result p (methods p) s event
  rw [hs] at hr
  generalize hres : (Except.ok t : Except Assure State) = r at hr
  cases hr with
  | quiet =>
    cases hres
    exact h.formed
  | restart event intervalTimer =>
    cases hres
    exact formed_prepareRun true { s with intervalTimer }
  | burst inputs hpc =>
    have h' : Reached { s with pc := .idle } := h.congr ⟨rfl, rfl, rfl⟩
    exact (h'.sendRequests hres.symm).formed
  | timeout aborted inputs timer s' hpc htake hs' =>
    have h' : Reached s' := by
      rw [hs']
      exact h.congr ⟨rfl, rfl, rfl⟩
    exact h'.timeout hres.symm
  | response message data hpc =>
    cases hres
    exact (h.response (handleResponse_result _ message data h.accounted.nodup)).formed

/-! ## Rounds -/

/-- The hops of a round in their order, up to the first that is `Success` or unreachable. -/
def hopsOf (s : State) (round : Nat) : List ResultEntry :=
  writtenEntries (ofRound (s.resultsMap.insertionSort tracerouteOrder) round)

/-- The request has been sent, and only the destination may have responded to it. -/
def Direct (e : ResultEntry) : Prop :=
  e.status = .unknown ∨ e.status.isResponse = true ∧ e.hop = e.destination.address

theorem mem_hopsOf {s : State} {round : Nat} {e : ResultEntry} (h : e ∈ hopsOf s round) :
    e ∈ s.resultsMap :=
  (List.mem_insertionSort _).mp (List.mem_filter.mp (mem_writtenEntries h)).1

/-- What `processResults` adds for an entry, behind the dash. -/
def addedText (p : Parameters) (e : ResultEntry) : String :=
  if e.status = .unknown then "*" else p.addressText e.destination.address

theorem pathText_eq (e : ResultEntry) : pathText p e = "-" ++ addedText p e := by
  unfold pathText addedText
  split <;> rfl

theorem addedText_noDash (ht : AddressText p.addressText) {e : ResultEntry} (h : Formed e) :
    '-' ∉ (addedText p e).toList := by
  unfold addedText
  split
  · show '-' ∉ "*".toList
    decide
  · exact ht.noDash _ h.destination

/-- What is added for an entry is its hop if the destination only may have responded. -/
theorem addedText_eq_iff (ht : AddressText p.addressText) {e : ResultEntry} (h : Formed e) :
    addedText p e = hopText p.addressText (responder e) ↔ Direct e := by
  unfold addedText responder Direct
  by_cases hu : e.status = .unknown
  · rw [if_pos hu, hu]
    exact ⟨fun _ => Or.inl rfl, fun _ => rfl⟩
  · rw [if_neg hu]
    by_cases hr : e.status.isResponse = true
    · rw [if_pos hr]
      show p.addressText e.destination.address = p.addressText e.hop ↔ _
      constructor
      · intro heq
        exact Or.inr ⟨hr, ht.injective _ _ (h.hop hr) h.destination heq.symm⟩
      · rintro (hyes | ⟨-, heq⟩)
        · exact absurd hyes hu
        · rw [heq]
    · rw [if_neg hr]
      show p.addressText e.destination.address = "*" ↔ _
      constructor
      · intro heq
        exact absurd heq (ht.notStar _ h.destination)
      · rintro (hyes | ⟨hyes, -⟩)
        · exact absurd hyes hu
        · exact absurd hyes hr

theorem plain_responders {es : List ResultEntry} (h : ∀ e ∈ es, Formed e) :
    Plain (es.map responder) := by
  intro a ha
  obtain ⟨e, he, hresponder⟩ := List.mem_map.mp ha
  unfold responder at hresponder
  obtain ⟨hr, heq⟩ := Option.ite_none_right_eq_some.mp hresponder
  rw [← Option.some.inj heq]
  exact (h e he).hop hr

/-- What is put together for the hops is the text of their path if each of them is direct. -/
theorem foldl_pathText_eq_iff (ht : AddressText p.addressText) {source : Address}
    {es : List ResultEntry} (h : ∀ e ∈ es, Formed e) :
    es.foldl (fun text e => text ++ pathText p e) (p.addressText source) =
        pathOf p.addressText source (es.map responder) ↔
      ∀ e ∈ es, Direct e := by
  simp only [pathText_eq]
  unfold pathOf
  rw [List.foldl_map]
  constructor
  · intro heq e he
    have hmap := foldl_marked_injective (fun x hx => addedText_noDash ht (h x hx))
      (fun x hx => hopText_noDash ht (plain_responders h) _ (List.mem_map_of_mem hx)) heq
    exact (addedText_eq_iff ht (h e he)).mp (List.map_inj_left.mp hmap e he)
  · intro hdirect
    apply List.foldl_ext
    intro text e he
    rw [(addedText_eq_iff ht (h e he)).mpr (hdirect e he)]

/-! ## The path hash -/

/-- **Path hash.**  In a reachable state, what is hashed for a round is the text of its path if and
only if each of its hops is direct.  The text determines the path. -/
theorem processResults_hashes_path {now : Nat} {seqNumber : UInt16}
    {destinations : List DestinationInfo} {events : List Event} {s t : State}
    (ht : AddressText p.addressText)
    (hrun : Run.exec (step p (methods p)) (State.start p now seqNumber destinations) events = .ok s)
    (h : processResults p s = .ok t) :
    (∃ rounds, t.roundsWritten = s.roundsWritten ++ rounds ∧
      List.Forall₂ (fun n r =>
          (hopsOf s n).Pairwise (fun a b => a.hopNumber < b.hopNumber) ∧
          r.roundNumber = n ∧ r.pathHash = p.sha1 r.pathString ∧
          (r.pathString = pathOf p.addressText p.io.sourceAddress ((hopsOf s n).map responder) ↔
            ∀ e ∈ hopsOf s n, Direct e)) (List.range p.rounds) rounds) ∧
      ∀ hops hops' : List (Option Address), Plain hops → Plain hops' →
        (pathOf p.addressText p.io.sourceAddress hops =
          pathOf p.addressText p.io.sourceAddress hops' ↔ hops = hops') := by
  have hreached : Reached s :=
    Run.exec_invariant (fun _ _ _ hs _ hst => Reached.step hs hst)
      (.start p now seqNumber destinations) (Run.meets_true _ _ _) hrun
  obtain ⟨resultsMap, rounds, hrounds, heq⟩ := processResults_cases h
  refine ⟨⟨rounds, by rw [heq], ?_⟩, fun hops hops' hp hp' => ?_⟩
  · rw [List.forall₂_and_left]
    refine ⟨fun n hn => ?_, (processRounds_ok hrounds).imp fun n r ⟨hn, hround⟩ => ?_⟩
    · obtain ⟨time, x, hx⟩ := processRounds_each hrounds n hn
      exact processRound_increasing hx
    · refine ⟨hn, hround.pathHash, ?_⟩
      rw [hround.pathString]
      exact foldl_pathText_eq_iff ht fun e he => hreached.formed e (mem_hopsOf he)
  · constructor
    · exact pathOf_injective ht hp hp'
    · rintro rfl
      rfl

/-! ## A service with the texts of IPv4 addresses -/

def bytesOf (value : UInt32) : List Nat :=
  ([24, 16, 8, 0] : List UInt32).map fun k => ((value >>> k) &&& 0xff).toNat

theorem bytesOf_injective : Function.Injective bytesOf := by
  intro a b h
  have h255 : (255 : UInt32).toNat = 2 ^ 8 - 1 := by decide
  simp only [bytesOf, List.map_cons, List.map_nil, List.cons.injEq, and_true, UInt32.toNat_and,
    UInt32.toNat_shiftRight, h255, Nat.and_two_pow_sub_one_eq_mod, Nat.shiftRight_eq_div_pow] at h
  have ha := a.toNat_lt
  have hb := b.toNat_lt
  apply UInt32.toNat.inj
  simp at h
  omega

theorem dottedQuad_toList (value : UInt32) :
    (dottedQuad value).toList =
      ['.'].intercalate ((bytesOf value).map fun b => (toString b).toList) := by
  unfold dottedQuad bytesOf
  rw [String.toList_intercalate, List.map_map, List.map_map]
  rfl

theorem splitOn_dottedQuad (value : UInt32) :
    (dottedQuad value).toList.splitOn '.' = (bytesOf value).map fun b => (toString b).toList := by
  rw [dottedQuad_toList]
  apply List.splitOn_intercalate
  · rw [List.forall_mem_map]
    exact fun b _ => Numeral.not_mem_toString (by decide) b
  · exact List.cons_ne_nil _ _

theorem dottedQuad_injective : Function.Injective dottedQuad := by
  intro a b h
  have hsplit := congrArg (fun s : String => s.toList.splitOn '.') h
  simp only [splitOn_dottedQuad] at hsplit
  apply bytesOf_injective
  refine List.map_injective_iff.mpr (fun m n hmn => ?_) hsplit
  exact Numeral.toString_injective (String.toList_inj.mp hmn)

theorem mem_dottedQuad {c : Char} {value : UInt32} (h : c ∈ (dottedQuad value).toList) :
    c = '.' ∨ c.isDigit = true := by
  rw [dottedQuad_toList] at h
  rcases Separated.mem_intercalate h with hdot | ⟨w, hw, hc⟩
  · exact Or.inl (List.mem_singleton.mp hdot)
  · obtain ⟨b, -, rfl⟩ := List.mem_map.mp hw
    right
    by_contra hno
    exact Numeral.not_mem_toString (Bool.eq_false_iff.mpr hno) b hc

/-- The text of an IPv4 address; that of an IPv6 address is a number here. -/
def plainText : Address → String
  | .v4 value => dottedQuad value
  | .v6 value _ => "::" ++ toString value.toNat

theorem plainText_v6_toList (value : BitVec 128) (scopeID : UInt32) :
    (plainText (.v6 value scopeID)).toList = ':' :: ':' :: (toString value.toNat).toList := by
  show ("::" ++ toString value.toNat).toList = _
  rw [String.toList_append]
  rfl

theorem not_mem_plainText {c : Char} (hdigit : c.isDigit = false) (hdot : c ≠ '.') (hcolon : c ≠ ':')
    (a : Address) : c ∉ (plainText a).toList := by
  intro h
  cases a with
  | v4 value =>
    rcases mem_dottedQuad h with hc | hc
    · exact hdot hc
    · rw [hdigit] at hc
      cases hc
  | v6 value scopeID =>
    rw [plainText_v6_toList] at h
    rcases List.mem_cons.mp h with hc | h
    · exact hcolon hc
    · rcases List.mem_cons.mp h with hc | h
      · exact hcolon hc
      · exact Numeral.not_mem_toString hdigit _ h

theorem addressText_plainText : AddressText plainText where
  noDash := fun a _ => not_mem_plainText (by decide) (by decide) (by decide) a
  notStar := by
    intro a _ heq
    have hstar := not_mem_plainText (c := '*') (by decide) (by decide) (by decide) a
    rw [heq] at hstar
    exact hstar (by decide)
  injective := by
    intro a b ha hb heq
    have hcolon : ∀ value : UInt32, ':' ∉ (dottedQuad value).toList := by
      intro value hin
      rcases mem_dottedQuad hin with hc | hc
      · exact absurd hc (by decide)
      · exact absurd hc (by decide)
    cases a with
    | v4 value =>
      cases b with
      | v4 value' => exact congrArg Address.v4 (dottedQuad_injective heq)
      | v6 value' scopeID' =>
        refine absurd ?_ (hcolon value)
        show ':' ∈ (plainText (.v4 value)).toList
        rw [heq, plainText_v6_toList]
        exact List.mem_cons_self
    | v6 value scopeID =>
      cases b with
      | v4 value' =>
        refine absurd ?_ (hcolon value')
        show ':' ∈ (plainText (.v4 value')).toList
        rw [← heq, plainText_v6_toList]
        exact List.mem_cons_self
      | v6 value' scopeID' =>
        have htext := congrArg String.toList heq
        rw [plainText_v6_toList, plainText_v6_toList, List.cons.injEq, List.cons.injEq] at htext
        have hvalue := Numeral.toString_injective (String.toList_inj.mp htext.2.2)
        rw [← ha, ← hb]
        show Address.v6 value 0 = Address.v6 value' 0
        rw [BitVec.eq_of_toNat_eq hvalue]

/-- A Traceroute service with a single hop. -/
def plainHop : Parameters := { oneHop with addressText := plainText }

def hopStart : State := State.start plainHop 0 65530 [⟨.v4 0x0a000002, 0⟩]

/-- A router responds to the request. -/
def routedBy (router : Address) : List Event :=
  [.run, .sendRequests allSent, .response (.icmp 11 0 65531 56) (responseFrom router 1000000)]

theorem exists_processed (events : List Event) (test : State → State → Bool)
    (h : Run.passes (fun s => Run.passes (test s) (processResults plainHop s))
      (Run.exec (step plainHop (methods plainHop)) hopStart events) = true) :
    ∃ s t, Run.exec (step plainHop (methods plainHop)) hopStart events = .ok s ∧
      processResults plainHop s = .ok t ∧ test s t = true := by
  obtain ⟨s, hs, hpasses⟩ := Run.exists_of_passes h
  obtain ⟨t, ht, htest⟩ := Run.exists_of_passes hpasses
  exact ⟨s, t, hs, ht, htest⟩

/-- A request without response: the path has a star. -/
theorem processResults_hashes_path_star :
    ∃ s t rounds, processResults plainHop s = .ok t ∧
      t.roundsWritten = s.roundsWritten ++ rounds ∧
      List.Forall₂ (fun n r =>
          (hopsOf s n).Pairwise (fun a b => a.hopNumber < b.hopNumber) ∧
          r.roundNumber = n ∧ r.pathHash = plainHop.sha1 r.pathString ∧
          (r.pathString = pathOf plainText (.v4 0x0a000001) ((hopsOf s n).map responder) ↔
            ∀ e ∈ hopsOf s n, Direct e)) [0] rounds := by
  obtain ⟨s, t, hs, ht, -⟩ := exists_processed [.run, .sendRequests allSent] (fun _ _ => true)
    (by decide +kernel)
  obtain ⟨⟨rounds, hrounds, hall⟩, -⟩ :=
    processResults_hashes_path (p := plainHop) addressText_plainText hs ht
  exact ⟨s, t, rounds, ht, hrounds, hall⟩

/-- Two routers respond in two runs.  What is hashed is the same text, that of neither path. -/
theorem routers_not_hashed :
    ∃ s t s' t', Run.exec (step plainHop (methods plainHop)) hopStart
        (routedBy (.v4 0x0a000003)) = .ok s ∧ processResults plainHop s = .ok t ∧
      Run.exec (step plainHop (methods plainHop)) hopStart
        (routedBy (.v4 0x0a000004)) = .ok s' ∧ processResults plainHop s' = .ok t' ∧
      (hopsOf s 0).map responder = [some (.v4 0x0a000003)] ∧
      (hopsOf s' 0).map responder = [some (.v4 0x0a000004)] ∧
      t.roundsWritten.map (·.pathString) = ["10.0.0.1-10.0.0.2"] ∧
      t'.roundsWritten.map (·.pathString) = ["10.0.0.1-10.0.0.2"] ∧
      pathOf plainText (.v4 0x0a000001) [some (.v4 0x0a000003)] = "10.0.0.1-10.0.0.3" ∧
      pathOf plainText (.v4 0x0a000001) [some (.v4 0x0a000004)] = "10.0.0.1-10.0.0.4" := by
  obtain ⟨s, t, hs, ht, htest⟩ := exists_processed (routedBy (.v4 0x0a000003))
    (fun s t => decide ((hopsOf s 0).map responder = [some (.v4 0x0a000003)] ∧
      t.roundsWritten.map (·.pathString) = ["10.0.0.1-10.0.0.2"])) (by decide +kernel)
  obtain ⟨s', t', hs', ht', htest'⟩ := exists_processed (routedBy (.v4 0x0a000004))
    (fun s t => decide ((hopsOf s 0).map responder = [some (.v4 0x0a000004)] ∧
      t.roundsWritten.map (·.pathString) = ["10.0.0.1-10.0.0.2"])) (by decide +kernel)
  obtain ⟨hhops, htext⟩ := of_decide_eq_true htest
  obtain ⟨hhops', htext'⟩ := of_decide_eq_true htest'
  exact ⟨s, t, s', t', hs, ht, hs', ht', hhops, hhops', htext, htext', by decide +kernel,
    by decide +kernel⟩

end HiPerConTracer.Service
