import HiPerConTracer.Service.TracerouteSteps

/-!
# The TTLs of a run

`MinTTL` and `MaxTTL` stay within 1 and `FinalMaxTTL`, and the requests in `ResultsMap` have TTLs
up to `MaxTTL` (`TTLs`).  When a window is about to be sent, those of the earlier ones are below
`MinTTL`, so that no request of the window is in `ResultsMap` yet (`TTLs.again`, `TTLs.prepareRun`).
-/

namespace HiPerConTracer.Service
open Net IOModule Traceroute

/-- The next window of TTLs is not empty, and its computation does not wrap. -/
structure Parameters.Increments (p : Parameters) : Prop where
  pos : 1 ≤ p.incrementMaxTTL
  no_wrap : p.finalMaxTTL + p.incrementMaxTTL < 2 ^ 32

/-- The bounds that `main` sets in `hipercontracer.cc`. -/
structure Parameters.Admitted (p : Parameters) : Prop where
  rounds_le : p.rounds ≤ 64
  finalMaxTTL_le : p.finalMaxTTL ≤ 255
  incrementMaxTTL_pos : 1 ≤ p.incrementMaxTTL
  incrementMaxTTL_le : p.incrementMaxTTL ≤ 255

variable {p : Parameters}

theorem Parameters.Admitted.increments (h : p.Admitted) : p.Increments := by
  have hf := h.finalMaxTTL_le
  have hi := h.incrementMaxTTL_le
  exact ⟨h.incrementMaxTTL_pos, by omega⟩

structure TTLs (p : Parameters) (s : State) : Prop where
  minTTL_pos : 1 ≤ s.minTTL
  minTTL_le : s.minTTL ≤ s.maxTTL
  maxTTL_le : s.maxTTL ≤ p.finalMaxTTL
  lastHop_pos : 1 ≤ s.lastHop
  cache_pos : ∀ d ttl, s.ttlCache d = some ttl → 1 ≤ ttl
  hops : ∀ e ∈ s.resultsMap, 1 ≤ e.hopNumber ∧ e.hopNumber ≤ s.maxTTL
  empty : s.pc ≠ .idle → s.resultsMap = []

/-- The requests in `ResultsMap` are below the window that is about to be sent. -/
def Below (s : State) : Prop := ∀ e ∈ s.resultsMap, e.hopNumber < s.minTTL

theorem Below.of_empty {s : State} (h : s.resultsMap = []) : Below s := by
  intro e he
  rw [h] at he
  exact absurd he List.not_mem_nil

theorem initialTTL_bounds (p : Parameters) {s : State}
    (h : ∀ d ttl, s.ttlCache d = some ttl → 1 ≤ ttl) (d : Option DestinationInfo) :
    1 ≤ initialTTL p s d ∧ initialTTL p s d ≤ p.finalMaxTTL := by
  have h1 := p.initialMaxTTL_pos
  have h2 := p.initialMaxTTL_le
  cases d with
  | none => exact ⟨h1, h2⟩
  | some d =>
    show 1 ≤ getInitialMaxTTL p s d ∧ getInitialMaxTTL p s d ≤ p.finalMaxTTL
    unfold getInitialMaxTTL
    split
    · next ttl httl =>
      have := h d ttl httl
      omega
    · exact ⟨h1, h2⟩

namespace TTLs

theorem start (p : Parameters) (now : Nat) (seqNumber : UInt16)
    (destinations : List DestinationInfo) :
    TTLs p (State.start p now seqNumber destinations) where
  minTTL_pos := Nat.le_refl 1
  minTTL_le := p.initialMaxTTL_pos
  maxTTL_le := p.initialMaxTTL_le
  lastHop_pos := by show 1 ≤ 0xffffffff; decide
  cache_pos := fun d ttl h => by cases h
  hops := fun e he => absurd he List.not_mem_nil
  empty := fun _ => rfl

theorem cacheUpdate_pos {s : State} (h : TTLs p s) {ttlCache : DestinationInfo → Option Nat}
    (hcache : CacheUpdate s ttlCache) : ∀ d ttl, ttlCache d = some ttl → 1 ≤ ttl := by
  intro d ttl httl
  rcases hcache d ttl httl with rfl | hold
  · exact h.lastHop_pos
  · exact h.cache_pos d ttl hold

/-- A new run starts with the TTL 1 and no requests. -/
theorem prepareRun {s : State} (h : ∀ d ttl, s.ttlCache d = some ttl → 1 ≤ ttl)
    (newRound : Bool) : TTLs p (prepareRun p newRound s).1 ∧
      (Traceroute.prepareRun p newRound s).1.resultsMap = [] := by
  obtain ⟨_, iterator, _, _, heq, -⟩ := prepareRun_cases (p := p) newRound s
  have hinit := initialTTL_bounds p h iterator
  rw [heq]
  refine ⟨⟨Nat.le_refl 1, hinit.1, hinit.2, ?_, h, ?_, fun _ => rfl⟩, rfl⟩
  · show 1 ≤ 0xffffffff
    decide
  · exact fun e he => absurd he List.not_mem_nil

/-- The next window starts above the TTLs that have been tried. -/
theorem again (hinc : p.Increments) {s : State} (h : TTLs p s) (hpc : s.pc = .idle)
    {ttlCache : DestinationInfo → Option Nat} (hcache : CacheUpdate s ttlCache)
    (hlt : s.maxTTL < p.finalMaxTTL) {t : State}
    (ht : t = { s with
        ttlCache
        minTTL := (s.maxTTL + 1) % 2 ^ 32
        maxTTL := min ((s.maxTTL + p.incrementMaxTTL) % 2 ^ 32) p.finalMaxTTL }) :
    TTLs p t ∧ Below t ∧ t.minTTL = s.maxTTL + 1 := by
  have hwrap := hinc.no_wrap
  have hpos := hinc.pos
  have hmin : t.minTTL = s.maxTTL + 1 := by
    rw [ht]
    exact Nat.mod_eq_of_lt (by omega)
  have hmax : t.maxTTL = min (s.maxTTL + p.incrementMaxTTL) p.finalMaxTTL := by
    rw [ht]
    exact congrArg (min · p.finalMaxTTL) (Nat.mod_eq_of_lt (by omega))
  have hmap : t.resultsMap = s.resultsMap := by rw [ht]
  have hhops := h.hops
  refine ⟨⟨by omega, by omega, by omega, ?_, ?_, ?_, ?_⟩, ?_, hmin⟩
  · rw [ht]
    exact h.lastHop_pos
  · rw [ht]
    exact h.cacheUpdate_pos hcache
  · intro e he
    rw [hmap] at he
    have := hhops e he
    omega
  · rw [ht]
    exact fun hne => absurd hpc hne
  · intro e he
    rw [hmap] at he
    have := hhops e he
    omega

/-- What is sent has the TTLs of the window. -/
theorem sendRequests {inputs : Inputs} {s t : State} (h : TTLs p s) (hpc : s.pc = .idle)
    (hr : SendResult p inputs s t) : TTLs p t := by
  cases hr with
  | waiting _ _ _ _ _ => exact { h with empty := fun hne => absurd hpc hne }
  | skipped _ _ _ => exact { h with empty := fun hne => absurd hpc hne }
  | sent d hd hmin hle io n new hsent =>
    refine ⟨h.minTTL_pos, h.minTTL_le, h.maxTTL_le, h.lastHop_pos, h.cache_pos, ?_,
      fun hne => absurd hpc hne⟩
    intro e he
    have he : e ∈ io.resultsMap := he
    rw [hsent.resultsMap, List.mem_append] at he
    rcases he with he | he
    · exact h.hops e he
    · obtain ⟨q, hq, hreq⟩ := forall₂_mem_right hsent.requests he
      obtain ⟨round, ttl⟩ := q
      have hb := (mem_roundsAndTTLs.mp hq).2
      have hhop : e.hopNumber = ttl := hreq.hopNumber
      have := h.minTTL_pos
      show 1 ≤ e.hopNumber ∧ e.hopNumber ≤ s.maxTTL
      omega

/-- A response does not change the TTLs of the requests, and a last hop is one of them. -/
theorem response {data : ReceivedData} {s t : State} (h : TTLs p s) (hpc : s.pc = .idle)
    (hr : ResponseResult p (methods p) data s t) : TTLs p t := by
  cases hr with
  | ignored => exact h
  | later l₁ e l₂ hmap hstatus =>
    refine { h with hops := ?_, empty := fun hne => absurd hpc hne }
    have hhop : (withSource data e).hopNumber = e.hopNumber :=
      congrArg ResultEntry.Request.hopNumber (request_withSource data e)
    have hold := h.hops
    rw [hmap, List.forall_mem_append, List.forall_mem_cons] at hold
    show ∀ x ∈ l₁ ++ withSource data e :: l₂, _
    rw [List.forall_mem_append, List.forall_mem_cons, hhop]
    exact hold
  | first l₁ e e' l₂ hmap hunknown hrequest hhop hstatus =>
    have hhop : e'.hopNumber = e.hopNumber := congrArg ResultEntry.Request.hopNumber hrequest
    have hold := h.hops
    rw [hmap, List.forall_mem_append, List.forall_mem_cons] at hold
    rw [newResult_eq]
    refine ⟨h.minTTL_pos, h.minTTL_le, h.maxTTL_le, ?_, h.cache_pos, ?_,
      fun hne => absurd hpc hne⟩
    · have hlast := h.lastHop_pos
      show 1 ≤ if e'.status = .success then min s.lastHop e'.hopNumber else s.lastHop
      split <;> omega
    · show ∀ x ∈ l₁ ++ e' :: l₂, _
      rw [List.forall_mem_append, List.forall_mem_cons, hhop]
      exact hold

end TTLs

end HiPerConTracer.Service
