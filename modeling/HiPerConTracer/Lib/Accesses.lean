import Mathlib.Data.List.Basic

/-!
# Accesses to arrays

A computation on some arrays of one size is recorded as the list of its reads and writes.  It is
safe if every index is below the size, and every element that is read has been written before:

    Safe size writes → Reads writes m → Safe size (m writes).2              (Reads.safe)

`Reads writes m` is composed from the steps of `m`, which may fail.
-/

namespace Accesses

/-- A read or a write of an element; `ι` names the arrays. -/
inductive Access (ι : Type) where
  | read (array : ι) (index : Nat)
  | write (array : ι) (index : Nat)
deriving DecidableEq, Repr

variable {ι ε α β : Type}

def Access.index : Access ι → Nat
  | .read _ k => k
  | .write _ k => k

structure Safe (size : Nat) (trace : List (Access ι)) : Prop where
  inBounds : ∀ a ∈ trace, a.index < size
  written : ∀ before x k after, trace = before ++ .read x k :: after → .write x k ∈ before

/-- Writes within bounds. -/
theorem safe_of_writes {size : Nat} {trace : List (Access ι)}
    (h : ∀ a ∈ trace, ∃ x k, a = .write x k ∧ k < size) : Safe size trace := by
  constructor
  · intro a ha
    obtain ⟨x, k, rfl, hk⟩ := h a ha
    exact hk
  · intro before x k after htrace
    obtain ⟨_, _, heq, -⟩ := h (.read x k) (htrace ▸ List.mem_append_right _ List.mem_cons_self)
    cases heq

/-- Reads of what has been written. -/
theorem Safe.append_reads {size : Nat} {trace more : List (Access ι)} (h : Safe size trace)
    (hmore : ∀ a ∈ more, ∃ x k, a = .read x k ∧ .write x k ∈ trace) :
    Safe size (trace ++ more) := by
  constructor
  · intro a ha
    rcases List.mem_append.mp ha with ha | ha
    · exact h.inBounds a ha
    · obtain ⟨x, k, rfl, hw⟩ := hmore a ha
      show k < size
      exact h.inBounds (.write x k) hw
  · intro before x k after htrace
    rcases List.append_eq_append_iff.mp htrace with ⟨l, rfl, hl⟩ | ⟨l, rfl, hl⟩
    · have hin : Access.read x k ∈ more := hl ▸ List.mem_append_right _ List.mem_cons_self
      obtain ⟨_, _, heq, hw⟩ := hmore _ hin
      cases heq
      exact List.mem_append_left _ hw
    · cases l with
      | nil =>
        have hin : Access.read x k ∈ more := by
          rw [← List.nil_append more, ← hl]
          exact List.mem_cons_self
        obtain ⟨_, _, heq, hw⟩ := hmore _ hin
        cases heq
        exact List.append_nil before ▸ hw
      | cons a l =>
        cases hl
        exact h.written before x k l rfl

/-! ## Recorded computations -/

/-- A computation that may fail, with its accesses behind those before it. -/
def Recording (ι ε α : Type) : Type := List (Access ι) → Except ε α × List (Access ι)

instance : Monad (Recording ι ε) where
  pure a := fun trace => (.ok a, trace)
  bind m f := fun trace =>
    match m trace with
    | (.ok a, trace) => f a trace
    | (.error e, trace) => (.error e, trace)

def Recording.lift (r : Except ε α) : Recording ι ε α := fun trace => (r, trace)

def Recording.mapError (f : ε → ε) (m : Recording ι ε α) : Recording ι ε α :=
  fun trace => ((m trace).1.mapError f, (m trace).2)

def Recording.access (a : Access ι) : Recording ι ε Unit := fun trace => (.ok (), trace ++ [a])

/-- Every access is a read of an element of `writes`. -/
def Reads (writes : List (Access ι)) (m : Recording ι ε α) : Prop :=
  ∀ trace, ∃ more, (m trace).2 = trace ++ more ∧
    ∀ a ∈ more, ∃ x k, a = .read x k ∧ .write x k ∈ writes

namespace Reads
variable {writes : List (Access ι)}

theorem pure (a : α) : Reads writes (Pure.pure a : Recording ι ε α) :=
  fun trace => ⟨[], (List.append_nil trace).symm, fun _ h => absurd h List.not_mem_nil⟩

theorem lift (r : Except ε α) : Reads writes (Recording.lift r : Recording ι ε α) :=
  fun trace => ⟨[], (List.append_nil trace).symm, fun _ h => absurd h List.not_mem_nil⟩

theorem mapError {m : Recording ι ε α} (f : ε → ε) (h : Reads writes m) :
    Reads writes (m.mapError f) := h

theorem access {x : ι} {k : Nat} (h : .write x k ∈ writes) :
    Reads writes (Recording.access (.read x k) : Recording ι ε Unit) := by
  intro trace
  refine ⟨[.read x k], rfl, fun a ha => ?_⟩
  rw [List.mem_singleton.mp ha]
  exact ⟨x, k, rfl, h⟩

theorem bind {m : Recording ι ε α} {f : α → Recording ι ε β} (hm : Reads writes m)
    (hf : ∀ a, Reads writes (f a)) : Reads writes (m >>= f) := by
  intro trace
  obtain ⟨more, htrace, hmore⟩ := hm trace
  show ∃ more, (match m trace with
    | (.ok a, trace) => f a trace
    | (.error e, trace) => (.error e, trace)).2 = trace ++ more ∧ _
  cases hr : m trace with
  | mk r trace' =>
    rw [hr] at htrace
    cases r with
    | error e => exact ⟨more, htrace, hmore⟩
    | ok a =>
      obtain ⟨more', htrace', hmore'⟩ := hf a trace'
      refine ⟨more ++ more', ?_, fun x hx => ?_⟩
      · show (f a trace').2 = _
        rw [htrace', show trace' = trace ++ more from htrace, List.append_assoc]
      · rcases List.mem_append.mp hx with hx | hx
        · exact hmore x hx
        · exact hmore' x hx

theorem ite {c : Prop} [Decidable c] {m m' : Recording ι ε α} (hm : c → Reads writes m)
    (hm' : ¬ c → Reads writes m') : Reads writes (if c then m else m') := by
  by_cases hc : c
  · rw [if_pos hc]
    exact hm hc
  · rw [if_neg hc]
    exact hm' hc

/-- **Safe writes, and then reads of what has been written.** -/
theorem safe {size : Nat} {m : Recording ι ε α} (h : Safe size writes) (hm : Reads writes m) :
    Safe size (m writes).2 := by
  obtain ⟨more, htrace, hmore⟩ := hm writes
  rw [htrace]
  exact h.append_reads hmore

end Reads

/-- The result, whatever has been accessed before. -/
def Yields (m : Recording ι ε α) (r : Except ε α) : Prop := ∀ trace, (m trace).1 = r

namespace Yields

theorem pure (a : α) : Yields (Pure.pure a : Recording ι ε α) (.ok a) := fun _ => rfl

theorem lift (r : Except ε α) : Yields (Recording.lift r : Recording ι ε α) r := fun _ => rfl

theorem access (a : Access ι) : Yields (Recording.access a : Recording ι ε Unit) (.ok ()) :=
  fun _ => rfl

theorem mapError {m : Recording ι ε α} {r : Except ε α} (f : ε → ε) (h : Yields m r) :
    Yields (m.mapError f) (r.mapError f) := by
  intro trace
  show (m trace).1.mapError f = r.mapError f
  rw [h trace]

theorem bind {m : Recording ι ε α} {r : Except ε α} {f : α → Recording ι ε β}
    {g : α → Except ε β} (hm : Yields m r) (hf : ∀ a, Yields (f a) (g a)) :
    Yields (m >>= f) (r >>= g) := by
  intro trace
  show (match m trace with
    | (.ok a, trace) => f a trace
    | (.error e, trace) => (.error e, trace)).1 = r >>= g
  have hr := hm trace
  cases hmt : m trace with
  | mk r' trace' =>
    rw [hmt] at hr
    obtain rfl : r' = r := hr
    cases r' with
    | error e => rfl
    | ok a => exact hf a trace'

/-- A step with a result that is known. -/
theorem bind_ok {m : Recording ι ε α} {a : α} {f : α → Recording ι ε β} {r : Except ε β}
    (hm : Yields m (.ok a)) (hf : Yields (f a) r) : Yields (m >>= f) r := by
  intro trace
  show (match m trace with
    | (.ok a, trace) => f a trace
    | (.error e, trace) => (.error e, trace)).1 = r
  have hr := hm trace
  cases hmt : m trace with
  | mk r' trace' =>
    rw [hmt] at hr
    obtain rfl : r' = .ok a := hr
    exact hf trace'

/-- A step that fails. -/
theorem bind_error {m : Recording ι ε α} {e : ε} (f : α → Recording ι ε β)
    (hm : Yields m (.error e)) : Yields (m >>= f) (.error e) := by
  intro trace
  show (match m trace with
    | (.ok a, trace) => f a trace
    | (.error e, trace) => (.error e, trace)).1 = .error e
  have hr := hm trace
  cases hmt : m trace with
  | mk r' trace' =>
    rw [hmt] at hr
    obtain rfl : r' = .error e := hr
    rfl

theorem ite {c : Prop} [Decidable c] {m m' : Recording ι ε α} {r r' : Except ε α}
    (hm : Yields m r) (hm' : Yields m' r') :
    Yields (if c then m else m') (if c then r else r') := by
  by_cases hc : c
  · rw [if_pos hc, if_pos hc]
    exact hm
  · rw [if_neg hc, if_neg hc]
    exact hm'

end Yields

end Accesses
