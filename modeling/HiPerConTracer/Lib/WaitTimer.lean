/-!
# Timers with asynchronous waits

A timer of an event loop has waits that are pending, and handlers of former waits that are queued:
without an error if the timer expired, with an abort error if the wait was cancelled.  Setting a new
expiry time cancels what is pending, but not what is queued.
-/

structure WaitTimer where
  expiry : Nat
  /-- Pending waits. -/
  waiting : Nat
  /-- Queued handlers of waits that have expired. -/
  expired : Nat
  /-- Queued handlers of waits that were cancelled. -/
  aborted : Nat
deriving DecidableEq, Repr

namespace WaitTimer

def idle : WaitTimer := ⟨0, 0, 0, 0⟩

/-- Waits and handlers of the timer. -/
def outstanding (t : WaitTimer) : Nat := t.waiting + t.expired + t.aborted

def cancel (t : WaitTimer) : WaitTimer :=
  { t with waiting := 0, aborted := t.aborted + t.waiting }

def expiresAt (t : WaitTimer) (time : Nat) : WaitTimer := { t.cancel with expiry := time }

def asyncWait (t : WaitTimer) : WaitTimer := { t with waiting := t.waiting + 1 }

/-- The loop notices that the timer has expired. -/
def expire (t : WaitTimer) (now : Nat) : WaitTimer :=
  if t.expiry ≤ now then { t with waiting := 0, expired := t.expired + t.waiting } else t

/-- A queued handler is taken from the queue, with an error or without. -/
def take (t : WaitTimer) (abort : Bool) : Option WaitTimer :=
  if abort then
    if t.aborted = 0 then none else some { t with aborted := t.aborted - 1 }
  else if t.expired = 0 then none else some { t with expired := t.expired - 1 }

@[simp] theorem cancel_outstanding (t : WaitTimer) : t.cancel.outstanding = t.outstanding := by
  simp only [cancel, outstanding]
  omega

@[simp] theorem cancel_waiting (t : WaitTimer) : t.cancel.waiting = 0 := rfl

@[simp] theorem cancel_expired (t : WaitTimer) : t.cancel.expired = t.expired := rfl

@[simp] theorem expiresAt_waiting (t : WaitTimer) (time : Nat) : (t.expiresAt time).waiting = 0 :=
  rfl

@[simp] theorem expiresAt_expired (t : WaitTimer) (time : Nat) :
    (t.expiresAt time).expired = t.expired := rfl

@[simp] theorem expiresAt_expiry (t : WaitTimer) (time : Nat) : (t.expiresAt time).expiry = time :=
  rfl

@[simp] theorem expiresAt_outstanding (t : WaitTimer) (time : Nat) :
    (t.expiresAt time).outstanding = t.outstanding := cancel_outstanding t

@[simp] theorem asyncWait_outstanding (t : WaitTimer) :
    t.asyncWait.outstanding = t.outstanding + 1 := by
  simp only [asyncWait, outstanding]
  omega

@[simp] theorem asyncWait_waiting (t : WaitTimer) : t.asyncWait.waiting = t.waiting + 1 := rfl

@[simp] theorem asyncWait_expired (t : WaitTimer) : t.asyncWait.expired = t.expired := rfl

@[simp] theorem expire_outstanding (t : WaitTimer) (now : Nat) :
    (t.expire now).outstanding = t.outstanding := by
  unfold expire
  split
  · simp only [outstanding]
    omega
  · rfl

theorem expire_waiting_le (t : WaitTimer) (now : Nat) : (t.expire now).waiting ≤ t.waiting := by
  unfold expire
  split
  · exact Nat.zero_le _
  · exact Nat.le_refl _

theorem expire_waiting_expired (t : WaitTimer) (now : Nat) :
    (t.expire now).waiting + (t.expire now).expired = t.waiting + t.expired := by
  unfold expire
  split
  · simp only
    omega
  · rfl

theorem exists_take {t : WaitTimer} (h : 0 < t.expired + t.aborted) :
    ∃ abort t', t.take abort = some t' := by
  unfold take
  by_cases haborted : t.aborted = 0
  · have hexpired : t.expired ≠ 0 := by omega
    exact ⟨false, _, by rw [if_neg (by decide), if_neg hexpired]⟩
  · exact ⟨true, _, by rw [if_pos rfl, if_neg haborted]⟩

/-- Taking a handler from the queue: there was one. -/
theorem take_cases {t t' : WaitTimer} {abort : Bool} (h : t.take abort = some t') :
    (abort = true ∧ 0 < t.aborted ∧ t' = { t with aborted := t.aborted - 1 }) ∨
      (abort = false ∧ 0 < t.expired ∧ t' = { t with expired := t.expired - 1 }) := by
  unfold take at h
  cases abort with
  | true =>
    simp only [if_true] at h
    split at h
    · cases h
    · cases h
      exact Or.inl ⟨rfl, by omega, rfl⟩
  | false =>
    simp only [Bool.false_eq_true, if_false] at h
    split at h
    · cases h
    · cases h
      exact Or.inr ⟨rfl, by omega, rfl⟩

theorem take_waiting {t t' : WaitTimer} {abort : Bool} (h : t.take abort = some t') :
    t'.waiting = t.waiting := by
  rcases take_cases h with ⟨-, -, rfl⟩ | ⟨-, -, rfl⟩ <;> rfl

theorem take_outstanding {t t' : WaitTimer} {abort : Bool} (h : t.take abort = some t') :
    t'.outstanding + 1 = t.outstanding := by
  rcases take_cases h with ⟨-, hpos, rfl⟩ | ⟨-, hpos, rfl⟩ <;>
  · simp only [outstanding]
    omega

end WaitTimer
