import Mathlib.Data.List.Basic
import Mathlib.Data.List.Infix

/-!
# Files that appear under their final names

A disk has files by their paths, and the content of a file is only known when it has been closed.
Operations on the last file leave those before it as they are (`put_last`, `rename_last`), and a condition
holds always if it does before and behind each operation (`always_append`, `always_cons`).
-/

namespace Disk

variable {π β : Type} [DecidableEq π]

inductive Op (π β : Type) where
  | create (path : π)
  | write (path : π)
  | close (path : π) (content : β)
  | rename (path path' : π)
  | remove (path : π)

/-- The files, each with its content once it is complete. -/
abbrev Files (π β : Type) := List (π × Option β)

def remove (path : π) (d : Files π β) : Files π β := d.filter (·.1 ≠ path)

/-- A file with the path, in the place of one that there has been. -/
def put (path : π) (content : Option β) (d : Files π β) : Files π β :=
  remove path d ++ [(path, content)]

/-- The file gets another path, in the place of one that there has been. -/
def rename (path path' : π) (d : Files π β) : Files π β :=
  match d.lookup path with
  | none => d
  | some content => put path' content (remove path d)

def apply (d : Files π β) : Op π β → Files π β
  | .create path => put path none d
  | .write path => put path none d
  | .close path content => put path (some content) d
  | .rename path path' => rename path path' d
  | .remove path => remove path d

def run (d : Files π β) (ops : List (Op π β)) : Files π β := ops.foldl apply d

theorem run_append (d : Files π β) (ops ops' : List (Op π β)) :
    run d (ops ++ ops') = run (run d ops) ops' := List.foldl_append

/-! ## Files that are not touched -/

/-- No file has the path. -/
def Untouched (path : π) (d : Files π β) : Prop := ∀ e ∈ d, e.1 ≠ path

theorem remove_untouched {path : π} {d : Files π β} (h : Untouched path d) : remove path d = d := by
  unfold remove
  rw [List.filter_eq_self]
  intro e he
  exact decide_eq_true (h e he)

theorem put_untouched {path : π} {d : Files π β} (h : Untouched path d) (content : Option β) :
    put path content d = d ++ [(path, content)] := by
  unfold put
  rw [remove_untouched h]

theorem remove_last {path : π} {d : Files π β} (h : Untouched path d) (content : Option β) :
    remove path (d ++ [(path, content)]) = d := by
  have hlast : remove path [(path, content)] = [] := by
    unfold remove
    simp
  unfold remove at *
  rw [List.filter_append, hlast, List.append_nil]
  exact remove_untouched h

theorem put_last {path : π} {d : Files π β} (h : Untouched path d) (content content' : Option β) :
    put path content' (d ++ [(path, content)]) = d ++ [(path, content')] := by
  unfold put
  rw [remove_last h]

theorem lookup_last {path : π} {d : Files π β} (h : Untouched path d) (content : Option β) :
    (d ++ [(path, content)]).lookup path = some content := by
  induction d with
  | nil => simp
  | cons e d ih =>
    have hne : (path == e.1) = false := by
      rw [beq_eq_false_iff_ne]
      exact (h e List.mem_cons_self).symm
    rw [List.cons_append, List.lookup_cons, hne]
    exact ih fun e he => h e (List.mem_cons_of_mem _ he)

/-- The file at the end of the list is renamed. -/
theorem rename_last {path path' : π} {d : Files π β} (h : Untouched path d) (h' : Untouched path' d)
    (content : Option β) :
    rename path path' (d ++ [(path, content)]) = d ++ [(path', content)] := by
  unfold rename
  rw [lookup_last h]
  dsimp only
  rw [remove_last h, put_untouched h']

/-! ## Moments -/

/-- The condition holds at every moment, before and behind each operation. -/
def Always (P : Files π β → Prop) (d : Files π β) (ops : List (Op π β)) : Prop :=
  ∀ done, done <+: ops → P (run d done)

theorem always_append {P : Files π β → Prop} {d : Files π β} {ops ops' : List (Op π β)}
    (h : Always P d ops) (h' : Always P (run d ops) ops') : Always P d (ops ++ ops') := by
  intro done hdone
  rcases List.prefix_or_prefix_of_prefix hdone (List.prefix_append ops ops') with hle | ⟨rest, rfl⟩
  · exact h done hle
  · rw [run_append]
    exact h' rest ((List.prefix_append_right_inj ops).mp hdone)

theorem always_nil {P : Files π β → Prop} {d : Files π β} (h : P d) : Always P d [] := by
  intro done hdone
  rw [List.prefix_nil.mp hdone]
  exact h

theorem always_cons {P : Files π β → Prop} {d : Files π β} {op : Op π β} {ops : List (Op π β)}
    (h : P d) (h' : Always P (apply d op) ops) : Always P d (op :: ops) := by
  intro done hdone
  cases done with
  | nil => exact h
  | cons op' done =>
    obtain ⟨rfl, hrest⟩ := List.cons_prefix_cons.mp hdone
    exact h' done hrest

end Disk
