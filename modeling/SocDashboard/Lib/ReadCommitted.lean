/-
# Transactions under READ COMMITTED

A store with transactions in progress: what is committed, what each
transaction has written on top of it for itself, and who holds the lock of
each row. A statement of `t` reads `view t`, the committed store of that
moment under the transaction's own writes. A row lock is held until the
transaction ends; a write that needs it waits. `outside` is a write that
belongs to no transaction (a sequence that hands out a value).

Key definitions: `State`, `view`, `write`, `lock`, `commit`, `rollback`,
`outside`.
Key theorems: `view_of_idle`, `view_of_writes`, `write_after`, `released_self`.
-/
import Mathlib.Logic.Function.Basic

namespace ReadCommitted

/-- A store `D`, transactions `T`, rows `K`. -/
structure State (D T K : Type*) where
  committed : D
  /-- What a transaction in progress has written; `id` when nothing. -/
  writes : T → D → D
  /-- The transaction that holds the lock of a row. -/
  holder : K → Option T

namespace State

variable {D T K : Type*}

def init (d : D) : State D T K := ⟨d, fun _ => id, fun _ => none⟩

/-- What a statement of `t` sees. -/
def view (s : State D T K) (t : T) : D := s.writes t s.committed

def outside (s : State D T K) (f : D → D) : State D T K := { s with committed := f s.committed }

def lock [DecidableEq K] (s : State D T K) (t : T) (k : K) : State D T K :=
  { s with holder := Function.update s.holder k (some t) }

/-- A transaction that has written nothing sees what is committed. -/
theorem view_of_idle {s : State D T K} {t : T} (h : s.writes t = id) : s.view t = s.committed := by
  rw [view, h, id]

/-- What a transaction sees under its own writes. -/
theorem view_of_writes {s : State D T K} {t : T} {f : D → D} (h : s.writes t = f) :
    s.view t = f s.committed := by
  rw [view, h]

section Transactions

variable [DecidableEq T]

/-- No other transaction holds the lock of row `k`. -/
def canLock (s : State D T K) (t : T) (k : K) : Bool := s.holder k = none || s.holder k = some t

def write (s : State D T K) (t : T) (f : D → D) : State D T K :=
  { s with writes := Function.update s.writes t (f ∘ s.writes t) }

/-- The locks without those of `t`. -/
def released (s : State D T K) (t : T) (k : K) : Option T :=
  if s.holder k = some t then none else s.holder k

def commit (s : State D T K) (t : T) : State D T K :=
  ⟨s.view t, Function.update s.writes t id, s.released t⟩

def rollback (s : State D T K) (t : T) : State D T K :=
  ⟨s.committed, Function.update s.writes t id, s.released t⟩

variable {s : State D T K} {t : T} {k : K}

theorem write_writes_self (f : D → D) : (s.write t f).writes t = f ∘ s.writes t :=
  Function.update_self ..

/-- A write on top of those before. -/
theorem write_after {g : D → D} (h : s.writes t = g) (f : D → D) : (s.write t f).writes t = f ∘ g := by
  rw [write_writes_self, h]

theorem write_writes_ne {t' : T} (h : t' ≠ t) (f : D → D) : (s.write t f).writes t' = s.writes t' :=
  Function.update_of_ne h ..

theorem commit_writes_self : (s.commit t).writes t = id := Function.update_self ..

theorem commit_writes_ne {t' : T} (h : t' ≠ t) : (s.commit t).writes t' = s.writes t' :=
  Function.update_of_ne h ..

theorem rollback_writes_self : (s.rollback t).writes t = id := Function.update_self ..

theorem rollback_writes_ne {t' : T} (h : t' ≠ t) : (s.rollback t).writes t' = s.writes t' :=
  Function.update_of_ne h ..

/-- When every other transaction is idle, all are once this one ends. -/
theorem idle_after {t' : T} (h : t' ≠ t → s.writes t' = id) : Function.update s.writes t id t' = id := by
  by_cases ht : t' = t
  · rw [ht, Function.update_self]
  · rw [Function.update_of_ne ht, h ht]

/-- The end of a transaction frees the row it held. -/
theorem released_self (h : s.holder k = some t) : s.released t k = none := by
  simp [released, h]

/-- A row that nobody held stays free. -/
theorem released_none (h : s.holder k = none) : s.released t k = none := by
  simp [released, h]

end Transactions

end State

end ReadCommitted
