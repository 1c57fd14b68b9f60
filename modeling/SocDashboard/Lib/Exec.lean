/-
# Computations with exceptions over a store that survives them

`Exec σ ε α` reads and changes a store `σ` and ends with a value or with an
exception; the store it leaves is there either way, as in a program whose
`try` block has already had effects when it raises. `atomically` is the
transaction block: on an exception the changes are taken back.

`Keeps R x` says that `x` leaves a store related by `R` to the one it found,
whatever way it ends; its rules follow the constructions, so that what a
handler can do to the store is read off its text.

Key definitions: `Exec`, `attempt`, `catching`, `atomically`, `zoom`,
`forEach`, `Keeps`.
Key theorems: `bind_eq_ok`, `bind_eq_error`, `forEach_ok_iff`, `forEach_out`,
`Keeps.bind`, `Keeps.andThen`, `Keeps.atomically`.
-/
import Mathlib.Order.Defs.Unbundled

/-- A computation over the store `σ` that ends with an `α` or raises an `ε`. -/
def Exec (σ ε α : Type) : Type := σ → Except ε α × σ

namespace Exec

variable {σ τ ε α β : Type}

instance : Monad (Exec σ ε) where
  pure a := fun s => (.ok a, s)
  bind x f := fun s =>
    match x s with
    | (.ok a, s') => f a s'
    | (.error e, s') => (.error e, s')

def raise (e : ε) : Exec σ ε α := fun s => (.error e, s)

/-- A pure expression that may raise. -/
def lift (x : Except ε α) : Exec σ ε α := fun s => (x, s)

def gets (f : σ → α) : Exec σ ε α := fun s => (.ok (f s), s)

def modify (f : σ → σ) : Exec σ ε Unit := fun s => (.ok (), f s)

/-- `x`, unless the call fails: then `e` is raised before anything is done. -/
def attempt (fails : Bool) (e : ε) (x : Exec σ ε α) : Exec σ ε α := if fails then raise e else x

/-- `try x except h`. -/
def catching (x : Exec σ ε α) (h : ε → Exec σ ε α) : Exec σ ε α := fun s =>
  match x s with
  | (.ok a, s') => (.ok a, s')
  | (.error e, s') => h e s'

/-- A transaction block: when `x` raises, `back old new` is left of its
changes. -/
def atomically (back : σ → σ → σ) (x : Exec σ ε α) : Exec σ ε α := fun s =>
  match x s with
  | (.ok a, s') => (.ok a, s')
  | (.error e, s') => (.error e, back s s')

/-- A computation on a part of the store. -/
def zoom (get : σ → τ) (set : τ → σ → σ) (x : Exec τ ε α) : Exec σ ε α := fun s =>
  ((x (get s)).1, set (x (get s)).2 s)

/-- `for x in xs: f(x)`. -/
def forEach (f : β → Exec σ ε Unit) : List β → Exec σ ε Unit
  | [] => pure ()
  | x :: xs => do
    f x
    forEach f xs

@[simp] theorem pure_apply (a : α) (s : σ) : (pure a : Exec σ ε α) s = (.ok a, s) := rfl

theorem bind_apply (x : Exec σ ε α) (f : α → Exec σ ε β) (s : σ) :
    (x >>= f) s = match x s with
      | (.ok a, s') => f a s'
      | (.error e, s') => (.error e, s') := rfl

@[simp] theorem raise_apply (e : ε) (s : σ) : (raise e : Exec σ ε α) s = (.error e, s) := rfl

@[simp] theorem lift_apply (x : Except ε α) (s : σ) : (lift x : Exec σ ε α) s = (x, s) := rfl

@[simp] theorem gets_apply (f : σ → α) (s : σ) : (gets f : Exec σ ε α) s = (.ok (f s), s) := rfl

@[simp] theorem modify_apply (f : σ → σ) (s : σ) :
    (modify f : Exec σ ε Unit) s = (.ok (), f s) := rfl

@[simp] theorem attempt_true (e : ε) (x : Exec σ ε α) : attempt true e x = raise e := rfl

@[simp] theorem attempt_false (e : ε) (x : Exec σ ε α) : attempt false e x = x := rfl

@[simp] theorem zoom_apply (get : σ → τ) (set : τ → σ → σ) (x : Exec τ ε α) (s : σ) :
    zoom get set x s = ((x (get s)).1, set (x (get s)).2 s) := rfl

/-- What a sequence of pure expressions that did not raise went through. -/
theorem except_bind_eq_ok {x : Except ε α} {f : α → Except ε β} {b : β} :
    x >>= f = .ok b ↔ ∃ a, x = .ok a ∧ f a = .ok b := by
  cases x <;> simp [bind, Except.bind]

/-- ... and of one that did. -/
theorem except_bind_eq_error {x : Except ε α} {f : α → Except ε β} {e : ε} :
    x >>= f = .error e ↔ x = .error e ∨ ∃ a, x = .ok a ∧ f a = .error e := by
  cases x <;> simp [bind, Except.bind]

/-- A traversal whose steps all return is a map. -/
theorem except_mapM_eq_map {f : α → Except ε β} {g : α → β} :
    ∀ {l : List α}, (∀ x ∈ l, f x = .ok (g x)) → l.mapM f = .ok (l.map g)
  | [], _ => rfl
  | x :: l, h => by
    have htail := except_mapM_eq_map fun z hz => h z (List.mem_cons_of_mem x hz)
    rw [List.mapM_cons, h x List.mem_cons_self, htail]
    rfl

/-- A traversal that went through did so at every element. -/
theorem except_mapM_mem {f : α → Except ε β} {l : List α} {ys : List β} (h : l.mapM f = .ok ys) :
    ∀ x ∈ l, ∃ y, f x = .ok y := by
  induction l generalizing ys with
  | nil => simp
  | cons x l ih =>
    rw [List.mapM_cons] at h
    obtain ⟨y, hy, h⟩ := except_bind_eq_ok.mp h
    obtain ⟨zs, hzs, -⟩ := except_bind_eq_ok.mp h
    intro z hz
    rcases List.mem_cons.mp hz with rfl | hz
    · exact ⟨y, hy⟩
    · exact ih hzs z hz

/-- One that raised did so at an element. -/
theorem except_mapM_eq_error {f : α → Except ε β} {l : List α} {e : ε} (h : l.mapM f = .error e) :
    ∃ x ∈ l, f x = .error e := by
  induction l with
  | nil => cases h
  | cons x l ih =>
    rw [List.mapM_cons] at h
    rcases except_bind_eq_error.mp h with hx | ⟨y, -, h⟩
    · exact ⟨x, List.mem_cons_self, hx⟩
    · rcases except_bind_eq_error.mp h with hl | ⟨ys, -, hpure⟩
      · obtain ⟨z, hz, he⟩ := ih hl
        exact ⟨z, List.mem_cons_of_mem x hz, he⟩
      · cases hpure

/-- What a sequence that ended normally went through. -/
theorem bind_eq_ok {x : Exec σ ε α} {f : α → Exec σ ε β} {s s' : σ} {b : β} :
    (x >>= f) s = (.ok b, s') ↔ ∃ a s₁, x s = (.ok a, s₁) ∧ f a s₁ = (.ok b, s') := by
  rw [bind_apply]
  rcases x s with ⟨e | a, s₁⟩
  · simp
  · simp [and_assoc]

/-- A sequence raises in its first part or in its second. -/
theorem bind_eq_error {x : Exec σ ε α} {f : α → Exec σ ε β} {s s' : σ} {e : ε} :
    (x >>= f) s = (.error e, s') ↔
      x s = (.error e, s') ∨ ∃ a s₁, x s = (.ok a, s₁) ∧ f a s₁ = (.error e, s') := by
  rw [bind_apply]
  rcases x s with ⟨e' | a, s₁⟩
  · simp
  · simp [and_assoc]

theorem attempt_eq_ok {fails : Bool} {e : ε} {x : Exec σ ε α} {s s' : σ} {a : α} :
    attempt fails e x s = (.ok a, s') ↔ fails = false ∧ x s = (.ok a, s') := by
  cases fails <;> simp

theorem lift_eq_ok {x : Except ε α} {s s' : σ} {a : α} :
    lift x s = (.ok a, s') ↔ x = .ok a ∧ s = s' := by
  simp

theorem atomically_ok {back : σ → σ → σ} {x : Exec σ ε α} {s s' : σ} {a : α} :
    atomically back x s = (.ok a, s') ↔ x s = (.ok a, s') := by
  unfold atomically
  rcases x s with ⟨_ | b, s₁⟩ <;> simp

theorem atomically_error {back : σ → σ → σ} {x : Exec σ ε α} {s s' : σ} {e : ε} :
    atomically back x s = (.error e, s') ↔ ∃ s₁, x s = (.error e, s₁) ∧ back s s₁ = s' := by
  unfold atomically
  rcases x s with ⟨e' | b, s₁⟩
  · simp [and_assoc]
  · simp

/-! ### Loops -/

section ForEach

variable {f : β → Exec σ ε Unit}

/-- A loop ends normally exactly when each of its items is one that does not raise. -/
theorem forEach_ok_iff {good : β → Prop} (hgood : ∀ x s, good x ↔ ∃ s', f x s = (.ok (), s')) :
    ∀ (xs : List β) (s : σ), (∃ s', forEach f xs s = (.ok (), s')) ↔ ∀ x ∈ xs, good x
  | [], s => by simp [forEach]
  | x :: xs, s => by
    have hx : (∃ s', forEach f (x :: xs) s = (.ok (), s')) ↔
        ∃ s₁, f x s = (.ok (), s₁) ∧ ∃ s', forEach f xs s₁ = (.ok (), s') := by
      simp only [forEach, bind_eq_ok]
      constructor
      · rintro ⟨s', u, s₁, h₁, h₂⟩
        exact ⟨s₁, h₁, s', h₂⟩
      · rintro ⟨s₁, h₁, s', h₂⟩
        exact ⟨s', (), s₁, h₁, h₂⟩
    rw [hx, List.forall_mem_cons, hgood x s]
    constructor
    · rintro ⟨s₁, h₁, h₂⟩
      exact ⟨⟨s₁, h₁⟩, (forEach_ok_iff hgood xs s₁).mp h₂⟩
    · rintro ⟨⟨s₁, h₁⟩, h₂⟩
      exact ⟨s₁, h₁, (forEach_ok_iff hgood xs s₁).mpr h₂⟩

/-- What a loop that ends normally adds to a list it keeps, item by item. -/
theorem forEach_out (out : σ → List α) {emits : β → List α}
    (h : ∀ x s s', f x s = (.ok (), s') → out s' = out s ++ emits x) :
    ∀ (xs : List β) (s s' : σ), forEach f xs s = (.ok (), s') → out s' = out s ++ xs.flatMap emits
  | [], s, s', hr => by
    simp only [forEach, pure_apply, Prod.mk.injEq] at hr
    simp [← hr.2]
  | x :: xs, s, s', hr => by
    obtain ⟨u, s₁, h₁, h₂⟩ := bind_eq_ok.mp hr
    rw [forEach_out out h xs s₁ s' h₂, h x s s₁ h₁, List.flatMap_cons, List.append_assoc]

end ForEach

/-! ### What a computation does to the store, however it ends -/

/-- `x` leaves a store that `R` relates to the one it started from. -/
def Keeps (R : σ → σ → Prop) (x : Exec σ ε α) : Prop := ∀ s, R s (x s).2

section Keeps

variable {R : σ → σ → Prop}

theorem Keeps.pure [Std.Refl R] (a : α) : Keeps R (pure a : Exec σ ε α) := fun s => refl s

theorem Keeps.raise [Std.Refl R] (e : ε) : Keeps R (raise e : Exec σ ε α) := fun s => refl s

theorem Keeps.lift [Std.Refl R] (x : Except ε α) : Keeps R (lift x : Exec σ ε α) := fun s => refl s

theorem Keeps.gets [Std.Refl R] (f : σ → α) : Keeps R (gets f : Exec σ ε α) := fun s => refl s

theorem Keeps.modify {f : σ → σ} (h : ∀ s, R s (f s)) : Keeps R (modify f : Exec σ ε Unit) := h

/-- `x` does what `R` says and the rest no more than `S` says. -/
theorem Keeps.andThen {S : σ → σ → Prop} (hRS : ∀ s t u, R s t → S t u → R s u) {x : Exec σ ε α}
    {f : α → Exec σ ε β} (hx : Keeps R x) (hf : ∀ a, Keeps S (f a)) : Keeps R (x >>= f) := by
  intro s
  have h := hx s
  rw [bind_apply]
  rcases hxs : x s with ⟨_ | a, s₁⟩
  · rw [hxs] at h; exact h
  · rw [hxs] at h; exact hRS _ _ _ h (hf a s₁)

theorem Keeps.bind [IsTrans σ R] {x : Exec σ ε α} {f : α → Exec σ ε β} (hx : Keeps R x)
    (hf : ∀ a, Keeps R (f a)) : Keeps R (x >>= f) :=
  Keeps.andThen (R := R) (S := R) (fun s t u => IsTrans.trans s t u) hx hf

/-- A pure expression that may raise, then what its value leads to. -/
theorem Keeps.lift_bind [Std.Refl R] {x : Except ε α} {f : α → Exec σ ε β}
    (h : ∀ a, x = .ok a → Keeps R (f a)) : Keeps R (Exec.lift x >>= f) := by
  intro s
  cases x with
  | error e => exact refl s
  | ok a => exact h a rfl s

theorem Keeps.ite {p : Prop} [Decidable p] {x y : Exec σ ε α} (hx : p → Keeps R x) (hy : ¬p → Keeps R y) :
    Keeps R (if p then x else y) := by
  split
  · exact hx ‹_›
  · exact hy ‹_›

theorem Keeps.attempt [Std.Refl R] {fails : Bool} {e : ε} {x : Exec σ ε α} (hx : Keeps R x) :
    Keeps R (attempt fails e x) := by
  cases fails
  · exact hx
  · exact Keeps.raise e

theorem Keeps.catching [IsTrans σ R] {x : Exec σ ε α} {h : ε → Exec σ ε α} (hx : Keeps R x)
    (hh : ∀ e, Keeps R (h e)) : Keeps R (catching x h) := by
  intro s
  have hs := hx s
  unfold Exec.catching
  rcases hxs : x s with ⟨e | a, s₁⟩
  · rw [hxs] at hs; exact IsTrans.trans _ _ _ hs (hh e s₁)
  · rw [hxs] at hs; exact hs

/-- A block keeps `R` when its body does and taking the changes back does. -/
theorem Keeps.atomically {back : σ → σ → σ} {x : Exec σ ε α} (hb : ∀ s s', R s s' → R s (back s s'))
    (hx : Keeps R x) : Keeps R (atomically back x) := by
  intro s
  have hs := hx s
  unfold Exec.atomically
  rcases hxs : x s with ⟨e | a, s₁⟩
  · rw [hxs] at hs; exact hb s s₁ hs
  · rw [hxs] at hs; exact hs

/-- A computation on a part of the store. -/
theorem Keeps.zoom {S : τ → τ → Prop} {get : σ → τ} {set : τ → σ → σ} {x : Exec τ ε α}
    (h : ∀ s t, S (get s) t → R s (set t s)) (hx : Keeps S x) : Keeps R (zoom get set x) :=
  fun s => h s _ (hx (get s))

end Keeps

end Exec
