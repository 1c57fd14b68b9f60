/-
# Patterns with wildcards

A pattern is a list of tokens: a letter, which stands for itself, `one` for
any letter and `any` for any letters. A pattern of letters only, with `any` on
both sides, matches the texts that contain them (`matches_containing_letters`).
Every pattern matches its instance, in which `any` stands for nothing, and no
text that is shorter.

Key definitions: `Token`, `Matches`, `containing`, `fill`, `leastLength`.
Key theorems: `matches_containing_letters`, `matches_fill`,
`leastLength_le_of_matches`.
-/
import Mathlib.Data.List.Infix

namespace Wildcard

inductive Token (α : Type*)
  | letter (a : α)
  | one
  | any
  deriving DecidableEq, Repr

variable {α β : Type*}

def Token.map (f : α → β) : Token α → Token β
  | .letter a => .letter (f a)
  | .one => .one
  | .any => .any

/-- The text matches the pattern. -/
def Matches : List (Token α) → List α → Prop
  | [], s => s = []
  | .letter a :: p, s => ∃ t, s = a :: t ∧ Matches p t
  | .one :: p, s => ∃ b t, s = b :: t ∧ Matches p t
  | .any :: p, s => ∃ t, t <:+ s ∧ Matches p t

/-- The pattern with anything on both sides. -/
def containing (p : List (Token α)) : List (Token α) := .any :: (p ++ [.any])

/-- The instance of a pattern: `b` for any letter, nothing for any letters. -/
def fill (b : α) : List (Token α) → List α
  | [] => []
  | .letter a :: p => a :: fill b p
  | .one :: p => b :: fill b p
  | .any :: p => fill b p

/-- The length of the shortest texts that match. -/
def leastLength : List (Token α) → ℕ
  | [] => 0
  | .letter _ :: p => leastLength p + 1
  | .one :: p => leastLength p + 1
  | .any :: p => leastLength p

/-! ### Letters only -/

theorem matches_letters_append {p : List (Token α)} : ∀ {q s : List α},
    Matches (q.map .letter ++ p) s ↔ ∃ t, s = q ++ t ∧ Matches p t
  | [], s => by simp
  | a :: q, s => by
    simp only [List.map_cons, List.cons_append, Matches, matches_letters_append (q := q)]
    constructor
    · rintro ⟨t, rfl, t', rfl, h⟩
      exact ⟨t', rfl, h⟩
    · rintro ⟨t, rfl, h⟩
      exact ⟨q ++ t, rfl, t, rfl, h⟩

theorem matches_any (s : List α) : Matches [Token.any] s := ⟨[], List.nil_suffix, rfl⟩

/-- **Letters with anything on both sides match what contains them.** -/
theorem matches_containing_letters {q s : List α} : Matches (containing (q.map .letter)) s ↔ q <:+: s := by
  simp only [containing, Matches, matches_letters_append]
  constructor
  · rintro ⟨t, hsuffix, u, rfl, -⟩
    exact (List.prefix_append q u).isInfix.trans hsuffix.isInfix
  · rintro ⟨u, v, rfl⟩
    refine ⟨q ++ v, ?_, v, rfl, matches_any v⟩
    rw [List.append_assoc]
    exact List.suffix_append u (q ++ v)

/-! ### The instance -/

/-- **A pattern matches its instance.** -/
theorem matches_fill (b : α) : ∀ p : List (Token α), Matches p (fill b p)
  | [] => rfl
  | .letter _ :: p => ⟨fill b p, rfl, matches_fill b p⟩
  | .one :: p => ⟨b, fill b p, rfl, matches_fill b p⟩
  | .any :: p => ⟨fill b p, List.suffix_refl _, matches_fill b p⟩

theorem length_fill (b : α) : ∀ p : List (Token α), (fill b p).length = leastLength p
  | [] => rfl
  | .letter _ :: p => congrArg (· + 1) (length_fill b p)
  | .one :: p => congrArg (· + 1) (length_fill b p)
  | .any :: p => length_fill b p

theorem fill_map (f : α → β) (b : α) : ∀ p : List (Token α),
    (fill b p).map f = fill (f b) (p.map (Token.map f))
  | [] => rfl
  | .letter a :: p => congrArg (f a :: ·) (fill_map f b p)
  | .one :: p => congrArg (f b :: ·) (fill_map f b p)
  | .any :: p => fill_map f b p

/-- The letters of an instance are those of the pattern, and the one that was filled in. -/
theorem mem_fill {b c : α} : ∀ {p : List (Token α)}, c ∈ fill b p → c = b ∨ .letter c ∈ p
  | .letter a :: p, h => by
    rcases List.mem_cons.mp h with rfl | h
    · exact .inr List.mem_cons_self
    · exact (mem_fill h).imp_right (List.mem_cons_of_mem _)
  | .one :: p, h => by
    rcases List.mem_cons.mp h with rfl | h
    · exact .inl rfl
    · exact (mem_fill h).imp_right (List.mem_cons_of_mem _)
  | .any :: p, h => (mem_fill (p := p) h).imp_right (List.mem_cons_of_mem _)

/-- **No shorter text matches.** -/
theorem leastLength_le_of_matches : ∀ {p : List (Token α)} {s : List α}, Matches p s → leastLength p ≤ s.length
  | [], _, _ => Nat.zero_le _
  | .letter _ :: _, _, h => by
    obtain ⟨t, rfl, ht⟩ := h
    exact Nat.succ_le_succ (leastLength_le_of_matches ht)
  | .one :: _, _, h => by
    obtain ⟨b, t, rfl, ht⟩ := h
    exact Nat.succ_le_succ (leastLength_le_of_matches ht)
  | .any :: _, _, h => by
    obtain ⟨t, hsuffix, ht⟩ := h
    exact (leastLength_le_of_matches ht).trans hsuffix.length_le

theorem leastLength_map (f : α → β) : ∀ p : List (Token α), leastLength (p.map (Token.map f)) = leastLength p
  | [] => rfl
  | .letter _ :: p => congrArg (· + 1) (leastLength_map f p)
  | .one :: p => congrArg (· + 1) (leastLength_map f p)
  | .any :: p => leastLength_map f p

end Wildcard
