/-
# Hexadecimal fields between separators

Texts are lists of bytes. `splitN` cuts a text at the first separators, the
last piece keeping the rest; a text put together from pieces without a
separator is cut into them again. `encode` writes two lowercase digits for a
byte, and `decode` takes exactly what `encode` writes. `number` is the value
of a run of digits of either case.

Key definitions: `splitN`, `encode`, `decode`, `IsDigits`, `number`.
Key theorems: `splitN_sep`, `splitN_four`, `decode_eq_some`, `decode_isSome`,
`encode_zero`, `le_numberFrom`, `numberFrom_lt`, `number_encode_byte`.
-/
import Mathlib.Algebra.GroupWithZero.Nat
import Mathlib.Data.List.TakeWhile
import Mathlib.Tactic.Common

namespace HexText

/-! ### Pieces between separators -/

section Split

variable {α : Type*} [DecidableEq α]

/-- At most `n` pieces, cut at the first separators. -/
def splitN (sep : α) : ℕ → List α → List (List α)
  | 0, _ => []
  | 1, s => [s]
  | n + 2, s =>
    match s.dropWhile (· ≠ sep) with
    | [] => [s]
    | _ :: rest => s.takeWhile (· ≠ sep) :: splitN sep (n + 1) rest

variable {sep : α} {n : ℕ} {s a b : List α}

theorem splitN_of_not_mem (h : sep ∉ s) : splitN sep (n + 1) s = [s] := by
  cases n with
  | zero => rfl
  | succ n =>
    have hdrop : s.dropWhile (fun x => decide (x ≠ sep)) = [] := by
      rw [List.dropWhile_eq_nil_iff]
      intro x hx
      exact decide_eq_true fun he => h (he ▸ hx)
    rw [splitN, hdrop]

/-- The first piece is cut off. -/
theorem splitN_sep (h : sep ∉ a) : splitN sep (n + 2) (a ++ sep :: b) = a :: splitN sep (n + 1) b := by
  have hall : ∀ x ∈ a, decide (x ≠ sep) = true := fun x hx => decide_eq_true fun he => h (he ▸ hx)
  have hdrop : (a ++ sep :: b).dropWhile (fun x => decide (x ≠ sep)) = sep :: b := by
    rw [List.dropWhile_append_of_pos hall, List.dropWhile_cons_of_neg (by simp)]
  have htake : (a ++ sep :: b).takeWhile (fun x => decide (x ≠ sep)) = a := by
    rw [List.takeWhile_append_of_pos hall, List.takeWhile_cons_of_neg (by simp), List.append_nil]
  rw [splitN, hdrop, htake]

/-- Every text has no separator or a first one. -/
theorem sep_cases (sep : α) (s : List α) : sep ∉ s ∨ ∃ a b, s = a ++ sep :: b ∧ sep ∉ a := by
  by_cases h : sep ∈ s
  · exact .inr (List.eq_append_cons_of_mem h)
  · exact .inl h

/-- **What is cut into four pieces is the four pieces.** -/
theorem splitN_four {a b c d : List α} :
    splitN sep 4 s = [a, b, c, d] ↔
      s = a ++ sep :: (b ++ sep :: (c ++ sep :: d)) ∧ sep ∉ a ∧ sep ∉ b ∧ sep ∉ c := by
  constructor
  · intro h
    rcases sep_cases sep s with hs | ⟨a₁, s₁, rfl, ha⟩
    · rw [splitN_of_not_mem hs] at h
      simp at h
    rw [splitN_sep ha, List.cons.injEq] at h
    obtain ⟨rfl, h⟩ := h
    rcases sep_cases sep s₁ with hs | ⟨b₁, s₂, rfl, hb⟩
    · rw [splitN_of_not_mem hs] at h
      simp at h
    rw [splitN_sep hb, List.cons.injEq] at h
    obtain ⟨rfl, h⟩ := h
    rcases sep_cases sep s₂ with hs | ⟨c₁, s₃, rfl, hc⟩
    · rw [splitN_of_not_mem hs] at h
      simp at h
    rw [splitN_sep hc, List.cons.injEq, splitN, List.cons.injEq] at h
    obtain ⟨rfl, rfl, -⟩ := h
    exact ⟨rfl, ha, hb, hc⟩
  · rintro ⟨rfl, ha, hb, hc⟩
    rw [splitN_sep ha, splitN_sep hb, splitN_sep hc, splitN]

end Split

/-! ### Lowercase digits -/

/-- The digit of a value below 16. -/
def digit (n : ℕ) : UInt8 := if n < 10 then UInt8.ofNat (48 + n) else UInt8.ofNat (87 + n)

/-- The value of a lowercase digit. -/
def value (c : UInt8) : Option ℕ :=
  if 48 ≤ c.toNat ∧ c.toNat ≤ 57 then some (c.toNat - 48)
  else if 97 ≤ c.toNat ∧ c.toNat ≤ 102 then some (c.toNat - 87)
  else none

/-- Two digits for a byte, the high half first. -/
def encode : List UInt8 → List UInt8
  | [] => []
  | b :: bs => digit (b.toNat / 16) :: digit (b.toNat % 16) :: encode bs

def decode : List UInt8 → Option (List UInt8)
  | [] => some []
  | [_] => none
  | c :: d :: s =>
    match value c, value d, decode s with
    | some x, some y, some bs => some (UInt8.ofNat (16 * x + y) :: bs)
    | _, _, _ => none

theorem value_digit : ∀ {n : ℕ}, n < 16 → value (digit n) = some n := by
  decide

theorem value_eq_some {c : UInt8} {n : ℕ} : value c = some n ↔ n < 16 ∧ digit n = c := by
  constructor
  · intro h
    unfold value at h
    unfold digit
    split_ifs at h with h₀ h₁
    · obtain rfl := Option.some.inj h
      have hn : 48 + (c.toNat - 48) = c.toNat := by omega
      rw [if_pos (by omega), hn, UInt8.ofNat_toNat]
      exact ⟨by omega, rfl⟩
    · obtain rfl := Option.some.inj h
      have hn : 87 + (c.toNat - 87) = c.toNat := by omega
      rw [if_neg (by omega), hn, UInt8.ofNat_toNat]
      exact ⟨by omega, rfl⟩
  · rintro ⟨hn, rfl⟩
    exact value_digit hn

theorem length_encode (bs : List UInt8) : (encode bs).length = 2 * bs.length := by
  induction bs with
  | nil => rfl
  | cons b bs ih =>
    rw [encode, List.length_cons, List.length_cons, List.length_cons, ih]
    omega

/-- Both halves of a byte are worth a digit. -/
theorem halves_lt (b : UInt8) : b.toNat / 16 < 16 ∧ b.toNat % 16 < 16 := by
  have hb := b.toNat_lt
  omega

theorem decode_encode (bs : List UInt8) : decode (encode bs) = some bs := by
  induction bs with
  | nil => rfl
  | cons b bs ih =>
    obtain ⟨hhigh, hlow⟩ := halves_lt b
    have hhalves : 16 * (b.toNat / 16) + b.toNat % 16 = b.toNat := by omega
    simp only [encode, decode, value_digit hhigh, value_digit hlow, ih, hhalves, UInt8.ofNat_toNat]

theorem encode_of_decode : ∀ {s bs : List UInt8}, decode s = some bs → encode bs = s
  | [], bs, h => by
    obtain rfl := Option.some.inj h
    rfl
  | [_], _, h => by cases h
  | c :: d :: s, bs, h => by
    rw [decode] at h
    split at h
    · rename_i x y bs' hx hy hs
      obtain rfl := Option.some.inj h
      obtain ⟨hx16, hc⟩ := value_eq_some.mp hx
      obtain ⟨hy16, hd⟩ := value_eq_some.mp hy
      have hbyte : (UInt8.ofNat (16 * x + y)).toNat = 16 * x + y := by
        rw [UInt8.toNat_ofNat']
        omega
      have hhigh : (16 * x + y) / 16 = x := by omega
      have hlow : (16 * x + y) % 16 = y := by omega
      rw [encode, hbyte, hhigh, hlow, hc, hd, encode_of_decode hs]
    · cases h

/-- **`decode` takes what `encode` writes**, and nothing else. -/
theorem decode_eq_some {s bs : List UInt8} : decode s = some bs ↔ encode bs = s :=
  ⟨encode_of_decode, fun h => h ▸ decode_encode bs⟩

/-- Every text of lowercase digits of an even length is decoded. -/
theorem decode_isSome : ∀ {n : ℕ} {s : List UInt8}, s.length = 2 * n → (∀ c ∈ s, (value c).isSome = true) →
    ∃ bs, bs.length = n ∧ decode s = some bs
  | 0, s, hlen, _ => by
    obtain rfl := List.eq_nil_of_length_eq_zero hlen
    exact ⟨[], rfl, rfl⟩
  | n + 1, [], hlen, _ => by simp at hlen
  | n + 1, [_], hlen, _ => by
    simp only [List.length_singleton] at hlen
    omega
  | n + 1, c :: d :: s, hlen, h => by
    simp only [List.length_cons] at hlen
    obtain ⟨bs, hbs, hdecode⟩ : ∃ bs, bs.length = n ∧ decode s = some bs := by
      apply decode_isSome
      · omega
      · exact fun e he => h e (List.mem_cons_of_mem c (List.mem_cons_of_mem d he))
    obtain ⟨x, hx⟩ := Option.isSome_iff_exists.mp (h c List.mem_cons_self)
    obtain ⟨y, hy⟩ := Option.isSome_iff_exists.mp (h d (List.mem_cons_of_mem c List.mem_cons_self))
    exact ⟨UInt8.ofNat (16 * x + y) :: bs, by rw [List.length_cons, hbs], by rw [decode, hx, hy, hdecode]⟩

/-- What is written is lowercase digits. -/
theorem value_of_mem_encode {bs : List UInt8} {c : UInt8} (h : c ∈ encode bs) : (value c).isSome = true := by
  induction bs with
  | nil => simp [encode] at h
  | cons b bs ih =>
    obtain ⟨hhigh, hlow⟩ := halves_lt b
    rw [encode] at h
    rcases List.mem_cons.mp h with rfl | h
    · rw [value_digit hhigh]
      rfl
    · rcases List.mem_cons.mp h with rfl | h
      · rw [value_digit hlow]
        rfl
      · exact ih h

/-- All zero bytes are all zero digits. -/
theorem encode_zero {bs : List UInt8} : (∀ c ∈ encode bs, c = 48) ↔ ∀ b ∈ bs, b = 0 := by
  have hdigit : ∀ {n : ℕ}, n < 16 → (digit n = 48 ↔ n = 0) := by decide
  induction bs with
  | nil => simp [encode]
  | cons b bs ih =>
    obtain ⟨hhigh, hlow⟩ := halves_lt b
    have hzero : b = 0 ↔ b.toNat = 0 := UInt8.toNat_inj.symm
    rw [encode, List.forall_mem_cons, List.forall_mem_cons, List.forall_mem_cons, hdigit hhigh, hdigit hlow,
      hzero, ← and_assoc]
    refine and_congr ?_ ih
    omega

/-! ### Numbers -/

/-- The value of a digit of either case, in bases up to 36. -/
def digitValue (c : UInt8) : Option ℕ :=
  if 48 ≤ c.toNat ∧ c.toNat ≤ 57 then some (c.toNat - 48)
  else if 97 ≤ (c ||| 32).toNat ∧ (c ||| 32).toNat ≤ 122 then some ((c ||| 32).toNat - 87)
  else none

/-- A text of digits of the base. -/
def IsDigits (base : ℕ) (s : List UInt8) : Prop := ∀ c ∈ s, ∃ d, digitValue c = some d ∧ d < base

/-- The number that begins with `n` and goes on with the digits. -/
def numberFrom (base n : ℕ) (s : List UInt8) : ℕ := s.foldl (fun n c => n * base + (digitValue c).getD 0) n

def number (base : ℕ) (s : List UInt8) : ℕ := numberFrom base 0 s

variable {base n : ℕ} {s : List UInt8}

theorem isDigits_cons {c : UInt8} :
    IsDigits base (c :: s) ↔ (∃ d, digitValue c = some d ∧ d < base) ∧ IsDigits base s :=
  List.forall_mem_cons

theorem numberFrom_cons {c : UInt8} {d : ℕ} (h : digitValue c = some d) :
    numberFrom base n (c :: s) = numberFrom base (n * base + d) s := by
  rw [numberFrom, List.foldl_cons, h, Option.getD_some, ← numberFrom]

/-- A number does not shrink as it goes on. -/
theorem le_numberFrom (hbase : 0 < base) : n ≤ numberFrom base n s := by
  induction s generalizing n with
  | nil => exact le_rfl
  | cons c s ih =>
    have hmul : n ≤ n * base := Nat.le_mul_of_pos_right n hbase
    rw [numberFrom, List.foldl_cons, ← numberFrom]
    calc n ≤ n * base + (digitValue c).getD 0 := by omega
      _ ≤ _ := ih

/-- `k` digits make less than `base ^ k`. -/
theorem numberFrom_lt (h : IsDigits base s) : numberFrom base n s < (n + 1) * base ^ s.length := by
  induction s generalizing n with
  | nil => simp [numberFrom]
  | cons c s ih =>
    obtain ⟨⟨d, hd, hlt⟩, hs⟩ := isDigits_cons.mp h
    rw [numberFrom_cons hd]
    calc numberFrom base (n * base + d) s < (n * base + d + 1) * base ^ s.length := ih hs
      _ ≤ ((n + 1) * base) * base ^ s.length := by
        apply Nat.mul_le_mul_right
        rw [Nat.add_mul, Nat.one_mul]
        omega
      _ = (n + 1) * base ^ (c :: s).length := by
        rw [List.length_cons, Nat.pow_succ, Nat.mul_assoc, Nat.mul_comm base]

/-- A lowercase digit is a digit. -/
theorem digitValue_of_value {c : UInt8} {n : ℕ} (h : value c = some n) : digitValue c = some n := by
  obtain ⟨hn, rfl⟩ := value_eq_some.mp h
  have hall : ∀ n < 16, digitValue (digit n) = some n := by decide
  exact hall n hn

theorem isDigits_encode (bs : List UInt8) : IsDigits 16 (encode bs) := by
  intro c hc
  obtain ⟨n, hn⟩ := Option.isSome_iff_exists.mp (value_of_mem_encode hc)
  exact ⟨n, digitValue_of_value hn, (value_eq_some.mp hn).1⟩

/-- The digits of a byte are the byte. -/
theorem number_encode_byte (b : UInt8) : number 16 (encode [b]) = b.toNat := by
  obtain ⟨hhigh, hlow⟩ := halves_lt b
  rw [number, encode, encode, numberFrom_cons (digitValue_of_value (value_digit hhigh)),
    numberFrom_cons (digitValue_of_value (value_digit hlow))]
  show (0 * 16 + b.toNat / 16) * 16 + b.toNat % 16 = b.toNat
  omega

end HexText
