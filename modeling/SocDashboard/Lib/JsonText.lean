/-
# JSON texts

Values, the texts that a writer makes of them, and the reader of the grammar.
Writers differ in what they escape and in the spaces they put after a comma or
a colon (`Style`); the reader takes every JSON text. A number that has a
fraction or an exponent stays the text it is.

Characters outside the basic plane are written as two escapes, and read back
from them. Half of such a pair alone, which no writer here produces, is not a
character and is refused.

Whatever the style, reading undoes writing (`parse_write`), and a text that was
written has no control character in it (`write_printable`).

Key definitions: `Value`, `Style`, `write`, `parse`.
Key theorems: `pieces_escape`, `parse_write`, `write_printable`.
-/
import Mathlib.Data.List.TakeWhile
import Mathlib.Tactic.Common

namespace JsonText

/-! ### Values -/

/-- The characters of numbers. -/
def numeral (c : Char) : Bool := c.isDigit || c = '-' || c = '+' || c = '.' || c = 'e' || c = 'E'

/-- Digits that are no more than one or do not start with a zero. -/
def wholeDigits (ds : List Char) : Bool :=
  ds.all Char.isDigit && ds ≠ [] && (ds.length = 1 || ds.head? ≠ some '0')

/-- The digits of a number without fraction and exponent, with its sign before them. -/
def unsigned : List Char → Bool × List Char
  | '-' :: ds => (true, ds)
  | ds => (false, ds)

/-- `e`, a sign and digits, or nothing. -/
def isExponent : List Char → Bool
  | [] => true
  | c :: '+' :: ds => (c = 'e' || c = 'E') && ds ≠ [] && ds.all Char.isDigit
  | c :: '-' :: ds => (c = 'e' || c = 'E') && ds ≠ [] && ds.all Char.isDigit
  | c :: ds => (c = 'e' || c = 'E') && ds ≠ [] && ds.all Char.isDigit

/-- A point and digits, or nothing, and then an exponent. -/
def isFraction : List Char → Bool
  | '.' :: s => s.takeWhile Char.isDigit ≠ [] && isExponent (s.dropWhile Char.isDigit)
  | s => isExponent s

/-- A number that has a fraction or an exponent. -/
def isReal (s : List Char) : Bool :=
  let ds := (unsigned s).2
  s.all numeral && wholeDigits (ds.takeWhile Char.isDigit) && isFraction (ds.dropWhile Char.isDigit) &&
    !wholeDigits ds

structure Real where
  text : List Char
  isReal : isReal text = true

inductive Value
  | null
  | bool (b : Bool)
  | int (n : ℤ)
  | real (r : Real)
  | str (s : String)
  | arr (items : List Value)
  | obj (fields : List (String × Value))

/-- The value under a key; the last one counts. -/
def Value.get (v : Value) (key : String) : Option Value :=
  match v with
  | .obj fields => fields.reverse.lookup key
  | _ => none

/-! ### Writing -/

/-- How a writer writes strings and sets off items. -/
structure Style where
  /-- Written as it is. -/
  plain : Char → Bool
  /-- Written with its two-character escape, if it has one. -/
  short : Char → Bool
  /-- Spaces after a comma and after a colon. -/
  gap : ℕ
  lawful : ∀ c, plain c = true → c ≠ '"' ∧ c ≠ '\\' ∧ 32 ≤ c.toNat

/-- The letter of the two-character escape. -/
def shortEscape (c : Char) : Option Char :=
  if c = '"' then some '"' else if c = '\\' then some '\\' else if c = '\n' then some 'n'
  else if c = '\r' then some 'r' else if c = '\t' then some 't' else if c = '\x08' then some 'b'
  else if c = '\x0c' then some 'f' else none

/-- `\u` and four digits. -/
def unicodeEscape (unit : ℕ) : List Char :=
  ['\\', 'u', Nat.digitChar (unit / 4096 % 16), Nat.digitChar (unit / 256 % 16),
    Nat.digitChar (unit / 16 % 16), Nat.digitChar (unit % 16)]

/-- The UTF-16 code units of a character. -/
def codeUnits (c : Char) : List ℕ :=
  if c.toNat < 0x10000 then [c.toNat]
  else [0xD800 + (c.toNat - 0x10000) / 0x400, 0xDC00 + (c.toNat - 0x10000) % 0x400]

section Write

variable (st : Style)

def escape (c : Char) : List Char :=
  if st.plain c then [c]
  else
    match shortEscape c with
    | some e => if st.short c then ['\\', e] else (codeUnits c).flatMap unicodeEscape
    | none => (codeUnits c).flatMap unicodeEscape

def writeString (s : String) : List Char := '"' :: (s.toList.flatMap (escape st) ++ ['"'])

def gap : List Char := List.replicate st.gap ' '

def writeInt (n : ℤ) : List Char :=
  if n < 0 then '-' :: Nat.toDigits 10 n.natAbs else Nat.toDigits 10 n.natAbs

mutual

def write : Value → List Char
  | .null => "null".toList
  | .bool true => "true".toList
  | .bool false => "false".toList
  | .int n => writeInt n
  | .real r => r.text
  | .str s => writeString st s
  | .arr [] => ['[', ']']
  | .arr (x :: xs) => '[' :: (write x ++ writeItems xs)
  | .obj [] => ['{', '}']
  | .obj ((k, x) :: xs) => '{' :: (writeString st k ++ (':' :: gap st) ++ write x ++ writeFields xs)

/-- The items after the first, and the bracket. -/
def writeItems : List Value → List Char
  | [] => [']']
  | x :: xs => ',' :: (gap st ++ write x ++ writeItems xs)

/-- The fields after the first, and the brace. -/
def writeFields : List (String × Value) → List Char
  | [] => ['}']
  | (k, x) :: xs => ',' :: (gap st ++ writeString st k ++ (':' :: gap st) ++ write x ++ writeFields xs)

end

end Write

/-! ### Reading -/

/-- A piece of the text of a string: a character, or the code unit of a `\u` escape. -/
inductive Piece
  | char (c : Char)
  | unit (n : ℕ)
  deriving DecidableEq, Repr

/-- The value of a hexadecimal digit of either case. -/
def hexValue (c : Char) : Option ℕ :=
  if c.isDigit then some (c.toNat - 48)
  else if 'a' ≤ c ∧ c ≤ 'f' then some (c.toNat - 87)
  else if 'A' ≤ c ∧ c ≤ 'F' then some (c.toNat - 55)
  else none

def hexUnit (a b c d : Char) : Option ℕ := do
  some (4096 * (← hexValue a) + 256 * (← hexValue b) + 16 * (← hexValue c) + (← hexValue d))

/-- The character of a two-character escape. -/
def shortValue (e : Char) : Option Char :=
  if e = '"' then some '"' else if e = '\\' then some '\\' else if e = '/' then some '/'
  else if e = 'n' then some '\n' else if e = 'r' then some '\r' else if e = 't' then some '\t'
  else if e = 'b' then some '\x08' else if e = 'f' then some '\x0c' else none

/-- The pieces of a string up to the closing quote, and what follows it. -/
def pieces : List Char → Option (List Piece × List Char)
  | [] => none
  | c :: s =>
    if c = '"' then some ([], s)
    else if c = '\\' then
      match s with
      | [] => none
      | e :: s =>
        if e = 'u' then
          match s with
          | a :: b :: c :: d :: s => do
            let n ← hexUnit a b c d
            let (ps, rest) ← pieces s
            some (.unit n :: ps, rest)
          | _ => none
        else do
          let x ← shortValue e
          let (ps, rest) ← pieces s
          some (.char x :: ps, rest)
    else if c.toNat < 32 then none
    else do
      let (ps, rest) ← pieces s
      some (.char c :: ps, rest)

/-- The characters of the pieces; two halves of a pair make one. -/
def combine : List Piece → Option (List Char)
  | [] => some []
  | .char c :: ps => (combine ps).map (c :: ·)
  | .unit n :: ps =>
    if 0xD800 ≤ n ∧ n < 0xDC00 then
      match ps with
      | .unit m :: ps =>
        if 0xDC00 ≤ m ∧ m < 0xE000 then
          (combine ps).map (Char.ofNat (0x10000 + (n - 0xD800) * 0x400 + (m - 0xDC00)) :: ·)
        else none
      | _ => none
    else if 0xDC00 ≤ n ∧ n < 0xE000 then none
    else (combine ps).map (Char.ofNat n :: ·)

/-- A string, after the opening quote. -/
def string (s : List Char) : Option (String × List Char) := do
  let (ps, rest) ← pieces s
  let cs ← combine ps
  some (String.ofList cs, rest)

def space (c : Char) : Bool := c = ' ' || c = '\t' || c = '\n' || c = '\r'

def skip (s : List Char) : List Char := s.dropWhile space

def number (s : List Char) : Option (Value × List Char) :=
  let t := s.takeWhile numeral
  let rest := s.dropWhile numeral
  if wholeDigits (unsigned t).2 then
    let n : ℤ := Nat.ofDigitChars 10 (unsigned t).2 0
    some (.int (if (unsigned t).1 then -n else n), rest)
  else if h : isReal t = true then some (.real ⟨t, h⟩, rest)
  else none

def word (w : List Char) (v : Value) (s : List Char) : Option (Value × List Char) :=
  if w <+: s then some (v, s.drop w.length) else none

/-- A key and its colon. -/
def key (s : List Char) : Option (String × List Char) :=
  match skip s with
  | '"' :: s => do
    let (k, s) ← string s
    match skip s with
    | ':' :: s => some (k, s)
    | _ => none
  | _ => none

mutual

def value : ℕ → List Char → Option (Value × List Char)
  | 0, _ => none
  | n + 1, s =>
    match skip s with
    | [] => none
    | c :: s =>
      if c = '"' then (string s).map fun (x, rest) => (.str x, rest)
      else if c = '[' then
        if (skip s).head? = some ']' then some (.arr [], (skip s).tail)
        else do
          let (x, s) ← value n s
          let (xs, s) ← items n s
          some (.arr (x :: xs), s)
      else if c = '{' then
        if (skip s).head? = some '}' then some (.obj [], (skip s).tail)
        else do
          let (k, s) ← key s
          let (x, s) ← value n s
          let (xs, s) ← fields n s
          some (.obj ((k, x) :: xs), s)
      else if c = 'n' then word "null".toList .null (c :: s)
      else if c = 't' then word "true".toList (.bool true) (c :: s)
      else if c = 'f' then word "false".toList (.bool false) (c :: s)
      else number (c :: s)

/-- The items after the first, and the bracket. -/
def items : ℕ → List Char → Option (List Value × List Char)
  | 0, _ => none
  | n + 1, s =>
    match skip s with
    | ']' :: s => some ([], s)
    | ',' :: s => do
      let (x, s) ← value n s
      let (xs, s) ← items n s
      some (x :: xs, s)
    | _ => none

/-- The fields after the first, and the brace. -/
def fields : ℕ → List Char → Option (List (String × Value) × List Char)
  | 0, _ => none
  | n + 1, s =>
    match skip s with
    | '}' :: s => some ([], s)
    | ',' :: s => do
      let (k, s) ← key s
      let (x, s) ← value n s
      let (xs, s) ← fields n s
      some ((k, x) :: xs, s)
    | _ => none

end

/-- A JSON text, with spaces around it. -/
def parse (s : List Char) : Option Value :=
  match value (s.length + 1) s with
  | some (v, rest) => if skip rest = [] then some v else none
  | none => none

/-! ### Strings -/

section Strings

variable {st : Style}

theorem hexValue_digitChar : ∀ n < 16, hexValue (Nat.digitChar n) = some n := by decide

/-- A code unit is read back from its escape. -/
theorem hexUnit_digits {n : ℕ} (h : n < 0x10000) :
    hexUnit (Nat.digitChar (n / 4096 % 16)) (Nat.digitChar (n / 256 % 16)) (Nat.digitChar (n / 16 % 16))
      (Nat.digitChar (n % 16)) = some n := by
  have hdigit : ∀ k, hexValue (Nat.digitChar (k % 16)) = some (k % 16) := fun k =>
    hexValue_digitChar _ (Nat.mod_lt _ (by decide))
  simp only [hexUnit, hdigit, Option.bind_eq_bind, Option.bind_some, Option.some.injEq]
  omega

theorem codeUnits_lt (c : Char) : ∀ n ∈ codeUnits c, n < 0x10000 := by
  have hc : c.toNat < 0x110000 := by
    rcases c.valid with h | ⟨-, h⟩
    · exact lt_trans h (by decide)
    · exact h
  intro n hn
  unfold codeUnits at hn
  split_ifs at hn with hbmp
  · rw [List.mem_singleton.mp hn]
    exact hbmp
  · simp only [List.mem_cons, List.not_mem_nil, or_false] at hn
    omega

/-- Pieces before others. -/
def before (ps : List Piece) (x : Option (List Piece × List Char)) : Option (List Piece × List Char) :=
  x.map fun (qs, rest) => (ps ++ qs, rest)

theorem before_nil (x : Option (List Piece × List Char)) : before [] x = x := by
  cases x <;> rfl

theorem before_before (ps qs : List Piece) (x : Option (List Piece × List Char)) :
    before ps (before qs x) = before (ps ++ qs) x := by
  cases x with
  | none => rfl
  | some y => simp [before]

theorem pieces_quote (s : List Char) : pieces ('"' :: s) = some ([], s) := by
  rw [pieces.eq_def]
  rfl

theorem pieces_char {c : Char} (hquote : c ≠ '"') (hslash : c ≠ '\\') (hlow : 32 ≤ c.toNat) (s : List Char) :
    pieces (c :: s) = before [.char c] (pieces s) := by
  rw [pieces.eq_def]
  simp only [if_neg hquote, if_neg hslash, if_neg (not_lt.mpr hlow)]
  cases pieces s <;> rfl

theorem pieces_short {e x : Char} (hu : e ≠ 'u') (hx : shortValue e = some x) (s : List Char) :
    pieces ('\\' :: e :: s) = before [.char x] (pieces s) := by
  rw [pieces.eq_def]
  simp only [hu, hx]
  cases pieces s <;> rfl

theorem pieces_unit {a b c d : Char} {n : ℕ} (hn : hexUnit a b c d = some n) (s : List Char) :
    pieces ('\\' :: 'u' :: a :: b :: c :: d :: s) = before [.unit n] (pieces s) := by
  rw [pieces.eq_def]
  simp only [hn]
  cases pieces s <;> rfl

/-- A piece for each code unit that was written as an escape. -/
theorem pieces_units (ns : List ℕ) (h : ∀ n ∈ ns, n < 0x10000) (s : List Char) :
    pieces (ns.flatMap unicodeEscape ++ s) = before (ns.map .unit) (pieces s) := by
  induction ns with
  | nil => exact (before_nil _).symm
  | cons n ns ih =>
    have hn := hexUnit_digits (h n List.mem_cons_self)
    rw [List.flatMap_cons, unicodeEscape, List.append_assoc]
    simp only [List.cons_append, List.nil_append]
    rw [pieces_unit hn, ih fun m hm => h m (List.mem_cons_of_mem n hm), before_before]
    rfl

theorem shortValue_shortEscape {c e : Char} (h : shortEscape c = some e) :
    shortValue e = some c ∧ e ≠ 'u' := by
  unfold shortEscape at h
  split_ifs at h with h1 h2 h3 h4 h5 h6 h7 <;> cases h <;> subst_vars <;> decide

/-- The pieces of what a writer makes of a character. -/
def written (st : Style) (c : Char) : List Piece :=
  if st.plain c || ((shortEscape c).isSome && st.short c) then [.char c] else (codeUnits c).map .unit

/-- **A character is read back piece by piece.** -/
theorem pieces_escape (c : Char) (s : List Char) :
    pieces (escape st c ++ s) = before (written st c) (pieces s) := by
  unfold escape written
  cases hp : st.plain c with
  | true =>
    obtain ⟨hquote, hslash, hlow⟩ := st.lawful c hp
    exact pieces_char hquote hslash hlow s
  | false =>
    simp only [Bool.false_eq_true, if_false, Bool.false_or]
    cases he : shortEscape c with
    | none => exact pieces_units _ (codeUnits_lt c) s
    | some e =>
      cases hs : st.short c with
      | true =>
        obtain ⟨hvalue, hu⟩ := shortValue_shortEscape he
        exact pieces_short hu hvalue s
      | false => exact pieces_units _ (codeUnits_lt c) s

theorem pieces_string (cs : List Char) (rest : List Char) :
    pieces (cs.flatMap (escape st) ++ '"' :: rest) = some (cs.flatMap (written st), rest) := by
  induction cs with
  | nil => exact pieces_quote rest
  | cons c cs ih =>
    rw [List.flatMap_cons, List.append_assoc, pieces_escape, ih]
    rfl

/-- The code units of a character make the character. -/
theorem combine_codeUnits (c : Char) (ps : List Piece) :
    combine ((codeUnits c).map .unit ++ ps) = (combine ps).map (c :: ·) := by
  have hvalid : c.toNat < 0xD800 ∨ 0xDFFF < c.toNat ∧ c.toNat < 0x110000 := c.valid
  unfold codeUnits
  split_ifs with hbmp
  · have hhigh : ¬ (0xD800 ≤ c.toNat ∧ c.toNat < 0xDC00) := by omega
    have hlow : ¬ (0xDC00 ≤ c.toNat ∧ c.toNat < 0xE000) := by omega
    simp only [List.map_cons, List.map_nil, List.cons_append, List.nil_append]
    rw [combine.eq_def]
    simp only [if_neg hhigh, if_neg hlow, Char.ofNat_toNat]
  · generalize hk : c.toNat - 0x10000 = k
    have hhigh : 0xD800 ≤ 0xD800 + k / 0x400 ∧ 0xD800 + k / 0x400 < 0xDC00 := by omega
    have hlow : 0xDC00 ≤ 0xDC00 + k % 0x400 ∧ 0xDC00 + k % 0x400 < 0xE000 := by omega
    have hpair : 0x10000 + (0xD800 + k / 0x400 - 0xD800) * 0x400 + (0xDC00 + k % 0x400 - 0xDC00) = c.toNat := by
      omega
    simp only [List.map_cons, List.map_nil, List.cons_append, List.nil_append]
    rw [combine.eq_def]
    simp only [if_pos hhigh, if_pos hlow, hpair, Char.ofNat_toNat]

theorem combine_written (cs : List Char) : combine (cs.flatMap (written st)) = some cs := by
  induction cs with
  | nil => rfl
  | cons c cs ih =>
    rw [List.flatMap_cons, written]
    split_ifs
    · rw [List.singleton_append, combine.eq_def]
      simp only [ih, Option.map_some]
    · rw [combine_codeUnits, ih]
      rfl

/-- **A string is read back.** -/
theorem string_write (s : String) (rest : List Char) :
    string (s.toList.flatMap (escape st) ++ '"' :: rest) = some (s, rest) := by
  simp only [string, pieces_string, combine_written, Option.bind_eq_bind, Option.bind_some, String.ofList_toList]

end Strings

/-! ### Values -/

section Values

variable {st : Style}

theorem skip_gap (s : List Char) : skip (gap st ++ s) = skip s := by
  rw [skip, skip, gap, List.dropWhile_append_of_pos]
  intro c hc
  rw [List.eq_of_mem_replicate hc]
  rfl

theorem skip_of_not_space {c : Char} (h : space c = false) (s : List Char) : skip (c :: s) = c :: s :=
  List.dropWhile_cons_of_neg (by simp [h])

theorem value_gap (n : ℕ) (s : List Char) : value n (gap st ++ s) = value n s := by
  cases n with
  | zero => rfl
  | succ n => rw [value, value, skip_gap]

theorem key_write (k : String) (s : List Char) :
    key (writeString st k ++ (':' :: gap st) ++ s) = some (k, gap st ++ s) := by
  have hquote : skip ('"' :: (k.toList.flatMap (escape st) ++ '"' :: (':' :: (gap st ++ s)))) =
      '"' :: (k.toList.flatMap (escape st) ++ '"' :: (':' :: (gap st ++ s))) := skip_of_not_space rfl _
  have hcolon : skip (':' :: (gap st ++ s)) = ':' :: (gap st ++ s) := skip_of_not_space rfl _
  simp only [key, writeString, List.cons_append, List.append_assoc, List.nil_append, hquote, string_write,
    Option.bind_eq_bind, Option.bind_some, hcolon]

/-- What follows a number is no part of it. -/
def Ends (s : List Char) : Prop := ∀ c ∈ s.head?, numeral c = false

theorem ends_cons {c : Char} (h : numeral c = false) (s : List Char) : Ends (c :: s) := by
  intro x hx
  rw [← Option.some.inj hx]
  exact h

theorem ends_writeItems (xs : List Value) (s : List Char) : Ends (writeItems st xs ++ s) := by
  cases xs <;> exact ends_cons rfl _

theorem ends_writeFields (xs : List (String × Value)) (s : List Char) : Ends (writeFields st xs ++ s) := by
  rcases xs with _ | ⟨⟨k, x⟩, xs⟩ <;> exact ends_cons rfl _

/-- The characters of a number, cut off what follows. -/
theorem span_numeral {t s : List Char} (ht : ∀ c ∈ t, numeral c = true) (hs : Ends s) :
    (t ++ s).takeWhile numeral = t ∧ (t ++ s).dropWhile numeral = s := by
  have hrest : s.takeWhile numeral = [] ∧ s.dropWhile numeral = s := by
    cases s with
    | nil => exact ⟨rfl, rfl⟩
    | cons c s =>
      have hc : numeral c = false := hs c rfl
      exact ⟨List.takeWhile_cons_of_neg (by simp [hc]), List.dropWhile_cons_of_neg (by simp [hc])⟩
  rw [List.takeWhile_append_of_pos ht, List.dropWhile_append_of_pos ht, hrest.1, hrest.2, List.append_nil]
  exact ⟨rfl, rfl⟩

/-- No zero stands before other digits. -/
theorem head_toDigits (n : ℕ) (hn : 0 < n) : (Nat.toDigits 10 n).head? ≠ some '0' := by
  have hdigit : ∀ d < 10, 0 < d → [Nat.digitChar d].head? ≠ some '0' := by decide
  induction n using Nat.strong_induction_on with
  | _ n ih =>
    by_cases hlt : n < 10
    · rw [Nat.toDigits_of_lt_base hlt]
      exact hdigit n hlt hn
    · have hrest := ih (n / 10) (by omega) (by omega)
      obtain ⟨c, cs, hcs⟩ := List.exists_cons_of_ne_nil (Nat.toDigits_ne_nil (n := n / 10) (b := 10))
      rw [Nat.toDigits_of_base_le (by decide) (not_lt.mp hlt)]
      rw [hcs] at hrest ⊢
      exact hrest

theorem wholeDigits_toDigits (n : ℕ) : wholeDigits (Nat.toDigits 10 n) = true := by
  have hall : (Nat.toDigits 10 n).all Char.isDigit = true :=
    List.all_eq_true.mpr fun c hc => Nat.isDigit_of_mem_toDigits (by decide) (by decide) hc
  have hhead : (Nat.toDigits 10 n).length = 1 ∨ (Nat.toDigits 10 n).head? ≠ some '0' := by
    by_cases hn : n = 0
    · exact .inl (by rw [hn]; rfl)
    · exact .inr (head_toDigits n (Nat.pos_of_ne_zero hn))
  simp only [wholeDigits, hall, Bool.true_and, Bool.and_eq_true, Bool.or_eq_true, decide_eq_true_eq]
  exact ⟨Nat.toDigits_ne_nil, hhead⟩

theorem numeral_toDigits {n : ℕ} {c : Char} (hc : c ∈ Nat.toDigits 10 n) : numeral c = true := by
  simp [numeral, Nat.isDigit_of_mem_toDigits (by decide) (by decide) hc]

theorem unsigned_writeInt (n : ℤ) : unsigned (writeInt n) = (decide (n < 0), Nat.toDigits 10 n.natAbs) := by
  unfold writeInt
  split_ifs with hneg
  · rw [unsigned, decide_eq_true hneg]
  · rw [decide_eq_false hneg]
    unfold unsigned
    split
    · rename_i ds hds
      have hminus : '-' ∈ Nat.toDigits 10 n.natAbs := hds ▸ List.mem_cons_self
      exact absurd (Nat.isDigit_of_mem_toDigits (by decide) (by decide) hminus) (by decide)
    · rfl

theorem numeral_writeInt {n : ℤ} {c : Char} (hc : c ∈ writeInt n) : numeral c = true := by
  unfold writeInt at hc
  split_ifs at hc
  · rcases List.mem_cons.mp hc with rfl | hc
    · rfl
    · exact numeral_toDigits hc
  · exact numeral_toDigits hc

theorem number_writeInt (n : ℤ) {s : List Char} (hs : Ends s) : number (writeInt n ++ s) = some (.int n, s) := by
  obtain ⟨htake, hdrop⟩ := span_numeral (fun c hc => numeral_writeInt (n := n) hc) hs
  have hsign : (if decide (n < 0) = true then -(n.natAbs : ℤ) else (n.natAbs : ℤ)) = n := by
    by_cases hneg : n < 0
    · rw [decide_eq_true hneg, if_pos rfl]
      omega
    · rw [decide_eq_false hneg, if_neg (by decide)]
      omega
  simp only [number, htake, hdrop, unsigned_writeInt, wholeDigits_toDigits, if_true,
    Nat.ofDigitChars_toDigits (b := 10) (by decide) (by decide), hsign]

theorem Real.numeral {r : Real} {c : Char} (hc : c ∈ r.text) : JsonText.numeral c = true := by
  have hreal := r.isReal
  simp only [JsonText.isReal, Bool.and_eq_true] at hreal
  exact List.all_eq_true.mp hreal.1.1.1 c hc

theorem number_real (r : Real) {s : List Char} (hs : Ends s) : number (r.text ++ s) = some (.real r, s) := by
  obtain ⟨htake, hdrop⟩ := span_numeral (fun c hc => r.numeral hc) hs
  have hwhole : wholeDigits (unsigned r.text).2 = false := by
    have hreal := r.isReal
    simp only [isReal, Bool.and_eq_true, Bool.not_eq_true'] at hreal
    exact hreal.2
  simp only [number, htake, hdrop, hwhole, Bool.false_eq_true, if_false, r.isReal, dif_pos]

theorem writeInt_cons (n : ℤ) : ∃ c t, writeInt n = c :: t ∧ numeral c = true := by
  cases ht : writeInt n with
  | nil =>
    unfold writeInt at ht
    split_ifs at ht
    exact absurd ht Nat.toDigits_ne_nil
  | cons c t => exact ⟨c, t, rfl, numeral_writeInt (ht ▸ List.mem_cons_self)⟩

theorem Real.text_cons (r : Real) : ∃ c t, r.text = c :: t ∧ JsonText.numeral c = true := by
  cases ht : r.text with
  | nil =>
    have hreal := r.isReal
    rw [ht] at hreal
    exact absurd hreal (by decide)
  | cons c t => exact ⟨c, t, rfl, r.numeral (ht ▸ List.mem_cons_self)⟩

theorem ne_of_numeral {c d : Char} (h : numeral c = true) (hd : numeral d = false) : c ≠ d := by
  rintro rfl
  rw [h] at hd
  exact absurd hd (by decide)

theorem not_space_of_numeral {c : Char} (h : numeral c = true) : space c = false := by
  simp [space, ne_of_numeral h (d := ' ') rfl, ne_of_numeral h (d := '\t') rfl, ne_of_numeral h (d := '\n') rfl,
    ne_of_numeral h (d := '\r') rfl]

/-- A text that starts as a number is read as one. -/
theorem value_number {c : Char} (h : numeral c = true) (n : ℕ) (s : List Char) :
    value (n + 1) (c :: s) = number (c :: s) := by
  have hne : ∀ d, numeral d = false → c ≠ d := fun d => ne_of_numeral h
  rw [value, skip_of_not_space (not_space_of_numeral h)]
  simp only [hne '"' rfl, hne '[' rfl, hne '{' rfl, hne 'n' rfl, hne 't' rfl, hne 'f' rfl, if_false]

/-- The text of a value starts with no space and no closing bracket. -/
theorem write_head (v : Value) : ∃ c t, write st v = c :: t ∧ space c = false ∧ c ≠ ']' := by
  cases v with
  | null => exact ⟨'n', _, by rw [write]; rfl, rfl, by decide⟩
  | bool b =>
    cases b
    · exact ⟨'f', _, by rw [write]; rfl, rfl, by decide⟩
    · exact ⟨'t', _, by rw [write]; rfl, rfl, by decide⟩
  | int n =>
    obtain ⟨c, t, ht, hc⟩ := writeInt_cons n
    exact ⟨c, t, by rw [write, ht], not_space_of_numeral hc, ne_of_numeral hc rfl⟩
  | real r =>
    obtain ⟨c, t, ht, hc⟩ := r.text_cons
    exact ⟨c, t, by rw [write, ht], not_space_of_numeral hc, ne_of_numeral hc rfl⟩
  | str s => exact ⟨'"', _, by rw [write]; rfl, rfl, by decide⟩
  | arr xs => cases xs <;> exact ⟨'[', _, by rw [write], rfl, by decide⟩
  | obj xs =>
    rcases xs with _ | ⟨⟨k, x⟩, xs⟩
    · exact ⟨'{', _, by rw [write], rfl, by decide⟩
    · exact ⟨'{', _, by rw [write], rfl, by decide⟩

/-- A text that is not empty takes one unit of fuel. -/
theorem exists_fuel {t : List Char} {n : ℕ} (h : t.length ≤ n) (ht : t ≠ []) : ∃ m, n = m + 1 := by
  have hpos := List.length_pos_iff.mpr ht
  exact ⟨n - 1, by omega⟩

mutual

/-- A written value is read back, whatever follows it. -/
theorem value_write : ∀ (v : Value) (n : ℕ) (s : List Char), (write st v).length ≤ n → Ends s →
    value n (write st v ++ s) = some (v, s)
  | .null, n, s, hn, _ => by
    obtain ⟨m, rfl⟩ := exists_fuel hn (by rw [write]; decide)
    rw [write]
    rfl
  | .bool true, n, s, hn, _ => by
    obtain ⟨m, rfl⟩ := exists_fuel hn (by rw [write]; decide)
    rw [write]
    rfl
  | .bool false, n, s, hn, _ => by
    obtain ⟨m, rfl⟩ := exists_fuel hn (by rw [write]; decide)
    rw [write]
    rfl
  | .int k, n, s, hn, hs => by
    obtain ⟨c, t, ht, hc⟩ := writeInt_cons k
    obtain ⟨m, rfl⟩ := exists_fuel hn (by rw [write, ht]; exact List.cons_ne_nil c t)
    rw [write, ht, List.cons_append, value_number hc, ← List.cons_append, ← ht, number_writeInt k hs]
  | .real r, n, s, hn, hs => by
    obtain ⟨c, t, ht, hc⟩ := r.text_cons
    obtain ⟨m, rfl⟩ := exists_fuel hn (by rw [write, ht]; exact List.cons_ne_nil c t)
    rw [write, ht, List.cons_append, value_number hc, ← List.cons_append, ← ht, number_real r hs]
  | .str x, n, s, hn, _ => by
    obtain ⟨m, rfl⟩ := exists_fuel hn (by rw [write]; exact List.cons_ne_nil _ _)
    rw [write, writeString, List.cons_append, List.append_assoc, value, skip_of_not_space rfl]
    simp only [List.singleton_append, string_write, if_true, Option.map_some]
  | .arr [], n, s, hn, _ => by
    obtain ⟨m, rfl⟩ := exists_fuel hn (by rw [write]; exact List.cons_ne_nil _ _)
    rw [write]
    rfl
  | .arr (x :: xs), n, s, hn, _ => by
    obtain ⟨m, rfl⟩ := exists_fuel hn (by rw [write]; exact List.cons_ne_nil _ _)
    simp only [write, List.length_cons, List.length_append] at hn
    have hx := value_write x m (writeItems st xs ++ s) (by omega) (ends_writeItems xs s)
    have hxs := items_write xs m s (by omega)
    obtain ⟨c, t, hc, hspace, hbracket⟩ : ∃ c t, write st x = c :: t ∧ space c = false ∧ c ≠ ']' := write_head x
    have hskip : skip (write st x ++ (writeItems st xs ++ s)) = write st x ++ (writeItems st xs ++ s) := by
      rw [hc]
      exact skip_of_not_space hspace _
    have hhead : (write st x ++ (writeItems st xs ++ s)).head? ≠ some ']' := by
      rw [hc]
      exact fun h => hbracket (Option.some.inj h)
    rw [write, List.cons_append, List.append_assoc, value, skip_of_not_space rfl]
    simp only [hskip, hhead, hx, hxs, Char.reduceEq, if_true, if_false, Option.bind_eq_bind, Option.bind_some]
  | .obj [], n, s, hn, _ => by
    obtain ⟨m, rfl⟩ := exists_fuel hn (by rw [write]; exact List.cons_ne_nil _ _)
    rw [write]
    rfl
  | .obj ((k, x) :: xs), n, s, hn, _ => by
    obtain ⟨m, rfl⟩ := exists_fuel hn (by rw [write]; exact List.cons_ne_nil _ _)
    simp only [write, List.length_cons, List.length_append] at hn
    have hx := value_write x m (writeFields st xs ++ s) (by omega) (ends_writeFields xs s)
    have hxs := fields_write xs m s (by omega)
    have hkey : ∀ r, key (writeString st k ++ (':' :: gap st) ++ r) = some (k, gap st ++ r) := key_write k
    have hskip : ∀ r, skip (writeString st k ++ r) = writeString st k ++ r := fun r => skip_of_not_space rfl _
    have hhead : ∀ r, (writeString st k ++ r).head? ≠ some '}' := fun r h =>
      absurd (Option.some.inj h) (by decide)
    rw [write, List.cons_append, value, skip_of_not_space rfl]
    simp only [List.append_assoc] at hkey ⊢
    simp only [hskip, hhead, hkey, value_gap, hx, hxs, Char.reduceEq, if_true, if_false, Option.bind_eq_bind,
      Option.bind_some]

theorem items_write : ∀ (xs : List Value) (n : ℕ) (s : List Char), (writeItems st xs).length ≤ n →
    items n (writeItems st xs ++ s) = some (xs, s)
  | [], n, s, hn => by
    obtain ⟨m, rfl⟩ := exists_fuel hn (by rw [writeItems]; exact List.cons_ne_nil _ _)
    rw [writeItems]
    rfl
  | x :: xs, n, s, hn => by
    obtain ⟨m, rfl⟩ := exists_fuel hn (by rw [writeItems]; exact List.cons_ne_nil _ _)
    simp only [writeItems, List.length_cons, List.length_append] at hn
    have hx := value_write x m (writeItems st xs ++ s) (by omega) (ends_writeItems xs s)
    have hxs := items_write xs m s (by omega)
    rw [writeItems, List.cons_append, items, skip_of_not_space rfl]
    simp only [List.append_assoc, value_gap, hx, hxs, Option.bind_eq_bind, Option.bind_some]

theorem fields_write : ∀ (xs : List (String × Value)) (n : ℕ) (s : List Char),
    (writeFields st xs).length ≤ n → fields n (writeFields st xs ++ s) = some (xs, s)
  | [], n, s, hn => by
    obtain ⟨m, rfl⟩ := exists_fuel hn (by rw [writeFields]; exact List.cons_ne_nil _ _)
    rw [writeFields]
    rfl
  | (k, x) :: xs, n, s, hn => by
    obtain ⟨m, rfl⟩ := exists_fuel hn (by rw [writeFields]; exact List.cons_ne_nil _ _)
    simp only [writeFields, List.length_cons, List.length_append] at hn
    have hx := value_write x m (writeFields st xs ++ s) (by omega) (ends_writeFields xs s)
    have hxs := fields_write xs m s (by omega)
    have hkey : ∀ r, key (writeString st k ++ (':' :: gap st) ++ r) = some (k, gap st ++ r) := key_write k
    have hgap : ∀ r, key (gap st ++ r) = key r := fun r => by rw [key, key, skip_gap]
    rw [writeFields, List.cons_append, fields, skip_of_not_space rfl]
    simp only [List.append_assoc] at hkey ⊢
    simp only [hgap, hkey, value_gap, hx, hxs, Option.bind_eq_bind, Option.bind_some]

end

/-- **Reading undoes writing**, whatever the style. -/
theorem parse_write (v : Value) : parse (write st v) = some v := by
  have hv : value ((write st v).length + 1) (write st v ++ []) = some (v, []) :=
    value_write v _ [] (Nat.le_succ _) fun c hc => by simp at hc
  rw [List.append_nil] at hv
  rw [parse, hv]
  rfl

end Values

/-! ### No control characters -/

/-- Neither a control character nor, with them, the end of a line. -/
def Printable (s : List Char) : Prop := ∀ c ∈ s, 32 ≤ c.toNat

instance (s : List Char) : Decidable (Printable s) := List.decidableBAll (p := fun c : Char => 32 ≤ c.toNat) s

section Printable

variable {st : Style}

theorem Printable.append {s t : List Char} (hs : Printable s) (ht : Printable t) : Printable (s ++ t) := by
  intro c hc
  rcases List.mem_append.mp hc with hc | hc
  · exact hs c hc
  · exact ht c hc

theorem Printable.cons {c : Char} {s : List Char} (hc : 32 ≤ c.toNat) (hs : Printable s) : Printable (c :: s) := by
  intro x hx
  rcases List.mem_cons.mp hx with rfl | hx
  · exact hc
  · exact hs x hx

theorem printable_nil : Printable [] := fun _ hc => absurd hc List.not_mem_nil

theorem printable_numeral {s : List Char} (h : ∀ c ∈ s, numeral c = true) : Printable s := by
  intro c hc
  have hc' := h c hc
  simp only [numeral, Bool.or_eq_true, decide_eq_true_eq] at hc'
  rcases hc' with ((((hdigit | rfl) | rfl) | rfl) | rfl) | rfl
  · simp only [Char.isDigit, Bool.and_eq_true, decide_eq_true_eq] at hdigit
    exact le_trans (by decide) (UInt32.le_iff_toNat_le.mp hdigit.1)
  all_goals decide

theorem printable_unicodeEscape (n : ℕ) : Printable (unicodeEscape n) := by
  have hdigit : ∀ d < 16, 32 ≤ (Nat.digitChar d).toNat := by decide
  have hmod : ∀ k, 32 ≤ (Nat.digitChar (k % 16)).toNat := fun k => hdigit _ (Nat.mod_lt _ (by decide))
  exact .cons (by decide) (.cons (by decide) (.cons (hmod _) (.cons (hmod _) (.cons (hmod _)
    (.cons (hmod _) printable_nil)))))

theorem printable_escape (c : Char) : Printable (escape st c) := by
  have hunits : Printable ((codeUnits c).flatMap unicodeEscape) := by
    intro x hx
    obtain ⟨n, -, hn⟩ := List.mem_flatMap.mp hx
    exact printable_unicodeEscape n x hn
  unfold escape
  split
  · rename_i hp
    exact .cons (st.lawful c hp).2.2 printable_nil
  · split
    · rename_i e he
      split
      · unfold shortEscape at he
        split_ifs at he <;> cases he <;> exact .cons (by decide) (.cons (by decide) printable_nil)
      · exact hunits
    · exact hunits

theorem printable_writeString (s : String) : Printable (writeString st s) := by
  refine .cons (by decide) (.append ?_ (.cons (by decide) printable_nil))
  intro c hc
  obtain ⟨x, -, hx⟩ := List.mem_flatMap.mp hc
  exact printable_escape x c hx

theorem printable_gap : Printable (gap st) := by
  intro c hc
  rw [List.eq_of_mem_replicate hc]
  decide

mutual

/-- **A written text has no control character in it.** -/
theorem write_printable : ∀ v : Value, Printable (write st v)
  | .null => by rw [write]; decide
  | .bool true => by rw [write]; decide
  | .bool false => by rw [write]; decide
  | .int n => by
    rw [write]
    exact printable_numeral fun c hc => numeral_writeInt hc
  | .real r => by
    rw [write]
    exact printable_numeral fun c hc => r.numeral hc
  | .str s => by
    rw [write]
    exact printable_writeString s
  | .arr [] => by rw [write]; decide
  | .arr (x :: xs) => by
    rw [write]
    exact .cons (by decide) ((write_printable x).append (writeItems_printable xs))
  | .obj [] => by rw [write]; decide
  | .obj ((k, x) :: xs) => by
    rw [write]
    exact .cons (by decide) ((((printable_writeString k).append (.cons (by decide) printable_gap)).append
      (write_printable x)).append (writeFields_printable xs))

theorem writeItems_printable : ∀ xs : List Value, Printable (writeItems st xs)
  | [] => by rw [writeItems]; decide
  | x :: xs => by
    rw [writeItems]
    exact .cons (by decide) ((printable_gap.append (write_printable x)).append (writeItems_printable xs))

theorem writeFields_printable : ∀ xs : List (String × Value), Printable (writeFields st xs)
  | [] => by rw [writeFields]; decide
  | (k, x) :: xs => by
    rw [writeFields]
    exact .cons (by decide) ((((printable_gap.append (printable_writeString k)).append
      (.cons (by decide) printable_gap)).append (write_printable x)).append (writeFields_printable xs))

end

end Printable

end JsonText
