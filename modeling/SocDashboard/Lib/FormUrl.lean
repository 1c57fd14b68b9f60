/-
# Query strings

`application/x-www-form-urlencoded`, as browsers write it and servers read it.
A name or a value is written byte by byte of its UTF-8 form: letters, digits
and `*-._` stand for themselves, a space is `+`, any other byte is `%` with two
hexadecimal digits. Pairs are separated by `&`, and a name from its value by
the first `=`.

What is written is read back, whatever characters the names and values hold
(`parse_serialize`), and it holds no character that ends a query string
(`serialize_safe`).

Key definitions: `encode`, `serialize`, `decode`, `parse`.
Key theorems: `decode_encode`, `parse_serialize`, `serialize_safe`.
-/
import SocDashboard.Lib.JsonText

namespace FormUrl

open JsonText (hexValue)

/-- What can be checked of every character of a text. -/
theorem forall_mem {P : Char → Prop} [DecidablePred P] {s : List Char} (h : (s.all fun c => decide (P c)) = true) :
    ∀ c ∈ s, P c := fun c hc => of_decide_eq_true (List.all_eq_true.mp h c hc)

/-! ### Writing -/

/-- The byte stands for itself. -/
def plain (n : ℕ) : Bool :=
  (48 ≤ n && n ≤ 57) || (65 ≤ n && n ≤ 90) || (97 ≤ n && n ≤ 122) || n = 42 || n = 45 || n = 46 || n = 95

/-- An upper-case hexadecimal digit. -/
def hexDigit (n : ℕ) : Char := (Nat.digitChar n).toUpper

def percent (b : UInt8) : List Char := ['%', hexDigit (b.toNat / 16), hexDigit (b.toNat % 16)]

def encodeByte (b : UInt8) : List Char :=
  if plain b.toNat then [Char.ofNat b.toNat]
  else if b = 32 then ['+']
  else percent b

/-- The UTF-8 form. -/
def bytes (s : String) : List UInt8 := s.toByteArray.data.toList

def encode (s : String) : List Char := (bytes s).flatMap encodeByte

def serializePair (p : String × String) : List Char := encode p.1 ++ '=' :: encode p.2

def serialize (pairs : List (String × String)) : List Char := ['&'].intercalate (pairs.map serializePair)

/-! ### Reading -/

/-- The bytes of a name or a value; a `%` without two digits stands for itself. -/
def decodeBytes : List Char → List UInt8
  | [] => []
  | '%' :: c :: d :: rest =>
    match hexValue c, hexValue d with
    | some x, some y => UInt8.ofNat (16 * x + y) :: decodeBytes rest
    | _, _ => 37 :: decodeBytes (c :: d :: rest)
  | c :: rest => (if c = '+' then [32] else String.utf8EncodeChar c) ++ decodeBytes rest

/-- The text of the bytes, if they are one. -/
def decode (s : List Char) : Option String := String.fromUTF8? ⟨(decodeBytes s).toArray⟩

/-- A name and its value, which is empty where there is no `=`. -/
def parsePair (s : List Char) : Option (String × String) := do
  let name ← decode (s.takeWhile (· ≠ '='))
  let value ← decode ((s.dropWhile (· ≠ '=')).drop 1)
  some (name, value)

/-- The pairs of a query string, empty pieces left out. -/
def parse (s : List Char) : Option (List (String × String)) :=
  ((s.splitOn '&').filter fun piece => piece ≠ []).mapM parsePair

/-! ### What is written is read back -/

theorem hexValue_hexDigit : ∀ n < 16, hexValue (hexDigit n) = some n := by decide

/-- Separators, what ends a query string, and what is not written as itself. -/
def special : List Char := ['&', '=', '#', '%', '+', ' ']

theorem hexDigit_not_special : ∀ n < 16, hexDigit n ∉ special := by decide

theorem plain_lt {n : ℕ} (h : plain n = true) : n < 128 := by
  simp only [plain, Bool.or_eq_true, Bool.and_eq_true, decide_eq_true_eq] at h
  omega

theorem plain_not_special {n : ℕ} (h : plain n = true) : Char.ofNat n ∉ special := by
  have hall : ∀ n < 128, plain n = true → Char.ofNat n ∉ special := by decide
  exact hall n (plain_lt h) h

theorem utf8EncodeChar_ofNat {n : ℕ} (h : n < 128) : String.utf8EncodeChar (Char.ofNat n) = [UInt8.ofNat n] := by
  have hall : ∀ n < 128, String.utf8EncodeChar (Char.ofNat n) = [UInt8.ofNat n] := by decide
  exact hall n h

theorem decodeBytes_cons {c : Char} (hc : c ≠ '%') (rest : List Char) :
    decodeBytes (c :: rest) = (if c = '+' then [32] else String.utf8EncodeChar c) ++ decodeBytes rest := by
  rw [decodeBytes.eq_def]
  split
  · rename_i heq
    cases heq
  · rename_i heq
    exact absurd (List.cons.inj heq).1 hc
  · rename_i heq
    obtain ⟨rfl, rfl⟩ := List.cons.inj heq
    rfl

theorem decodeBytes_percent (b : UInt8) (rest : List Char) :
    decodeBytes (percent b ++ rest) = b :: decodeBytes rest := by
  have hlt := b.toNat_lt
  have hb : 16 * (b.toNat / 16) + b.toNat % 16 = b.toNat := Nat.div_add_mod b.toNat 16
  rw [percent, List.cons_append, List.cons_append, List.cons_append, List.nil_append, decodeBytes,
    hexValue_hexDigit _ (by omega), hexValue_hexDigit _ (by omega)]
  simp only
  rw [hb, UInt8.ofNat_toNat]

theorem decodeBytes_encodeByte (b : UInt8) (rest : List Char) :
    decodeBytes (encodeByte b ++ rest) = b :: decodeBytes rest := by
  unfold encodeByte
  by_cases hplain : plain b.toNat = true
  · have hspecial := plain_not_special hplain
    have hpercent : Char.ofNat b.toNat ≠ '%' := fun he => hspecial (he ▸ by decide)
    have hplus : Char.ofNat b.toNat ≠ '+' := fun he => hspecial (he ▸ by decide)
    rw [if_pos hplain, List.singleton_append, decodeBytes_cons hpercent, if_neg hplus,
      utf8EncodeChar_ofNat (plain_lt hplain), UInt8.ofNat_toNat, List.singleton_append]
  · rw [if_neg hplain]
    by_cases hspace : b = 32
    · rw [if_pos hspace, hspace, List.singleton_append, decodeBytes_cons (by decide), if_pos rfl, List.singleton_append]
    · rw [if_neg hspace, decodeBytes_percent]

theorem decodeBytes_flatMap (bs : List UInt8) : decodeBytes (bs.flatMap encodeByte) = bs := by
  induction bs with
  | nil => rfl
  | cons b bs ih => rw [List.flatMap_cons, decodeBytes_encodeByte, ih]

theorem decode_of_bytes {cs : List Char} {s : String} (h : decodeBytes cs = bytes s) : decode cs = some s := by
  have hbytes : (⟨(bytes s).toArray⟩ : ByteArray) = s.toByteArray := rfl
  rw [decode, h, hbytes]
  simp [String.fromUTF8?, String.fromUTF8, s.isValidUTF8]

/-- **A name or a value is read back.** -/
theorem decode_encode (s : String) : decode (encode s) = some s := decode_of_bytes (decodeBytes_flatMap (bytes s))

theorem bytes_ofList (cs : List Char) : bytes (String.ofList cs) = cs.flatMap String.utf8EncodeChar := by
  rw [bytes, String.toByteArray_ofList, List.utf8Encode, List.toList_data_toByteArray]

/-! ### Nothing written is a separator -/

/-- What separates pairs, names from values, and a query string from what follows it. -/
def Safe (c : Char) : Prop := c ≠ '&' ∧ c ≠ '=' ∧ c ≠ '#' ∧ c ≠ ' '

theorem Safe.of_not_special {c : Char} (h : c ∉ special) : Safe c :=
  ⟨fun he => h (he ▸ by decide), fun he => h (he ▸ by decide), fun he => h (he ▸ by decide),
    fun he => h (he ▸ by decide)⟩

theorem percent_safe {b : UInt8} {c : Char} (h : c ∈ percent b) : Safe c := by
  have hlt := b.toNat_lt
  rw [percent, List.mem_cons, List.mem_cons, List.mem_singleton] at h
  rcases h with rfl | rfl | rfl
  · exact ⟨by decide, by decide, by decide, by decide⟩
  · exact Safe.of_not_special (hexDigit_not_special _ (by omega))
  · exact Safe.of_not_special (hexDigit_not_special _ (by omega))

theorem encodeByte_safe {b : UInt8} {c : Char} (h : c ∈ encodeByte b) : Safe c := by
  unfold encodeByte at h
  by_cases hplain : plain b.toNat = true
  · rw [if_pos hplain, List.mem_singleton] at h
    exact Safe.of_not_special (h ▸ plain_not_special hplain)
  rw [if_neg hplain] at h
  by_cases hspace : b = 32
  · rw [if_pos hspace, List.mem_singleton] at h
    exact h ▸ ⟨by decide, by decide, by decide, by decide⟩
  · rw [if_neg hspace] at h
    exact percent_safe h

theorem encode_safe {s : String} {c : Char} (h : c ∈ encode s) : Safe c := by
  obtain ⟨b, -, hc⟩ := List.mem_flatMap.1 h
  exact encodeByte_safe hc

theorem serializePair_safe {p : String × String} {c : Char} (h : c ∈ serializePair p) :
    c ≠ '&' ∧ c ≠ '#' ∧ c ≠ ' ' := by
  rcases List.mem_append.1 h with hname | hrest
  · obtain ⟨hamp, -, hhash, hspace⟩ := encode_safe hname
    exact ⟨hamp, hhash, hspace⟩
  rcases List.mem_cons.1 hrest with rfl | hvalue
  · decide
  · obtain ⟨hamp, -, hhash, hspace⟩ := encode_safe hvalue
    exact ⟨hamp, hhash, hspace⟩

theorem serialize_cons_cons (p q : String × String) (ps : List (String × String)) :
    serialize (p :: q :: ps) = serializePair p ++ '&' :: serialize (q :: ps) := by
  simp [serialize, List.intercalate_cons_cons]

/-- **A query string holds no blank and no start of a fragment.** -/
theorem serialize_safe (pairs : List (String × String)) : ∀ c ∈ serialize pairs, c ≠ '#' ∧ c ≠ ' ' := by
  induction pairs with
  | nil => intro c hc; cases hc
  | cons p ps ih =>
    intro c hc
    cases ps with
    | nil =>
      have hpair : c ∈ serializePair p := by simpa [serialize] using hc
      exact (serializePair_safe hpair).2
    | cons q ps =>
      rw [serialize_cons_cons] at hc
      rcases List.mem_append.1 hc with hpair | hrest
      · exact (serializePair_safe hpair).2
      rcases List.mem_cons.1 hrest with rfl | hrest
      · decide
      · exact ih c hrest

/-! ### Splitting undoes joining -/

theorem parsePair_serializePair (p : String × String) : parsePair (serializePair p) = some p := by
  have hname : ∀ c ∈ encode p.1, decide (c ≠ '=') = true := fun c hc => decide_eq_true (encode_safe hc).2.1
  have htake : (serializePair p).takeWhile (· ≠ '=') = encode p.1 := by
    rw [serializePair, List.takeWhile_append_of_pos hname]
    simp
  have hdrop : ((serializePair p).dropWhile (· ≠ '=')).drop 1 = encode p.2 := by
    rw [serializePair, List.dropWhile_append_of_pos hname]
    simp
  rw [parsePair, htake, hdrop, decode_encode, decode_encode]
  rfl

/-- The first pair of a query string. -/
theorem parse_cons {piece : List Char} {p : String × String} (hamp : '&' ∉ piece) (hne : piece ≠ [])
    (hp : parsePair piece = some p) (rest : List Char) :
    parse (piece ++ '&' :: rest) = (parse rest).map (p :: ·) := by
  rw [parse, List.splitOn_append_cons_self_of_not_mem hamp, List.filter_cons_of_pos (by simpa using hne),
    List.mapM_cons, hp, parse]
  cases ((rest.splitOn '&').filter fun piece => piece ≠ []).mapM parsePair <;> rfl

theorem parse_single {piece : List Char} {p : String × String} (hamp : '&' ∉ piece) (hne : piece ≠ [])
    (hp : parsePair piece = some p) : parse piece = some [p] := by
  rw [parse, List.splitOn_eq_singleton hamp, List.filter_cons_of_pos (by simpa using hne), List.filter_nil,
    List.mapM_cons, hp]
  rfl

theorem mapM_parsePair (pairs : List (String × String)) :
    (pairs.map serializePair).mapM parsePair = some pairs := by
  induction pairs with
  | nil => rfl
  | cons p ps ih => rw [List.map_cons, List.mapM_cons, parsePair_serializePair, ih]; rfl

theorem serializePair_ne_nil (p : String × String) : serializePair p ≠ [] := by simp [serializePair]

/-- **What is written is read back**, name for name and value for value, in order. -/
theorem parse_serialize (pairs : List (String × String)) : parse (serialize pairs) = some pairs := by
  by_cases hnil : pairs = []
  · subst hnil
    decide
  have hsplit : (serialize pairs).splitOn '&' = pairs.map serializePair := by
    refine List.splitOn_intercalate '&' (fun piece hpiece hamp => ?_) (by simpa using hnil)
    obtain ⟨p, -, rfl⟩ := List.mem_map.1 hpiece
    exact (serializePair_safe hamp).1 rfl
  have hfilter : ((pairs.map serializePair).filter fun piece => piece ≠ []) = pairs.map serializePair := by
    refine List.filter_eq_self.2 fun piece hpiece => ?_
    obtain ⟨p, -, rfl⟩ := List.mem_map.1 hpiece
    exact decide_eq_true (serializePair_ne_nil p)
  rw [parse, hsplit, hfilter, mapM_parsePair]

end FormUrl
