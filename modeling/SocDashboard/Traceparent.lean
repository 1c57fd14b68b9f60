/-
# The traceparent parser

`extractRemoteSpanContext` of propagation.go cuts the header at its first
three dashes, decodes the two ids with OTel's decoders and the flags with
`strconv.ParseUint`. It reads every text that the W3C format allows, and reads
back what it is written from. It reads more: the version is never looked at,
and the flags are bounded by their value and not by their length.

Key definitions: `parseUint`, `Otel`, `extractRemoteSpanContext`,
`IsTraceparent`, `ExactAt`, `StrictFields`, `RoundTrips`.
Key theorems: `parseUint_eq_some`, `extract_joined`, `extract_cases`,
`exactAt_iff`, `roundTrips`.
-/
import SocDashboard.Lib.HexText

namespace SocDashboard

open HexText

/-- `-` -/
def dash : UInt8 := 45

/-! ### `strconv.ParseUint` -/

/-- Its loop. A product that would not fit 64 bits is out of range, and so is a
sum that wraps. -/
def parseUintLoop (base maxVal : ℕ) : ℕ → List UInt8 → Option ℕ
  | n, [] => some n
  | n, c :: s =>
    match digitValue c with
    | none => none
    | some d =>
      if base ≤ d then none
      else if (2 ^ 64 - 1) / base + 1 ≤ n then none
      else if maxVal < n * base + d then none
      else parseUintLoop base maxVal (n * base + d) s

/-- `strconv.ParseUint`, for a base and a size that are given. -/
def parseUint (s : List UInt8) (base bitSize : ℕ) : Option ℕ :=
  if s = [] then none else parseUintLoop base (2 ^ bitSize - 1) 0 s

theorem parseUintLoop_eq_some {base maxVal n v : ℕ} {s : List UInt8} (hbase : 0 < base)
    (hmax : maxVal < 2 ^ 64) (hn : n ≤ maxVal) :
    parseUintLoop base maxVal n s = some v ↔
      IsDigits base s ∧ numberFrom base n s = v ∧ v ≤ maxVal := by
  induction s generalizing n with
  | nil =>
    have hdigits : IsDigits base [] := by simp [IsDigits]
    simp only [parseUintLoop, hdigits, true_and, numberFrom, List.foldl_nil, Option.some.injEq]
    omega
  | cons c s ih =>
    rw [isDigits_cons, parseUintLoop]
    cases hd : digitValue c with
    | none => simp
    | some d =>
      rw [numberFrom_cons hd]
      have hle : n * base + d ≤ numberFrom base (n * base + d) s := le_numberFrom hbase
      by_cases hdigit : base ≤ d
      · simp only [if_pos hdigit, reduceCtorEq, false_iff, not_and]
        rintro ⟨⟨d', hd', hlt⟩, -⟩
        obtain rfl := Option.some.inj hd'
        omega
      · have hsome : (∃ d', some d = some d' ∧ d' < base) ↔ True :=
          iff_true_intro ⟨d, rfl, not_le.mp hdigit⟩
        simp only [if_neg hdigit, hsome, true_and]
        by_cases hcut : (2 ^ 64 - 1) / base + 1 ≤ n
        · -- the product alone is out of range
          have hover : 2 ^ 64 - 1 < n * base := (Nat.div_lt_iff_lt_mul hbase).mp hcut
          simp only [if_pos hcut, reduceCtorEq, false_iff, not_and]
          omega
        · rw [if_neg hcut]
          by_cases hrange : maxVal < n * base + d
          · simp only [if_pos hrange, reduceCtorEq, false_iff, not_and]
            omega
          · rw [if_neg hrange]
            exact ih (not_lt.mp hrange)

/-- **What `ParseUint` takes**: digits of the base, of any number, whose value fits. -/
theorem parseUint_eq_some {s : List UInt8} {base bitSize v : ℕ} (hbase : 0 < base) (hbits : bitSize ≤ 64) :
    parseUint s base bitSize = some v ↔ s ≠ [] ∧ IsDigits base s ∧ number base s = v ∧ v < 2 ^ bitSize := by
  have hpow : 2 ^ bitSize ≤ 2 ^ 64 := Nat.pow_le_pow_right (by omega) hbits
  have hpos : 0 < 2 ^ bitSize := Nat.two_pow_pos bitSize
  rw [parseUint]
  by_cases hs : s = []
  · simp [hs]
  · have hfits : v ≤ 2 ^ bitSize - 1 ↔ v < 2 ^ bitSize := by omega
    rw [if_neg hs, parseUintLoop_eq_some hbase (by omega) (Nat.zero_le _), hfits]
    simp [hs, number]

/-! ### Span contexts -/

/-- A `TraceID` or a `SpanID`: an array of bytes. -/
structure Id (n : ℕ) where
  bytes : List UInt8
  length_eq : bytes.length = n
  deriving DecidableEq

abbrev TraceID := Id 16

abbrev SpanID := Id 8

/-- `IsValid` of an id. -/
def Id.isValid {n : ℕ} (id : Id n) : Bool := id.bytes.any fun b => b ≠ 0

/-- `trace.SpanContext`, less the trace state. -/
structure SpanContext where
  traceID : TraceID
  spanID : SpanID
  traceFlags : UInt8
  remote : Bool
  deriving DecidableEq

/-- `SpanContext.IsValid`. -/
def SpanContext.isValid (sc : SpanContext) : Bool := sc.traceID.isValid && sc.spanID.isValid

/-- `SpanContext.IsSampled`. -/
def SpanContext.isSampled (sc : SpanContext) : Bool := sc.traceFlags &&& 1 = 1

/-- A context: the span context it carries, if any, and its other values. -/
structure Context (κ : Type) where
  span : Option SpanContext
  values : κ
  deriving DecidableEq

/-- `trace.ContextWithRemoteSpanContext`. -/
def Context.withRemoteSpanContext {κ : Type} (ctx : Context κ) (rsc : SpanContext) : Context κ :=
  { ctx with span := some { rsc with remote := true } }

/-- A decoder of ids: the text is the lowercase hex of the id, which is not all zero. -/
structure IdDecoder (n : ℕ) where
  fromHex : List UInt8 → Option (Id n)
  fromHex_iff : ∀ s id, fromHex s = some id ↔ encode id.bytes = s ∧ id.isValid = true

/-- `trace.TraceIDFromHex` and `trace.SpanIDFromHex`. -/
structure Otel where
  traceID : IdDecoder 16
  spanID : IdDecoder 8

/-- `extractRemoteSpanContext`. -/
def extractRemoteSpanContext {κ : Type} (otel : Otel) (ctx : Context κ) (traceparent : List UInt8) : Context κ :=
  match splitN dash 4 traceparent with
  | [_, traceField, spanField, flagsField] =>
    match otel.traceID.fromHex traceField with
    | none => ctx
    | some traceID =>
      match otel.spanID.fromHex spanField with
      | none => ctx
      | some spanID =>
        match parseUint flagsField 16 8 with
        | none => ctx
        | some flagVal =>
          let rsc : SpanContext := ⟨traceID, spanID, UInt8.ofNat flagVal, true⟩
          if !rsc.isValid then ctx else ctx.withRemoteSpanContext rsc
  | _ => ctx

/-! ### Which texts are read -/

/-- Four fields with dashes between them. -/
def joined (version traceField spanField flagsField : List UInt8) : List UInt8 :=
  version ++ dash :: (traceField ++ dash :: (spanField ++ dash :: flagsField))

/-- A text after which a context is one with a remote span context, whatever it was before. -/
def Installs (otel : Otel) (s : List UInt8) (sc : SpanContext) : Prop :=
  ∀ (κ : Type) (ctx : Context κ), extractRemoteSpanContext otel ctx s = ctx.withRemoteSpanContext sc

/-- A text after which a context is what it was. -/
def LeavesAlone (otel : Otel) (s : List UInt8) : Prop :=
  ∀ (κ : Type) (ctx : Context κ), extractRemoteSpanContext otel ctx s = ctx

/-- No digit is a dash. -/
theorem dash_not_mem_encode (bs : List UInt8) : dash ∉ encode bs := by
  intro h
  have hdash : value dash = none := by decide
  have := value_of_mem_encode h
  rw [hdash] at this
  cases this

section Reads

variable {otel : Otel} {s : List UInt8}

/-- **Fields that are read are installed.** -/
theorem extract_joined (otel : Otel) {version flagsField : List UInt8} {traceID : TraceID} {spanID : SpanID}
    {v : ℕ} (hversion : dash ∉ version) (htrace : traceID.isValid = true) (hspan : spanID.isValid = true)
    (hflags : parseUint flagsField 16 8 = some v) :
    Installs otel (joined version (encode traceID.bytes) (encode spanID.bytes) flagsField)
      ⟨traceID, spanID, UInt8.ofNat v, true⟩ := by
  intro κ ctx
  have hsplit : splitN dash 4 (joined version (encode traceID.bytes) (encode spanID.bytes) flagsField) =
      [version, encode traceID.bytes, encode spanID.bytes, flagsField] :=
    splitN_four.mpr ⟨rfl, hversion, dash_not_mem_encode _, dash_not_mem_encode _⟩
  have htraceField : otel.traceID.fromHex (encode traceID.bytes) = some traceID :=
    (otel.traceID.fromHex_iff _ _).mpr ⟨rfl, htrace⟩
  have hspanField : otel.spanID.fromHex (encode spanID.bytes) = some spanID :=
    (otel.spanID.fromHex_iff _ _).mpr ⟨rfl, hspan⟩
  simp only [extractRemoteSpanContext, hsplit, htraceField, hspanField, hflags, SpanContext.isValid, htrace, hspan,
    Bool.and_true, Bool.not_true, Bool.false_eq_true, if_false]

/-- What the fields of a text that is read are. -/
structure ReadFields (otel : Otel) (s version flagsField : List UInt8) (traceID : TraceID) (spanID : SpanID)
    (v : ℕ) : Prop where
  text : s = joined version (encode traceID.bytes) (encode spanID.bytes) flagsField
  version : dash ∉ version
  trace : traceID.isValid = true
  span : spanID.isValid = true
  flags : parseUint flagsField 16 8 = some v
  installs : Installs otel s ⟨traceID, spanID, UInt8.ofNat v, true⟩

/-- **A text is read field by field, or the context is left alone.** -/
theorem extract_cases (otel : Otel) (s : List UInt8) :
    (∃ version flagsField traceID spanID v, ReadFields otel s version flagsField traceID spanID v) ∨
      LeavesAlone otel s := by
  by_cases hread : ∃ version traceField spanField flagsField traceID spanID v,
      splitN dash 4 s = [version, traceField, spanField, flagsField] ∧
        otel.traceID.fromHex traceField = some traceID ∧ otel.spanID.fromHex spanField = some spanID ∧
        parseUint flagsField 16 8 = some v
  · obtain ⟨version, traceField, spanField, flagsField, traceID, spanID, v, hsplit, htrace, hspan, hflags⟩ := hread
    obtain ⟨rfl, hversion, -, -⟩ := splitN_four.mp hsplit
    obtain ⟨rfl, htraceID⟩ := (otel.traceID.fromHex_iff _ _).mp htrace
    obtain ⟨rfl, hspanID⟩ := (otel.spanID.fromHex_iff _ _).mp hspan
    exact .inl ⟨version, flagsField, traceID, spanID, v, rfl, hversion, htraceID, hspanID, hflags,
      extract_joined otel hversion htraceID hspanID hflags⟩
  · refine .inr fun κ ctx => ?_
    rw [extractRemoteSpanContext]
    split
    · rename_i version traceField spanField flagsField hsplit
      cases htrace : otel.traceID.fromHex traceField with
      | none => rfl
      | some traceID =>
        cases hspan : otel.spanID.fromHex spanField with
        | none => rfl
        | some spanID =>
          cases hflags : parseUint flagsField 16 8 with
          | none => rfl
          | some v => exact absurd ⟨_, _, _, _, _, _, _, hsplit, htrace, hspan, hflags⟩ hread
    · rfl

/-- Installing and leaving alone exclude each other. -/
theorem not_leavesAlone_of_installs {sc : SpanContext} (h : Installs otel s sc) : ¬LeavesAlone otel s := by
  intro hsame
  have := (h Unit ⟨none, ()⟩).symm.trans (hsame Unit ⟨none, ()⟩)
  simp [Context.withRemoteSpanContext] at this

end Reads

/-! ### The format -/

/-- The lowercase hex of an id of `n` bytes that is not all zero. -/
structure IsIdField (n : ℕ) (s : List UInt8) : Prop where
  length : s.length = 2 * n
  digits : ∀ c ∈ s, (value c).isSome = true
  nonzero : ∃ c ∈ s, c ≠ 48

/-- Two lowercase hex digits, not `ff`. -/
structure IsVersion (s : List UInt8) : Prop where
  length : s.length = 2
  digits : ∀ c ∈ s, (value c).isSome = true
  known : s ≠ [102, 102]

/-- The four fields of the W3C format, with any two hex digits of flags. -/
def IsTraceparent (s : List UInt8) : Prop :=
  ∃ version traceField spanField flagsField, s = joined version traceField spanField flagsField ∧
    IsVersion version ∧ IsIdField 16 traceField ∧ IsIdField 8 spanField ∧
    flagsField.length = 2 ∧ IsDigits 16 flagsField

/-- The text is installed if it is of the format, and else the context is left alone. -/
structure ExactAt (otel : Otel) (s : List UInt8) : Prop where
  installs : IsTraceparent s → ∃ sc, sc.isValid = true ∧ Installs otel s sc
  unchanged : ¬IsTraceparent s → LeavesAlone otel s

/-- If the text has two ids between dashes and ends in hex digits worth at most 255, then its
version is one and there are two of these digits. -/
def StrictFields (s : List UInt8) : Prop :=
  ∀ version traceField spanField flagsField, s = joined version traceField spanField flagsField →
    dash ∉ version → IsIdField 16 traceField → IsIdField 8 spanField →
    flagsField ≠ [] → IsDigits 16 flagsField → number 16 flagsField ≤ 255 →
    IsVersion version ∧ flagsField.length = 2

section Format

variable {n : ℕ} {s : List UInt8} {otel : Otel}

/-- An id is written as a field. -/
theorem isIdField_encode {id : Id n} (h : id.isValid = true) : IsIdField n (encode id.bytes) where
  length := by rw [length_encode, id.length_eq]
  digits := fun _ hc => value_of_mem_encode hc
  nonzero := by
    by_contra hall
    push Not at hall
    have hzero := encode_zero.mp hall
    obtain ⟨b, hb, hne⟩ := List.any_eq_true.mp h
    exact of_decide_eq_true hne (hzero b hb)

/-- ... and every field is that of an id. -/
theorem exists_id_of_field (h : IsIdField n s) : ∃ id : Id n, encode id.bytes = s ∧ id.isValid = true := by
  obtain ⟨bs, hlen, hdecode⟩ := decode_isSome h.length h.digits
  have hs := decode_eq_some.mp hdecode
  refine ⟨⟨bs, hlen⟩, hs, ?_⟩
  by_contra hinvalid
  have hzero : ∀ b ∈ bs, b = 0 := by
    intro b hb
    by_contra hne
    exact hinvalid (List.any_eq_true.mpr ⟨b, hb, decide_eq_true hne⟩)
  obtain ⟨c, hc, hne⟩ := h.nonzero
  rw [← hs] at hc
  exact hne (encode_zero.mpr hzero c hc)

theorem dash_not_mem_version (h : IsVersion s) : dash ∉ s := by
  intro hmem
  have hdash : value dash = none := by decide
  have := h.digits dash hmem
  rw [hdash] at this
  cases this

/-- Two hex digits are flags. -/
theorem parseUint_flags (hlen : s.length = 2) (hdigits : IsDigits 16 s) :
    parseUint s 16 8 = some (number 16 s) := by
  have hlt : number 16 s < (0 + 1) * 16 ^ s.length := numberFrom_lt hdigits
  rw [hlen] at hlt
  refine (parseUint_eq_some (by omega) (by omega)).mpr ⟨?_, hdigits, rfl, by omega⟩
  rintro rfl
  cases hlen

/-- **A text of the format is installed.** -/
theorem installs_of_isTraceparent (otel : Otel) (h : IsTraceparent s) :
    ∃ sc, sc.isValid = true ∧ Installs otel s sc := by
  obtain ⟨version, traceField, spanField, flagsField, rfl, hversion, htrace, hspan, hlen, hdigits⟩ := h
  obtain ⟨traceID, rfl, htraceID⟩ := exists_id_of_field htrace
  obtain ⟨spanID, rfl, hspanID⟩ := exists_id_of_field hspan
  refine ⟨_, ?_, extract_joined otel (dash_not_mem_version hversion) htraceID hspanID
    (parseUint_flags hlen hdigits)⟩
  rw [SpanContext.isValid, htraceID, hspanID]
  rfl

/-- The fields of a text are determined. -/
theorem joined_inj {a b c d a' b' c' d' : List UInt8} (h : joined a b c d = joined a' b' c' d')
    (ha : dash ∉ a) (hb : dash ∉ b) (hc : dash ∉ c) (ha' : dash ∉ a') (hb' : dash ∉ b') (hc' : dash ∉ c') :
    a = a' ∧ b = b' ∧ c = c' ∧ d = d' := by
  have hsplit : splitN dash 4 (joined a b c d) = [a, b, c, d] := splitN_four.mpr ⟨rfl, ha, hb, hc⟩
  have hsplit' : splitN dash 4 (joined a b c d) = [a', b', c', d'] := splitN_four.mpr ⟨h, ha', hb', hc'⟩
  simpa using hsplit.symm.trans hsplit'

theorem dash_not_mem_field (h : IsIdField n s) : dash ∉ s := by
  obtain ⟨id, rfl, -⟩ := exists_id_of_field h
  exact dash_not_mem_encode id.bytes

end Format

/-- **When the parser is exact.** A text is installed if it is of the W3C format and else leaves the
context alone, exactly when its version is one and its flags are two digits in case its ids and the
value of its flags are in order. -/
theorem exactAt_iff (otel : Otel) (s : List UInt8) : ExactAt otel s ↔ StrictFields s := by
  constructor
  · intro hexact version traceField spanField flagsField hs hversion htrace hspan hne hdigits hvalue
    have hflags : parseUint flagsField 16 8 = some (number 16 flagsField) :=
      (parseUint_eq_some (by omega) (by omega)).mpr ⟨hne, hdigits, rfl, by omega⟩
    have hformat : IsTraceparent s := by
      by_contra hnot
      obtain ⟨traceID, rfl, htraceID⟩ := exists_id_of_field htrace
      obtain ⟨spanID, rfl, hspanID⟩ := exists_id_of_field hspan
      have hinstalls := extract_joined otel hversion htraceID hspanID hflags
      rw [← hs] at hinstalls
      exact not_leavesAlone_of_installs hinstalls (hexact.unchanged hnot)
    obtain ⟨version', traceField', spanField', flagsField', hs', hversion', htrace', hspan', hlen, -⟩ := hformat
    obtain ⟨rfl, -, -, rfl⟩ := joined_inj (hs.symm.trans hs') hversion (dash_not_mem_field htrace)
      (dash_not_mem_field hspan) (dash_not_mem_version hversion') (dash_not_mem_field htrace')
      (dash_not_mem_field hspan')
    exact ⟨hversion', hlen⟩
  · intro hstrict
    refine ⟨installs_of_isTraceparent otel, fun hnot => ?_⟩
    rcases extract_cases otel s with ⟨version, flagsField, traceID, spanID, v, hread⟩ | hsame
    · obtain ⟨hne, hdigits, hvalue, hlt⟩ := (parseUint_eq_some (by omega) (by omega)).mp hread.flags
      have htrace := isIdField_encode hread.trace
      have hspan := isIdField_encode hread.span
      obtain ⟨hversion, hlen⟩ := hstrict _ _ _ _ hread.text hread.version htrace hspan hne hdigits (by omega)
      exact absurd ⟨_, _, _, _, hread.text, hversion, htrace, hspan, hlen, hdigits⟩ hnot
    · exact hsame

/-! ### Writing and reading -/

/-- A span context as a `traceparent`. -/
def SpanContext.traceparent (sc : SpanContext) : List UInt8 :=
  joined [48, 48] (encode sc.traceID.bytes) (encode sc.spanID.bytes) (encode [sc.traceFlags])

/-- What is written is read back, and of what is read the ids are written back. -/
structure RoundTrips (otel : Otel) : Prop where
  /-- Parsing undoes formatting, and the sampled bit is bit 0 of the flags. -/
  parse : ∀ (traceID : TraceID) (spanID : SpanID) (flags : UInt8),
    traceID.isValid = true → spanID.isValid = true →
    Installs otel (SpanContext.traceparent ⟨traceID, spanID, flags, true⟩) ⟨traceID, spanID, flags, true⟩ ∧
      (SpanContext.isSampled ⟨traceID, spanID, flags, true⟩ = true ↔ flags.toNat.testBit 0 = true)
  /-- Formatting what was installed gives the two id fields of the text. -/
  format : ∀ s, ¬LeavesAlone otel s → ∃ sc version flagsField, sc.remote = true ∧ Installs otel s sc ∧
    splitN dash 4 s = [version, encode sc.traceID.bytes, encode sc.spanID.bytes, flagsField] ∧
    splitN dash 4 sc.traceparent =
      [[48, 48], encode sc.traceID.bytes, encode sc.spanID.bytes, encode [sc.traceFlags]]

theorem splitN_traceparent (sc : SpanContext) : splitN dash 4 sc.traceparent =
    [[48, 48], encode sc.traceID.bytes, encode sc.spanID.bytes, encode [sc.traceFlags]] :=
  splitN_four.mpr ⟨rfl, by decide, dash_not_mem_encode _, dash_not_mem_encode _⟩

theorem isSampled_iff (sc : SpanContext) : sc.isSampled = true ↔ sc.traceFlags.toNat.testBit 0 = true := by
  have hand : sc.traceFlags &&& 1 = 1 ↔ sc.traceFlags.toNat % 2 = 1 := by
    rw [← UInt8.toNat_inj, UInt8.toNat_and]
    show sc.traceFlags.toNat &&& 1 = 1 ↔ _
    rw [Nat.and_one_is_mod]
  rw [SpanContext.isSampled, decide_eq_true_iff, hand, Nat.testBit_zero, decide_eq_true_iff]

/-- **Parsing a `traceparent` undoes formatting it**, for all ids that are not zero and all flags, and
what is installed from any text is formatted with its ids. -/
theorem roundTrips (otel : Otel) : RoundTrips otel := by
  constructor
  case parse =>
    intro traceID spanID flags htrace hspan
    refine ⟨?_, isSampled_iff _⟩
    have hflags : parseUint (encode [flags]) 16 8 = some flags.toNat :=
      (parseUint_eq_some (by omega) (by omega)).mpr
        ⟨nofun, isDigits_encode [flags], number_encode_byte flags, flags.toNat_lt⟩
    have hinstalls := extract_joined otel (show dash ∉ [48, 48] by decide) htrace hspan hflags
    rwa [UInt8.ofNat_toNat] at hinstalls
  case format =>
    intro s hchanges
    rcases extract_cases otel s with ⟨version, flagsField, traceID, spanID, v, hread⟩ | hsame
    · refine ⟨⟨traceID, spanID, UInt8.ofNat v, true⟩, version, flagsField, rfl, hread.installs, ?_,
        splitN_traceparent _⟩
      rw [hread.text]
      exact splitN_four.mpr ⟨rfl, hread.version, dash_not_mem_encode _, dash_not_mem_encode _⟩
    · exact absurd hsame hchanges

/-! ### A decoder -/

/-- OTel's decoders: plain lowercase hex of the right length, not all zero. -/
def hexDecoder (n : ℕ) : IdDecoder n where
  fromHex s :=
    match decode s with
    | none => none
    | some bs =>
      if hlen : bs.length = n then if (Id.mk bs hlen).isValid then some ⟨bs, hlen⟩ else none else none
  fromHex_iff s id := by
    rw [← decode_eq_some]
    cases hd : decode s with
    | none => simp
    | some bs =>
      simp only [Option.some.injEq]
      constructor
      · intro h
        split_ifs at h with hlen hvalid
        obtain rfl := Option.some.inj h
        exact ⟨rfl, hvalid⟩
      · rintro ⟨rfl, hvalid⟩
        rw [dif_pos id.length_eq, if_pos hvalid]

def hexOtel : Otel := ⟨hexDecoder 16, hexDecoder 8⟩

/-- The bytes of an ASCII text. -/
def ascii (s : String) : List UInt8 := s.toList.map fun c => UInt8.ofNat c.toNat

theorem length_of_isTraceparent {s : List UInt8} (h : IsTraceparent s) : s.length = 55 := by
  obtain ⟨version, traceField, spanField, flagsField, rfl, hversion, htrace, hspan, hlen, -⟩ := h
  have := hversion.length
  have := htrace.length
  have := hspan.length
  simp only [joined, List.length_append, List.length_cons]
  omega

/-- One digit of flags is no `traceparent`, and is installed. -/
theorem oneDigit_installed :
    ¬IsTraceparent (ascii "00-4bf92f3577b34da6a3ce929d0e0e4736-00f067aa0ba902b7-1") ∧
      ¬ExactAt hexOtel (ascii "00-4bf92f3577b34da6a3ce929d0e0e4736-00f067aa0ba902b7-1") := by
  have hformat : ¬IsTraceparent (ascii "00-4bf92f3577b34da6a3ce929d0e0e4736-00f067aa0ba902b7-1") := by
    intro h
    exact absurd (length_of_isTraceparent h) (by decide)
  refine ⟨hformat, fun hexact => ?_⟩
  have hsame := congrArg Context.span (hexact.unchanged hformat Unit ⟨none, ()⟩)
  have hinstalled : (extractRemoteSpanContext hexOtel (⟨none, ()⟩ : Context Unit)
      (ascii "00-4bf92f3577b34da6a3ce929d0e0e4736-00f067aa0ba902b7-1")).span.isSome = true := by decide +kernel
  rw [hsame] at hinstalled
  cases hinstalled

end SocDashboard
