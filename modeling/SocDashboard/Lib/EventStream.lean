/-
# Event streams

What a browser's `EventSource` makes of a `text/event-stream`. It is fed one
character after the other, so how the text was cut into chunks on the way does
not matter. A line ends with LF, CR or both; an empty line dispatches what the
`data` fields before it have collected. The fields `id` and `retry` concern
reconnecting only and are skipped like unknown ones.

A `Chunk` is what a server sends at once: a text as one `data` line, or a
comment. The texts of a list of chunks are received as they were sent
(`receive_chunks`), and of a first part of the stream a first part of them is
received (`receive_prefix`).

Key definitions: `Parser`, `feed`, `receive`, `Chunk`.
Key theorems: `feedAll_chunks`, `receive_chunks`, `receive_prefix`.
-/
import Mathlib.Data.List.Infix
import Mathlib.Tactic.Common

namespace EventStream

structure StreamMessage where
  type : List Char
  data : List Char
  deriving DecidableEq, Repr

structure Parser where
  /-- The last character was a CR. -/
  cr : Bool
  /-- The line so far. -/
  line : List Char
  data : List Char
  eventType : List Char
  messages : List StreamMessage
  deriving DecidableEq, Repr

def Parser.start : Parser := ⟨false, [], [], [], []⟩

/-- An empty line. -/
def Parser.dispatch (p : Parser) : Parser :=
  if p.data = [] then { p with eventType := [] }
  else
    { p with
      data := []
      eventType := []
      messages := p.messages ++
        [⟨if p.eventType = [] then "message".toList else p.eventType, p.data.dropLast⟩] }

/-- What follows the colon, without one space. -/
def fieldValue : List Char → List Char
  | ':' :: ' ' :: v => v
  | ':' :: v => v
  | v => v

/-- A line that is not empty; before its first colon is the name of the field. -/
def Parser.field (p : Parser) (line : List Char) : Parser :=
  let name := line.takeWhile (· ≠ ':')
  let v := fieldValue (line.dropWhile (· ≠ ':'))
  if name = "data".toList then { p with data := p.data ++ v ++ ['\n'] }
  else if name = "event".toList then { p with eventType := v }
  else p

/-- The end of a line. -/
def Parser.endLine (p : Parser) : Parser :=
  if p.line = [] then p.dispatch else { p with line := [] }.field p.line

/-- One character. -/
def feed (p : Parser) (c : Char) : Parser :=
  if c = '\n' then if p.cr then { p with cr := false } else p.endLine
  else if c = '\r' then { p.endLine with cr := true }
  else { p with line := p.line ++ [c], cr := false }

def feedAll (p : Parser) (s : List Char) : Parser := s.foldl feed p

/-- A byte order mark at the start is dropped. -/
def dropMark (s : List Char) : List Char := if s.head? = some '\ufeff' then s.tail else s

/-- The messages of a stream. -/
def receive (s : List Char) : List StreamMessage := (feedAll .start (dropMark s)).messages

/-! ### Sending -/

/-- What is sent at once: a text as a `data` line, or a line that starts with a
colon; and then an empty line. -/
inductive Chunk
  | data (text : List Char)
  | comment (text : List Char)
  deriving DecidableEq, Repr

/-- The line of a chunk. -/
def Chunk.line : Chunk → List Char
  | .data text => "data: ".toList ++ text
  | .comment text => ':' :: text

def Chunk.text (x : Chunk) : List Char := x.line ++ ['\n', '\n']

/-- The message of a chunk. -/
def Chunk.message : Chunk → Option StreamMessage
  | .data text => some ⟨"message".toList, text⟩
  | .comment _ => none

@[simp] theorem message_data (text : List Char) :
    (Chunk.data text).message = some ⟨"message".toList, text⟩ := rfl

@[simp] theorem message_comment (text : List Char) : (Chunk.comment text).message = none := rfl

/-- No line ends in the text. -/
def OneLine (s : List Char) : Prop := ∀ c ∈ s, c ≠ '\n' ∧ c ≠ '\r'

/-- Between events. -/
structure Parser.Idle (p : Parser) : Prop where
  cr : p.cr = false
  line : p.line = []
  data : p.data = []
  eventType : p.eventType = []

theorem Parser.idle_start : Parser.start.Idle := ⟨rfl, rfl, rfl, rfl⟩

section Feeding

variable {p : Parser} {s t : List Char}

theorem feedAll_append : feedAll p (s ++ t) = feedAll (feedAll p s) t := List.foldl_append

theorem OneLine.append (hs : OneLine s) (ht : OneLine t) : OneLine (s ++ t) := by
  intro c hc
  rcases List.mem_append.mp hc with hc | hc
  · exact hs c hc
  · exact ht c hc

theorem OneLine.data (hs : OneLine s) : OneLine (Chunk.data s).line := by
  refine OneLine.append ?_ hs
  intro c hc
  have hmem : c ∈ ['d', 'a', 't', 'a', ':', ' '] := hc
  simp only [List.mem_cons, List.not_mem_nil, or_false] at hmem
  rcases hmem with rfl | rfl | rfl | rfl | rfl | rfl <;> decide

theorem OneLine.comment (hs : OneLine s) : OneLine (Chunk.comment s).line := by
  intro c hc
  rcases List.mem_cons.mp hc with rfl | hc
  · decide
  · exact hs c hc

/-- A line is collected. -/
theorem feedAll_oneLine (hs : OneLine s) (hcr : p.cr = false) : feedAll p s = { p with line := p.line ++ s } := by
  induction s generalizing p with
  | nil =>
    rw [List.append_nil]
    rfl
  | cons c s ih =>
    obtain ⟨hlf, hcr'⟩ := hs c List.mem_cons_self
    have hfeed : feed p c = { p with line := p.line ++ [c] } := by simp [feed, hlf, hcr', hcr]
    have hrest := ih (p := feed p c) (fun x hx => hs x (List.mem_cons_of_mem c hx)) (by rw [hfeed]; exact hcr)
    rw [feedAll, List.foldl_cons, ← feedAll, hrest, hfeed]
    simp

/-- The line feed ends the line. -/
theorem feed_lf (hcr : p.cr = false) : feed p '\n' = p.endLine := by simp [feed, hcr]

/-- A line and an empty one, between events. -/
theorem feedAll_block (hp : p.Idle) (hs : OneLine s) (hne : s ≠ []) :
    feedAll p (s ++ ['\n', '\n']) = feed (p.field s) '\n' := by
  have hline : { p with line := s }.endLine = p.field s := by
    obtain ⟨cr, line, data, eventType, messages⟩ := p
    obtain rfl : line = [] := hp.line
    rw [Parser.endLine, if_neg hne]
  rw [feedAll_append, feedAll_oneLine hs hp.cr, hp.line, List.nil_append, ← hline, ← feed_lf (p := { p with line := s }) hp.cr]
  rfl

theorem field_data (hp : p.Idle) (text : List Char) :
    feed (p.field ("data: ".toList ++ text)) '\n' =
      { p with messages := p.messages ++ [⟨"message".toList, text⟩] } := by
  obtain ⟨cr, line, data, eventType, messages⟩ := p
  obtain ⟨rfl, rfl, rfl, rfl⟩ := hp
  have hfield : Parser.field ⟨false, [], [], [], messages⟩ ("data: ".toList ++ text) =
      ⟨false, [], text ++ ['\n'], [], messages⟩ := rfl
  have hne : text ++ ['\n'] ≠ [] := List.append_ne_nil_of_right_ne_nil _ (List.cons_ne_nil _ _)
  rw [hfield, feed_lf rfl, Parser.endLine, if_pos rfl, Parser.dispatch, if_neg hne]
  simp

theorem field_comment (hp : p.Idle) (text : List Char) : feed (p.field (':' :: text)) '\n' = p := by
  obtain ⟨cr, line, data, eventType, messages⟩ := p
  obtain ⟨rfl, rfl, rfl, rfl⟩ := hp
  rfl

/-- **A chunk is received as its message**, if it has one. -/
theorem feedAll_chunk (hp : p.Idle) {x : Chunk} (hx : OneLine x.line) :
    feedAll p x.text = { p with messages := p.messages ++ x.message.toList } := by
  have hne : x.line ≠ [] := by cases x <;> exact List.cons_ne_nil _ _
  rw [Chunk.text, feedAll_block hp hx hne]
  cases x with
  | data text => exact field_data hp text
  | comment text =>
    rw [message_comment, Option.toList_none, List.append_nil]
    exact field_comment hp text

/-- What is sent is received, comments apart, in order. -/
theorem feedAll_chunks {chunks : List Chunk} (h : ∀ x ∈ chunks, OneLine x.line) (hp : p.Idle) :
    feedAll p (chunks.flatMap Chunk.text) = { p with messages := p.messages ++ chunks.filterMap Chunk.message } := by
  induction chunks generalizing p with
  | nil =>
    rw [List.filterMap_nil, List.append_nil]
    rfl
  | cons x chunks ih =>
    have hrest := ih (p := { p with messages := p.messages ++ x.message.toList })
      (fun y hy => h y (List.mem_cons_of_mem x hy)) ⟨hp.cr, hp.line, hp.data, hp.eventType⟩
    rw [List.flatMap_cons, feedAll_append, feedAll_chunk hp (h x List.mem_cons_self), hrest]
    cases hx : x.message <;> simp [hx]

theorem messages_field (p : Parser) (line : List Char) : (p.field line).messages = p.messages := by
  unfold Parser.field
  dsimp only
  split_ifs <;> rfl

/-- A message that was received stays received. -/
theorem messages_feed (p : Parser) (c : Char) : p.messages <+: (feed p c).messages := by
  have hend : p.messages <+: p.endLine.messages := by
    unfold Parser.endLine
    split
    · unfold Parser.dispatch
      split
      · exact List.prefix_refl _
      · exact List.prefix_append _ _
    · rw [messages_field]
  unfold feed
  split_ifs
  · exact List.prefix_refl _
  · exact hend
  · exact hend
  · exact List.prefix_refl _

theorem messages_feedAll (p : Parser) (s : List Char) : p.messages <+: (feedAll p s).messages := by
  induction s generalizing p with
  | nil => exact List.prefix_refl _
  | cons c s ih => exact (messages_feed p c).trans (ih (feed p c))

theorem dropMark_prefix (h : s <+: t) : dropMark s <+: dropMark t := by
  cases s with
  | nil => exact List.nil_prefix
  | cons c s =>
    obtain ⟨u, rfl⟩ := h
    unfold dropMark
    rw [List.cons_append, List.head?_cons, List.head?_cons]
    split_ifs
    · exact List.prefix_append s u
    · exact List.prefix_append (c :: s) u

/-- **Of a first part of the stream a first part is received.** -/
theorem receive_prefix (h : s <+: t) : receive s <+: receive t := by
  obtain ⟨u, hu⟩ := dropMark_prefix h
  rw [receive, receive, ← hu, feedAll_append]
  exact messages_feedAll _ u

/-- **What is sent is received**: the messages of the chunks, in order. -/
theorem receive_chunks {chunks : List Chunk} (h : ∀ x ∈ chunks, OneLine x.line) :
    receive (chunks.flatMap Chunk.text) = chunks.filterMap Chunk.message := by
  have hmark : dropMark (chunks.flatMap Chunk.text) = chunks.flatMap Chunk.text := by
    rcases chunks with _ | ⟨_ | _, chunks⟩
    · rfl
    · exact if_neg fun h => absurd (Option.some.inj h) (by decide)
    · exact if_neg fun h => absurd (Option.some.inj h) (by decide)
  rw [receive, hmark, feedAll_chunks h Parser.idle_start]
  rfl

end Feeding

end EventStream
