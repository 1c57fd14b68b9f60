/-
# Python values and exceptions

A request body is a JSON value, and the handlers read it the way Python does:
`value or default` asks for truth, `body.get` needs a dict, `strip` needs a
string. What raises in the source raises here, so a body of another shape
takes the path the source takes. A Python string may hold a lone surrogate,
which no encoding takes: such a string is a value of its own.

Key definitions: `Json`, `Exc`, `Json.truthy`, `Json.get`, `Json.depth`,
`getText`, `encodes`, `orEmptyDict`.
Key theorems: `getText_str`, `getText_absent`, `getText_eq_ok`.
-/
import SocDashboard.Text

namespace SocDashboard

/-- A value `json.loads` returns. Of a float the source reads its truth and
its text only. -/
inductive Json
  | null
  | bool (b : Bool)
  | int (n : ℤ)
  | float (isZero : Bool) (text : String)
  | str (s : String)
  /-- A string with a lone surrogate between two texts; further ones stand in `after` as U+FFFD. -/
  | lone (before after : String)
  | arr (items : List Json)
  | obj (fields : List (String × Json))

/-- The exceptions that reach a handler. `abort` is the one that carries an
answer. -/
inductive Exc
  | abort (code : ℕ) (description : String)
  | attributeError
  | typeError
  | valueError
  | jsonDecodeError
  | unicodeDecodeError
  | unicodeEncodeError
  | recursionError
  | databaseError
  | embedError
  | redisError
  | conductorError
  deriving DecidableEq, Repr

/-- `bool(value)`. -/
def Json.truthy : Json → Bool
  | .null => false
  | .bool b => b
  | .int n => n ≠ 0
  | .float isZero _ => !isZero
  | .str s => s ≠ ""
  | .lone _ _ => true
  | .arr items => !items.isEmpty
  | .obj fields => !fields.isEmpty

/-- `isinstance(value, dict)`. -/
def Json.isDict : Json → Bool
  | .obj _ => true
  | _ => false

/-- `body.get(key)`: only a dict has `get`. -/
def Json.get (body : Json) (key : String) : Except Exc Json :=
  match body with
  | .obj fields => .ok ((fields.lookup key).getD .null)
  | _ => .error .attributeError

/-- `value or None`. -/
def Json.orNone (v : Json) : Json := if v.truthy then v else .null

mutual

/-- How deep lists and dicts are nested in a value. -/
def Json.depth : Json → ℕ
  | .arr items => itemsDepth items + 1
  | .obj fields => fieldsDepth fields + 1
  | _ => 0

def itemsDepth : List Json → ℕ
  | [] => 0
  | v :: items => max v.depth (itemsDepth items)

def fieldsDepth : List (String × Json) → ℕ
  | [] => 0
  | (_, v) :: fields => max v.depth (fieldsDepth fields)

end

/-- `value or {}`, of what `get_json(silent=True)` returns; `none` is a body that is not JSON. -/
def orEmptyDict (json : Option Json) : Json :=
  match json with
  | some v => if v.truthy then v else .obj []
  | none => .obj []

/-- What a string shows with U+FFFD in the place of its lone surrogate. -/
def loneText (before after : String) : String := before ++ "\ufffd" ++ after

/-- `(body.get(key) or "").strip()`; of a string with a lone surrogate, what it shows. -/
def getText (body : Json) (key : String) : Except Exc String :=
  match body.get key with
  | .error e => .error e
  | .ok v =>
    if v.truthy then
      match v with
      | .str s => .ok (pyStrip s)
      | .lone before after => .ok (pyStrip (loneText before after))
      | _ => .error .attributeError
    else .ok ""

/-- A string with a lone surrogate. -/
def Json.isLone : Json → Bool
  | .lone _ _ => true
  | _ => false

/-- There is no lone surrogate in the text under a key. -/
def encodable (body : Json) (key : String) : Bool :=
  match body.get key with
  | .ok v => !v.isLone
  | .error _ => true

/-- `str.encode` of the text under a key, by `encrypt_field` or by psycopg2. -/
def encodes (body : Json) (key : String) : Except Exc Unit :=
  if encodable body key then .ok () else .error .unicodeEncodeError

@[simp] theorem pyStrip_empty : pyStrip "" = "" := by decide

/-- The text of a string field is its strip. -/
theorem getText_str {body : Json} {key s : String} (h : body.get key = .ok (.str s)) :
    getText body key = .ok (pyStrip s) := by
  by_cases hs : s = ""
  · subst hs
    simp [getText, h, Json.truthy]
  · simp [getText, h, Json.truthy, hs]

/-- The text of a null or absent field is empty. -/
theorem getText_absent {body : Json} {key : String} (h : body.get key = .ok .null) :
    getText body key = .ok "" := by
  simp [getText, h, Json.truthy]

/-- A text that is not empty and can be encoded is the strip of a string. -/
theorem getText_eq_ok {body : Json} {key t : String} (h : getText body key = .ok t) (hne : t ≠ "")
    (henc : encodable body key = true) : ∃ s, body.get key = .ok (.str s) ∧ t = pyStrip s := by
  unfold getText at h
  unfold encodable at henc
  cases hg : body.get key with
  | error e => simp [hg] at h
  | ok v =>
    simp only [hg] at h henc
    split_ifs at h with hv
    · cases v with
      | str s => exact ⟨s, rfl, (Except.ok.inj h).symm⟩
      | lone before after => exact absurd henc Bool.false_ne_true
      | _ => simp at h
    · exact absurd (Except.ok.inj h).symm hne

theorem encodes_eq_ok {body : Json} {key : String} {u : Unit} :
    encodes body key = .ok u ↔ encodable body key = true := by
  unfold encodes
  split_ifs with h <;> simp [h]

end SocDashboard
