/-
# Case notes beside a classification

Any number of `POST /api/alerts/<id>/notes` requests and one classification of
the same alert, their statements interleaved in any order under READ COMMITTED.
`caseStep` lets one request do its next statement, or fail, or lets time pass.
`created_at` is the start of the inserting transaction, which the phases carry
from `BEGIN` on; the status of a note is what its `SELECT` finds committed.

The invariant says what the committed audit rows of the alert are: the rows of
the requests that have committed, a note's with the status that the alert had
before or after the classification's `COMMIT`.

Key definitions: `NoteRequest`, `TriagePhase`, `NotePhase`, `CaseFile`,
`triageStep`, `noteStep`, `caseStep`, `CaseInv`.
Key theorems: `CaseInv.triageTo`, `CaseInv.noteTo`, `inv_caseStep`.
-/
import SocDashboard.Race

namespace SocDashboard

open ReadCommitted.State

/-- A request with a valid body, from a session that may add notes; the text as
it is stored. -/
structure NoteRequest where
  user : User
  note : String

/-- Whose transaction. -/
inductive Writer
  | triage
  | note (r : ℕ)
  deriving DecidableEq, Repr

/-- Which statement of `api_classify` comes next; `now` is the start of its transaction. -/
inductive TriagePhase
  | idle
  | begun (now : Time)
  | checked (now : Time) (alert : Alert)
  | updated (now : Time) (alert : Alert)
  | acted (now : Time) (alert : Alert)
  | logged (row : AuditEntry)
  | committed (row : AuditEntry)
  | failed
  deriving DecidableEq, Repr

/-- Which statement of `api_add_note` comes next. `late` tells whether the
`SELECT` came after the classification's `COMMIT`. -/
inductive NotePhase
  | idle
  | begun (now : Time)
  | read (now : Time) (status : Status) (late : Bool)
  | inserted (row : AuditEntry) (late : Bool)
  | committed (row : AuditEntry) (late : Bool)
  | failed
  deriving DecidableEq, Repr

/-- One alert's requests on one database. -/
structure CaseFile where
  tx : ReadCommitted.State Db Writer ℕ
  clock : Time
  triage : TriagePhase
  note : ℕ → NotePhase

inductive CaseOp
  /-- The classification does its next statement. -/
  | triage
  /-- The note request does its next statement. -/
  | note (r : ℕ)
  /-- The statement fails, or the connection. -/
  | abortTriage
  | abortNote (r : ℕ)
  /-- Time passes. -/
  | tick (microseconds : ℕ)
  deriving DecidableEq, Repr

def TriagePhase.isCommitted : TriagePhase → Bool
  | .committed _ => true
  | _ => false

/-- In a transaction. -/
def TriagePhase.active : TriagePhase → Bool
  | .idle | .committed _ | .failed => false
  | _ => true

def NotePhase.active : NotePhase → Bool
  | .idle | .committed _ _ | .failed => false
  | _ => true

namespace CaseFile

def init (db : Db) (clock : Time) : CaseFile := ⟨.init db, clock, .idle, fun _ => .idle⟩

/-- The database as committed. -/
def db (c : CaseFile) : Db := c.tx.committed

def gotoTriage (c : CaseFile) (tx : ReadCommitted.State Db Writer ℕ) (p : TriagePhase) : CaseFile :=
  { c with tx := tx, triage := p }

def gotoNote (c : CaseFile) (r : ℕ) (tx : ReadCommitted.State Db Writer ℕ) (p : NotePhase) : CaseFile :=
  { c with tx := tx, note := Function.update c.note r p }

def failTriage (c : CaseFile) : CaseFile := c.gotoTriage (c.tx.rollback .triage) .failed

def failNote (c : CaseFile) (r : ℕ) : CaseFile := c.gotoNote r (c.tx.rollback (.note r)) .failed

end CaseFile

section Step

variable (alertId : ℕ) (req : ClassifyRequest) (notes : ℕ → NoteRequest)

/-- The classification does its next statement: `BEGIN`, `SELECT`, `UPDATE`, the
two `INSERT`s, `COMMIT`. -/
def triageStep (c : CaseFile) : CaseFile :=
  match c.triage with
  | .idle => c.gotoTriage c.tx (.begun c.clock)
  | .begun now =>
    match (c.tx.view .triage).alert? alertId with
    | none => c.failTriage
    | some alert =>
      if alert.status ≠ .open_ then c.failTriage else c.gotoTriage c.tx (.checked now alert)
  | .checked now alert =>
    if c.tx.canLock .triage alertId then
      if ((req.update alertId (c.tx.view .triage)).alert? alertId).isSome then
        c.gotoTriage ((c.tx.lock .triage alertId).write .triage (req.update alertId))
          (.updated now alert)
      else c.failTriage
    else c
  | .updated now alert =>
    if ((c.tx.view .triage).alert? alertId).isSome then
      match responseSeconds now alert.createdAt with
      | .error _ => c.failTriage
      | .ok seconds =>
        let row := { req with now := now }.actionRow alertId (c.tx.view .triage).actionsSeq seconds
        c.gotoTriage ((c.tx.outside Db.nextAction).write .triage (Db.putAction row)) (.acted now alert)
    else c.failTriage
  | .acted now alert =>
    if (c.tx.view .triage).auditKeysHold alertId req.user.id then
      let row := { req with now := now }.auditRow alertId (c.tx.view .triage).auditSeq alert.status
      c.gotoTriage ((c.tx.outside Db.nextAudit).write .triage (Db.putAudit row)) (.logged row)
    else c.failTriage
  | .logged row => c.gotoTriage (c.tx.commit .triage) (.committed row)
  | .committed _ => c
  | .failed => c

/-- The row that a note request inserts. -/
def NoteRequest.auditRow (req : NoteRequest) (id : ℕ) (now : Time) (status : Status) : AuditEntry :=
  ⟨id, alertId, req.user.id, req.user.username, .noteAdded, status, status, some req.note, now⟩

/-- Note request `r` does its next statement: `BEGIN`, `SELECT`, `INSERT`, `COMMIT`. -/
def noteStep (c : CaseFile) (r : ℕ) : CaseFile :=
  match c.note r with
  | .idle => c.gotoNote r c.tx (.begun c.clock)
  | .begun now =>
    match (c.tx.view (.note r)).alert? alertId with
    | none => c.failNote r
    | some alert => c.gotoNote r c.tx (.read now alert.status c.triage.isCommitted)
  | .read now status late =>
    if (c.tx.view (.note r)).auditKeysHold alertId (notes r).user.id then
      let row := (notes r).auditRow alertId (c.tx.view (.note r)).auditSeq now status
      c.gotoNote r ((c.tx.outside Db.nextAudit).write (.note r) (Db.putAudit row)) (.inserted row late)
    else c.failNote r
  | .inserted row late => c.gotoNote r (c.tx.commit (.note r)) (.committed row late)
  | .committed _ _ => c
  | .failed => c

def caseStep (c : CaseFile) : CaseOp → CaseFile
  | .triage => triageStep alertId req c
  | .note r => noteStep alertId notes c r
  | .abortTriage => if c.triage.active then c.failTriage else c
  | .abortNote r => if (c.note r).active then c.failNote r else c
  | .tick microseconds => { c with clock := c.clock + microseconds }

end Step

/-! ### The invariant -/

/-- The status that the committed alert has. -/
def TriagePhase.status : TriagePhase → Status
  | .committed row => row.toStatus
  | _ => .open_

/-- The audit row that it has inserted. -/
def TriagePhase.row : TriagePhase → Option AuditEntry
  | .logged row | .committed row => some row
  | _ => none

def NotePhase.row : NotePhase → Option (AuditEntry × Bool)
  | .inserted row late | .committed row late => some (row, late)
  | _ => none

def NotePhase.isCommitted : NotePhase → Bool
  | .committed _ _ => true
  | _ => false

/-- What a note request has written and not committed. -/
def NotePhase.writes : NotePhase → Db → Db
  | .inserted row _ => Db.putAudit row
  | _ => id

/-- What the `SELECT` of a note found. -/
def Seen (t : TriagePhase) (status : Status) (late : Bool) : Prop :=
  status = (if late then t.status else .open_) ∧ (late = true → t.isCommitted = true)

section Invariant

variable (alertId : ℕ) (req : ClassifyRequest)

/-- What the classification has written and not committed. -/
def Pending : TriagePhase → (Db → Db) → Prop
  | .updated _ _, w => w = req.update alertId
  | .acted _ _, w => ∃ x, w = Db.putAction x ∘ req.update alertId
  | .logged row, w => ∃ x, w = Db.putAudit row ∘ Db.putAction x ∘ req.update alertId
  | _, w => w = id

/-- A row of the classification. -/
structure TriageRow (seq : ℕ) (row : AuditEntry) : Prop where
  alertId : row.alertId = alertId
  action : row.action = .triage req.action
  toStatus : row.toStatus = actionToStatus req.action
  id_lt : row.id < seq

/-- A row of a note request. -/
structure NoteRow (t : TriagePhase) (seq : ℕ) (row : AuditEntry) (late : Bool) : Prop where
  alertId : row.alertId = alertId
  action : row.action = .noteAdded
  same : row.fromStatus = row.toStatus
  seen : Seen t row.toStatus late
  id_lt : row.id < seq
  id_ne : ∀ triage, t.row = some triage → row.id ≠ triage.id

structure NoteInv (t : TriagePhase) (seq : ℕ) (p : NotePhase) (w : Db → Db) : Prop where
  writes : w = p.writes
  read : ∀ now status late, p = .read now status late → Seen t status late
  row : ∀ row late, p.row = some (row, late) → NoteRow alertId t seq row late

/-- **What holds in every reachable state.** -/
structure CaseInv (c : CaseFile) : Prop where
  status : ∃ alert, c.db.alert? alertId = some alert ∧ alert.status = c.triage.status
  pending : Pending alertId req c.triage (c.tx.writes .triage)
  triageRow : ∀ row, c.triage.row = some row → TriageRow alertId req c.db.auditSeq row
  note : ∀ r, NoteInv alertId c.triage c.db.auditSeq (c.note r) (c.tx.writes (.note r))
  log : ∀ e, (e ∈ c.db.auditLog ∧ e.alertId = alertId) ↔
    (∃ r late, c.note r = .committed e late) ∨ c.triage = .committed e

end Invariant

section Steps

variable {alertId : ℕ} {req : ClassifyRequest} {notes : ℕ → NoteRequest} {c : CaseFile}
  {tx : ReadCommitted.State Db Writer ℕ}

theorem Seen.mono {t t' : TriagePhase} {status : Status} {late : Bool}
    (ht : t.isCommitted = true → t' = t) (h : Seen t status late) : Seen t' status late := by
  cases late with
  | false => exact ⟨h.1, fun hf => absurd hf Bool.false_ne_true⟩
  | true => rwa [ht (h.2 rfl)]

theorem NoteInv.mono {t t' : TriagePhase} {seq seq' : ℕ} {p : NotePhase} {w : Db → Db}
    (ht : t.isCommitted = true → t' = t) (hseq : seq ≤ seq')
    (hrow : ∀ row, t'.row = some row → t.row = some row ∨ seq ≤ row.id) (h : NoteInv alertId t seq p w) :
    NoteInv alertId t' seq' p w where
  writes := h.writes
  read := fun now status late hp => (h.read now status late hp).mono ht
  row := by
    intro row late hp
    have hr := h.row row late hp
    refine ⟨hr.alertId, hr.action, hr.same, hr.seen.mono ht, hr.id_lt.trans_le hseq, ?_⟩
    intro triage htriage
    rcases hrow triage htriage with hold | hnew
    · exact hr.id_ne triage hold
    · exact (hr.id_lt.trans_le hnew).ne

/-- A step of the classification. -/
theorem CaseInv.triageTo (hi : CaseInv alertId req c) {p : TriagePhase}
    (hnot : c.triage.isCommitted = false)
    (hstatus : ∃ alert, tx.committed.alert? alertId = some alert ∧ alert.status = p.status)
    (hpending : Pending alertId req p (tx.writes .triage))
    (hnotes : ∀ r, tx.writes (.note r) = c.tx.writes (.note r))
    (hseq : c.db.auditSeq ≤ tx.committed.auditSeq)
    (hrow : ∀ row, p.row = some row → TriageRow alertId req tx.committed.auditSeq row ∧
      (c.triage.row = some row ∨ c.db.auditSeq ≤ row.id))
    (hlog : ∀ e, (e ∈ tx.committed.auditLog ∧ e.alertId = alertId) ↔
      (∃ r late, c.note r = .committed e late) ∨ p = .committed e) :
    CaseInv alertId req (c.gotoTriage tx p) where
  status := hstatus
  pending := hpending
  triageRow := fun row hp => (hrow row hp).1
  note := by
    intro r
    show NoteInv alertId p tx.committed.auditSeq (c.note r) (tx.writes (.note r))
    rw [hnotes r]
    refine (hi.note r).mono (fun ht => ?_) hseq fun row hp => (hrow row hp).2
    rw [hnot] at ht
    exact absurd ht Bool.false_ne_true
  log := hlog

/-- A step of a note request. -/
theorem CaseInv.noteTo (hi : CaseInv alertId req c) {r : ℕ} {p : NotePhase}
    (hstatus : tx.committed.alert? alertId = c.db.alert? alertId)
    (htriage : tx.writes .triage = c.tx.writes .triage)
    (hother : ∀ q, q ≠ r → tx.writes (.note q) = c.tx.writes (.note q))
    (hseq : c.db.auditSeq ≤ tx.committed.auditSeq)
    (hnote : NoteInv alertId c.triage tx.committed.auditSeq p (tx.writes (.note r)))
    (hlog : ∀ e, (e ∈ tx.committed.auditLog ∧ e.alertId = alertId) ↔
      (∃ q late, (c.gotoNote r tx p).note q = .committed e late) ∨ c.triage = .committed e) :
    CaseInv alertId req (c.gotoNote r tx p) where
  status := by
    obtain ⟨alert, hal, hs⟩ := hi.status
    exact ⟨alert, hstatus.trans hal, hs⟩
  pending := by
    show Pending alertId req c.triage (tx.writes .triage)
    rw [htriage]
    exact hi.pending
  triageRow := by
    intro row hp
    have hr := hi.triageRow row hp
    exact ⟨hr.alertId, hr.action, hr.toStatus, hr.id_lt.trans_le hseq⟩
  note := by
    intro q
    by_cases hq : q = r
    · rw [hq]
      show NoteInv alertId c.triage _ (Function.update c.note r p r) (tx.writes (.note r))
      rw [Function.update_self]
      exact hnote
    · show NoteInv alertId c.triage _ (Function.update c.note r p q) (tx.writes (.note q))
      rw [Function.update_of_ne hq, hother q hq]
      exact (hi.note q).mono (fun _ => rfl) hseq fun row hp => Or.inl hp
  log := hlog

/-! ### Steps of the classification -/

theorem TriageRow.not_note {seq : ℕ} {row : AuditEntry} (h : TriageRow alertId req seq row) :
    row.action ≠ .noteAdded := by
  rw [h.action]
  exact nofun

theorem exists_of_isCommitted {t : TriagePhase} (h : t.isCommitted = true) :
    ∃ row, t = .committed row := by
  cases t with
  | committed row => exact ⟨row, rfl⟩
  | _ => exact absurd h Bool.false_ne_true

theorem note_ne_triage (r : ℕ) : Writer.note r ≠ .triage := nofun

theorem status_of_not_committed {t : TriagePhase} (h : t.isCommitted = false) : t.status = .open_ := by
  cases t with
  | committed row => exact absurd h.symm Bool.false_ne_true
  | _ => rfl

theorem not_committed_of_row {t : TriagePhase} (h : t.row = none) : t.isCommitted = false := by
  cases t with
  | committed row => exact absurd h (Option.some_ne_none row)
  | _ => rfl

theorem ne_committed {t : TriagePhase} (h : t.isCommitted = false) (e : AuditEntry) :
    t ≠ .committed e := by
  rintro rfl
  exact absurd h.symm Bool.false_ne_true

/-- A step that neither inserts the audit row nor commits. -/
theorem CaseInv.triageQuiet (hi : CaseInv alertId req c) {p : TriagePhase}
    (hnot : c.triage.isCommitted = false) (hp : p.row = none)
    (halerts : tx.committed.alerts = c.db.alerts) (hlog : tx.committed.auditLog = c.db.auditLog)
    (hseq : tx.committed.auditSeq = c.db.auditSeq)
    (hpending : Pending alertId req p (tx.writes .triage))
    (hnotes : ∀ r, tx.writes (.note r) = c.tx.writes (.note r)) :
    CaseInv alertId req (c.gotoTriage tx p) := by
  have hpnot := not_committed_of_row hp
  refine hi.triageTo hnot ?_ hpending hnotes hseq.ge ?_ ?_
  · obtain ⟨alert, hal, hs⟩ := hi.status
    refine ⟨alert, ?_, ?_⟩
    · rw [Db.alert?, halerts]
      exact hal
    · rw [hs, status_of_not_committed hnot, status_of_not_committed hpnot]
  · intro row hrow
    rw [hp] at hrow
    exact absurd hrow.symm (Option.some_ne_none row)
  · intro e
    rw [hlog, hi.log e, eq_false (ne_committed hnot e), eq_false (ne_committed hpnot e)]

theorem CaseInv.failTriage (hi : CaseInv alertId req c) (hnot : c.triage.isCommitted = false) :
    CaseInv alertId req c.failTriage :=
  hi.triageQuiet hnot rfl rfl rfl rfl rollback_writes_self fun r => rollback_writes_ne (note_ne_triage r)

/-- The audit row is inserted. -/
theorem CaseInv.insertTriageAudit (hi : CaseInv alertId req c) {now : Time} {alert : Alert}
    (hphase : c.triage = .acted now alert) :
    let row := { req with now := now }.auditRow alertId (c.tx.view .triage).auditSeq alert.status
    CaseInv alertId req
      (c.gotoTriage ((c.tx.outside Db.nextAudit).write .triage (Db.putAudit row)) (.logged row)) := by
  intro row
  have hnot : c.triage.isCommitted = false := by rw [hphase]; rfl
  obtain ⟨x, hx⟩ : Pending alertId req (.acted now alert) (c.tx.writes .triage) := hphase ▸ hi.pending
  have hid : row.id = c.db.auditSeq := by
    show (c.tx.view .triage).auditSeq = _
    rw [view_of_writes hx]
    rfl
  have hwritten : ((c.tx.outside Db.nextAudit).write .triage (Db.putAudit row)).writes .triage =
      Db.putAudit row ∘ Db.putAction x ∘ req.update alertId :=
    write_after hx _
  refine hi.triageTo hnot ?_ ⟨x, hwritten⟩ (fun r => write_writes_ne (note_ne_triage r) _)
    (Nat.le_succ _) ?_ ?_
  · obtain ⟨alert, hal, hs⟩ := hi.status
    exact ⟨alert, hal, hs.trans (status_of_not_committed hnot)⟩
  · intro row' hrow
    obtain rfl := Option.some.inj hrow
    exact ⟨⟨rfl, rfl, rfl, hid ▸ Nat.lt_succ_self _⟩, Or.inr hid.ge⟩
  · intro e
    rw [eq_false (ne_committed rfl e), ← eq_false (ne_committed hnot e)]
    exact hi.log e

/-- The three rows are committed. -/
theorem CaseInv.commitTriage (hi : CaseInv alertId req c) {row : AuditEntry}
    (hphase : c.triage = .logged row) :
    CaseInv alertId req (c.gotoTriage (c.tx.commit .triage) (.committed row)) := by
  have hnot : c.triage.isCommitted = false := by rw [hphase]; rfl
  have hown : c.triage.row = some row := by rw [hphase]; rfl
  have hrow := hi.triageRow row hown
  obtain ⟨x, hx⟩ : Pending alertId req (.logged row) (c.tx.writes .triage) := hphase ▸ hi.pending
  have hcommitted : (c.tx.commit .triage).committed =
      Db.putAudit row (Db.putAction x (req.update alertId c.db)) := congrFun hx c.tx.committed
  refine hi.triageTo hnot ?_ commit_writes_self (fun r => commit_writes_ne (note_ne_triage r)) ?_ ?_ ?_
  · obtain ⟨alert, hal, -⟩ := hi.status
    refine ⟨Db.assign (actionToStatus req.action) req.analystName alert, ?_, hrow.toStatus.symm⟩
    rw [hcommitted]
    show (req.update alertId c.db).alert? alertId = _
    rw [ClassifyRequest.update, alert?_assigned, hal]
    rfl
  · rw [hcommitted]
    rfl
  · intro row' hrow'
    obtain rfl := Option.some.inj hrow'
    rw [hcommitted]
    exact ⟨hrow, Or.inl hown⟩
  · intro e
    rw [hcommitted]
    show e ∈ c.db.auditLog ++ [row] ∧ e.alertId = alertId ↔ _
    rw [List.mem_append, List.mem_singleton, or_and_right, hi.log e, eq_false (ne_committed hnot e),
      or_false, TriagePhase.committed.injEq]
    refine or_congr Iff.rfl ⟨fun h => h.1.symm, fun h => ⟨h.symm, h ▸ hrow.alertId⟩⟩

theorem CaseInv.triageStep (hi : CaseInv alertId req c) :
    CaseInv alertId req (triageStep alertId req c) := by
  have hpending := hi.pending
  have hnotes : ∀ (f : Db → Db) r, (c.tx.write .triage f).writes (.note r) = c.tx.writes (.note r) :=
    fun f r => write_writes_ne (note_ne_triage r) f
  unfold SocDashboard.triageStep
  cases hphase : c.triage with
  | committed row => exact hi
  | failed => exact hi
  | idle =>
    rw [hphase] at hpending
    exact hi.triageQuiet (by rw [hphase]; rfl) rfl rfl rfl rfl hpending fun _ => rfl
  | begun now =>
    have hnot : c.triage.isCommitted = false := by rw [hphase]; rfl
    rw [hphase] at hpending
    simp only
    split
    · exact hi.failTriage hnot
    · split_ifs
      · exact hi.failTriage hnot
      · exact hi.triageQuiet hnot rfl rfl rfl rfl hpending fun _ => rfl
  | checked now alert =>
    have hnot : c.triage.isCommitted = false := by rw [hphase]; rfl
    rw [hphase] at hpending
    simp only
    split_ifs
    · refine hi.triageQuiet hnot rfl rfl rfl rfl ?_ (hnotes _)
      exact write_after hpending _
    · exact hi.failTriage hnot
    · exact hi
  | updated now alert =>
    have hnot : c.triage.isCommitted = false := by rw [hphase]; rfl
    rw [hphase] at hpending
    simp only
    split_ifs
    · split
      · exact hi.failTriage hnot
      · refine hi.triageQuiet hnot rfl rfl rfl rfl ?_ (hnotes _)
        exact ⟨_, write_after hpending _⟩
    · exact hi.failTriage hnot
  | acted now alert =>
    simp only
    split_ifs
    · exact hi.insertTriageAudit hphase
    · exact hi.failTriage (by rw [hphase]; rfl)
  | logged row => exact hi.commitTriage hphase

/-! ### Steps of a note -/

/-- The committed rows, when neither phase is that of a committed note. -/
theorem exists_committed_gotoNote {r : ℕ} {p : NotePhase} (hnot : (c.note r).isCommitted = false)
    (hp : p.isCommitted = false) (e : AuditEntry) :
    (∃ q late, (c.gotoNote r tx p).note q = .committed e late) ↔
      ∃ q late, c.note q = .committed e late := by
  have hne : ∀ {p : NotePhase} {late : Bool}, p.isCommitted = false → p ≠ .committed e late := by
    rintro p late h rfl
    exact absurd h.symm Bool.false_ne_true
  refine exists_congr fun q => exists_congr fun late => ?_
  by_cases hq : q = r
  · rw [hq]
    show Function.update c.note r p r = _ ↔ _
    rw [Function.update_self, eq_false (hne hp), eq_false (hne hnot)]
  · show Function.update c.note r p q = _ ↔ _
    rw [Function.update_of_ne hq]

theorem exists_committed_commit {r : ℕ} {row : AuditEntry} {late : Bool}
    (hnot : (c.note r).isCommitted = false) (e : AuditEntry) :
    (∃ q late', (c.gotoNote r tx (.committed row late)).note q = .committed e late') ↔
      (∃ q late', c.note q = .committed e late') ∨ e = row := by
  constructor
  · rintro ⟨q, late', h⟩
    by_cases hq : q = r
    · rw [hq] at h
      have h : Function.update c.note r (.committed row late) r = .committed e late' := h
      rw [Function.update_self] at h
      exact Or.inr (NotePhase.committed.inj h).1.symm
    · have h : Function.update c.note r (.committed row late) q = .committed e late' := h
      rw [Function.update_of_ne hq] at h
      exact Or.inl ⟨q, late', h⟩
  · rintro (⟨q, late', h⟩ | rfl)
    · refine ⟨q, late', (Function.update_of_ne ?_ ..).trans h⟩
      rintro rfl
      rw [h] at hnot
      exact absurd hnot.symm Bool.false_ne_true
    · exact ⟨r, late, Function.update_self ..⟩

/-- A step that neither inserts the row nor commits. -/
theorem CaseInv.noteQuiet (hi : CaseInv alertId req c) {r : ℕ} {p : NotePhase}
    (hnot : (c.note r).isCommitted = false) (hp : p.row = none)
    (hcommitted : tx.committed = c.db) (hwrites : tx.writes (.note r) = id)
    (hother : ∀ w, w ≠ .note r → tx.writes w = c.tx.writes w)
    (hread : ∀ now status late, p = .read now status late → Seen c.triage status late) :
    CaseInv alertId req (c.gotoNote r tx p) := by
  have hpwrites : p.writes = id := by
    cases p with
    | inserted row late => exact absurd hp (Option.some_ne_none _)
    | _ => rfl
  have hpnot : p.isCommitted = false := by
    cases p with
    | committed row late => exact absurd hp (Option.some_ne_none _)
    | _ => rfl
  refine hi.noteTo (by rw [hcommitted]) (hother .triage nofun) (fun q hq => hother _ ?_) ?_
    ⟨?_, hread, ?_⟩ ?_
  · exact fun he => hq (Writer.note.inj he)
  · rw [hcommitted]
  · rw [hwrites, hpwrites]
  · intro row late hrow
    rw [hp] at hrow
    exact absurd hrow.symm (Option.some_ne_none _)
  · intro e
    rw [hcommitted, exists_committed_gotoNote hnot hpnot]
    exact hi.log e

theorem CaseInv.failNote (hi : CaseInv alertId req c) {r : ℕ} (hnot : (c.note r).isCommitted = false) :
    CaseInv alertId req (c.failNote r) :=
  hi.noteQuiet hnot rfl rfl rollback_writes_self (fun _ hw => rollback_writes_ne hw) nofun

/-- A note reads the committed status. -/
theorem CaseInv.seen (hi : CaseInv alertId req c) {alert : Alert}
    (hal : c.db.alert? alertId = some alert) : Seen c.triage alert.status c.triage.isCommitted := by
  obtain ⟨alert', hal', hs⟩ := hi.status
  obtain rfl := Option.some.inj (hal.symm.trans hal')
  refine ⟨?_, id⟩
  cases hcommitted : c.triage.isCommitted with
  | true => exact hs
  | false => exact hs.trans (status_of_not_committed hcommitted)

/-- The row of a note is inserted. -/
theorem CaseInv.insertNote (hi : CaseInv alertId req c) {r : ℕ} {now : Time} {status : Status}
    {late : Bool} (hphase : c.note r = .read now status late) :
    let row := (notes r).auditRow alertId (c.tx.view (.note r)).auditSeq now status
    CaseInv alertId req
      (c.gotoNote r ((c.tx.outside Db.nextAudit).write (.note r) (Db.putAudit row))
        (.inserted row late)) := by
  intro row
  have hnot : (c.note r).isCommitted = false := by rw [hphase]; rfl
  have hseen := (hi.note r).read now status late hphase
  have hwrites : c.tx.writes (.note r) = id := by rw [(hi.note r).writes, hphase]; rfl
  have hid : row.id = c.db.auditSeq := by
    show (c.tx.view (.note r)).auditSeq = _
    rw [view_of_idle hwrites]
    rfl
  refine hi.noteTo rfl (write_writes_ne (note_ne_triage r).symm _)
    (fun q hq => write_writes_ne ?_ _) (Nat.le_succ _) ⟨?_, nofun, ?_⟩ ?_
  · exact fun he => hq (Writer.note.inj he)
  · exact write_after hwrites _
  · intro row' late' hrow
    obtain ⟨rfl, rfl⟩ := Prod.mk.inj (Option.some.inj hrow)
    refine ⟨rfl, rfl, rfl, hseen, hid ▸ Nat.lt_succ_self _, ?_⟩
    intro triage htriage
    exact hid ▸ (hi.triageRow triage htriage).id_lt.ne'
  · intro e
    rw [exists_committed_gotoNote hnot rfl]
    exact hi.log e

/-- The row of a note is committed. -/
theorem CaseInv.commitNote (hi : CaseInv alertId req c) {r : ℕ} {row : AuditEntry} {late : Bool}
    (hphase : c.note r = .inserted row late) :
    CaseInv alertId req (c.gotoNote r (c.tx.commit (.note r)) (.committed row late)) := by
  have hrow := (hi.note r).row row late (by rw [hphase]; rfl)
  have hwrites : c.tx.writes (.note r) = Db.putAudit row := by rw [(hi.note r).writes, hphase]; rfl
  have hcommitted : (c.tx.commit (.note r)).committed = Db.putAudit row c.db :=
    congrFun hwrites c.tx.committed
  refine hi.noteTo ?_ (commit_writes_ne (note_ne_triage r).symm) (fun q hq => commit_writes_ne ?_) ?_
    ⟨commit_writes_self, nofun, ?_⟩ ?_
  · rw [hcommitted]
    rfl
  · exact fun he => hq (Writer.note.inj he)
  · rw [hcommitted]
    rfl
  · intro row' late' hrow'
    obtain ⟨rfl, rfl⟩ := Prod.mk.inj (Option.some.inj hrow')
    rw [hcommitted]
    exact hrow
  · intro e
    rw [hcommitted, exists_committed_commit (by rw [hphase]; rfl)]
    show e ∈ c.db.auditLog ++ [row] ∧ e.alertId = alertId ↔ _
    rw [List.mem_append, List.mem_singleton, or_and_right, hi.log e, or_right_comm]
    refine or_congr (or_congr Iff.rfl ⟨fun h => h.1, fun h => ⟨h, h ▸ hrow.alertId⟩⟩) Iff.rfl

theorem CaseInv.noteStep (hi : CaseInv alertId req c) (r : ℕ) :
    CaseInv alertId req (noteStep alertId notes c r) := by
  have hwrites := (hi.note r).writes
  unfold SocDashboard.noteStep
  cases hphase : c.note r with
  | committed row late => exact hi
  | failed => exact hi
  | idle =>
    rw [hphase] at hwrites
    exact hi.noteQuiet (by rw [hphase]; rfl) rfl rfl hwrites (fun _ _ => rfl) nofun
  | begun now =>
    have hnot : (c.note r).isCommitted = false := by rw [hphase]; rfl
    rw [hphase] at hwrites
    simp only [view_of_idle hwrites]
    split
    · exact hi.failNote hnot
    · rename_i alert hal
      refine hi.noteQuiet hnot rfl rfl hwrites (fun _ _ => rfl) ?_
      intro now' status late he
      obtain ⟨rfl, rfl, rfl⟩ := NotePhase.read.inj he
      exact hi.seen hal
  | read now status late =>
    simp only
    split_ifs
    · exact hi.insertNote hphase
    · exact hi.failNote (by rw [hphase]; rfl)
  | inserted row late => exact hi.commitNote hphase

theorem inv_caseStep (c : CaseFile) (op : CaseOp) (hi : CaseInv alertId req c) :
    CaseInv alertId req (caseStep alertId req notes c op) := by
  cases op with
  | triage => exact hi.triageStep
  | note r => exact hi.noteStep r
  | abortTriage =>
    unfold caseStep
    simp only
    split_ifs with hactive
    · apply hi.failTriage
      cases hphase : c.triage with
      | committed row =>
        rw [hphase] at hactive
        exact absurd hactive Bool.false_ne_true
      | _ => rfl
    · exact hi
  | abortNote r =>
    unfold caseStep
    simp only
    split_ifs with hactive
    · apply hi.failNote
      cases hphase : c.note r with
      | committed row late =>
        rw [hphase] at hactive
        exact absurd hactive Bool.false_ne_true
      | _ => rfl
    · exact hi
  | tick microseconds => exact ⟨hi.status, hi.pending, hi.triageRow, hi.note, hi.log⟩

end Steps

end SocDashboard
