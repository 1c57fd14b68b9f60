/-
# Tables that are only written at the end

A table to which every step of a system adds at most one row, known from the
step and the state before it (`entry`), and from which rows go only with
something they belong to. What a row belongs to is `alive` or not; once it has
been known (`known`) and is gone it does not come back.

Then after a run the table holds the rows that were there and the rows of the
run, one after another (`written`), less those of what is gone (`table_run`).

Key definitions: `written`, `Ledger`.
Key theorems: `written_sublist`, `table_append`, `Ledger.table_run`.
-/
import SocDashboard.Lib.Runs

namespace Ledgers

open Runs

variable {σ α ρ : Type*}

/-- The rows that the steps of a run add, in order. -/
def written (step : σ → α → σ) (entry : σ → α → Option ρ) : σ → List α → List ρ
  | _, [] => []
  | s, a :: as => (entry s a).toList ++ written step entry (step s a) as

section Written

variable {step : σ → α → σ} {entry : σ → α → Option ρ}

/-- A row of a run was added by one of its steps. -/
theorem mem_written {r : ρ} : ∀ {as : List α} {s : σ}, r ∈ written step entry s as →
    ∃ before a after, as = before ++ a :: after ∧ entry (run step s before) a = some r
  | [], _, h => absurd h List.not_mem_nil
  | a :: as, s, h => by
    rcases List.mem_append.mp h with hnow | hlater
    · exact ⟨[], a, as, rfl, Option.mem_toList.mp hnow⟩
    · obtain ⟨before, b, after, rfl, hb⟩ := mem_written hlater
      exact ⟨a :: before, b, after, rfl, hb⟩

/-- What the steps of a run report of the rows they add. -/
theorem written_map {τ : Type*} {report : σ → α → Option τ} {k : ρ → τ} : ∀ {as : List α} {s : σ},
    (∀ s, ∀ a ∈ as, report s a = (entry s a).map k) → written step report s as = (written step entry s as).map k
  | [], _, _ => rfl
  | a :: as, s, h => by
    have hlater := written_map (s := step s a) fun s b hb => h s b (List.mem_cons_of_mem a hb)
    rw [written, written, hlater, h s a List.mem_cons_self, List.map_append]
    cases entry s a <;> rfl

/-- Where some rows go unreported, what is reported is in order. -/
theorem written_sublist {τ : Type*} {report : σ → α → Option τ} {k : ρ → τ}
    (h : ∀ s a, report s a = none ∨ report s a = (entry s a).map k) : ∀ (as : List α) (s : σ),
    (written step report s as).Sublist ((written step entry s as).map k)
  | [], _ => .slnil
  | a :: as, s => by
    have hlater := written_sublist h as (step s a)
    rw [written, written, List.map_append]
    refine List.Sublist.append ?_ hlater
    rcases h s a with hnone | hsome
    · rw [hnone]
      exact List.nil_sublist _
    · rw [hsome]
      cases entry s a <;> exact List.Sublist.refl _

/-- A table from which nothing goes. -/
theorem table_append {table : σ → List ρ} (h : ∀ s a, table (step s a) = table s ++ (entry s a).toList) :
    ∀ (as : List α) (s : σ), table (run step s as) = table s ++ written step entry s as
  | [], _ => (List.append_nil _).symm
  | a :: as, s => by rw [run_cons, table_append h as, h, written, List.append_assoc]

end Written

/-- `table` is a ledger of the steps, as long as `I` holds. -/
structure Ledger (step : σ → α → σ) (entry : σ → α → Option ρ) (table : σ → List ρ) (alive known : σ → ρ → Prop)
    [∀ s, DecidablePred (alive s)] (I : σ → Prop) : Prop where
  keeps : ∀ s a, I s → I (step s a)
  rows_alive : ∀ s, I s → ∀ r ∈ table s, alive s r
  rows_step : ∀ s a, I s → table (step s a) = (table s ++ (entry s a).toList).filter fun r => alive (step s a) r
  /-- What the table gets is known from then on. -/
  known_table : ∀ s, I s → ∀ r ∈ table s, known s r
  known_entry : ∀ s a, I s → ∀ r ∈ entry s a, known (step s a) r
  known_step : ∀ s a, I s → ∀ r, known s r → known (step s a) r
  /-- What is known and gone does not come back. -/
  stays_gone : ∀ s a, I s → ∀ r, known s r → alive (step s a) r → alive s r

namespace Ledger

variable {step : σ → α → σ} {entry : σ → α → Option ρ} {table : σ → List ρ} {alive known : σ → ρ → Prop}
  [∀ s, DecidablePred (alive s)] {I : σ → Prop}

theorem alive_of_run (h : Ledger step entry table alive known I) :
    ∀ (as : List α) (s : σ), I s → ∀ r, known s r → alive (run step s as) r → alive s r
  | [], _, _, _, _, halive => halive
  | a :: as, s, hs, r, hknown, halive => by
    apply h.stays_gone s a hs r hknown
    exact h.alive_of_run as (step s a) (h.keeps s a hs) r (h.known_step s a hs r hknown) halive

/-- **The table after a run.** -/
theorem table_run (h : Ledger step entry table alive known I) : ∀ (as : List α) (s : σ), I s →
    table (run step s as) = (table s ++ written step entry s as).filter fun r => alive (run step s as) r
  | [], s, hs => by
    refine Eq.trans ?_ (congrArg _ (List.append_nil _).symm)
    exact (List.filter_eq_self.mpr fun r hr => decide_eq_true (h.rows_alive s hs r hr)).symm
  | a :: as, s, hs => by
    have hs' := h.keeps s a hs
    -- what the rest of the run keeps, the first step kept
    have hback : ∀ r ∈ table s ++ (entry s a).toList, alive (run step (step s a) as) r → alive (step s a) r := by
      intro r hr halive
      refine h.alive_of_run as (step s a) hs' r ?_ halive
      rcases List.mem_append.mp hr with hr | hr
      · exact h.known_step s a hs r (h.known_table s hs r hr)
      · exact h.known_entry s a hs r (Option.mem_toList.mp hr)
    calc table (run step (step s a) as)
        = (table (step s a) ++ written step entry (step s a) as).filter
            fun r => alive (run step (step s a) as) r := h.table_run as (step s a) hs'
      _ = (table s ++ (entry s a).toList).filter (fun r => alive (run step (step s a) as) r) ++
            (written step entry (step s a) as).filter fun r => alive (run step (step s a) as) r := by
          rw [List.filter_append, h.rows_step s a hs, List.filter_filter]
          congr 1
          refine List.filter_congr fun r hr => ?_
          rw [Bool.and_eq_left_iff_imp, decide_eq_true_eq, decide_eq_true_eq]
          exact hback r hr
      _ = _ := by rw [← List.filter_append, written, List.append_assoc, run_cons]

end Ledger

end Ledgers
