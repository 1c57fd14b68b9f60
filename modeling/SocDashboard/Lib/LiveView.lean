/-
# A view kept up by notices

A store takes steps and publishes notices of them in a log. A client follows
the log and asks afresh for each notice that it gets, and besides whenever it
likes. A request is answered from the store some time later; the answer, or
something else in its place, reaches the client later still, and whatever
reaches it is drawn.

The steps come in any order. When the client has got all notices, the answer
to its latest request is up to date: the present state was reached from the one
that was asked by steps without a notice (`upToDate_run`, `UpToDate.settled`).

Key definitions: `Live`, `Act`, `Live.next`, `UpToDate`.
Key theorems: `upToDate_step`, `upToDate_run`, `UpToDate.settled`.
-/
import SocDashboard.Lib.Replies
import SocDashboard.Lib.Runs

namespace LiveView

/-- The store, how many notices the client has got, the client, and the answers
made so far, each with the place of its request. -/
structure Live (σ ρ α β : Type*) where
  store : σ
  read : ℕ
  client : Replies.Client ρ α β
  answered : List (ℕ × α)

/-- What happens next. -/
inductive Act (χ κ ρ α : Type*)
  /-- A step of the store. -/
  | change (x : χ)
  /-- The next notice reaches the client, which asks. -/
  | notice (r : ρ)
  | ask (r : ρ)
  /-- The request at `i` is answered, in the way `k`. -/
  | answer (i : ℕ) (k : κ)
  /-- Something reaches the client as the answer to the request at `i`. -/
  | receive (i : ℕ) (a : α)

variable {σ χ ε κ ρ α β : Type*}
variable (I : σ → Prop) (step : σ → χ → σ) (log : σ → List ε) (query : κ → σ → ρ → α) (draw : ρ → α → Option β)

def Live.next (s : Live σ ρ α β) : Act χ κ ρ α → Live σ ρ α β
  | .change x => { s with store := step s.store x }
  | .notice r => if s.read < (log s.store).length then { s with read := s.read + 1, client := s.client.ask r } else s
  | .ask r => { s with client := s.client.ask r }
  | .answer i k =>
    match s.client.asked[i]? with
    | some r => { s with answered := s.answered ++ [(i, query k s.store r)] }
    | none => s
  | .receive i a => { s with client := s.client.receive draw i a }

/-- The steps keep `I`, and take back no notice. -/
structure Publishes : Prop where
  keep : ∀ s x, I s → I (step s x)
  grow : ∀ s x, I s → log s <+: log (step s x)

/-- The answer `a` to `r` was made from a state on the way to the present one, and no notice of the
steps in between has reached the client. -/
def Live.Made (s : Live σ ρ α β) (r : ρ) (a : α) : Prop :=
  ∃ k t xs, a = query k t r ∧ I t ∧ s.store = Runs.run step t xs ∧ s.read ≤ (log t).length

/-- Answers to the latest request are as new as what the client has got notice of. -/
structure UpToDate (s : Live σ ρ α β) : Prop where
  inv : I s.store
  read_le : s.read ≤ (log s.store).length
  fresh : ∀ i a r, (i, a) ∈ s.answered → i + 1 = s.client.asked.length → s.client.asked[i]? = some r →
    s.Made I step log query r a
  placed : ∀ i a, (i, a) ∈ s.answered → i < s.client.asked.length

variable {I step log query draw} {s : Live σ ρ α β}

/-- The answers made before the client asks again are no longer to its latest request. -/
theorem UpToDate.asked (h : UpToDate I step log query s) (r : ρ) {n : ℕ} (hn : n ≤ (log s.store).length) :
    UpToDate I step log query { s with read := n, client := s.client.ask r } where
  inv := h.inv
  read_le := hn
  fresh := by
    intro i a r' hmem hlast
    have hlt := h.placed i a hmem
    simp only [Replies.Client.ask, List.length_append, List.length_cons, List.length_nil] at hlast
    omega
  placed := by
    intro i a hmem
    have hlt := h.placed i a hmem
    simp only [Replies.Client.ask, List.length_append, List.length_cons, List.length_nil]
    omega

/-- **Every step keeps the latest answer up to date.** -/
theorem upToDate_step (hp : Publishes I step log) (act : Act χ κ ρ α)
    (h : UpToDate I step log query s) : UpToDate I step log query (s.next step log query draw act) := by
  cases act with
  | change x =>
    have hread := h.read_le.trans (hp.grow s.store x h.inv).length_le
    refine ⟨hp.keep s.store x h.inv, hread, fun i a r hmem hlast hr => ?_, h.placed⟩
    obtain ⟨k, t, xs, ha, ht, hrun, hle⟩ := h.fresh i a r hmem hlast hr
    refine ⟨k, t, xs ++ [x], ha, ht, ?_, hle⟩
    show step s.store x = _
    rw [Runs.run_append, ← hrun]
    rfl
  | notice r =>
    rw [Live.next]
    split_ifs with hmore
    · exact h.asked r hmore
    · exact h
  | ask r => exact h.asked r h.read_le
  | answer i k =>
    rw [Live.next]
    cases hi : s.client.asked[i]? with
    | none => exact h
    | some r =>
      refine ⟨h.inv, h.read_le, fun j a r' hmem hlast hr' => ?_, fun j a hmem => ?_⟩
      · rcases List.mem_append.mp hmem with hold | hnew
        · exact h.fresh j a r' hold hlast hr'
        · obtain ⟨rfl, rfl⟩ := Prod.mk.inj (List.mem_singleton.mp hnew)
          obtain rfl : r = r' := Option.some.inj (hi.symm.trans hr')
          exact ⟨k, s.store, [], rfl, h.inv, rfl, h.read_le⟩
      · rcases List.mem_append.mp hmem with hold | hnew
        · exact h.placed j a hold
        · obtain ⟨rfl, rfl⟩ := Prod.mk.inj (List.mem_singleton.mp hnew)
          exact (List.getElem?_eq_some_iff.mp hi).1
  | receive i a =>
    have hasked : (s.client.receive draw i a).asked = s.client.asked := Replies.Client.receive_asked
    refine ⟨h.inv, h.read_le, ?_, ?_⟩
    · show ∀ j b r, (j, b) ∈ s.answered → j + 1 = (s.client.receive draw i a).asked.length →
        (s.client.receive draw i a).asked[j]? = some r → _
      rw [hasked]
      exact h.fresh
    · show ∀ j b, (j, b) ∈ s.answered → j < (s.client.receive draw i a).asked.length
      rw [hasked]
      exact h.placed

/-- **In any order of the steps** the latest answer is up to date. -/
theorem upToDate_run (hp : Publishes I step log) (acts : List (Act χ κ ρ α))
    (h : UpToDate I step log query s) : UpToDate I step log query (Runs.run (Live.next step log query draw) s acts) :=
  Runs.run_inv (Live.next step log query draw) (fun _ act hs => upToDate_step hp act hs) acts s h

/-- The log only grows along a run. -/
theorem log_run (hp : Publishes I step log) : ∀ (xs : List χ) (t : σ), I t → log t <+: log (Runs.run step t xs)
  | [], _, _ => List.prefix_refl _
  | x :: xs, t, ht => (hp.grow t x ht).trans (log_run hp xs (step t x) (hp.keep t x ht))

/-- A run that leaves the log as it was has no step with a notice. -/
theorem silent_of_log_eq (hp : Publishes I step log) : ∀ (xs : List χ) (t : σ), I t →
    log (Runs.run step t xs) = log t → Runs.EachStep step (fun s x => log (step s x) = log s) t xs
  | [], _, _, _ => trivial
  | x :: xs, t, ht, h => by
    have hrest := log_run hp xs (step t x) (hp.keep t x ht)
    rw [Runs.run_cons] at h
    rw [h] at hrest
    have hfirst : log (step t x) = log t := ((hp.grow t x ht).eq_of_length_le hrest.length_le).symm
    exact ⟨hfirst, silent_of_log_eq hp xs _ (hp.keep t x ht) (h.trans hfirst.symm)⟩

/-- **Settled.** With all notices got, the answer to the latest request was made from a state from
which the present one was reached without a notice. -/
theorem UpToDate.settled (hp : Publishes I step log) (h : UpToDate I step log query s)
    (hread : s.read = (log s.store).length) {r : ρ} {a : α} (hr : s.client.asked.getLast? = some r)
    (ha : (s.client.asked.length - 1, a) ∈ s.answered) :
    ∃ k t xs, a = query k t r ∧ I t ∧ s.store = Runs.run step t xs ∧
      Runs.EachStep step (fun s x => log (step s x) = log s) t xs := by
  have hlast : s.client.asked.length - 1 + 1 = s.client.asked.length := by
    have hlt := h.placed _ a ha
    omega
  rw [List.getLast?_eq_getElem?] at hr
  obtain ⟨k, t, xs, hq, ht, hrun, hle⟩ := h.fresh _ a r ha hlast hr
  refine ⟨k, t, xs, hq, ht, hrun, silent_of_log_eq hp xs t ht ?_⟩
  have hgrown := log_run hp xs t ht
  rw [← hrun] at hgrown ⊢
  rw [hread] at hle
  exact (hgrown.eq_of_length_le hle).symm

end LiveView
