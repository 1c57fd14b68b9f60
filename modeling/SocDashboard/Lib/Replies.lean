/-
# A view that every reply redraws

A client asks, and may ask again before it is answered. Each request gets at
most one reply, in whatever order they come, and every reply that can be drawn
replaces what is in view, whichever request it answers.

When all requests are answered the view is to be what the latest of them was
answered. Asking keeps that, since the new request is still out. A reply keeps
it when another request is still out or when it is the reply to the latest
request (`receive_showsLatest`). The reply to an older request, when it is the
last to come, leaves the latest only if it draws the same (`receive_hides`).

Key definitions: `Client`, `ask`, `receive`, `Quiet`, `ShowsLatest`, `LastOut`.
Key theorems: `ask_showsLatest`, `receive_showsLatest`, `receive_hides`.
-/
import Mathlib.Data.List.Basic

namespace Replies

/-- The requests in the order of asking, the replies in the order in which they came, each with
the place of its request, and what is in view. -/
structure Client (ρ α β : Type*) where
  asked : List ρ
  replies : List (ℕ × α)
  view : Option β
  placed : ∀ i ∈ replies.map Prod.fst, i < asked.length

namespace Client

variable {ρ α β : Type*} (draw : ρ → α → Option β) (s : Client ρ α β)

def start : Client ρ α β := ⟨[], [], none, by simp⟩

/-- The places of the requests that have their reply. -/
def answered : List ℕ := s.replies.map Prod.fst

/-- The request at `i` has been asked and has no reply yet. -/
def Out (i : ℕ) : Prop := i < s.asked.length ∧ i ∉ s.answered

instance (i : ℕ) : Decidable (s.Out i) := inferInstanceAs (Decidable (_ ∧ _))

def ask (r : ρ) : Client ρ α β where
  asked := s.asked ++ [r]
  replies := s.replies
  view := s.view
  placed := by
    intro i hi
    rw [List.length_append]
    exact Nat.lt_add_right 1 (s.placed i hi)

/-- The reply `a` to the request at `i`; there is none to a request that is not out. -/
def receive (i : ℕ) (a : α) : Client ρ α β :=
  if h : s.Out i then
    { asked := s.asked
      replies := s.replies ++ [(i, a)]
      view := (draw (s.asked.get ⟨i, h.1⟩) a).or s.view
      placed := by
        intro j hj
        rw [List.map_append, List.mem_append] at hj
        rcases hj with hold | hnew
        · exact s.placed j hold
        · obtain rfl := List.mem_singleton.mp hnew
          exact h.1 }
  else s

/-- No request is out. -/
def Quiet : Prop := ∀ i < s.asked.length, i ∈ s.answered

instance : Decidable s.Quiet := inferInstanceAs (Decidable (∀ i < _, _))

/-- The latest request is `r`, and it was answered with `a`. -/
def Latest (r : ρ) (a : α) : Prop := s.asked.getLast? = some r ∧ (s.asked.length - 1, a) ∈ s.replies

/-- With no request out, the view is what the latest request was answered. -/
def ShowsLatest : Prop := s.Quiet → ∀ r a v, s.Latest r a → draw r a = some v → s.view = some v

/-- The request at `i` is the only one that is out. -/
def LastOut (i : ℕ) : Prop := s.Out i ∧ ∀ j < s.asked.length, j ≠ i → j ∈ s.answered

variable {draw s}

/-- **Asking**: the new request is out. -/
theorem ask_showsLatest (r : ρ) : (s.ask r).ShowsLatest draw := by
  intro hquiet
  have hnew : s.asked.length ∈ s.answered := hquiet s.asked.length (by simp [ask])
  exact absurd (s.placed _ hnew) (Nat.lt_irrefl _)

section Receive

variable {i : ℕ} {a : α}

theorem receive_of_not_out (h : ¬s.Out i) : s.receive draw i a = s := dif_neg h

theorem receive_asked : (s.receive draw i a).asked = s.asked := by
  rw [receive]
  split_ifs <;> rfl

theorem receive_replies (h : s.Out i) : (s.receive draw i a).replies = s.replies ++ [(i, a)] := by
  rw [receive, dif_pos h]

theorem receive_answered (h : s.Out i) : (s.receive draw i a).answered = s.answered ++ [i] := by
  rw [answered, receive_replies h, List.map_append]
  rfl

theorem receive_view {ri : ρ} (h : s.Out i) (hri : s.asked[i]? = some ri) :
    (s.receive draw i a).view = (draw ri a).or s.view := by
  obtain ⟨_, rfl⟩ := List.getElem?_eq_some_iff.mp hri
  rw [receive, dif_pos h]
  rfl

/-- A reply leaves no request out exactly when its own was the last one. -/
theorem receive_quiet (h : s.Out i) : (s.receive draw i a).Quiet ↔ s.LastOut i := by
  simp only [Quiet, LastOut, receive_asked, receive_answered h, List.mem_append, List.mem_singleton, h, true_and]
  constructor
  · intro hall j hj hne
    exact (hall j hj).resolve_right hne
  · intro hothers j hj
    by_cases hji : j = i
    · exact .inr hji
    · exact .inl (hothers j hj hji)

/-- The reply to the latest request makes it answered. -/
theorem latest_of_newest {r : ρ} {a' : α} (h : s.Out i) (hnewest : i + 1 = s.asked.length)
    (hlatest : (s.receive draw i a).Latest r a') : s.asked[i]? = some r ∧ a' = a := by
  have hplace : s.asked.length - 1 = i := by omega
  obtain ⟨hr, ha'⟩ := hlatest
  rw [receive_asked, List.getLast?_eq_getElem?, hplace] at hr
  rw [receive_asked, receive_replies h, hplace, List.mem_append, List.mem_singleton] at ha'
  refine ⟨hr, ?_⟩
  rcases ha' with hold | hnew
  · exact absurd (List.mem_map_of_mem hold) h.2
  · exact (Prod.mk.inj hnew).2

/-- Another reply leaves open what the latest request was answered. -/
theorem latest_of_older {r : ρ} {a' : α} (h : s.Out i) (holder : i + 1 ≠ s.asked.length) :
    (s.receive draw i a).Latest r a' ↔ s.Latest r a' := by
  have hplace : s.asked.length - 1 ≠ i := by
    have := h.1
    omega
  simp [Latest, receive_asked, receive_replies h, hplace]

/-- **A reply keeps the latest in view** if it is the latest whenever it is the last to come. -/
theorem receive_showsLatest (h : s.ShowsLatest draw) (horder : s.LastOut i → i + 1 = s.asked.length) :
    (s.receive draw i a).ShowsLatest draw := by
  by_cases hout : s.Out i
  · obtain ⟨ri, hri⟩ : ∃ ri, s.asked[i]? = some ri := ⟨_, List.getElem?_eq_getElem hout.1⟩
    intro hquiet r a' v hlatest hv
    have hnewest := horder ((receive_quiet hout).mp hquiet)
    obtain ⟨hr, rfl⟩ := latest_of_newest hout hnewest hlatest
    obtain rfl : ri = r := Option.some.inj (hri.symm.trans hr)
    rw [receive_view hout hri, hv, Option.some_or]
  · rwa [receive_of_not_out hout]

/-- **The reply to an older request that comes last hides the latest**, if they draw differently. -/
theorem receive_hides {ri r : ρ} {a' : α} {v v' : β} (hlast : s.LastOut i) (holder : i + 1 ≠ s.asked.length)
    (hri : s.asked[i]? = some ri) (hv : draw ri a = some v) (hlatest : s.Latest r a') (hv' : draw r a' = some v')
    (hne : v ≠ v') : ¬(s.receive draw i a).ShowsLatest draw := by
  intro hshows
  have hview := hshows ((receive_quiet hlast.1).mpr hlast) r a' v' ((latest_of_older hlast.1 holder).mpr hlatest) hv'
  rw [receive_view hlast.1 hri, hv, Option.some_or] at hview
  exact hne (Option.some.inj hview)

end Receive

end Client

end Replies
