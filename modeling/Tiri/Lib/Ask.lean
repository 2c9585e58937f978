import Mathlib.Tactic.Common

/-!
# Code that looks at a world that changes

`Ask Q A α` is code that asks questions `q : Q`, which have answers in `A q`, and returns an `α`.
The world may change between two questions in any way: `run` takes the answers at each time, and
every question takes one unit of time.  `eval` is what the code returns in a world that stands
still.

Results:
* `run_bind`, `eval_bind`, `asked_bind`: code one part after another;
* `run_eq_eval`: where every question that was asked had the answer that a still world gives, the
  code returns what it returns in that world;
* `run_eq_eval_of_still`: in a world that stands still from the start on.
-/

namespace Tiri

/-- Code that asks questions. -/
inductive Ask (Q : Type) (A : Q → Type) (α : Type)
  | ret (a : α)
  | ask (q : Q) (next : A q → Ask Q A α)

namespace Ask

variable {Q : Type} {A : Q → Type} {α β : Type}

/-- One part of the code, and the rest from what it returns. -/
def bind : Ask Q A α → (α → Ask Q A β) → Ask Q A β
  | ret a, f => f a
  | ask q next, f => ask q fun answer => bind (next answer) f

instance : Monad (Ask Q A) where
  pure := ret
  bind := bind

/-- Ask one question. -/
def query (q : Q) : Ask Q A (A q) := ask q ret

/-- What the code returns when the answers are always the same. -/
def eval (answers : (q : Q) → A q) : Ask Q A α → α
  | ret a => a
  | ask q next => eval answers (next (answers q))

/-- What the code returns from a time on, and when it does. -/
def run (answers : ℕ → (q : Q) → A q) : ℕ → Ask Q A α → α × ℕ
  | t, ret a => (a, t)
  | t, ask q next => run answers (t + 1) (next (answers t q))

/-- What the code asks, and when. -/
def asked (answers : ℕ → (q : Q) → A q) : ℕ → Ask Q A α → List (ℕ × Q)
  | _, ret _ => []
  | t, ask q next => (t, q) :: asked answers (t + 1) (next (answers t q))

variable {answers : ℕ → (q : Q) → A q} {still : (q : Q) → A q} {t : ℕ}

@[simp] theorem eval_query (q : Q) : eval still (query q : Ask Q A (A q)) = still q := rfl

@[simp] theorem run_query (q : Q) :
    run answers t (query q : Ask Q A (A q)) = (answers t q, t + 1) := rfl

@[simp] theorem asked_query (q : Q) :
    asked answers t (query q : Ask Q A (A q)) = [(t, q)] := rfl

variable (x : Ask Q A α) (f : α → Ask Q A β)

@[simp] theorem eval_bind : eval still (x >>= f) = eval still (f (eval still x)) := by
  induction x with
  | ret a => rfl
  | ask q next ih => exact ih (still q)

@[simp] theorem run_bind :
    run answers t (x >>= f) = run answers (run answers t x).2 (f (run answers t x).1) := by
  induction x generalizing t with
  | ret a => rfl
  | ask q next ih => exact ih (answers t q)

theorem asked_bind :
    asked answers t (x >>= f) =
      asked answers t x ++ asked answers (run answers t x).2 (f (run answers t x).1) := by
  induction x generalizing t with
  | ret a => rfl
  | ask q next ih => exact congrArg (List.cons (t, q)) (ih (answers t q))

/-- Time goes on. -/
theorem le_run : t ≤ (run answers t x).2 := by
  induction x generalizing t with
  | ret a => exact Nat.le_refl t
  | ask q next ih => exact Nat.le_trans (Nat.le_succ t) (ih (answers t q))

theorem le_of_mem_asked {x : Ask Q A α} {look : ℕ × Q} (h : look ∈ asked answers t x) :
    t ≤ look.1 := by
  induction x generalizing t with
  | ret a => cases h
  | ask q next ih =>
    rcases List.mem_cons.mp h with rfl | h
    · exact Nat.le_refl t
    · exact Nat.le_trans (Nat.le_succ t) (ih (answers t q) h)

/-- **Every answer was the still one**, so the code returns what it returns in the still world. -/
theorem run_eq_eval {x : Ask Q A α}
    (h : ∀ look ∈ asked answers t x, answers look.1 look.2 = still look.2) :
    (run answers t x).1 = eval still x := by
  induction x generalizing t with
  | ret a => rfl
  | ask q next ih =>
    have hq : answers t q = still q := h (t, q) List.mem_cons_self
    unfold run eval
    rw [← hq]
    exact ih (answers t q) fun look hlook => h look (List.mem_cons_of_mem _ hlook)

theorem run_eq_eval_of_still {x : Ask Q A α} (h : ∀ t' ≥ t, answers t' = still) :
    (run answers t x).1 = eval still x :=
  run_eq_eval fun look hlook => by rw [h look.1 (le_of_mem_asked hlook)]

end Ask

end Tiri
