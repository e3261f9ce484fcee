import Octoscript.Lib.Effectful

namespace Prog
variable {Op : Type} {Ans : Op → Type} {α β S : Type}

theorem run_bind (answer : S → (op : Op) → Ans op × S) (x : Prog Op Ans α) (f : α → Prog Op Ans β)
    (s : S) : (x.bind f).run answer s = (f (x.run answer s).1).run answer (x.run answer s).2 := by
  induction x generalizing s with
  | done a => rfl
  | perform op next ih =>
    simp only [Prog.bind, run]
    rw [ih]

end Prog

namespace Effectful
variable {Op : Type} {Ans : Op → Type} {S σ ε α β : Type}
  {answer : S → (op : Op) → Ans op × S}

/-- Runs a method in an environment that answers by `answer`. -/
def runIn (answer : S → (op : Op) → Ans op × S) (x : Effectful Op Ans σ ε α) (k : σ) (s : S) :
    (Except ε α × σ) × S :=
  (x k).run answer s

variable {x : Effectful Op Ans σ ε α} {f : α → Effectful Op Ans σ ε β} {k k' : σ} {s s' : S}

theorem runIn_pure (a : α) : runIn answer (pure a : Effectful Op Ans σ ε α) k s = ((.ok a, k), s) :=
  rfl

theorem runIn_bind_ok {a : α} (h : runIn answer x k s = ((.ok a, k'), s')) :
    runIn answer (x >>= f) k s = runIn answer (f a) k' s' := by
  rw [runIn] at h
  rw [runIn, bind_apply, Prog.run_bind, h]
  rfl

theorem runIn_perform_bind (op : Op) (f : Ans op → Effectful Op Ans σ ε β) :
    runIn answer (perform op >>= f) k s = runIn answer (f (answer s op).1) k (answer s op).2 :=
  rfl

theorem runIn_check_ok (a : α) :
    runIn answer (check (.ok a) >>= f) k s = runIn answer (f a) k s :=
  rfl

theorem runIn_check_error (e : ε) :
    runIn answer (check (.error e) >>= f) k s = ((.error e, k), s) :=
  rfl

theorem runIn_rejected {c : Prop} [Decidable c] (h : c) (e : ε)
    (f : Unit → Effectful Op Ans σ ε β) :
    runIn answer (check (rejectIf c e) >>= f) k s = ((.error e, k), s) := by
  rw [rejectIf, if_pos h]
  exact runIn_check_error e

theorem runIn_not_rejected {c : Prop} [Decidable c] (h : ¬c) (e : ε)
    (f : Unit → Effectful Op Ans σ ε β) :
    runIn answer (check (rejectIf c e) >>= f) k s = runIn answer (f ()) k s := by
  rw [rejectIf, if_neg h]
  exact runIn_check_ok ()

end Effectful
