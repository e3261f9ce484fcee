import Octoscript.Lib.Mutation

namespace Calls
variable {Op : Type} {Ans Ans' : Op → Type} {σ τ : Type}

/-- Makes the calls in turn and collects the answers. -/
def run (answer : σ → (op : Op) → Ans op × σ) : List Op → σ → List ((op : Op) × Ans op) × σ
  | [], s => ([], s)
  | op :: ops, s =>
    let (a, s') := answer s op
    let (rest, last) := run answer ops s'
    (⟨op, a⟩ :: rest, last)

/-- A receiver that is a view of another and answers each call as it does goes on doing so. -/
theorem run_view {answer : σ → (op : Op) → Ans op × σ} {answer' : τ → (op : Op) → Ans op × τ}
    {view : σ → τ} (hstep : ∀ op s, answer' (view s) op = ((answer s op).1, view (answer s op).2))
    (ops : List Op) (s : σ) :
    run answer' ops (view s) = ((run answer ops s).1, view (run answer ops s).2) := by
  induction ops generalizing s with
  | nil => rfl
  | cons op ops ih => simp only [run, hstep, ih]

/-- Receivers that answer each call alike and stay related answer every sequence of calls alike. -/
theorem run_related {answer : σ → (op : Op) → Ans op × σ}
    {answer' : τ → (op : Op) → Ans' op × τ} (translate : (op : Op) → Ans op → Ans' op)
    {allowed : Op → Prop} {R : σ → τ → Prop} (hstep : ∀ op s t, allowed op → R s t →
      (answer' t op).1 = translate op (answer s op).1 ∧ R (answer s op).2 (answer' t op).2)
    {ops : List Op} (hops : ∀ op ∈ ops, allowed op) {s : σ} {t : τ} (h : R s t) :
    (run answer' ops t).1 = (run answer ops s).1.map (fun a => ⟨a.1, translate a.1 a.2⟩) ∧
      R (run answer ops s).2 (run answer' ops t).2 := by
  induction ops generalizing s t with
  | nil => exact ⟨rfl, h⟩
  | cons op ops ih =>
    obtain ⟨hans, hnext⟩ := hstep op s t (hops op List.mem_cons_self) h
    obtain ⟨hrest, hlast⟩ := ih (fun op' hop' => hops op' (List.mem_cons_of_mem op hop')) hnext
    simp only [run, List.map_cons]
    exact ⟨by rw [hans, hrest], hlast⟩

end Calls

namespace Mut
variable {σ τ ε α β : Type} {view : σ → τ} {s : σ}

/-- At `s`, the method `y` of the view does what `x` does to the receiver. -/
def Through (view : σ → τ) (x : Mut σ ε α) (y : Mut τ ε α) (s : σ) : Prop :=
  y (view s) = ((x s).1, view (x s).2)

theorem through_pure (a : α) : Through view (pure a : Mut σ ε α) (pure a) s := rfl

theorem through_self_bind {f : σ → Mut σ ε β} {g : τ → Mut τ ε β}
    (h : Through view (f s) (g (view s)) s) : Through view (self >>= f) (self >>= g) s := h

theorem through_assign_bind {s' : σ} {t' : τ} {f : Unit → Mut σ ε β} {g : Unit → Mut τ ε β}
    (ht : t' = view s') (h : Through view (f ()) (g ()) s') :
    Through view (assign s' >>= f) (assign t' >>= g) s := by
  subst ht
  exact h

theorem through_lift_bind {y : Except ε α} {f : α → Mut σ ε β} {g : α → Mut τ ε β}
    (h : ∀ a, Through view (f a) (g a) s) :
    Through view ((liftM y : Mut σ ε α) >>= f) ((liftM y : Mut τ ε α) >>= g) s := by
  cases y with
  | ok a => exact h a
  | error e => rfl

theorem through_rejectIf_bind {c : Prop} [Decidable c] {e : ε} {f : Unit → Mut σ ε β}
    {g : Unit → Mut τ ε β} (h : Through view (f ()) (g ()) s) :
    Through view ((rejectIf c e : Mut σ ε Unit) >>= f) ((rejectIf c e : Mut τ ε Unit) >>= g) s := by
  by_cases hc : c
  · simp only [rejectIf, if_pos hc]
    rfl
  · simp only [rejectIf, if_neg hc]
    exact h

end Mut
