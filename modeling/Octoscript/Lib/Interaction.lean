import Mathlib

inductive Prog (Op : Type) (Ans : Op → Type) (α : Type) : Type
  | done (a : α)
  | perform (op : Op) (next : Ans op → Prog Op Ans α)

namespace Prog
variable {Op : Type} {Ans : Op → Type} {α β : Type}

def bind : Prog Op Ans α → (α → Prog Op Ans β) → Prog Op Ans β
  | .done a, f => f a
  | .perform op next, f => .perform op fun a => (next a).bind f

instance : Monad (Prog Op Ans) where
  pure := .done
  bind := bind

/-- One operation. -/
def call (op : Op) : Prog Op Ans (Ans op) := .perform op .done

@[simp] theorem pure_eq (a : α) : (pure a : Prog Op Ans α) = .done a := rfl

@[simp] theorem done_bind (a : α) (f : α → Prog Op Ans β) : (Prog.done a >>= f) = f a := rfl

@[simp] theorem perform_bind (op : Op) (next : Ans op → Prog Op Ans α) (f : α → Prog Op Ans β) :
    (Prog.perform op next >>= f) = .perform op fun a => next a >>= f := rfl

/-- Runs a program against a deterministic environment. -/
def run {S : Type} (answer : S → (op : Op) → Ans op × S) : Prog Op Ans α → S → α × S
  | .done a, s => (a, s)
  | .perform op next, s => (next (answer s op).1).run answer (answer s op).2

/-- The same program over a larger signature. -/
def embed {Op' : Type} {Ans' : Op' → Type} (f : Op → Op') (back : (op : Op) → Ans' (f op) → Ans op) :
    Prog Op Ans α → Prog Op' Ans' α
  | .done a => .done a
  | .perform op next => .perform (f op) fun a => (next (back op a)).embed f back

end Prog

namespace Interaction
variable {P S Op L R Req : Type} {Ans : Op → Type} {α β : Type}

/-- What the environment may do, what must always hold, and what a process may do
to the shared state. -/
structure Rules (P S Op : Type) (Ans : Op → Type) where
  exec : P → S → (op : Op) → Ans op → S → Prop
  inv : S → Prop
  may : P → S → S → Prop

namespace Rules
variable (G : Rules P S Op Ans)
variable {x : Prog Op Ans α}

/-- Any number of steps of the other processes. -/
def Interference (p : P) : S → S → Prop :=
  Relation.ReflTransGen fun s s' => G.inv s ∧ ∃ q, q ≠ p ∧ G.may q s s'

/-- However the other processes interfere, the program keeps the invariant, does
only what it may, and ends in `Q`. -/
def Ensures (p : P) (Q : α → S → Prop) : Prog Op Ans α → S → Prop
  | .done a, s => Q a s
  | .perform op next, s => ∀ s', G.Interference p s s' → G.inv s' →
      ∀ a s'', G.exec p s' op a s'' → G.inv s'' ∧ G.may p s' s'' ∧ Ensures p Q (next a) s''

variable {G}

theorem Ensures.bind {p : P} {Q : β → S → Prop} {f : α → Prog Op Ans β}
    {s : S} (h : G.Ensures p (fun a s' => G.Ensures p Q (f a) s') x s) :
    G.Ensures p Q (x.bind f) s := by
  induction x generalizing s with
  | done a => exact h
  | perform op next ih =>
    intro s' hi hs' a s'' he
    obtain ⟨hinv, hmay, hnext⟩ := h s' hi hs' a s'' he
    exact ⟨hinv, hmay, ih a hnext⟩

theorem Ensures.mono {p : P} {Q Q' : α → S → Prop} {s : S}
    (h : G.Ensures p Q x s) (hQ : ∀ a s, Q a s → Q' a s) : G.Ensures p Q' x s := by
  induction x generalizing s with
  | done a => exact hQ a s h
  | perform op next ih =>
    intro s' hi hs' a s'' he
    obtain ⟨hinv, hmay, hnext⟩ := h s' hi hs' a s'' he
    exact ⟨hinv, hmay, ih a hnext⟩

/-- The rules for programs over a smaller signature. -/
def restrict {Op' : Type} {Ans' : Op' → Type} (G : Rules P S Op' Ans') (f : Op → Op')
    (back : (op : Op) → Ans' (f op) → Ans op) : Rules P S Op Ans where
  exec p s op a s' := ∃ a', back op a' = a ∧ G.exec p s (f op) a' s'
  inv := G.inv
  may := G.may

theorem Ensures.embed {Op' : Type} {Ans' : Op' → Type} {G : Rules P S Op' Ans'} {f : Op → Op'}
    {back : (op : Op) → Ans' (f op) → Ans op} {p : P} {Q : α → S → Prop} {s : S}
    (h : (G.restrict f back).Ensures p Q x s) : G.Ensures p Q (x.embed f back) s := by
  induction x generalizing s with
  | done a => exact h
  | perform op next ih =>
    intro s' hi hs' a s'' he
    obtain ⟨hinv, hmay, hnext⟩ := h s' hi hs' (back op a) s'' ⟨a, rfl, he⟩
    exact ⟨hinv, hmay, ih _ hnext⟩

/-- An assertion that no step of another process breaks survives interference. -/
theorem Interference.stable {p : P} {A : S → Prop} {s s' : S} (h : G.Interference p s s')
    (hA : ∀ s s' q, G.inv s → q ≠ p → G.may q s s' → A s → A s') (ha : A s) : A s' := by
  induction h with
  | refl => exact ha
  | tail _ hstep ih =>
    obtain ⟨hinv, q, hq, hmay⟩ := hstep
    exact hA _ _ q hinv hq hmay ih

end Rules

/-- Processes that start with some program, then serve requests one at a time. A
program ends with a result and with the local state it leaves, or none if the
process is over. -/
structure System (P S Op : Type) (Ans : Op → Type) (L R Req : Type) where
  exec : P → S → (op : Op) → Ans op → S → Prop
  start : P → Prog Op Ans (R × Option L) → Prop
  serve : P → L → Req → Prog Op Ans (R × Option L)
  record : P → R → S → S

inductive Status (Op : Type) (Ans : Op → Type) (L R : Type)
  | fresh
  | waiting (op : Op) (next : Ans op → Prog Op Ans (R × Option L))
  | idle (l : L)
  | dead

structure Config (P S Op : Type) (Ans : Op → Type) (L R : Type) where
  shared : S
  procs : P → Status Op Ans L R

namespace System
variable [DecidableEq P] (Y : System P S Op Ans L R Req)
variable {p : P} {op : Op} {x : Prog Op Ans α} {s s' : S} {t : Prog Op Ans (R × Option L)}

/-- Runs a program up to its next operation; its result is recorded when it ends. -/
def settle (c : Config P S Op Ans L R) (p : P) (s : S) :
    Prog Op Ans (R × Option L) → Config P S Op Ans L R
  | .perform op next => ⟨s, Function.update c.procs p (.waiting op next)⟩
  | .done (r, some l) => ⟨Y.record p r s, Function.update c.procs p (.idle l)⟩
  | .done (r, none) => ⟨Y.record p r s, Function.update c.procs p .dead⟩

inductive Step : Config P S Op Ans L R → Config P S Op Ans L R → Prop
  | spawn {c p t} : c.procs p = .fresh → Y.start p t → Step c (Y.settle c p c.shared t)
  | serve {c p l} (req : Req) : c.procs p = .idle l →
      Step c (Y.settle c p c.shared (Y.serve p l req))
  | act {c p op next a s'} : c.procs p = .waiting op next → Y.exec p c.shared op a s' →
      Step c (Y.settle c p s' (next a))
  | crash {c p} : c.procs p ≠ .fresh → Step c ⟨c.shared, Function.update c.procs p .dead⟩

/-- The configurations that some interleaving reaches from `s₀`. -/
def Reachable (s₀ : S) : Config P S Op Ans L R → Prop :=
  Relation.ReflTransGen Y.Step ⟨s₀, fun _ => .fresh⟩

variable {Y}

/-- What every operation and every record of a result respects, every run respects. -/
theorem steps_shared (rel : S → S → Prop) (hrefl : ∀ s, rel s s)
    (htrans : ∀ {s s' s''}, rel s s' → rel s' s'' → rel s s'')
    (hexec : ∀ p s op a s', Y.exec p s op a s' → rel s s')
    (hrec : ∀ p r s, rel s (Y.record p r s)) {c c' : Config P S Op Ans L R}
    (h : Relation.ReflTransGen Y.Step c c') : rel c.shared c'.shared := by
  have hset : ∀ (c : Config P S Op Ans L R) p s t, rel s (Y.settle c p s t).shared := by
    rintro c p s (⟨r, _ | l⟩ | _)
    · exact hrec p r s
    · exact hrec p r s
    · exact hrefl s
  induction h with
  | refl => exact hrefl _
  | tail _ hstep ih =>
    refine htrans ih ?_
    cases hstep with
    | spawn _ _ => exact hset _ _ _ _
    | serve req _ => exact hset _ _ _ _
    | act _ he => exact htrans (hexec _ _ _ _ _ he) (hset _ _ _ _)
    | crash _ => exact hrefl _

/-- `p` runs a program to its end while the others wait. -/
inductive Runs (Y : System P S Op Ans L R Req) (p : P) : S → Prog Op Ans α → α → S → Prop
  | done {s a} : Runs Y p s (.done a) a s
  | perform {s s' s'' op next b} (a : Ans op) : Y.exec p s op a s' → Runs Y p s' (next a) b s'' →
      Runs Y p s (.perform op next) b s''

omit [DecidableEq P] in
theorem Runs.bind {s s' s'' : S} {f : α → Prog Op Ans β} {a : α} {b : β}
    (hx : Y.Runs p s x a s') (hf : Y.Runs p s' (f a) b s'') : Y.Runs p s (x.bind f) b s'' := by
  induction hx with
  | done => exact hf
  | perform ans hexec _ ih => exact .perform ans hexec (ih hf)

theorem Runs.settle {r : R} {l : L} (h : Y.Runs p s t (r, some l) s') (c : Config P S Op Ans L R) :
    Relation.ReflTransGen Y.Step (Y.settle c p s t)
      ⟨Y.record p r s', Function.update c.procs p (.idle l)⟩ := by
  generalize hx : (r, some l) = x at h
  induction h generalizing c with
  | done =>
    subst hx
    exact .refl
  | @perform s s' s'' op next b a hexec _ ih =>
    have hrest := ih ⟨s, Function.update c.procs p (.waiting op next)⟩ hx
    rw [Function.update_idem] at hrest
    exact .head (Step.act (Function.update_self p _ c.procs) hexec) hrest

/-- `p` runs a program up to an operation while the others wait. -/
inductive Pauses (Y : System P S Op Ans L R Req) (p : P) :
    S → Prog Op Ans α → (op : Op) → (Ans op → Prog Op Ans α) → S → Prop
  | here {s op next} : Pauses Y p s (.perform op next) op next s
  | perform {s s' s'' op next op' next'} (a : Ans op) : Y.exec p s op a s' →
      Pauses Y p s' (next a) op' next' s'' → Pauses Y p s (.perform op next) op' next' s''

omit [DecidableEq P] in
theorem Runs.pauses {s s' s'' : S} {f : α → Prog Op Ans β} {a : α}
    {next : Ans op → Prog Op Ans β} (hx : Y.Runs p s x a s')
    (hf : Y.Pauses p s' (f a) op next s'') : Y.Pauses p s (x.bind f) op next s'' := by
  induction hx with
  | done => exact hf
  | perform ans hexec _ ih => exact .perform ans hexec (ih hf)

omit [DecidableEq P] in
theorem Pauses.bind {next : Ans op → Prog Op Ans α}
    (h : Y.Pauses p s x op next s') (f : α → Prog Op Ans β) :
    Y.Pauses p s (x.bind f) op (fun a => (next a).bind f) s' := by
  induction h with
  | here => exact .here
  | perform a hexec _ ih => exact .perform a hexec ih

omit [DecidableEq P] in
theorem Pauses.runs {s s' s₁ s'' : S}
    {next : Ans op → Prog Op Ans α} {b : α} (h : Y.Pauses p s x op next s') (a : Ans op)
    (hexec : Y.exec p s' op a s₁) (hrun : Y.Runs p s₁ (next a) b s'') : Y.Runs p s x b s'' := by
  induction h with
  | here => exact .perform a hexec hrun
  | perform a' hexec' _ ih => exact .perform a' hexec' (ih a hexec hrun)

theorem Pauses.settle {next : Ans op → Prog Op Ans (R × Option L)} (h : Y.Pauses p s t op next s')
    (c : Config P S Op Ans L R) : Relation.ReflTransGen Y.Step (Y.settle c p s t)
      ⟨s', Function.update c.procs p (.waiting op next)⟩ := by
  induction h generalizing c with
  | here => exact .refl
  | @perform s s' s'' op next op' next' a hexec _ ih =>
    have hrest := ih ⟨s, Function.update c.procs p (.waiting op next)⟩
    rw [Function.update_idem] at hrest
    exact .head (Step.act (Function.update_self p _ c.procs) hexec) hrest

/-- The part of a system that programs over fewer operations see. -/
def inside {Op' : Type} {Ans' : Op' → Type} (Y : System P S Op' Ans' L R Req) (f : Op → Op')
    (back : (op : Op) → Ans' (f op) → Ans op) : System P S Op Ans Empty Unit Unit where
  exec p s op a s' := ∃ a', back op a' = a ∧ Y.exec p s (f op) a' s'
  start _ _ := False
  serve _ l _ := nomatch l
  record _ _ s := s

omit [DecidableEq P] in
theorem Runs.embed {Op' : Type} {Ans' : Op' → Type} {Y : System P S Op' Ans' L R Req} {f : Op → Op'}
    {back : (op : Op) → Ans' (f op) → Ans op} {a : α}
    (h : (Y.inside f back).Runs p s x a s') : Y.Runs p s (x.embed f back) a s' := by
  induction h with
  | done => exact .done
  | perform _ hexec _ ih =>
    obtain ⟨a', rfl, hexec⟩ := hexec
    exact .perform a' hexec ih

variable {s₀ s s' s'' : S} {procs : P → Status Op Ans L R} {p : P} {l l' : L} {r : R}

theorem Reachable.start (s₀ : S) : Y.Reachable s₀ ⟨s₀, fun _ => .fresh⟩ := .refl

/-- A process that has not started runs its first program. -/
theorem Reachable.spawn (h : Y.Reachable s₀ ⟨s, procs⟩)
    (hp : procs p = .fresh) (ht : Y.start p t) (hrun : Y.Runs p s t (r, some l) s')
    (hs : Y.record p r s' = s'') : Y.Reachable s₀ ⟨s'', Function.update procs p (.idle l)⟩ := by
  rw [← hs]
  exact (h.tail (Step.spawn hp ht)).trans (hrun.settle ⟨s, procs⟩)

/-- A process at rest serves a request. -/
theorem Reachable.serve (req : Req) (h : Y.Reachable s₀ ⟨s, procs⟩) (hp : procs p = .idle l)
    (hrun : Y.Runs p s (Y.serve p l req) (r, some l') s') (hs : Y.record p r s' = s'') :
    Y.Reachable s₀ ⟨s'', Function.update procs p (.idle l')⟩ := by
  rw [← hs]
  exact (h.tail (Step.serve req hp)).trans (hrun.settle ⟨s, procs⟩)

/-- A process at rest begins to serve a request and waits at an operation. -/
theorem Reachable.pause (req : Req) {next : Ans op → Prog Op Ans (R × Option L)}
    (h : Y.Reachable s₀ ⟨s, procs⟩) (hp : procs p = .idle l)
    (hrun : Y.Pauses p s (Y.serve p l req) op next s') :
    Y.Reachable s₀ ⟨s', Function.update procs p (.waiting op next)⟩ :=
  (h.tail (Step.serve req hp)).trans (hrun.settle ⟨s, procs⟩)

/-- A process that waits at an operation goes on to the end of the request. -/
theorem Reachable.resume {next : Ans op → Prog Op Ans (R × Option L)} (a : Ans op)
    {s₁ : S} (h : Y.Reachable s₀ ⟨s, procs⟩) (hp : procs p = .waiting op next)
    (hexec : Y.exec p s op a s₁) (hrun : Y.Runs p s₁ (next a) (r, some l') s')
    (hs : Y.record p r s' = s'') : Y.Reachable s₀ ⟨s'', Function.update procs p (.idle l')⟩ := by
  rw [← hs]
  exact (h.tail (Step.act hp hexec)).trans (hrun.settle ⟨s, procs⟩)

end System

/-- What a program ensures holds of its undisturbed runs. -/
theorem Rules.Ensures.of_runs {G : Rules P S Op Ans} {Y : System P S Op Ans L R Req}
    (hexec : ∀ p s op a s', Y.exec p s op a s' → G.exec p s op a s') {p : P} {Q : α → S → Prop}
    {x : Prog Op Ans α} {s s' : S} {a : α} (hr : Y.Runs p s x a s') (hinv : G.inv s)
    (h : G.Ensures p Q x s) : Q a s' := by
  induction hr with
  | done => exact h
  | perform b he _ ih =>
    obtain ⟨hinv', _, hnext⟩ := h _ .refl hinv b _ (hexec _ _ _ _ _ he)
    exact ih hinv' hnext

/-- A proof outline for a system: an assertion for each process that has not
started and for each one at rest, kept by every step of the others. -/
structure Outline [DecidableEq P] (Y : System P S Op Ans L R Req) where
  inv : S → Prop
  may : P → S → S → Prop
  unborn : P → S → Prop
  rest : P → L → S → Prop
  unborn_stable : ∀ p q s s', inv s → q ≠ p → may q s s' → unborn p s → unborn p s'
  rest_stable : ∀ p q l s s', inv s → q ≠ p → may q s s' → rest p l s → rest p l s'

namespace Outline
variable [DecidableEq P] {Y : System P S Op Ans L R Req} (O : Outline Y)

def rules : Rules P S Op Ans := ⟨Y.exec, O.inv, O.may⟩

/-- What a program owes when it ends: its recorded result keeps the invariant and
its local state is at rest. -/
def Post (p : P) (x : R × Option L) (s : S) : Prop :=
  O.inv (Y.record p x.1 s) ∧ O.may p s (Y.record p x.1 s) ∧
    ∀ l, x.2 = some l → O.rest p l (Y.record p x.1 s)

/-- Every program the system runs meets the outline. -/
structure Valid : Prop where
  start : ∀ p t s, Y.start p t → O.inv s → O.unborn p s → O.rules.Ensures p (O.Post p) t s
  serve : ∀ p l req s, O.inv s → O.rest p l s →
    O.rules.Ensures p (O.Post p) (Y.serve p l req) s

/-- The assertion that holds of a process in a configuration. -/
def Holds (p : P) (s : S) : Status Op Ans L R → Prop
  | .fresh => O.unborn p s
  | .waiting op next => O.rules.Ensures p (O.Post p) (.perform op next) s
  | .idle l => O.rest p l s
  | .dead => True

theorem Holds.stable {p q : P} {s s' : S} {t : Status Op Ans L R} (hinv : O.inv s) (hq : q ≠ p)
    (hmay : O.may q s s') (h : O.Holds p s t) : O.Holds p s' t := by
  cases t with
  | fresh => exact O.unborn_stable p q s s' hinv hq hmay h
  | waiting op next =>
    intro s₁ hi
    exact h s₁ (.head ⟨hinv, q, hq, hmay⟩ hi)
  | idle l => exact O.rest_stable p q l s s' hinv hq hmay h
  | dead => trivial

def Good (c : Config P S Op Ans L R) : Prop :=
  O.inv c.shared ∧ ∀ p, O.Holds p c.shared (c.procs p)

/-- Settling a program that ensures its postcondition keeps every assertion; `s`
is the state its last operation left. -/
theorem good_settle {c : Config P S Op Ans L R} {p : P} {s : S} {t : Prog Op Ans (R × Option L)}
    (hinv : O.inv s) (hothers : ∀ q, q ≠ p → O.Holds q s (c.procs q))
    (ht : O.rules.Ensures p (O.Post p) t s) : O.Good (Y.settle c p s t) := by
  cases t with
  | perform op next =>
    refine ⟨hinv, fun q => ?_⟩
    by_cases hq : q = p
    · subst hq
      simpa [System.settle, Holds] using ht
    · simpa [System.settle, hq] using hothers q hq
  | done x =>
    obtain ⟨r, l⟩ := x
    obtain ⟨hrec, hmay, hrest⟩ := ht
    cases l with
    | none =>
      refine ⟨hrec, fun q => ?_⟩
      by_cases hq : q = p
      · subst hq
        simp [System.settle, Holds]
      · simpa [System.settle, hq] using
          Holds.stable O hinv (Ne.symm hq) hmay (hothers q hq)
    | some l =>
      refine ⟨hrec, fun q => ?_⟩
      by_cases hq : q = p
      · subst hq
        simpa [System.settle, Holds] using hrest l rfl
      · simpa [System.settle, hq] using
          Holds.stable O hinv (Ne.symm hq) hmay (hothers q hq)

theorem Valid.step (hv : O.Valid) {c c' : Config P S Op Ans L R} (hc : O.Good c)
    (h : Y.Step c c') : O.Good c' := by
  obtain ⟨hinv, hall⟩ := hc
  cases h with
  | @spawn p t hp hstart =>
    have hu := hall p
    rw [hp] at hu
    exact O.good_settle hinv (fun q _ => hall q) (hv.start p t c.shared hstart hinv hu)
  | @serve p l req hp =>
    have hl := hall p
    rw [hp] at hl
    exact O.good_settle hinv (fun q _ => hall q) (hv.serve p l req c.shared hinv hl)
  | @act p op next a s' hp hexec =>
    have hw := hall p
    rw [hp] at hw
    obtain ⟨hinv', hmay, hnext⟩ := hw c.shared .refl hinv a s' hexec
    exact O.good_settle hinv'
      (fun q hq => Holds.stable O hinv (Ne.symm hq) hmay (hall q)) hnext
  | @crash p hp =>
    refine ⟨hinv, fun q => ?_⟩
    by_cases hq : q = p
    · subst hq
      simp [Holds]
    · simpa [hq] using hall q

/-- The rely-guarantee rule. -/
theorem Valid.reachable (hv : O.Valid) {s₀ : S} (h₀ : O.inv s₀) (hu : ∀ p, O.unborn p s₀)
    {c : Config P S Op Ans L R} (h : Y.Reachable s₀ c) : O.Good c := by
  induction h with
  | refl => exact ⟨h₀, hu⟩
  | tail _ hstep ih => exact hv.step O ih hstep

end Outline

end Interaction
