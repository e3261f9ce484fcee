import Octoscript.Lib.Effectful
import Octoscript.Lib.History

/-- An operation and its answer. -/
abbrev Said (Op : Type) (Ans : Op → Type) := (op : Op) × Ans op

namespace Prog
variable {Op : Type} {Ans : Op → Type} {α β : Type}
variable {t : List (Said Op Ans)}

/-- The program can end in `a` after this transcript. -/
inductive Says : Prog Op Ans α → List (Said Op Ans) → α → Prop
  | done {a} : Says (.done a) [] a
  | perform {op next t b} (a : Ans op) : Says (next a) t b → Says (.perform op next) (⟨op, a⟩ :: t) b

@[simp] theorem says_done {a b : α} :
    (Prog.done a : Prog Op Ans α).Says t b ↔ t = [] ∧ b = a := by
  constructor
  · rintro ⟨⟩
    exact ⟨rfl, rfl⟩
  · rintro ⟨rfl, rfl⟩
    exact .done

@[simp] theorem says_perform {op : Op} {next : Ans op → Prog Op Ans α}
    {b : α} : (Prog.perform op next).Says t b ↔ ∃ a t', t = ⟨op, a⟩ :: t' ∧ (next a).Says t' b := by
  constructor
  · rintro ⟨⟩
    rename_i t a h
    exact ⟨a, t, rfl, h⟩
  · rintro ⟨a, t', rfl, h⟩
    exact .perform a h

theorem says_bind {x : Prog Op Ans α} {f : α → Prog Op Ans β} {b : β} :
    (x.bind f).Says t b ↔ ∃ a t₁ t₂, t = t₁ ++ t₂ ∧ x.Says t₁ a ∧ (f a).Says t₂ b := by
  induction x generalizing t with
  | done a => simp [Prog.bind]
  | perform op next ih =>
    simp only [Prog.bind, says_perform, ih]
    constructor
    · rintro ⟨a, _, rfl, c, t₁, t₂, rfl, hx, hf⟩
      exact ⟨c, ⟨op, a⟩ :: t₁, t₂, rfl, ⟨a, t₁, rfl, hx⟩, hf⟩
    · rintro ⟨c, _, t₂, rfl, ⟨a, t₁, rfl, hx⟩, hf⟩
      exact ⟨a, t₁ ++ t₂, rfl, c, t₁, t₂, rfl, hx, hf⟩

/-- The transcript and the end of a program in an environment that answers by `answer`. -/
def play (answer : (op : Op) → Ans op) : Prog Op Ans α → List (Said Op Ans) × α
  | .done a => ([], a)
  | .perform op next => (⟨op, answer op⟩ :: (play answer (next (answer op))).1,
      (play answer (next (answer op))).2)

theorem says_play (answer : (op : Op) → Ans op) (x : Prog Op Ans α) :
    x.Says (x.play answer).1 (x.play answer).2 := by
  induction x with
  | done a => exact .done
  | perform op next ih => exact .perform _ (ih (answer op))

end Prog

namespace Effectful
variable {Op : Type} {Ans : Op → Type} {σ ε ε' α β : Type}

/-- `*self = s`. -/
def assign (s : σ) : Effectful Op Ans σ ε Unit := ofMut (Mut.assign s)

/-- `return Err(e)`. -/
def fail (e : ε) : Effectful Op Ans σ ε α := check (.error e)

/-- A method of a field of the receiver. -/
def zoom {τ : Type} (read : σ → τ) (write : σ → τ → σ) (x : Effectful Op Ans τ ε α) :
    Effectful Op Ans σ ε α := fun s =>
  (x (read s)).bind fun r => .done (r.1, write s r.2)

/-- The call can end with this result and receiver after this transcript. -/
def Says (x : Effectful Op Ans σ ε α) (k : σ) (t : List (Said Op Ans)) (r : Except ε α) (k' : σ) :
    Prop :=
  (x k).Says t (r, k')

variable {x : Effectful Op Ans σ ε α} {f : α → Effectful Op Ans σ ε β} {k k' : σ}
  {t : List (Said Op Ans)} {r : Except ε β}

@[simp] theorem says_pure {b : β} :
    (pure b : Effectful Op Ans σ ε β).Says k t r k' ↔ t = [] ∧ r = .ok b ∧ k' = k := by
  change (Prog.done (Except.ok b, k)).Says t (r, k') ↔ _
  simp

@[simp] theorem says_self {r : Except ε σ} :
    (self : Effectful Op Ans σ ε σ).Says k t r k' ↔ t = [] ∧ r = .ok k ∧ k' = k := by
  change (Prog.done (Except.ok k, k)).Says t (r, k') ↔ _
  simp

@[simp] theorem says_check {y : Except ε β} :
    (check y : Effectful Op Ans σ ε β).Says k t r k' ↔ t = [] ∧ r = y ∧ k' = k := by
  change (Prog.done (y, k)).Says t (r, k') ↔ _
  simp

theorem says_ofMut {y : Mut σ ε β} :
    (ofMut y : Effectful Op Ans σ ε β).Says k t r k' ↔ t = [] ∧ y k = (r, k') := by
  change (Prog.done (y k)).Says t (r, k') ↔ _
  rw [Prog.says_done, eq_comm (a := y k)]

@[simp] theorem says_fail {e : ε} :
    (fail e : Effectful Op Ans σ ε β).Says k t r k' ↔ t = [] ∧ r = .error e ∧ k' = k :=
  says_check

@[simp] theorem says_assign {s : σ} {r : Except ε Unit} :
    (assign s : Effectful Op Ans σ ε Unit).Says k t r k' ↔ t = [] ∧ r = .ok () ∧ k' = s := by
  change (Prog.done (Except.ok (), s)).Says t (r, k') ↔ _
  simp

@[simp] theorem says_performs {op : Op} {r : Except ε (Ans op)} :
    (perform op : Effectful Op Ans σ ε (Ans op)).Says k t r k' ↔
      ∃ a, t = [⟨op, a⟩] ∧ r = .ok a ∧ k' = k := by
  change (Prog.perform op fun a => .done (Except.ok a, k)).Says t (r, k') ↔ _
  simp

/-- A sequence stops at an error, or goes on with a value. -/
theorem says_bind : (x >>= f).Says k t r k' ↔ (∃ e, x.Says k t (.error e) k' ∧ r = .error e) ∨
      ∃ a k₁ t₁ t₂, t = t₁ ++ t₂ ∧ x.Says k t₁ (.ok a) k₁ ∧ (f a).Says k₁ t₂ r k' := by
  change ((x k).bind (next f)).Says t (r, k') ↔ _
  rw [Prog.says_bind]
  constructor
  · rintro ⟨⟨_ | a, k₁⟩, t₁, t₂, rfl, hx, hf⟩
    · rename_i e
      obtain ⟨rfl, hr⟩ := Prog.says_done.mp hf
      obtain ⟨rfl, rfl⟩ := Prod.mk.inj hr
      exact .inl ⟨e, by rwa [List.append_nil], rfl⟩
    · exact .inr ⟨a, k₁, t₁, t₂, rfl, hx, hf⟩
  · rintro (⟨e, hx, rfl⟩ | ⟨a, k₁, t₁, t₂, rfl, hx, hf⟩)
    · exact ⟨(.error e, k'), t, [], by simp, hx, .done⟩
    · exact ⟨(.ok a, k₁), t₁, t₂, rfl, hx, hf⟩

theorem says_self_bind {f : σ → Effectful Op Ans σ ε β} :
    (self >>= f).Says k t r k' ↔ (f k).Says k t r k' := by
  simp [says_bind]

theorem says_assign_bind {s : σ} {f : Unit → Effectful Op Ans σ ε β} :
    (assign s >>= f).Says k t r k' ↔ (f ()).Says s t r k' := by
  rw [says_bind]
  simp only [says_assign, reduceCtorEq, false_and, and_false, exists_false, false_or]
  constructor
  · rintro ⟨_, _, _, _, rfl, ⟨rfl, _, rfl⟩, h⟩
    exact h
  · intro h
    exact ⟨(), s, [], t, rfl, ⟨rfl, trivial, rfl⟩, h⟩

theorem says_perform_bind {op : Op} {f : Ans op → Effectful Op Ans σ ε β} :
    (perform op >>= f).Says k t r k' ↔
      ∃ a t', t = ⟨op, a⟩ :: t' ∧ (f a).Says k t' r k' := by
  simp only [says_bind, says_performs, reduceCtorEq, false_and, and_false, exists_false, false_or,
    Except.ok.injEq]
  constructor
  · rintro ⟨a, k₁, _, t', rfl, ⟨_, rfl, rfl, rfl⟩, h⟩
    exact ⟨a, t', rfl, h⟩
  · rintro ⟨a, t', rfl, h⟩
    exact ⟨a, k, [⟨op, a⟩], t', rfl, ⟨a, rfl, rfl, rfl⟩, h⟩

theorem says_check_bind {y : Except ε α} :
    (check y >>= f).Says k t r k' ↔
      (∃ e, y = .error e ∧ t = [] ∧ r = .error e ∧ k' = k) ∨ ∃ a, y = .ok a ∧ (f a).Says k t r k' := by
  cases y with
  | error e =>
    simp only [says_bind, says_check, Except.error.injEq, reduceCtorEq, false_and, and_false,
      exists_false, or_false]
    constructor
    · rintro ⟨_, ⟨rfl, rfl, rfl⟩, rfl⟩
      exact ⟨_, rfl, rfl, rfl, rfl⟩
    · rintro ⟨_, rfl, rfl, rfl, rfl⟩
      exact ⟨_, ⟨rfl, rfl, rfl⟩, rfl⟩
  | ok a => simp [says_bind]

theorem says_bind_ok {b : β} : (x >>= f).Says k t (.ok b) k' ↔
    ∃ a k₁ t₁ t₂, t = t₁ ++ t₂ ∧ x.Says k t₁ (.ok a) k₁ ∧ (f a).Says k₁ t₂ (.ok b) k' := by
  simp [says_bind]

theorem says_check_bind_ok {y : Except ε α} {b : β} :
    (check y >>= f).Says k t (.ok b) k' ↔ ∃ a, y = .ok a ∧ (f a).Says k t (.ok b) k' := by
  simp [says_check_bind]

theorem says_bind_pure {g : α → β} : (x >>= fun a => pure (g a)).Says k t r k' ↔
    ∃ r', x.Says k t r' k' ∧ r = r'.map g := by
  simp only [says_bind, says_pure]
  constructor
  · rintro (⟨e, hx, rfl⟩ | ⟨a, k₁, t₁, _, rfl, hx, rfl, rfl, rfl⟩)
    · exact ⟨.error e, hx, rfl⟩
    · exact ⟨.ok a, by rwa [List.append_nil], rfl⟩
  · rintro ⟨e | a, hx, rfl⟩
    · exact .inl ⟨e, hx, rfl⟩
    · exact .inr ⟨a, k', t, [], (List.append_nil t).symm, hx, rfl, rfl, rfl⟩

theorem says_attempt {r : Except ε' (Except ε α)} :
    (attempt x : Effectful Op Ans σ ε' _).Says k t r k' ↔ ∃ r', x.Says k t r' k' ∧ r = .ok r' := by
  change ((x k).bind _).Says t (r, k') ↔ _
  simp only [Prog.says_bind, Prog.says_done]
  constructor
  · rintro ⟨⟨r', k₁⟩, t₁, _, rfl, hx, rfl, hr⟩
    obtain ⟨rfl, rfl⟩ := Prod.mk.inj hr
    exact ⟨r', by rwa [List.append_nil], rfl⟩
  · rintro ⟨r', hx, rfl⟩
    exact ⟨(r', k'), t, [], (List.append_nil t).symm, hx, rfl, rfl⟩

theorem says_mapErr {g : ε → ε'} {r : Except ε' α} :
    (mapErr g x).Says k t r k' ↔ ∃ r', x.Says k t r' k' ∧ r = r'.mapError g := by
  change ((x k).bind _).Says t (r, k') ↔ _
  simp only [Prog.says_bind, Prog.says_done]
  constructor
  · rintro ⟨⟨r', k₁⟩, t₁, _, rfl, hx, rfl, hr⟩
    obtain ⟨rfl, rfl⟩ := Prod.mk.inj hr
    exact ⟨r', by rwa [List.append_nil], rfl⟩
  · rintro ⟨r', hx, rfl⟩
    exact ⟨(r', k'), t, [], (List.append_nil t).symm, hx, rfl, rfl⟩

theorem says_zoom {τ : Type} {read : σ → τ} {write : σ → τ → σ} {x : Effectful Op Ans τ ε β} :
    (zoom read write x).Says k t r k' ↔ ∃ u, x.Says (read k) t r u ∧ k' = write k u := by
  change ((x (read k)).bind _).Says t (r, k') ↔ _
  simp only [Prog.says_bind, Prog.says_done]
  constructor
  · rintro ⟨⟨r', u⟩, t₁, _, rfl, hx, rfl, hr⟩
    obtain ⟨rfl, rfl⟩ := Prod.mk.inj hr
    exact ⟨u, by rwa [List.append_nil], rfl⟩
  · rintro ⟨u, hx, rfl⟩
    exact ⟨(r, u), t, [], (List.append_nil t).symm, hx, rfl, rfl⟩

/-- The call in an environment that answers by `answer`. -/
theorem says_of_play (answer : (op : Op) → Ans op) {r : Except ε α}
    (h : ((x k).play answer).2.1 = r) :
    x.Says k ((x k).play answer).1 r ((x k).play answer).2.2 := by
  rw [← h]
  exact Prog.says_play answer (x k)

end Effectful

/-- A relation between receivers that is kept by silence and by one part after another. -/
structure Guarantee (Op : Type) (Ans : Op → Type) (σ : Type) where
  rel : σ → List (Said Op Ans) → σ → Prop
  refl : ∀ k, rel k [] k
  trans : ∀ {k k₁ k' t t'}, rel k t k₁ → rel k₁ t' k' → rel k (t ++ t') k'

namespace Effectful
variable {Op : Type} {Ans : Op → Type} {σ ε ε' α β : Type} {G : Guarantee Op Ans σ} {k : σ}
variable {x : Effectful Op Ans σ ε α}

/-- The call keeps the guarantee from `k` on. -/
def Obeys (G : Guarantee Op Ans σ) (x : Effectful Op Ans σ ε α) (k : σ) : Prop :=
  ∀ ⦃t r k'⦄, x.Says k t r k' → G.rel k t k'

theorem obeys_pure (a : α) : Obeys G (pure a : Effectful Op Ans σ ε α) k := by
  intro t r k' h
  obtain ⟨rfl, _, rfl⟩ := says_pure.mp h
  exact G.refl _

theorem obeys_check (y : Except ε α) : Obeys G (check y : Effectful Op Ans σ ε α) k := by
  intro t r k' h
  obtain ⟨rfl, _, rfl⟩ := says_check.mp h
  exact G.refl _

theorem obeys_fail (e : ε) : Obeys G (fail e : Effectful Op Ans σ ε α) k := obeys_check _

theorem obeys_assign {s : σ} (h : G.rel k [] s) : Obeys G (assign s : Effectful Op Ans σ ε Unit) k := by
  intro t r k' hs
  obtain ⟨rfl, _, rfl⟩ := says_assign.mp hs
  exact h

theorem obeys_perform {op : Op} (h : ∀ a, G.rel k [⟨op, a⟩] k) :
    Obeys G (perform op : Effectful Op Ans σ ε (Ans op)) k := by
  intro t r k' hs
  obtain ⟨a, rfl, _, rfl⟩ := says_performs.mp hs
  exact h a

theorem obeys_self_bind {f : σ → Effectful Op Ans σ ε β} (h : Obeys G (f k) k) :
    Obeys G (self >>= f) k :=
  fun _ _ _ hs => h (says_self_bind.mp hs)

theorem obeys_check_bind {y : Except ε α} {f : α → Effectful Op Ans σ ε β}
    (h : ∀ a, y = .ok a → Obeys G (f a) k) : Obeys G (check y >>= f) k := by
  intro t r k' hs
  rcases says_check_bind.mp hs with ⟨_, _, rfl, _, rfl⟩ | ⟨a, ha, hs⟩
  · exact G.refl _
  · exact h a ha hs

theorem obeys_assign_bind {s : σ} {f : Unit → Effectful Op Ans σ ε β} (hs : G.rel k [] s)
    (h : Obeys G (f ()) s) : Obeys G (assign s >>= f) k :=
  fun _ _ _ hsays => G.trans hs (h (says_assign_bind.mp hsays))

theorem obeys_perform_bind {op : Op} {f : Ans op → Effectful Op Ans σ ε β}
    (hop : ∀ a, G.rel k [⟨op, a⟩] k) (h : ∀ a, Obeys G (f a) k) : Obeys G (perform op >>= f) k := by
  intro t r k' hs
  obtain ⟨a, t', rfl, hrest⟩ := says_perform_bind.mp hs
  exact G.trans (hop a) (h a hrest)

theorem obeys_bind {f : α → Effectful Op Ans σ ε β} (hx : Obeys G x k)
    (hf : ∀ t a k₁, x.Says k t (.ok a) k₁ → Obeys G (f a) k₁) : Obeys G (x >>= f) k := by
  intro t r k' hs
  rcases says_bind.mp hs with ⟨e, hs, _⟩ | ⟨a, k₁, t₁, t₂, rfl, hx', hs⟩
  · exact hx hs
  · exact G.trans (hx hx') (hf t₁ a k₁ hx' hs)

theorem obeys_bind_pure {g : α → β} (hx : Obeys G x k) :
    Obeys G (x >>= fun a => pure (g a)) k := by
  intro t r k' hs
  obtain ⟨_, hs, _⟩ := says_bind_pure.mp hs
  exact hx hs

theorem obeys_attempt (hx : Obeys G x k) :
    Obeys G (attempt x : Effectful Op Ans σ ε' _) k := by
  intro t r k' hs
  obtain ⟨_, hs, _⟩ := says_attempt.mp hs
  exact hx hs

end Effectful

/-- A call with its transcript and its result. -/
structure Exchange (C Op : Type) (Ans : Op → Type) (R : Type) where
  call : C
  said : List (Said Op Ans)
  result : R

/-- Calls one after the other, from `k₀`; the newest is the first of the list. -/
inductive Conversation {C Op R σ : Type} {Ans : Op → Type} (serve : C → σ → Prog Op Ans (R × σ))
    (k₀ : σ) : List (Exchange C Op Ans R) → σ → Prop
  | start : Conversation serve k₀ [] k₀
  | next {h k call t r k'} : Conversation serve k₀ h k → (serve call k).Says t (r, k') →
      Conversation serve k₀ (⟨call, t, r⟩ :: h) k'

namespace Conversation
variable {C Op R σ : Type} {Ans : Op → Type} {serve : C → σ → Prog Op Ans (R × σ)} {k₀ k : σ}
  {h : List (Exchange C Op Ans R)}

/-- What holds at first and is kept by every call holds after every conversation. -/
theorem invariant {I : List (Exchange C Op Ans R) → σ → Prop} (hc : Conversation serve k₀ h k)
    (hstart : I [] k₀) (hnext : ∀ h k call t r k', I h k → (serve call k).Says t (r, k') →
      I (⟨call, t, r⟩ :: h) k') : I h k := by
  induction hc with
  | start => exact hstart
  | next _ hsays ih => exact hnext _ _ _ _ _ _ ih hsays

/-- The calls one after the other, in an environment that answers by `answer`. -/
def play (serve : C → σ → Prog Op Ans (R × σ)) (answer : (op : Op) → Ans op) (k₀ : σ) :
    List C → List (Exchange C Op Ans R) × σ
  | [] => ([], k₀)
  | call :: calls =>
    let before := play serve answer k₀ calls
    let played := (serve call before.2).play answer
    (⟨call, played.1, played.2.1⟩ :: before.1, played.2.2)

theorem of_play (answer : (op : Op) → Ans op) (calls : List C) :
    Conversation serve k₀ (play serve answer k₀ calls).1 (play serve answer k₀ calls).2 := by
  induction calls with
  | nil => exact .start
  | cons call calls ih => exact .next ih (Prog.says_play answer _)

end Conversation

/-- What an observer of a conversation sees. -/
inductive Event (C Op : Type) (Ans : Op → Type) (R : Type)
  | called (call : C)
  | said (s : Said Op Ans)
  | returned (result : R)

namespace Exchange
variable {C Op R : Type} {Ans : Op → Type}

def events (x : Exchange C Op Ans R) : List (Event C Op Ans R) :=
  .called x.call :: (x.said.map .said ++ [.returned x.result])

/-- What was seen of the calls of a conversation, in the order of time. -/
def trace : List (Exchange C Op Ans R) → List (Event C Op Ans R)
  | [] => []
  | x :: h => trace h ++ x.events

end Exchange

/-- A monitor with the steps `step` can read `l` from `g` and end in `g'`. -/
inductive Accepts {E G : Type} (step : G → E → G → Prop) : G → List E → G → Prop
  | nil {g} : Accepts step g [] g
  | cons {g g₁ g' e l} : step g e g₁ → Accepts step g₁ l g' → Accepts step g (e :: l) g'

namespace Accepts
variable {E G : Type} {step : G → E → G → Prop} {g g₁ g' : G} {l l' : List E} {e : E}

theorem append (h : Accepts step g l g₁) (h' : Accepts step g₁ l' g') :
    Accepts step g (l ++ l') g' := by
  induction h with
  | nil => exact h'
  | cons hstep _ ih => exact .cons hstep (ih h')

theorem split (h : Accepts step g (l ++ l') g') :
    ∃ g₁, Accepts step g l g₁ ∧ Accepts step g₁ l' g' := by
  induction l generalizing g with
  | nil => exact ⟨g, .nil, h⟩
  | cons e l ih =>
    obtain _ | ⟨hstep, hrest⟩ := h
    obtain ⟨g₁, hl, hl'⟩ := ih hrest
    exact ⟨g₁, .cons hstep hl, hl'⟩

/-- What the state says about the past holds of what was read. -/
theorem means {M : G → List E → Prop} (h : Accepts step g l g') {past : List E} (hM : M g past)
    (hstep : ∀ g past e g', M g past → step g e g' → M g' (past ++ [e])) : M g' (past ++ l) := by
  induction h generalizing past with
  | nil => rwa [List.append_nil]
  | cons hfirst _ ih =>
    rw [List.append_cons]
    exact ih (hstep _ _ _ _ hM hfirst)

/-- From a state that no event leaves, only events of one kind are read. -/
theorem forall_mem {D : G → Prop} {P : E → Prop} (h : Accepts step g l g') (hg : D g)
    (hstep : ∀ g e g', D g → step g e g' → D g' ∧ P e) : D g' ∧ ∀ e ∈ l, P e := by
  induction h with
  | nil => exact ⟨hg, by simp⟩
  | cons hfirst _ ih =>
    obtain ⟨hD, he⟩ := hstep _ _ _ hg hfirst
    obtain ⟨hend, hl⟩ := ih hD
    exact ⟨hend, by simpa using ⟨he, hl⟩⟩

end Accepts
