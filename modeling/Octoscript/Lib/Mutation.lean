import Mathlib

/-- `if c { return Err(e) }`. -/
def rejectIf {m : Type → Type} {ε : Type} [Monad m] [MonadExcept ε m] (c : Prop) [Decidable c]
    (e : ε) : m Unit := if c then throw e else pure ()

/-- `ok_or`. -/
def Option.okOr {ε α : Type} (o : Option α) (e : ε) : Except ε α :=
  match o with
  | some a => .ok a
  | none => .error e

@[simp] theorem Option.okOr_ok_iff {ε α : Type} {o : Option α} {e : ε} {a : α} :
    o.okOr e = .ok a ↔ o = some a := by
  cases o <;> simp [Option.okOr]

namespace Except
variable {ε α β : Type}

@[simp] theorem bind_ok_iff {x : Except ε α} {f : α → Except ε β} {b : β} :
    (x >>= f) = .ok b ↔ ∃ a, x = .ok a ∧ f a = .ok b := by
  cases x with
  | error e => simp [bind, Except.bind]
  | ok a => simp [bind, Except.bind]

theorem bind_error_iff {x : Except ε α} {f : α → Except ε β} {e : ε} :
    (x >>= f) = .error e ↔ x = .error e ∨ ∃ a, x = .ok a ∧ f a = .error e := by
  cases x with
  | error e => simp [bind, Except.bind]
  | ok a => simp [bind, Except.bind]

@[simp] theorem mapError_ok_iff {ε' : Type} {f : ε → ε'} {x : Except ε α} {a : α} :
    x.mapError f = .ok a ↔ x = .ok a := by
  cases x <;> simp [Except.mapError]

theorem ok_bind {g : α → Except ε β} (a : α) : ((Except.ok a : Except ε α) >>= g) = g a := rfl

theorem mapError_error_iff {ε' : Type} {f : ε → ε'} {x : Except ε α} {e' : ε'} :
    x.mapError f = .error e' ↔ ∃ e, x = .error e ∧ f e = e' := by
  cases x <;> simp [Except.mapError]

theorem mapError_ok_bind {ε' : Type} {f : ε → ε'} {g : α → Except ε' β} (a : α) :
    ((Except.ok a : Except ε α).mapError f >>= g) = g a := rfl

@[simp] theorem rejectIf_ok_iff {c : Prop} [Decidable c] {e : ε} {u : Unit} :
    (rejectIf c e : Except ε Unit) = .ok u ↔ ¬c := by
  unfold rejectIf
  split_ifs with h
  · simp [h]
  · simp [h, pure, Except.pure]

theorem rejectIf_error_iff {c : Prop} [Decidable c] {e e' : ε} :
    (rejectIf c e : Except ε Unit) = .error e' ↔ c ∧ e = e' := by
  unfold rejectIf
  split_ifs with h
  · simp [h, throw, throwThe, MonadExceptOf.throw]
  · simp [h, pure, Except.pure]

@[simp] theorem forM_ok_iff {f : α → Except ε Unit} {l : List α} {u : Unit} :
    forM l f = .ok u ↔ ∀ x ∈ l, f x = .ok () := by
  induction l with
  | nil => simp [pure, Except.pure]
  | cons x l ih =>
    have hu : (∃ v, f x = .ok v) ↔ f x = .ok () := ⟨fun ⟨_, h⟩ => h, fun h => ⟨_, h⟩⟩
    simp [ih, hu]

theorem exists_of_mem_mapM {f : α → Except ε β} {l : List α} {l' : List β} {b : β}
    (h : l.mapM f = .ok l') (hb : b ∈ l') : ∃ a ∈ l, f a = .ok b := by
  induction l generalizing l' with
  | nil =>
    simp only [List.mapM_nil, pure, Except.pure, ok.injEq] at h
    simp [← h] at hb
  | cons a l ih =>
    simp only [List.mapM_cons, bind_ok_iff, pure, Except.pure, ok.injEq] at h
    obtain ⟨b', hb', bs, hbs, rfl⟩ := h
    rcases List.mem_cons.mp hb with rfl | hb
    · exact ⟨a, List.mem_cons_self, hb'⟩
    · obtain ⟨a', ha', hab⟩ := ih hbs hb
      exact ⟨a', List.mem_cons_of_mem _ ha', hab⟩

/-- Checks each entry and refuses a key seen before: the loop over a fresh
`BTreeSet` of keys. -/
def checkDistinct {κ : Type} [DecidableEq κ] (validate : α → Except ε Unit) (key : α → κ)
    (duplicate : κ → ε) : List κ → List α → Except ε Unit
  | _, [] => pure ()
  | seen, x :: l => do
    validate x
    rejectIf (key x ∈ seen) (duplicate (key x))
    checkDistinct validate key duplicate (key x :: seen) l

theorem checkDistinct_ok_iff {κ : Type} [DecidableEq κ] {validate : α → Except ε Unit}
    {key : α → κ} {duplicate : κ → ε} {seen : List κ} {l : List α} {u : Unit} :
    checkDistinct validate key duplicate seen l = .ok u ↔
      (∀ x ∈ l, validate x = .ok ()) ∧ (l.map key).Nodup ∧ ∀ x ∈ l, key x ∉ seen := by
  induction l generalizing seen with
  | nil => simp [checkDistinct, pure, Except.pure]
  | cons x l ih =>
    simp only [checkDistinct, bind_ok_iff, ih, rejectIf_ok_iff, List.mem_cons, List.map_cons,
      List.nodup_cons, List.mem_map]
    constructor
    · rintro ⟨_, hx, _, hseen, hl, hnodup, hfresh⟩
      refine ⟨by simpa using ⟨hx, hl⟩, ⟨?_, hnodup⟩, ?_⟩
      · rintro ⟨y, hy, hyx⟩
        exact hfresh y hy (.inl hyx)
      · rintro y (rfl | hy)
        · exact hseen
        · exact fun h => hfresh y hy (.inr h)
    · rintro ⟨hall, ⟨hx, hnodup⟩, hfresh⟩
      refine ⟨(), hall x (.inl rfl), (), hfresh x (.inl rfl), fun y hy => hall y (.inr hy), hnodup,
        ?_⟩
      rintro y hy (hyx | hys)
      · exact hx ⟨y, hy, hyx⟩
      · exact hfresh y (.inr hy) hys

end Except

/-- A method on a mutable receiver of type `σ`. -/
def Mut (σ ε α : Type) : Type := σ → Except ε α × σ

namespace Mut
variable {σ τ ε ε' α β : Type}

instance : Monad (Mut σ ε) where
  pure a s := (.ok a, s)
  bind x f s := match x s with
    | (.ok a, s') => f a s'
    | (.error e, s') => (.error e, s')

instance : MonadExceptOf ε (Mut σ ε) where
  throw e s := (.error e, s)
  tryCatch x f s := match x s with
    | (.ok a, s') => (.ok a, s')
    | (.error e, s') => f e s'

/-- Reads the receiver. -/
def self : Mut σ ε σ := fun s => (.ok s, s)

/-- `*self = s`. -/
def assign (s : σ) : Mut σ ε Unit := fun _ => (.ok (), s)

/-- A check that does not touch the receiver, with `?` on its result. -/
def check (x : Except ε α) : Mut σ ε α := fun s => (x, s)

instance : MonadLift (Except ε) (Mut σ ε) := ⟨check⟩

/-- `map_err`. -/
def mapErr (f : ε → ε') (x : Mut σ ε α) : Mut σ ε' α := fun s =>
  match x s with
  | (.ok a, s') => (.ok a, s')
  | (.error e, s') => (.error (f e), s')

/-- A method of a field of the receiver. -/
def onField (read : σ → τ) (write : σ → τ → σ) (x : Mut τ ε α) : Mut σ ε α := fun s =>
  match x (read s) with
  | (r, t) => (r, write s t)

/-- The call returned `a` and left the receiver at `s'`. -/
def Returns (x : Mut σ ε α) (s : σ) (a : α) (s' : σ) : Prop := x s = (.ok a, s')

/-- The call failed with `e` and left the receiver at `s'`. -/
def Fails (x : Mut σ ε α) (s : σ) (e : ε) (s' : σ) : Prop := x s = (.error e, s')

variable {x : Mut σ ε α} {f : α → Mut σ ε β} {s s' : σ} {a : α} {b : β} {e : ε}

theorem returns_or_fails (x : Mut σ ε α) (s : σ) :
    (∃ a, x.Returns s a (x s).2) ∨ ∃ e, x.Fails s e (x s).2 := by
  cases h : (x s).1 with
  | ok a => exact Or.inl ⟨a, Prod.ext h rfl⟩
  | error e => exact Or.inr ⟨e, Prod.ext h rfl⟩

@[simp] theorem returns_bind :
    (x >>= f).Returns s b s' ↔ ∃ a t, x.Returns s a t ∧ (f a).Returns t b s' := by
  simp only [Returns, bind]
  split <;> rename_i h <;> simp [h]

@[simp] theorem fails_bind :
    (x >>= f).Fails s e s' ↔ x.Fails s e s' ∨ ∃ a t, x.Returns s a t ∧ (f a).Fails t e s' := by
  simp only [Returns, Fails, bind]
  split <;> rename_i h <;> simp [h]

@[simp] theorem returns_pure : (pure b : Mut σ ε β).Returns s a' s' ↔ b = a' ∧ s = s' := by
  simp [Returns, pure]

@[simp] theorem fails_pure : ¬(pure b : Mut σ ε β).Fails s e s' := by
  simp [Fails, pure]

@[simp] theorem returns_throw : ¬(throw e : Mut σ ε α).Returns s a s' := by
  simp [Returns, throw, throwThe, MonadExceptOf.throw]

@[simp] theorem fails_throw {e' : ε} : (throw e : Mut σ ε α).Fails s e' s' ↔ e = e' ∧ s = s' := by
  simp [Fails, throw, throwThe, MonadExceptOf.throw]

@[simp] theorem returns_self {t : σ} : (self : Mut σ ε σ).Returns s t s' ↔ s = t ∧ s = s' := by
  simp [Returns, self]

@[simp] theorem fails_self : ¬(self : Mut σ ε σ).Fails s e s' := by
  simp [Fails, self]

@[simp] theorem returns_assign {t : σ} {u : Unit} :
    (assign t : Mut σ ε Unit).Returns s u s' ↔ t = s' := by
  simp [Returns, assign]

@[simp] theorem fails_assign {t : σ} : ¬(assign t : Mut σ ε Unit).Fails s e s' := by
  simp [Fails, assign]

@[simp] theorem returns_check {y : Except ε α} :
    (check y : Mut σ ε α).Returns s a s' ↔ y = .ok a ∧ s = s' := by
  simp [Returns, check]

@[simp] theorem fails_check {y : Except ε α} :
    (check y : Mut σ ε α).Fails s e s' ↔ y = .error e ∧ s = s' := by
  simp [Fails, check]

@[simp] theorem returns_lift {y : Except ε α} :
    (liftM y : Mut σ ε α).Returns s a s' ↔ y = .ok a ∧ s = s' := returns_check

@[simp] theorem fails_lift {y : Except ε α} :
    (liftM y : Mut σ ε α).Fails s e s' ↔ y = .error e ∧ s = s' := fails_check

@[simp] theorem returns_mapErr {g : ε → ε'} :
    (mapErr g x).Returns s a s' ↔ x.Returns s a s' := by
  simp only [Returns, mapErr]
  split <;> rename_i h <;> simp [h]

@[simp] theorem fails_mapErr {g : ε → ε'} {e' : ε'} :
    (mapErr g x).Fails s e' s' ↔ ∃ e, x.Fails s e s' ∧ g e = e' := by
  simp only [Fails, mapErr]
  split <;> rename_i h <;> simp [h, and_comm]

theorem returns_onField {read : σ → τ} {write : σ → τ → σ} {x : Mut τ ε α} :
    (onField read write x).Returns s a s' ↔ ∃ t, x.Returns (read s) a t ∧ write s t = s' := by
  simp only [Returns, onField]
  rcases x (read s) with ⟨r, t⟩
  simp [and_comm]

theorem fails_onField {read : σ → τ} {write : σ → τ → σ} {x : Mut τ ε α} :
    (onField read write x).Fails s e s' ↔ ∃ t, x.Fails (read s) e t ∧ write s t = s' := by
  simp only [Fails, onField]
  rcases x (read s) with ⟨r, t⟩
  simp [and_comm]

@[simp] theorem returns_rejectIf {c : Prop} [Decidable c] {u : Unit} :
    (rejectIf c e : Mut σ ε Unit).Returns s u s' ↔ ¬c ∧ s = s' := by
  unfold rejectIf
  split_ifs with h <;> simp [h]

@[simp] theorem fails_rejectIf {c : Prop} [Decidable c] {e' : ε} :
    (rejectIf c e : Mut σ ε Unit).Fails s e' s' ↔ (c ∧ e = e') ∧ s = s' := by
  unfold rejectIf
  split_ifs with h <;> simp [h]

/-- The rules that take a call that returned apart, one step at a time; for `simp only`. -/
theorem returns_steps :
    (∀ (σ ε β : Type) (g : σ → Mut σ ε β) s b s',
      (self >>= g).Returns s b s' ↔ (g s).Returns s b s') ∧
    (∀ (σ ε α β : Type) (y : Except ε α) (f : α → Mut σ ε β) s b s',
      ((liftM y : Mut σ ε α) >>= f).Returns s b s' ↔ ∃ a, y = .ok a ∧ (f a).Returns s b s') ∧
    (∀ (σ ε β : Type) (c : Prop) (_ : Decidable c) (e : ε) (g : Unit → Mut σ ε β) s b s',
      ((rejectIf c e : Mut σ ε Unit) >>= g).Returns s b s' ↔ ¬c ∧ (g ()).Returns s b s') ∧
    (∀ (σ ε β : Type) (t : σ) (g : Unit → Mut σ ε β) s b s',
      (assign t >>= g).Returns s b s' ↔ (g ()).Returns t b s') ∧
    (∀ (σ ε α : Type) (y : Except ε α) (s : σ) a s',
      (liftM y : Mut σ ε α).Returns s a s' ↔ y = .ok a ∧ s = s') ∧
    (∀ (σ ε : Type) (c : Prop) (_ : Decidable c) (e : ε) (s : σ) u s',
      (rejectIf c e : Mut σ ε Unit).Returns s u s' ↔ ¬c ∧ s = s') ∧
    (∀ (σ ε : Type) (t s : σ) u s', (assign t : Mut σ ε Unit).Returns s u s' ↔ t = s') ∧
    ∀ (σ ε α : Type) (a b : α) (s s' : σ), (pure a : Mut σ ε α).Returns s b s' ↔ a = b ∧ s = s' := by
  simp [Unique.exists_iff]

/-- A call that fails leaves the receiver as it was. -/
def KeepsOnError (x : Mut σ ε α) : Prop := ∀ s e s', x.Fails s e s' → s' = s

/-- A call that fails on this receiver leaves it as it was. -/
def KeepsOnErrorAt (x : Mut σ ε α) (s : σ) : Prop := ∀ e s', x.Fails s e s' → s' = s

theorem keepsOnError_iff : x.KeepsOnError ↔ ∀ s, x.KeepsOnErrorAt s := Iff.rfl

/-- The rules for calls that keep their receiver on an error; for `simp only`. -/
theorem keepsOnError_steps :
    (∀ (σ ε β : Type) (g : σ → Mut σ ε β) s,
      (self >>= g).KeepsOnErrorAt s ↔ (g s).KeepsOnErrorAt s) ∧
    (∀ (σ ε α β : Type) (y : Except ε α) (f : α → Mut σ ε β) s,
      ((liftM y : Mut σ ε α) >>= f).KeepsOnErrorAt s ↔ ∀ a, y = .ok a → (f a).KeepsOnErrorAt s) ∧
    (∀ (σ ε β : Type) (c : Prop) (_ : Decidable c) (e : ε) (g : Unit → Mut σ ε β) s,
      ((rejectIf c e : Mut σ ε Unit) >>= g).KeepsOnErrorAt s ↔ (¬c → (g ()).KeepsOnErrorAt s)) ∧
    (∀ (σ ε α : Type) (y : Except ε α) (s : σ), (liftM y : Mut σ ε α).KeepsOnErrorAt s) ∧
    (∀ (σ ε : Type) (t s : σ), (assign t : Mut σ ε Unit).KeepsOnErrorAt s) ∧
    (∀ (σ ε α : Type) (a : α) (s : σ), (pure a : Mut σ ε α).KeepsOnErrorAt s) ∧
    ∀ (σ ε α β : Type) (x : Mut σ ε α) (g : α → β) s,
      (x >>= fun a => pure (g a)).KeepsOnErrorAt s ↔ x.KeepsOnErrorAt s := by
  refine ⟨fun _ _ _ _ _ => Iff.rfl, fun _ _ _ _ y _ _ => ?_, fun _ _ _ c _ _ _ _ => ?_, ?_, ?_, ?_, ?_⟩
  · cases y <;> simp [KeepsOnErrorAt]
  · by_cases h : c <;> simp [KeepsOnErrorAt, h, Unique.exists_iff]
  all_goals simp +contextual [KeepsOnErrorAt]

theorem keepsOnError_pure (a : α) : (pure a : Mut σ ε α).KeepsOnError :=
  fun _ _ _ h => absurd h fails_pure

theorem keepsOnError_self_bind {g : σ → Mut σ ε β} (h : ∀ s, (g s).KeepsOnError) :
    (self >>= g).KeepsOnError :=
  fun s e s' hf => h s s e s' hf

theorem keepsOnError_lift_bind {y : Except ε α} (h : ∀ a, (f a).KeepsOnError) :
    ((liftM y : Mut σ ε α) >>= f).KeepsOnError := by
  intro s e s' hf
  rcases fails_bind.mp hf with hf | ⟨a, t, hr, hf⟩
  · exact (fails_lift.mp hf).2.symm
  · rw [h a t e s' hf, (returns_lift.mp hr).2]

theorem keepsOnError_rejectIf_bind {c : Prop} [Decidable c] {e₀ : ε} {g : Unit → Mut σ ε β}
    (h : (g ()).KeepsOnError) : ((rejectIf c e₀ : Mut σ ε Unit) >>= g).KeepsOnError := by
  intro s e s' hf
  rcases fails_bind.mp hf with hf | ⟨a, t, hr, hf⟩
  · exact (fails_rejectIf.mp hf).2.symm
  · rw [h t e s' hf, (returns_rejectIf.mp hr).2]

theorem KeepsOnError.bind_pure {g : α → β} (h : x.KeepsOnError) :
    (x >>= fun a => pure (g a)).KeepsOnError := by
  intro s e s' hf
  simp only [fails_bind, fails_pure, and_false, exists_false, or_false] at hf
  exact h s e s' hf

end Mut
