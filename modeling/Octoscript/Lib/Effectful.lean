import Octoscript.Lib.Interaction
import Octoscript.Lib.Mutation

/-- A fallible method on a mutable receiver that performs operations. -/
def Effectful (Op : Type) (Ans : Op → Type) (σ ε α : Type) : Type :=
  σ → Prog Op Ans (Except ε α × σ)

namespace Effectful
variable {Op : Type} {Ans : Op → Type} {σ τ ε ε' α β : Type}

/-- What follows a call that ended. -/
def next (f : α → Effectful Op Ans σ ε β) : Except ε α × σ → Prog Op Ans (Except ε β × σ)
  | (.ok a, s) => f a s
  | (.error e, s) => .done (.error e, s)

instance : Monad (Effectful Op Ans σ ε) where
  pure a s := .done (.ok a, s)
  bind x f s := (x s).bind (next f)

def self : Effectful Op Ans σ ε σ := fun s => .done (.ok s, s)

/-- A method that performs no operation. -/
def ofMut (x : Mut σ ε α) : Effectful Op Ans σ ε α := fun s => .done (x s)

instance : MonadLift (Mut σ ε) (Effectful Op Ans σ ε) := ⟨ofMut⟩

/-- A check that does not touch the receiver, with `?` on its result. -/
def check (x : Except ε α) : Effectful Op Ans σ ε α := fun s => .done (x, s)

def perform (op : Op) : Effectful Op Ans σ ε (Ans op) := fun s => .perform op fun a => .done (.ok a, s)

/-- `map_err`. -/
def mapErr (f : ε → ε') (x : Effectful Op Ans σ ε α) : Effectful Op Ans σ ε' α := fun s =>
  (x s).bind fun r => .done (r.1.mapError f, r.2)

/-- The result of a call that may fail, as a value. -/
def attempt (x : Effectful Op Ans σ ε α) : Effectful Op Ans σ ε' (Except ε α) := fun s =>
  (x s).bind fun r => .done (.ok r.1, r.2)

/-- A method of another receiver over a smaller signature, whose receiver is not kept. -/
def within {Op' : Type} {Ans' : Op' → Type} (f : Op → Op') (back : (op : Op) → Ans' (f op) → Ans op)
    (t : τ) (x : Effectful Op Ans τ ε α) : Effectful Op' Ans' σ ε α := fun s =>
  ((x t).embed f back).bind fun r => .done (r.1, s)

theorem bind_apply (x : Effectful Op Ans σ ε α) (f : α → Effectful Op Ans σ ε β) (s : σ) :
    (x >>= f) s = (x s).bind (next f) := rfl

theorem ofMut_bind_pure (x : Mut σ ε α) (f : α → β) (s : σ) :
    ((ofMut x : Effectful Op Ans σ ε α) s).bind (next fun a => pure (f a)) =
      .done ((x >>= fun a => pure (f a)) s) := by
  rw [ofMut, Prog.bind]
  simp only [bind]
  rcases x s with ⟨_ | _, s'⟩ <;> rfl

/-- A served call: its result, and the receiver it leaves. -/
def answer {R : Type} (g : Except ε α → R) (x : Effectful Op Ans σ ε α) (s : σ) :
    Prog Op Ans (R × Option σ) :=
  (x s).bind fun r => .done (g r.1, some r.2)

end Effectful

namespace Interaction.Rules
variable {P S Op : Type} {Ans : Op → Type} {σ ε ε' α β : Type} (G : Rules P S Op Ans)

/-- However the other processes interfere, the call keeps the invariant, does only
what it may, and ends in `ok` with a value or in `err` with an error. -/
def Meets (p : P) (ok : α → σ → S → Prop) (err : ε → σ → S → Prop) (x : Effectful Op Ans σ ε α)
    (k : σ) (s : S) : Prop :=
  G.Ensures p (fun r s' => (∀ a, r.1 = .ok a → ok a r.2 s') ∧ (∀ e, r.1 = .error e → err e r.2 s'))
    (x k) s

variable {G} {p : P} {ok : β → σ → S → Prop} {err : ε → σ → S → Prop} {k : σ} {s : S}

theorem meets_pure {b : β} (h : ok b k s) :
    G.Meets p ok err (pure b : Effectful Op Ans σ ε β) k s :=
  ⟨fun _ hb => Except.ok.inj hb ▸ h, fun _ he => nomatch he⟩

theorem meets_bind {x : Effectful Op Ans σ ε α} {f : α → Effectful Op Ans σ ε β}
    (h : G.Meets p (fun a k' s' => G.Meets p ok err (f a) k' s') err x k s) :
    G.Meets p ok err (x >>= f) k s := by
  apply Ensures.bind
  refine Ensures.mono h ?_
  rintro ⟨r, k'⟩ s' ⟨hok, herr⟩
  cases r with
  | ok a => exact hok a rfl
  | error e => exact ⟨fun _ h => (nomatch h), fun _ he => Except.error.inj he ▸ herr e rfl⟩

theorem meets_self_bind {f : σ → Effectful Op Ans σ ε β} (h : G.Meets p ok err (f k) k s) :
    G.Meets p ok err (Effectful.self >>= f) k s := h

theorem meets_check {x : Except ε β} (herr : ∀ e, x = .error e → err e k s)
    (hok : ∀ b, x = .ok b → ok b k s) : G.Meets p ok err (Effectful.check x) k s :=
  ⟨hok, herr⟩

theorem meets_check_bind {x : Except ε α} {f : α → Effectful Op Ans σ ε β}
    (herr : ∀ e, x = .error e → err e k s) (hok : ∀ a, x = .ok a → G.Meets p ok err (f a) k s) :
    G.Meets p ok err (Effectful.check x >>= f) k s :=
  meets_bind ⟨fun a ha => hok a ha, herr⟩

theorem meets_ofMut {x : Mut σ ε β} (hok : ∀ b k', x.Returns k b k' → ok b k' s)
    (herr : ∀ e k', x.Fails k e k' → err e k' s) : G.Meets p ok err (Effectful.ofMut x) k s :=
  ⟨fun b hb => hok b _ (Prod.ext hb rfl), fun e he => herr e _ (Prod.ext he rfl)⟩

/-- A method of a field of the receiver. -/
theorem meets_onField {τ : Type} {read : σ → τ} {write : σ → τ → σ} {g : ε' → ε} {x : Mut τ ε' β}
    (hok : ∀ b t, x.Returns (read k) b t → ok b (write k t) s)
    (herr : ∀ e t, x.Fails (read k) e t → err (g e) (write k t) s) :
    G.Meets p ok err (Effectful.ofMut (Mut.mapErr g (x.onField read write))) k s := by
  apply meets_ofMut
  · intro b k' hx
    obtain ⟨t, ht, rfl⟩ := Mut.returns_onField.mp (Mut.returns_mapErr.mp hx)
    exact hok b t ht
  · intro e k' hx
    obtain ⟨e', he', rfl⟩ := Mut.fails_mapErr.mp hx
    obtain ⟨t, ht, rfl⟩ := Mut.fails_onField.mp he'
    exact herr e' t ht

theorem meets_ofMut_bind {x : Mut σ ε α} {f : α → Effectful Op Ans σ ε β}
    (hok : ∀ a k', x.Returns k a k' → G.Meets p ok err (f a) k' s)
    (herr : ∀ e k', x.Fails k e k' → err e k' s) :
    G.Meets p ok err (Effectful.ofMut x >>= f) k s :=
  meets_bind (meets_ofMut hok herr)

/-- `A` describes the shared state before the operation and is kept by the others. -/
theorem meets_perform_bind {op : Op} {f : Ans op → Effectful Op Ans σ ε β} (A : S → Prop)
    (hA : A s) (hstable : ∀ s s' q, G.inv s → q ≠ p → G.may q s s' → A s → A s')
    (h : ∀ s', G.inv s' → A s' → ∀ a s'', G.exec p s' op a s'' →
      G.inv s'' ∧ G.may p s' s'' ∧ G.Meets p ok err (f a) k s'') :
    G.Meets p ok err (Effectful.perform op >>= f) k s := by
  intro s' hi hinv a s'' he
  exact h s' hinv (hi.stable hstable hA) a s'' he

theorem meets_mapErr {err : ε' → σ → S → Prop} {g : ε → ε'} {x : Effectful Op Ans σ ε β}
    (h : G.Meets p ok (fun e => err (g e)) x k s) : G.Meets p ok err (Effectful.mapErr g x) k s := by
  apply Ensures.bind
  refine Ensures.mono h ?_
  rintro ⟨r, k'⟩ s' ⟨hok, herr⟩
  cases r with
  | ok a => exact ⟨fun b hb => hok b (by simpa [Except.mapError] using hb), fun _ h => nomatch h⟩
  | error e => exact ⟨fun _ h => (nomatch h), fun _ he => Except.error.inj he ▸ herr e rfl⟩

theorem meets_attempt {ok : Except ε α → σ → S → Prop} {err : ε' → σ → S → Prop}
    {x : Effectful Op Ans σ ε α}
    (h : G.Meets p (fun a => ok (.ok a)) (fun e => ok (.error e)) x k s) :
    G.Meets p ok err (Effectful.attempt x) k s := by
  apply Ensures.bind
  refine Ensures.mono h ?_
  rintro ⟨r, k'⟩ s' ⟨hok, herr⟩
  cases r with
  | ok a => exact ⟨fun b hb => Except.ok.inj hb ▸ hok a rfl, fun _ h => nomatch h⟩
  | error e => exact ⟨fun b hb => Except.ok.inj hb ▸ herr e rfl, fun _ h => nomatch h⟩

theorem meets_within {Op' τ : Type} {Ans' : Op' → Type} {G : Rules P S Op' Ans'} {f : Op → Op'}
    {back : (op : Op) → Ans' (f op) → Ans op} {t : τ} {x : Effectful Op Ans τ ε β}
    (h : (G.restrict f back).Meets p (fun b _ s' => ok b k s') (fun e _ s' => err e k s') x t s) :
    G.Meets p ok err (Effectful.within f back t x) k s :=
  Ensures.bind (Ensures.mono (Ensures.embed h) fun _ _ hr => hr)

theorem Meets.mono {ok' : β → σ → S → Prop} {err' : ε → σ → S → Prop} {x : Effectful Op Ans σ ε β}
    (h : G.Meets p ok err x k s) (hok : ∀ b k s, ok b k s → ok' b k s)
    (herr : ∀ e k s, err e k s → err' e k s) : G.Meets p ok' err' x k s :=
  Ensures.mono h fun r s' hr =>
    ⟨fun b hb => hok b r.2 s' (hr.1 b hb), fun e he => herr e r.2 s' (hr.2 e he)⟩

theorem Meets.answer {R : Type} {g : Except ε β → R} {Q : R × Option σ → S → Prop}
    {x : Effectful Op Ans σ ε β} (h : G.Meets p ok err x k s)
    (hok : ∀ b k s, ok b k s → Q (g (.ok b), some k) s)
    (herr : ∀ e k s, err e k s → Q (g (.error e), some k) s) :
    G.Ensures p Q (Effectful.answer g x k) s := by
  apply Ensures.bind
  refine Ensures.mono h ?_
  rintro ⟨r, k'⟩ s' ⟨hb, he⟩
  cases r with
  | ok b => exact hok b k' s' (hb b rfl)
  | error e => exact herr e k' s' (he e rfl)

end Interaction.Rules

namespace Interaction.System
variable {P S Op L Req R : Type} {Ans : Op → Type} {σ ε α : Type}
  {Y : System P S Op Ans L R Req} {p : P} {s s' s'' : S} {k k' : σ} {T ε' β : Type}
  {x : Effectful Op Ans σ ε α} {a : α}

theorem Runs.andThen {f : α → Effectful Op Ans σ ε β} {r : Except ε β × σ}
    (hx : Y.Runs p s (x k) (.ok a, k') s') (hf : Y.Runs p s' (f a k') r s'') :
    Y.Runs p s ((x >>= f) k) r s'' :=
  hx.bind hf

theorem runs_check {y : Except ε α} (h : y = .ok a) :
    Y.Runs p s ((Effectful.check y : Effectful Op Ans σ ε α) k) (.ok a, k) s := by
  rw [h]
  exact .done

theorem runs_rejectIf {c : Prop} [Decidable c] {e : ε} (h : ¬c) :
    Y.Runs p s ((Effectful.check (rejectIf c e) : Effectful Op Ans σ ε Unit) k) (.ok (), k) s :=
  runs_check (Except.rejectIf_ok_iff.mpr h)

theorem runs_ofMut {y : Mut σ ε α} (h : y.Returns k a k') :
    Y.Runs p s ((Effectful.ofMut y : Effectful Op Ans σ ε α) k) (.ok a, k') s := by
  rw [Effectful.ofMut, show y k = _ from h]
  exact .done

theorem runs_onField {τ : Type} {read : σ → τ} {write : σ → τ → σ} {g : ε' → ε} {y : Mut τ ε' α}
    {t : τ} (h : y.Returns (read k) a t) :
    Y.Runs p s ((Effectful.ofMut (Mut.mapErr g (y.onField read write)) : Effectful Op Ans σ ε α) k)
      (.ok a, write k t) s :=
  runs_ofMut (Mut.returns_mapErr.mpr (Mut.returns_onField.mpr ⟨t, h, rfl⟩))

theorem runs_perform {op : Op} {b : Ans op} (h : Y.exec p s op b s') :
    Y.Runs p s ((Effectful.perform op : Effectful Op Ans σ ε (Ans op)) k) (.ok b, k) s' :=
  .perform b h .done

theorem Runs.mapErr (h : Y.Runs p s (x k) (.ok a, k') s') (g : ε → ε') :
    Y.Runs p s (Effectful.mapErr g x k) (.ok a, k') s' :=
  h.bind .done

theorem Runs.attempt (h : Y.Runs p s (x k) (.ok a, k') s') :
    Y.Runs p s ((Effectful.attempt x : Effectful Op Ans σ ε' _) k) (.ok (.ok a), k') s' :=
  h.bind .done

theorem Runs.within {Op' τ : Type} {Ans' : Op' → Type} {Y : System P S Op' Ans' L R Req}
    {f : Op → Op'} {back : (op : Op) → Ans' (f op) → Ans op} {t : τ}
    (h : (Y.inside f back).Runs p s (x k) (.ok a, k') s') :
    Y.Runs p s (Effectful.within f back k x t) (.ok a, t) s' :=
  h.embed.bind .done

theorem Runs.answer {r : Except ε α} (h : Y.Runs p s (x k) (r, k') s')
    (g : Except ε α → T) : Y.Runs p s (x.answer g k) (g r, some k') s' :=
  h.bind .done

end Interaction.System
