import Mathlib

namespace List

variable {α β : Type*}

theorem IsPrefix.append_getElem? {l l' : List α} {a : α} (h : l <+: l')
    (ha : l'[l.length]? = some a) : l ++ [a] <+: l' := by
  obtain ⟨t, rfl⟩ := h
  obtain ⟨t', rfl⟩ : ∃ t', t = a :: t' := by
    cases t with
    | nil => simp at ha
    | cons b t' => exact ⟨t', by simpa using ha⟩
  exact ⟨t', by simp⟩

theorem countP_le_add {p q r : α → Bool} {l : List α}
    (h : ∀ a ∈ l, p a = true → q a = true ∨ r a = true) :
    l.countP p ≤ l.countP q + l.countP r := by
  induction l with
  | nil => simp
  | cons a l ih =>
    have hrest := ih fun b hb => h b (mem_cons_of_mem a hb)
    have hhead := h a mem_cons_self
    rw [countP_cons, countP_cons, countP_cons]
    split_ifs <;> simp_all <;> omega

/-- Of two lists, entry by entry, all of the one pass if and only if all of the other do, where an
entry that is well written passes if its partner does. -/
theorem forall_iff_forall_iff {P W : α → Prop} {l l' : List α} (hPW : ∀ a, P a → W a)
    (h : Forall₂ (fun a b => (P b → W a → P a) ∧ (P a → W b → P b)) l l') :
    ((∀ a ∈ l, P a) ↔ ∀ b ∈ l', P b) ↔
      (Forall₂ (fun a b => P a ∨ P b) l l' → ((∀ a ∈ l, W a) ↔ ∀ b ∈ l', W b)) := by
  have hsome : ((∀ a ∈ l, P a) ∨ ∀ b ∈ l', P b) → Forall₂ (fun a b => P a ∨ P b) l l' := by
    induction h with
    | nil => simp
    | cons _ _ ih =>
      rintro (hall | hall)
      · rw [forall_mem_cons] at hall
        exact .cons (.inl hall.1) (ih (.inl hall.2))
      · rw [forall_mem_cons] at hall
        exact .cons (.inr hall.1) (ih (.inr hall.2))
  have hwritten : Forall₂ (fun a b => P a ∨ P b) l l' →
      ((∀ a ∈ l, P a) ↔ ∀ a ∈ l, W a) ∧ ((∀ b ∈ l', P b) ↔ ∀ b ∈ l', W b) := by
    clear hsome
    induction h with
    | nil => simp
    | @cons a b _ _ hab _ ih =>
      rintro (_ | ⟨hpass, hrest⟩)
      have hiff := ih hrest
      have ha : P a ↔ W a := ⟨hPW a, fun hw => hpass.elim id fun hb => hab.1 hb hw⟩
      have hb : P b ↔ W b := ⟨hPW b, fun hw => hpass.elim (fun ha => hab.2 ha hw) id⟩
      simp only [forall_mem_cons, ha, hb, hiff.1, hiff.2, and_self]
  by_cases hpass : Forall₂ (fun a b => P a ∨ P b) l l'
  · rw [(hwritten hpass).1, (hwritten hpass).2]
    exact ⟨fun h _ => h, fun h => h hpass⟩
  · have hnone := not_or.mp (mt hsome hpass)
    exact iff_of_true (iff_of_false hnone.1 hnone.2) fun h => absurd h hpass

theorem mem_destutter_ne [DecidableEq α] {a : α} {l : List α} (h : a ∈ l) :
    a ∈ l.destutter (· ≠ ·) := by
  -- the run that `a` is in keeps its first entry
  suffices hrun : ∀ (l : List α) (b : α), a ∈ b :: l → a ∈ l.destutter' (· ≠ ·) b by
    cases l with
    | nil => cases h
    | cons b l => exact hrun l b h
  intro l
  induction l with
  | nil => exact fun b h => h
  | cons c l ih =>
    intro b h
    rw [destutter'_cons]
    by_cases hbc : b = c
    · subst hbc
      rw [if_neg (by simp)]
      exact ih b (by simpa using h)
    · rw [if_pos hbc, mem_cons]
      exact (mem_cons.mp h).imp_right (ih c)

theorem find?_of_nodup_map [DecidableEq β] {f : α → β} {l : List α} (hnodup : (l.map f).Nodup)
    {a : α} (ha : a ∈ l) : l.find? (fun x => f x = f a) = some a := by
  cases hfind : l.find? fun x => f x = f a with
  | none => simpa using find?_eq_none.mp hfind a ha
  | some b =>
    have hb : f b = f a := by simpa using find?_some hfind
    rw [inj_on_of_nodup_map hnodup (mem_of_find?_eq_some hfind) ha hb]

end List

namespace Option

open List

variable {α β : Type} {l : List α}

theorem mapM_congr {f g : α → Option β} (h : ∀ a ∈ l, f a = g a) : l.mapM f = l.mapM g := by
  induction l with
  | nil => rfl
  | cons a l ih =>
    rw [mapM_cons, mapM_cons, h a mem_cons_self, ih fun b hb => h b (mem_cons_of_mem _ hb)]

end Option
