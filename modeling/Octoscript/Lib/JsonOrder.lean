import Octoscript.Lib.Json

namespace Json

open List

/-- Equal up to the order of the members of objects. -/
inductive Same : Value → Value → Prop
  | null : Same .null .null
  | bool (b : Bool) : Same (.bool b) (.bool b)
  | number (n : Number) : Same (.number n) (.number n)
  | string (s : String) : Same (.string s) (.string s)
  | array {vs ws : List Value} (h : Forall₂ Same vs ws) : Same (.array vs) (.array ws)
  | object {fs gs hs : List (String × Value)} (hperm : fs.Perm gs)
      (hkeys : gs.map Prod.fst = hs.map Prod.fst)
      (hvalues : Forall₂ Same (gs.map Prod.snd) (hs.map Prod.snd)) :
      Same (.object fs) (.object hs)

mutual

/-- Every object is a map: no key is listed twice. -/
def distinctKeys : Value → Bool
  | .null | .bool _ | .number _ | .string _ => true
  | .array vs => distinctKeysOf vs
  | .object fs => decide (fs.map Prod.fst).Nodup && distinctKeysIn fs

def distinctKeysOf : List Value → Bool
  | [] => true
  | v :: vs => distinctKeys v && distinctKeysOf vs

def distinctKeysIn : List (String × Value) → Bool
  | [] => true
  | (_, v) :: fs => distinctKeys v && distinctKeysIn fs

end

theorem forall₂_of_map_eq {α β γ : Type*} {R : α → β → Prop} {f : α → γ} {g : β → γ}
    {l : List α} {m : List β} (heq : l.map f = m.map g)
    (h : ∀ a ∈ l, ∀ b, f a = g b → R a b) : Forall₂ R l m := by
  induction l generalizing m with
  | nil =>
    cases m with
    | nil => exact .nil
    | cons b m => cases heq
  | cons a l ih =>
    cases m with
    | nil => cases heq
    | cons b m =>
      obtain ⟨hhead, htail⟩ := cons.inj heq
      exact .cons (h a mem_cons_self b hhead)
        (ih htail fun a' ha' => h a' (mem_cons_of_mem _ ha'))

theorem map_eq_of_forall₂ {α β γ : Type*} {R : α → β → Prop} {f : α → γ} {g : β → γ}
    {l : List α} {m : List β} (hR : Forall₂ R l m)
    (h : ∀ a ∈ l, ∀ b, R a b → f a = g b) : l.map f = m.map g := by
  induction hR with
  | nil => rfl
  | cons hab _ ih =>
    rw [map_cons, map_cons, h _ mem_cons_self _ hab,
      ih fun a ha => h a (mem_cons_of_mem _ ha)]

theorem eq_of_map_eq {α β : Type*} {l m : List (α × β)} (hfst : l.map Prod.fst = m.map Prod.fst)
    (hsnd : l.map Prod.snd = m.map Prod.snd) : l = m := by
  rw [← zip_unzip l, ← zip_unzip m]
  simp only [unzip_fst, unzip_snd, hfst, hsnd]

/-- A list whose image is rearranged can be rearranged itself. -/
theorem exists_perm_of_map_perm {α β : Type*} {f : α → β} {l : List α} {m : List β}
    (h : (l.map f).Perm m) : ∃ l' : List α, l.Perm l' ∧ l'.map f = m := by
  generalize hl : l.map f = image at h
  induction h generalizing l with
  | nil =>
    rw [map_eq_nil_iff] at hl
    exact ⟨[], hl ▸ List.Perm.refl _, rfl⟩
  | cons b _ ih =>
    obtain ⟨a, rest, rfl, rfl, hrest⟩ := map_eq_cons_iff.mp hl
    obtain ⟨rest', hperm, hmap⟩ := ih hrest
    exact ⟨a :: rest', hperm.cons a, by rw [map_cons, hmap]⟩
  | swap b c l₀ =>
    obtain ⟨a, rest, rfl, rfl, hrest⟩ := map_eq_cons_iff.mp hl
    obtain ⟨a', rest', rfl, rfl, hrest'⟩ := map_eq_cons_iff.mp hrest
    exact ⟨a' :: a :: rest', List.Perm.swap _ _ _, by simp [hrest']⟩
  | trans _ _ ih ih' =>
    obtain ⟨l', hperm, hmap⟩ := ih hl
    obtain ⟨l'', hperm', hmap'⟩ := ih' hmap
    exact ⟨l'', hperm.trans hperm', hmap'⟩

/-- Members with distinct keys have one order by key. -/
theorem insertionSort_eq_of_perm {α : Type*} {fs gs : List (String × α)} (hperm : fs.Perm gs)
    (hnodup : (fs.map Prod.fst).Nodup) :
    fs.insertionSort (fun a b => a.1 ≤ b.1) = gs.insertionSort fun a b => a.1 ≤ b.1 := by
  have htotal : Std.Total fun a b : String × α => a.1 ≤ b.1 := ⟨fun a b => le_total a.1 b.1⟩
  have htrans : IsTrans (String × α) fun a b => a.1 ≤ b.1 := ⟨fun _ _ _ => le_trans⟩
  have hsorted := fun l : List (String × α) =>
    pairwise_insertionSort (fun a b : String × α => a.1 ≤ b.1) l
  have hsort := fun l : List (String × α) =>
    perm_insertionSort (fun a b : String × α => a.1 ≤ b.1) l
  apply List.Perm.eq_of_pairwise _ (hsorted fs) (hsorted gs)
    ((hsort fs).trans (hperm.trans (hsort gs).symm))
  intro a b ha hb hab hba
  have hmem : a ∈ fs := (hsort fs).mem_iff.mp ha
  have hmem' : b ∈ fs := hperm.mem_iff.mpr ((hsort gs).mem_iff.mp hb)
  exact inj_on_of_nodup_map hnodup hmem hmem' (le_antisymm hab hba)

end Json
