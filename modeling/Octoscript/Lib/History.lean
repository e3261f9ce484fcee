import Mathlib

namespace History
variable {α : Type}

/-- Every entry stands in the relation `P` to the entries before it. -/
def Each (P : α → List α → Prop) (l : List α) : Prop :=
  ∀ later a earlier, l = later ++ a :: earlier → P a earlier

theorem each_nil (P : α → List α → Prop) : Each P [] := by
  intro later a earlier h
  simp at h

theorem each_cons {P : α → List α → Prop} {a : α} {l : List α} :
    Each P (a :: l) ↔ P a l ∧ Each P l := by
  constructor
  · intro h
    refine ⟨h [] a l rfl, fun later b earlier hl => h (a :: later) b earlier ?_⟩
    rw [hl, List.cons_append]
  · rintro ⟨ha, hl⟩ later b earlier h
    cases later with
    | nil =>
      obtain ⟨rfl, rfl⟩ : a = b ∧ l = earlier := by simpa using h
      exact ha
    | cons c later =>
      obtain ⟨_, h⟩ : a = c ∧ l = later ++ b :: earlier := by simpa using h
      exact hl later b earlier h

theorem Each.append {P : α → List α → Prop} {new l : List α} (h : Each P (new ++ l)) : Each P l := by
  intro later a earlier hl
  exact h (new ++ later) a earlier (by rw [hl, List.append_assoc])

/-- `a` is the entry with which `Q` became true. -/
def Turns (Q : List α → Prop) (a : α) (l : List α) : Prop :=
  ∃ later earlier, l = later ++ a :: earlier ∧ Q (a :: earlier) ∧ ¬Q earlier

section
variable {Q : List α → Prop} {l : List α} {a b : α}

theorem Turns.append (h : Turns Q a l) (new : List α) : Turns Q a (new ++ l) := by
  obtain ⟨later, earlier, rfl, hafter, hbefore⟩ := h
  exact ⟨new ++ later, earlier, by rw [List.append_assoc], hafter, hbefore⟩

/-- What no entry makes false stays true. -/
theorem Each.keeps (hQ : Each (fun x earlier => Q earlier → Q (x :: earlier)) l) {new : List α}
    {earlier : List α} (hl : l = new ++ earlier) (h : Q earlier) : Q l := by
  induction new generalizing l with
  | nil => exact hl ▸ h
  | cons x new ih =>
    subst hl
    obtain ⟨hx, hrest⟩ := each_cons.mp hQ
    exact hx (ih hrest rfl)

theorem Turns.holds (hQ : Each (fun x earlier => Q earlier → Q (x :: earlier)) l)
    (h : Turns Q a l) : Q l := by
  obtain ⟨later, earlier, hl, hafter, _⟩ := h
  exact hQ.keeps hl hafter

/-- What no entry makes false becomes true once. -/
theorem Turns.unique (hQ : Each (fun x earlier => Q earlier → Q (x :: earlier)) l)
    (ha : Turns Q a l) (hb : Turns Q b l) : a = b := by
  induction l with
  | nil =>
    obtain ⟨later, earlier, hl, _⟩ := ha
    simp at hl
  | cons x l ih =>
    obtain ⟨_, hrest⟩ := each_cons.mp hQ
    obtain ⟨later, earlier, hl, hafter, hbefore⟩ := ha
    obtain ⟨later', earlier', hl', hafter', hbefore'⟩ := hb
    -- The newest entry turned `Q` in neither, in one or in both of the two.
    cases later with
    | nil =>
      obtain ⟨rfl, rfl⟩ : x = a ∧ l = earlier := by simpa using hl
      cases later' with
      | nil => exact (by simpa using hl' : x = b ∧ l = earlier').1
      | cons y later' =>
        obtain ⟨_, h⟩ : x = y ∧ l = later' ++ b :: earlier' := by simpa using hl'
        exact absurd (hrest.keeps h hafter') hbefore
    | cons y later =>
      obtain ⟨_, h⟩ : x = y ∧ l = later ++ a :: earlier := by simpa using hl
      cases later' with
      | nil =>
        obtain ⟨rfl, rfl⟩ : x = b ∧ l = earlier' := by simpa using hl'
        exact absurd (hrest.keeps h hafter) hbefore'
      | cons z later' =>
        obtain ⟨_, h'⟩ : x = z ∧ l = later' ++ b :: earlier' := by simpa using hl'
        exact ih hrest ⟨later, earlier, h, hafter, hbefore⟩ ⟨later', earlier', h', hafter', hbefore'⟩

end

/-- Every entry of `l` is still at its place in `l'`, related to what it was. -/
def Grows (R : α → α → Prop) (l l' : List α) : Prop :=
  ∀ (i : ℕ) a, l[i]? = some a → ∃ a', l'[i]? = some a' ∧ R a a'

section
variable {R : α → α → Prop} {l l' l'' : List α}

theorem Grows.refl (hR : ∀ a, R a a) (l : List α) : Grows R l l := fun _ a ha => ⟨a, ha, hR a⟩

theorem Grows.trans (hR : ∀ {a b c}, R a b → R b c → R a c) (h : Grows R l l')
    (h' : Grows R l' l'') : Grows R l l'' := by
  intro i a ha
  obtain ⟨a', ha', hstep⟩ := h i a ha
  obtain ⟨a'', ha'', hstep'⟩ := h' i a' ha'
  exact ⟨a'', ha'', hR hstep hstep'⟩

theorem Grows.of_mem (h : Grows R l l') {a : α} (ha : a ∈ l) : ∃ a' ∈ l', R a a' := by
  obtain ⟨i, hi⟩ := List.mem_iff_getElem?.mp ha
  obtain ⟨a', ha', hstep⟩ := h i a hi
  exact ⟨a', List.mem_of_getElem? ha', hstep⟩

theorem grows_append (hR : ∀ a, R a a) (l new : List α) : Grows R l (l ++ new) := by
  intro i a ha
  have hi := (List.getElem?_eq_some_iff.mp ha).1
  exact ⟨a, by rwa [List.getElem?_append_left hi], hR a⟩

theorem grows_set (hR : ∀ a, R a a) {i : Fin l.length} {a : α} (h : R (l.get i) a) :
    Grows R l (l.set i a) := by
  intro k b hb
  by_cases hk : (i : ℕ) = k
  · subst hk
    obtain rfl : l.get i = b := by simpa using hb
    exact ⟨a, by simp, h⟩
  · exact ⟨b, by simpa [List.getElem?_set, hk] using hb, hR b⟩

end

theorem filterMap_cons {β : Type} (f : α → Option β) (a : α) (l : List α) :
    (a :: l).filterMap f = (f a).toList ++ l.filterMap f := by
  rw [List.filterMap_cons]
  cases f a <;> rfl

/-- A set of identifiers that agrees with the history still does after one entry
adds to both. -/
theorem mem_union_toFinset [DecidableEq α] {A : Finset α} {l : List α} (hA : ∀ a, a ∈ A ↔ a ∈ l)
    (o : Option α) (a : α) : a ∈ A ∪ o.toFinset ↔ a ∈ o.toList ++ l := by
  simp [hA, or_comm]

theorem nodup_toList_append {A : Finset α} {l : List α} {o : Option α}
    (hA : ∀ a, a ∈ A ↔ a ∈ l) (hl : l.Nodup) (ho : ∀ a, o = some a → a ∉ A) :
    (o.toList ++ l).Nodup := by
  cases o with
  | none => exact hl
  | some a => exact List.nodup_cons.mpr ⟨fun h => ho a rfl ((hA a).mpr h), hl⟩

/-- The entries are numbered `n`, `n + 1` and so on. -/
def Numbered (number : α → ℕ) (n : ℕ) (l : List α) : Prop :=
  l.map number = List.range' n l.length

section
variable {number : α → ℕ} {n : ℕ} {a : α} {l l' : List α}

theorem numbered_nil : Numbered number n [] := rfl

theorem numbered_cons :
    Numbered number n (a :: l) ↔ number a = n ∧ Numbered number (n + 1) l := by
  simp [Numbered, List.range'_succ]

theorem numbered_append : Numbered number n (l ++ l') ↔
    Numbered number n l ∧ Numbered number (n + l.length) l' := by
  unfold Numbered
  rw [List.map_append, List.length_append, ← List.range'_append_1]
  constructor
  · intro h
    exact List.append_inj h (by simp)
  · rintro ⟨h, h'⟩
    rw [h, h']

theorem Numbered.drop (h : Numbered number n l) (k : ℕ) (hk : k ≤ l.length) :
    Numbered number (n + k) (l.drop k) := by
  rw [← List.take_append_drop k l, numbered_append, List.length_take, min_eq_left hk] at h
  exact h.2

/-- Entries that are read off a source by their numbers are a segment of it. -/
theorem Numbered.eq_map {source : ℕ → α} (h : Numbered number n l)
    (hl : ∀ a ∈ l, a = source (number a)) : l = (List.range' n l.length).map source := by
  rw [← h, List.map_map]
  exact ((List.map_congr_left fun a ha => (hl a ha).symm).trans (List.map_id l)).symm

theorem Numbered.getElem?_sub {source : ℕ → α} {k : ℕ} (h : Numbered number n l)
    (hl : ∀ a ∈ l, a = source (number a)) (hk : n ≤ k) (hlt : k < n + l.length) :
    l[k - n]? = some (source k) := by
  have hi : k - n < l.length := by omega
  rw [h.eq_map hl, List.getElem?_map, List.getElem?_range' hi]
  simp [Nat.add_sub_cancel' hk]

end

end History
