import Mathlib

namespace Sight

open List

variable {α β : Type*} {name : α → β} {stack stack' view : List α} {seen : List (β × ℕ)}

/-- The entry at a height of a stack, whose top comes first. -/
def entry (stack : List α) (height : ℕ) : Option α := stack.reverse[height]?

/-- The height of the topmost entry that passes. -/
def topmost (p : α → Bool) : List α → Option ℕ
  | [] => none
  | a :: stack => if p a then some stack.length else topmost p stack

/-- The heights of names on top of a stack of this height. -/
def stacked (height : ℕ) : List β → List (β × ℕ)
  | [] => []
  | b :: names => (b, height + names.length) :: stacked height names

theorem entry_of_suffix {height : ℕ} {a : α} (hsuffix : stack <:+ stack')
    (h : entry stack height = some a) : entry stack' height = some a := by
  obtain ⟨front, rfl⟩ := hsuffix
  rw [entry, reverse_append, getElem?_append_left (List.getElem?_eq_some_iff.mp h).1]
  exact h

theorem entry_length (a : α) (stack : List α) : entry (a :: stack) stack.length = some a := by
  simp [entry]

theorem mem_of_entry {height : ℕ} {a : α} (h : entry stack height = some a) : a ∈ stack :=
  mem_reverse.mp (mem_of_getElem? h)

theorem topmost_eq_none_iff {p : α → Bool} : topmost p stack = none ↔ stack.find? p = none := by
  induction stack with
  | nil => exact iff_of_true rfl rfl
  | cons a stack ih => cases hp : p a <;> simp [topmost, hp, ih]

theorem find?_of_topmost {p : α → Bool} {height : ℕ} (h : topmost p stack = some height) :
    ∃ a, stack.find? p = some a ∧ entry stack height = some a := by
  induction stack with
  | nil => cases h
  | cons a stack ih =>
    unfold topmost at h
    split at h
    · rename_i hp
      cases h
      exact ⟨a, find?_cons_of_pos hp, entry_length a stack⟩
    · rename_i hp
      obtain ⟨found, hfound, hentry⟩ := ih h
      exact ⟨found, by rw [find?_cons_of_neg hp, hfound], entry_of_suffix (suffix_cons _ _) hentry⟩

/-- An entry that passes is the topmost one exactly if none above it does. -/
theorem topmost_eq_some_iff {p : α → Bool} {height : ℕ} {a : α}
    (hentry : entry stack height = some a) (hp : p a = true) :
    topmost p stack = some height ↔
      ∀ c ∈ stack.take (stack.length - (height + 1)), ¬p c = true := by
  induction stack with
  | nil => simp [entry] at hentry
  | cons c stack ih =>
    rw [entry, reverse_cons, getElem?_append, length_reverse] at hentry
    split at hentry
    · rename_i hlt
      have hlen : (c :: stack).length - (height + 1) = stack.length - (height + 1) + 1 := by
        rw [length_cons]
        omega
      rw [hlen, take_succ_cons, forall_mem_cons, topmost, ← ih hentry]
      cases p c with
      | true => simpa using (Nat.ne_of_lt hlt).symm
      | false => simp
    · rename_i hge
      obtain ⟨hlt, hget⟩ := List.getElem?_eq_some_iff.mp hentry
      have hheight : height = stack.length := by
        rw [length_singleton] at hlt
        omega
      obtain rfl : c = a := by simpa using hget
      simp [topmost, hp, hheight]

/-- The names in sight are those of the entries at their heights. -/
def Valid (name : α → β) (stack : List α) (seen : List (β × ℕ)) : Prop :=
  ∀ b ∈ seen, (entry stack b.2).map name = some b.1

theorem Valid.of_suffix (h : Valid name stack seen) (hsuffix : stack <:+ stack') :
    Valid name stack' seen := by
  intro b hb
  obtain ⟨a, ha, hname⟩ := Option.map_eq_some_iff.mp (h b hb)
  rw [entry_of_suffix hsuffix ha, Option.map_some, hname]

theorem Valid.push (h : Valid name stack seen) (a : α) :
    Valid name (a :: stack) ((name a, stack.length) :: seen) := by
  intro b hb
  rcases mem_cons.mp hb with rfl | hb
  · rw [entry_length, Option.map_some]
  · exact h.of_suffix (suffix_cons _ _) b hb

/-- Names that were put on top of a stack are at their heights. -/
theorem valid_stacked {front : List α} (stack : List α) :
    Valid name (front ++ stack) (stacked stack.length (front.map name)) := by
  induction front with
  | nil => exact fun b hb => absurd hb not_mem_nil
  | cons a front ih =>
    have hpush := ih.push a
    rw [length_append, Nat.add_comm] at hpush
    rw [map_cons, stacked, length_map]
    exact hpush

/-- The view has the entries in sight. -/
def InSight (name : α → β) (stack view : List α) (seen : List (β × ℕ)) : Prop :=
  Forall₂ (fun a b => name a = b.1 ∧ entry stack b.2 = some a) view seen

namespace InSight

theorem of_suffix (h : InSight name stack view seen) (hsuffix : stack <:+ stack') :
    InSight name stack' view seen :=
  h.imp fun _ _ hab => ⟨hab.1, entry_of_suffix hsuffix hab.2⟩

theorem push (h : InSight name stack view seen) (a : α) :
    InSight name (a :: stack) (a :: view) ((name a, stack.length) :: seen) :=
  .cons ⟨rfl, entry_length a stack⟩ (h.of_suffix (suffix_cons _ _))

/-- All of a stack is in sight. -/
theorem self (stack : List α) : InSight name stack stack (stacked 0 (stack.map name)) := by
  induction stack with
  | nil => exact .nil
  | cons a stack ih =>
    rw [map_cons, stacked, Nat.zero_add, length_map]
    exact ih.push a

theorem valid (h : InSight name stack view seen) : Valid name stack seen := by
  induction h with
  | nil => exact fun b hb => absurd hb not_mem_nil
  | cons hab _ ih => exact forall_mem_cons.mpr ⟨by rw [hab.2, Option.map_some, hab.1], ih⟩

theorem mem (h : InSight name stack view seen) {a : α} (ha : a ∈ view) : a ∈ stack := by
  induction h with
  | nil => cases ha
  | cons hab _ ih =>
    rcases mem_cons.mp ha with rfl | ha
    · exact mem_of_entry hab.2
    · exact ih ha

variable [DecidableEq β] {b : β}

theorem find?_view (h : InSight name stack view seen) :
    view.find? (fun a => name a = b) = (seen.lookup b).bind (entry stack) := by
  induction h with
  | nil => rfl
  | @cons a c _ _ hab _ ih =>
    rw [find?_cons, lookup_cons, ih, hab.1]
    by_cases hb : c.1 = b
    · simp [hb, hab.2]
    · simp [hb, beq_false_of_ne (Ne.symm hb)]

/-- If the topmost entry of a name is the one in sight, the stack and the view find the same. -/
theorem find?_eq (h : InSight name stack view seen)
    (hb : topmost (fun a => name a = b) stack = seen.lookup b) :
    stack.find? (fun a => name a = b) = view.find? (fun a => name a = b) := by
  rw [h.find?_view, ← hb]
  cases htop : topmost (fun a => decide (name a = b)) stack with
  | none => exact topmost_eq_none_iff.mp htop
  | some height =>
    obtain ⟨a, hfound, hentry⟩ := find?_of_topmost htop
    rw [hfound, Option.bind_some, hentry]

/-- So it is for those of a kind, if the topmost of the name and the kind is the one in sight. -/
theorem find?_and_eq (h : InSight name stack view seen) {p : α → Bool}
    (hb : ∀ height ∈ topmost (fun a => name a = b && p a) stack, seen.lookup b = some height) :
    stack.find? (fun a => name a = b && p a) = view.find? (fun a => name a = b && p a) := by
  cases htop : topmost (fun a => decide (name a = b) && p a) stack with
  | none =>
    have hnone := topmost_eq_none_iff.mp htop
    rw [hnone, eq_comm, find?_eq_none]
    exact fun a ha => find?_eq_none.mp hnone a (h.mem ha)
  | some height =>
    obtain ⟨a, hfound, hentry⟩ := find?_of_topmost htop
    have hview : view.find? (fun a => name a = b) = some a := by
      rw [h.find?_view, hb height htop, Option.bind_some, hentry]
    -- the first of the name in the view is of the kind, so it is the first of both
    have hboth := find?_some hfound
    obtain ⟨_, front, back, rfl, hfront⟩ := find?_eq_some_iff_append.mp hview
    rw [hfound, eq_comm, find?_eq_some_iff_append]
    refine ⟨hboth, front, back, rfl, fun c hc => ?_⟩
    simp [show name c ≠ b by simpa using hfront c hc]

end InSight

section
variable [DecidableEq β] {b : β}

/-- An entry of the name lies above the one in sight, or none is in sight. -/
def Covered (name : α → β) (stack : List α) (seen : List (β × ℕ)) (b : β) : Prop :=
  b ∈ (stack.take (stack.length - (seen.lookup b).elim 0 (· + 1))).map name

instance : Decidable (Covered name stack seen b) := inferInstanceAs (Decidable (b ∈ _))

/-- The topmost entry of a name is the one in sight exactly if none covers it. -/
theorem topmost_eq_lookup_iff (h : Valid name stack seen) :
    topmost (fun a => name a = b) stack = seen.lookup b ↔ ¬Covered name stack seen b := by
  unfold Covered
  cases hb : seen.lookup b with
  | none =>
    rw [topmost_eq_none_iff, find?_eq_none]
    simp
  | some height =>
    have hmem : (b, height) ∈ seen := by
      obtain ⟨front, back, rfl, _⟩ := lookup_eq_some_iff.mp hb
      exact mem_append_right _ mem_cons_self
    obtain ⟨a, ha, hname⟩ := Option.map_eq_some_iff.mp (h _ hmem)
    rw [topmost_eq_some_iff ha (by simpa using hname)]
    simp only [decide_eq_true_eq, Option.elim_some, mem_map, not_exists, not_and]

end

end Sight
