import Octoscript.Lib.History

namespace WriteAhead

open List

variable {P V A N S : Type}

/-- What a process did: it committed a value, performed an effect or made a note. -/
inductive Entry (P V A N : Type)
  | commit (p : P) (v : V)
  | act (p : P) (a : A)
  | note (p : P) (n : N)

namespace Entry

def process : Entry P V A N → P
  | .commit p _ | .act p _ | .note p _ => p

end Entry

/-- How the value may evolve, what its versions claim, and what an effect needs of the
value. Claims and needs survive the evolution. -/
structure Discipline (V A S : Type) where
  base : V
  le : V → V → Prop
  refl : ∀ v, le v v
  trans : ∀ {u v w}, le u v → le v w → le u w
  slot : A → S
  claims : S → V → Prop
  fits : A → V → Prop
  claims_mono : ∀ {s v w}, le v w → claims s v → claims s w
  fits_mono : ∀ {a v w}, le v w → fits a v → fits a w

/-- A log of what the processes did, newest first. -/
abbrev Log (P V A N : Type) := List (Entry P V A N)

namespace Log

/-- The number of commits. -/
def version : Log P V A N → ℕ
  | [] => 0
  | .commit .. :: l => version l + 1
  | .act .. :: l | .note .. :: l => version l

/-- The value committed last. -/
def latest (base : V) : Log P V A N → V
  | [] => base
  | .commit _ v :: _ => v
  | .act .. :: l | .note .. :: l => latest base l

theorem version_append (new l : Log P V A N) : version l ≤ version (new ++ l) := by
  induction new with
  | nil => exact le_refl _
  | cons e new ih => cases e <;> simp only [cons_append, version] <;> omega

/-- At some time the value had version `n` and was `v`. -/
def At (base : V) (l : Log P V A N) (n : ℕ) (v : V) : Prop :=
  ∃ later earlier, l = later ++ earlier ∧ version earlier = n ∧ latest base earlier = v

/-- The value is the base or was committed. -/
theorem latest_eq_base_or_mem (base : V) (l : Log P V A N) :
    latest base l = base ∨ ∃ p, .commit p (latest base l) ∈ l := by
  induction l with
  | nil => exact Or.inl rfl
  | cons e l ih =>
    cases e with
    | commit p v => exact Or.inr ⟨p, mem_cons_self⟩
    | act p a => exact ih.imp_right fun ⟨q, hq⟩ => ⟨q, mem_cons_of_mem _ hq⟩
    | note p n => exact ih.imp_right fun ⟨q, hq⟩ => ⟨q, mem_cons_of_mem _ hq⟩

theorem At.eq_base_or_mem {base : V} {l : Log P V A N} {n : ℕ} {v : V} (h : At base l n v) :
    v = base ∨ ∃ p, .commit p v ∈ l := by
  obtain ⟨later, earlier, rfl, _, rfl⟩ := h
  exact (latest_eq_base_or_mem base earlier).imp_right fun ⟨p, hp⟩ =>
    ⟨p, mem_append_right later hp⟩

theorem at_self (base : V) (l : Log P V A N) : At base l (version l) (latest base l) :=
  ⟨[], l, rfl, rfl, rfl⟩

theorem At.append {base : V} {l : Log P V A N} {n : ℕ} {v : V} (h : At base l n v)
    (new : Log P V A N) : At base (new ++ l) n v := by
  obtain ⟨later, earlier, rfl, hn, hv⟩ := h
  exact ⟨new ++ later, earlier, by rw [append_assoc], hn, hv⟩

/-- Until the next commit the value stays what it was. -/
theorem latest_eq_of_version {base : V} {new l : Log P V A N}
    (h : version (new ++ l) = version l) : latest base (new ++ l) = latest base l := by
  induction new with
  | nil => rfl
  | cons e new ih =>
    have hle := version_append new l
    cases e with
    | commit p v =>
      simp only [cons_append, version] at h
      omega
    | act p a => exact ih h
    | note p n => exact ih h

/-- A version has one value. -/
theorem At.unique {base : V} {l : Log P V A N} {n : ℕ} {v w : V} (hv : At base l n v)
    (hw : At base l n w) : v = w := by
  obtain ⟨later, earlier, rfl, hn, rfl⟩ := hv
  obtain ⟨later', earlier', hl, hn', rfl⟩ := hw
  rcases append_eq_append_iff.mp hl with ⟨mid, _, h⟩ | ⟨mid, _, h⟩
  · rw [h] at hn ⊢
    exact latest_eq_of_version (hn.trans hn'.symm)
  · rw [h] at hn' ⊢
    exact (latest_eq_of_version (hn'.trans hn.symm)).symm

/-- Since its last note the process committed nothing. -/
def Quiet (p : P) : Log P V A N → Prop
  | [] => True
  | .commit q _ :: l => q ≠ p ∧ Quiet p l
  | .act .. :: l => Quiet p l
  | .note q _ :: l => q = p ∨ Quiet p l

theorem Quiet.append {p : P} {new l : Log P V A N} (h : Quiet p l)
    (hnew : ∀ e ∈ new, e.process ≠ p) : Quiet p (new ++ l) := by
  induction new with
  | nil => exact h
  | cons e new ih =>
    have hrest := ih fun e' he' => hnew e' (mem_cons_of_mem _ he')
    cases e with
    | commit q v => exact ⟨hnew _ mem_cons_self, hrest⟩
    | act q a => exact hrest
    | note q n => exact .inr hrest

/-- Since its last note the process committed once, and the value is such. -/
def Once (p : P) (C : V → Prop) : Log P V A N → Prop
  | [] => False
  | .commit q v :: l => (q = p ∧ C v ∧ Quiet p l) ∨ (q ≠ p ∧ Once p C l)
  | .act .. :: l => Once p C l
  | .note q _ :: l => q ≠ p ∧ Once p C l

theorem Once.mono {p : P} {C D : V → Prop} {l : Log P V A N} (h : Once p C l)
    (hCD : ∀ v, C v → D v) : Once p D l := by
  induction l with
  | nil => exact h
  | cons e l ih =>
    cases e with
    | commit q v => exact h.imp (fun h => ⟨h.1, hCD v h.2.1, h.2.2⟩) fun h => ⟨h.1, ih h.2⟩
    | act q a => exact ih h
    | note q n => exact ⟨h.1, ih h.2⟩

/-- The slots of the effects that were performed. -/
def slots (slot : A → S) (l : Log P V A N) : List S :=
  l.filterMap fun
    | .act _ a => some (slot a)
    | .commit .. | .note .. => none

end Log

namespace Discipline
variable (D : Discipline V A S)
open Log History

/-- The process whose commit first claimed the slot. -/
def First (p : P) (s : S) (l : Log P V A N) : Prop :=
  ∃ v, Turns (fun l => D.claims s (latest D.base l)) (.commit p v) l

/-- The process may perform the effect. -/
structure Ready (p : P) (a : A) (l : Log P V A N) : Prop where
  first : D.First p (D.slot a) l
  fresh : D.slot a ∉ slots D.slot l
  fits : D.fits a (latest D.base l)

/-- The value only evolves, and every effect was performed when it was ready. -/
structure Sound (l : Log P V A N) : Prop where
  evolves : Each (fun e earlier => ∀ p v, e = .commit p v → D.le (latest D.base earlier) v) l
  acts : Each (fun e earlier => ∀ p a, e = .act p a → D.Ready p a earlier) l

variable {D} {l : Log P V A N} {p q : P} {a : A} {s : S} {v : V}

theorem sound_nil : D.Sound ([] : Log P V A N) := ⟨each_nil _, each_nil _⟩

theorem Sound.append (new : Log P V A N) (h : D.Sound (new ++ l)) : D.Sound l :=
  ⟨h.evolves.append, h.acts.append⟩

theorem Sound.latest_le (new : Log P V A N) (h : D.Sound (new ++ l)) :
    D.le (latest D.base l) (latest D.base (new ++ l)) := by
  induction new with
  | nil => exact D.refl _
  | cons e new ih =>
    have hrest := ih (h.append [e])
    cases e with
    | commit p v => exact D.trans hrest ((each_cons.mp h.evolves).1 p v rfl)
    | act p a => exact hrest
    | note p n => exact hrest

/-- Of two values that were committed, one evolved from the other. -/
theorem Sound.comparable {w : V} (h : D.Sound l) (hv : .commit p v ∈ l) (hw : .commit q w ∈ l) :
    D.le v w ∨ D.le w v := by
  obtain ⟨later, earlier, rfl⟩ := append_of_mem hv
  rcases mem_append.mp hw with hw | hw
  · obtain ⟨after, before, rfl⟩ := append_of_mem hw
    rw [append_assoc] at h
    exact Or.inl ((h.append after).latest_le (.commit q w :: before))
  · rcases mem_cons.mp hw with hw | hw
    · exact Or.inl ((Entry.commit.inj hw).2 ▸ D.refl _)
    · obtain ⟨after, before, rfl⟩ := append_of_mem hw
      exact Or.inr ((h.append later).latest_le (.commit p v :: after))

/-- A claim that was made stands. -/
theorem Sound.claims_kept (h : D.Sound l) : Each (fun x earlier =>
    D.claims s (latest D.base earlier) → D.claims s (latest D.base (x :: earlier))) l := by
  intro later x earlier hl hclaims
  subst hl
  exact D.claims_mono ((h.append later).latest_le [x]) hclaims

theorem Sound.first_unique (h : D.Sound l) (hp : D.First p s l) (hq : D.First q s l) : p = q := by
  obtain ⟨v, hv⟩ := hp
  obtain ⟨w, hw⟩ := hq
  exact (Entry.commit.inj (Turns.unique h.claims_kept hv hw)).1

theorem First.append (h : D.First p s l) (new : Log P V A N) : D.First p s (new ++ l) := by
  obtain ⟨v, hv⟩ := h
  exact ⟨v, hv.append new⟩

/-- The effects of a slot are all of the process that claimed it. -/
theorem Sound.first_of_act (h : D.Sound l) (hmem : .act p a ∈ l) : D.First p (D.slot a) l := by
  obtain ⟨later, earlier, rfl⟩ := append_of_mem hmem
  have hready := (each_cons.mp h.acts.append).1 p a rfl
  simpa using (hready.first.append [.act p a]).append later

theorem Sound.claims_of_slot (h : D.Sound l) (hmem : s ∈ slots D.slot l) :
    D.claims s (latest D.base l) := by
  obtain ⟨e, he, hs⟩ := mem_filterMap.mp hmem
  cases e with
  | act p a =>
    obtain rfl := Option.some.inj hs
    obtain ⟨v, hturn⟩ := h.first_of_act he
    exact hturn.holds h.claims_kept
  | commit p v => simp at hs
  | note p n => simp at hs

theorem Sound.commit (h : D.Sound l) (hle : D.le (latest D.base l) v) :
    D.Sound (.commit p v :: l) where
  evolves := each_cons.mpr ⟨fun _ _ he => (Entry.commit.inj he).2 ▸ hle, h.evolves⟩
  acts := each_cons.mpr ⟨fun _ _ he => (nomatch he), h.acts⟩

theorem Sound.act (h : D.Sound l) (hready : D.Ready p a l) : D.Sound (.act p a :: l) where
  evolves := each_cons.mpr ⟨fun _ _ he => (nomatch he), h.evolves⟩
  acts := by
    refine each_cons.mpr ⟨fun p' a' he => ?_, h.acts⟩
    obtain ⟨rfl, rfl⟩ := Entry.act.inj he
    exact hready

theorem Sound.note (h : D.Sound l) (n : N) : D.Sound (.note p n :: l) where
  evolves := each_cons.mpr ⟨fun _ _ he => (nomatch he), h.evolves⟩
  acts := each_cons.mpr ⟨fun _ _ he => (nomatch he), h.acts⟩

/-- A commit that claims a free slot readies its effect. -/
theorem Sound.ready_commit (h : D.Sound l) (hfree : ¬D.claims (D.slot a) (latest D.base l))
    (hclaims : D.claims (D.slot a) v) (hfits : D.fits a v) : D.Ready p a (.commit p v :: l) where
  first := ⟨v, [], l, rfl, hclaims, hfree⟩
  fresh hmem := hfree (h.claims_of_slot hmem)
  fits := hfits

/-- What the other processes do leaves an effect ready. -/
theorem Ready.stable {new : Log P V A N} (hready : D.Ready p a l) (h : D.Sound (new ++ l))
    (hothers : ∀ e ∈ new, e.process ≠ p) : D.Ready p a (new ++ l) where
  first := hready.first.append new
  fresh hmem := by
    rw [slots, filterMap_append, mem_append] at hmem
    rcases hmem with hmem | hmem
    · obtain ⟨e, he, hs⟩ := mem_filterMap.mp hmem
      cases e with
      | act q b =>
        have hslot : D.slot b = D.slot a := Option.some.inj hs
        have hq := h.first_of_act (mem_append_left l he)
        exact hothers _ he (h.first_unique (hslot ▸ hq) (hready.first.append new))
      | commit q v => simp at hs
      | note q n => simp at hs
    · exact hready.fresh hmem
  fits := D.fits_mono (h.latest_le new) hready.fits

/-- No slot sees two effects. -/
theorem Sound.slots_nodup (h : D.Sound l) : (slots D.slot l).Nodup := by
  induction l with
  | nil => exact nodup_nil
  | cons e l ih =>
    have hrest := ih (h.append [e])
    cases e with
    | act p a => exact nodup_cons.mpr ⟨((each_cons.mp h.acts).1 p a rfl).fresh, hrest⟩
    | commit p v => exact hrest
    | note p n => exact hrest

end Discipline

end WriteAhead
