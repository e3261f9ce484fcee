import Mathlib

namespace Keys
variable {stop : Char → Bool}

/-- The text is empty, or starts with a character that ends a segment. -/
def Stops (stop : Char → Bool) (rest : List Char) : Prop := ∀ c ∈ rest.head?, stop c = true

/-- No character of the text ends a segment. -/
def Runs (stop : Char → Bool) (segment : List Char) : Prop := ∀ c ∈ segment, stop c = false

theorem runs_append {s t : List Char} (hs : Runs stop s) (ht : Runs stop t) :
    Runs stop (s ++ t) := by
  intro c hc
  rcases List.mem_append.mp hc with hc | hc
  · exact hs c hc
  · exact ht c hc

theorem takeWhile_segment {s rest : List Char} (hs : Runs stop s) (hrest : Stops stop rest) :
    (s ++ rest).takeWhile (fun c => !stop c) = s := by
  have hrun : ∀ c ∈ s, (!stop c) = true := by
    intro c hc
    simp [hs c hc]
  rw [List.takeWhile_append_of_pos hrun]
  cases rest with
  | nil => simp
  | cons c rest =>
    have hc : stop c = true := hrest c (by simp)
    simp [hc]

/-- The first segment of a text is determined by the text. -/
theorem segment_inj {s t rest rest' : List Char} (hs : Runs stop s) (ht : Runs stop t)
    (hrest : Stops stop rest) (hrest' : Stops stop rest') (h : s ++ rest = t ++ rest') : s = t := by
  rw [← takeWhile_segment hs hrest, ← takeWhile_segment ht hrest', h]

/-- `key` is `base`, or goes on after it with the end of a segment. -/
def Under (stop : Char → Bool) (base key : String) : Prop :=
  ∃ rest, key.toList = base.toList ++ rest ∧ Stops stop rest

/-- `key` goes on after `base` with the end of a segment. -/
def Below (stop : Char → Bool) (base key : String) : Prop :=
  ∃ c rest, key.toList = base.toList ++ c :: rest ∧ stop c = true

theorem under_self (base : String) : Under stop base base := ⟨[], by simp, nofun⟩

theorem Below.under {base key : String} (h : Below stop base key) : Under stop base key := by
  obtain ⟨c, rest, hkey, hc⟩ := h
  refine ⟨c :: rest, hkey, ?_⟩
  intro d hd
  simp only [List.head?_cons, Option.mem_some_iff] at hd
  exact hd ▸ hc

theorem Under.trans_below {base key key' : String} (h : Under stop base key)
    (h' : Below stop key key') : Below stop base key' := by
  obtain ⟨rest, hkey, hrest⟩ := h
  obtain ⟨c, more, hkey', hc⟩ := h'
  rw [hkey, List.append_assoc] at hkey'
  cases rest with
  | nil => exact ⟨c, more, hkey', hc⟩
  | cons d rest => exact ⟨d, rest ++ c :: more, hkey', hrest d rfl⟩

theorem Under.trans {base key key' : String} (h : Under stop base key)
    (h' : Under stop key key') : Under stop base key' := by
  obtain ⟨rest, hkey, hrest⟩ := h
  obtain ⟨more, hkey', hmore⟩ := h'
  rw [hkey, List.append_assoc] at hkey'
  refine ⟨rest ++ more, hkey', ?_⟩
  cases rest with
  | nil => exact hmore
  | cons d rest => exact hrest

theorem Below.trans_under {base key key' : String} (h : Below stop base key)
    (h' : Under stop key key') : Below stop base key' := by
  obtain ⟨c, rest, hkey, hc⟩ := h
  obtain ⟨more, hkey', _⟩ := h'
  exact ⟨c, rest ++ more, by rw [hkey', hkey]; simp, hc⟩

theorem Below.ne {base key : String} (h : Below stop base key) : key ≠ base := by
  rintro rfl
  obtain ⟨c, rest, hkey, _⟩ := h
  have hlen := congrArg List.length hkey
  simp at hlen

/-- What starts with `base` and the end of a segment goes on after `base`. -/
theorem below_of_starts {base t key : String} {c : Char} {more : List Char}
    (htail : t.toList = c :: more) (hc : stop c = true)
    (h : (base ++ t).toList <+: key.toList) : Below stop base key := by
  obtain ⟨rest, hkey⟩ := h
  refine ⟨c, more ++ rest, ?_, hc⟩
  rw [← hkey, String.toList_append, htail]
  simp

/-- Nothing stands under two different segments of one base. -/
theorem not_under_both {base s t key : String} (hs : Runs stop s.toList) (ht : Runs stop t.toList)
    (hne : s ≠ t) (h : Under stop (base ++ s) key) : ¬Under stop (base ++ t) key := by
  rintro ⟨rest', hkey', hrest'⟩
  obtain ⟨rest, hkey, hrest⟩ := h
  have heq : base.toList ++ (s.toList ++ rest) = base.toList ++ (t.toList ++ rest') := by
    rw [← List.append_assoc, ← List.append_assoc, ← String.toList_append, ← String.toList_append,
      ← hkey, ← hkey']
  exact hne (String.toList_injective
    (segment_inj hs ht hrest hrest' (List.append_cancel_left heq)))

/-- A name with a number. -/
def numbered (name : String) (n : ℕ) : String := name ++ "#" ++ toString n

theorem toList_toString (n : ℕ) : (toString n).toList = Nat.toDigits 10 n :=
  String.toList_ofList

theorem toString_injective : Function.Injective (toString : ℕ → String) := by
  intro n m h
  have hdig := congrArg (fun s : String => Nat.ofDigitChars 10 s.toList 0) h
  simpa [toList_toString, Nat.ofDigitChars_toDigits] using hdig

theorem runs_toString (hstop : ∀ c, c.isDigit = true → stop c = false) (n : ℕ) :
    Runs stop (toString n).toList := by
  intro c hc
  rw [toList_toString] at hc
  exact hstop c (Nat.isDigit_of_mem_toDigits (by decide) (by decide) hc)

theorem toList_numbered (name : String) (n : ℕ) :
    (numbered name n).toList = name.toList ++ '#' :: (toString n).toList := by
  simp [numbered, String.toList_append]

theorem runs_numbered {name : String} {n : ℕ} (hname : Runs stop name.toList)
    (hmark : stop '#' = false) (hstop : ∀ c, c.isDigit = true → stop c = false) :
    Runs stop (numbered name n).toList := by
  rw [toList_numbered]
  refine runs_append hname ?_
  intro c hc
  rcases List.mem_cons.mp hc with rfl | hc
  · exact hmark
  · exact runs_toString hstop n c hc

theorem numbered_inj {name name' : String} {n m : ℕ} (hname : '#' ∉ name.toList)
    (hname' : '#' ∉ name'.toList) (h : numbered name n = numbered name' m) :
    name = name' ∧ n = m := by
  have hlist := congrArg String.toList h
  rw [toList_numbered, toList_numbered] at hlist
  have hruns : ∀ s : String, '#' ∉ s.toList → Runs (· = '#') s.toList := by
    intro s hs c hc
    simp only [decide_eq_false_iff_not]
    rintro rfl
    exact hs hc
  have hstops : ∀ rest, Stops (· = '#') ('#' :: rest) := by
    intro rest c hc
    simpa using hc.symm
  have heq := segment_inj (hruns name hname) (hruns name' hname') (hstops _) (hstops _) hlist
  rw [heq] at hlist
  refine ⟨String.toList_injective heq, ?_⟩
  have htail := List.append_cancel_left hlist
  simp only [List.cons.injEq, true_and] at htail
  exact toString_injective (String.toList_injective htail)

end Keys
