import Octoscript.Ui.Realize

namespace Octoscript.Ui

namespace ValueScope

variable {scope other : ValueScope} {frame : Frame}

theorem lookupName_push_self : (scope.push frame).lookupName frame.name = some frame.value := by
  simp [lookupName, push]

theorem lookupName_push_of_ne {name : String} (h : frame.name ≠ name) :
    (scope.push frame).lookupName name = scope.lookupName name := by
  simp [lookupName, push, h]

/-- The names that a path looks up: its root, and those inside its indices. The status of a source
and a copy are not looked up by name. -/
def pathNames : Path → List String
  | [] => []
  | root :: rest =>
    if (Path.statusOwner (root :: rest)).isSome ∨ root = "copy" then []
    else root :: (rest.filterMap indexSegment).filter (· ≠ "copy")

theorem descend_congr {segment : String} (value : Json.Value)
    (h : ∀ inner ∈ indexSegment segment, inner ≠ "copy" →
      other.lookupName inner = scope.lookupName inner) :
    other.descend value segment = scope.descend value segment := by
  unfold descend
  cases hindex : indexSegment segment with
  | none => rfl
  | some inner =>
    dsimp only
    split
    · rfl
    · rename_i hcopy
      rw [h inner hindex hcopy]

theorem foldlM_descend_congr {segments : List String}
    (h : ∀ inner ∈ segments.filterMap indexSegment, inner ≠ "copy" →
      other.lookupName inner = scope.lookupName inner) (value : Json.Value) :
    segments.foldlM other.descend value = segments.foldlM scope.descend value := by
  induction segments generalizing value with
  | nil => rfl
  | cons segment segments ih =>
    have hstep := descend_congr value fun inner hinner =>
      h inner (List.mem_filterMap.mpr ⟨segment, List.mem_cons_self, hinner⟩)
    have hrest := ih fun inner hinner => by
      obtain ⟨later, hlater, hindex⟩ := List.mem_filterMap.mp hinner
      exact h inner (List.mem_filterMap.mpr ⟨later, List.mem_cons_of_mem _ hlater, hindex⟩)
    simp only [List.foldlM_cons, hstep, Option.bind_eq_bind, hrest]

theorem lookup_congr {path : Path} (hdata : other.data = scope.data)
    (hcopies : other.copies = scope.copies)
    (hnames : ∀ name ∈ pathNames path, other.lookupName name = scope.lookupName name) :
    other.lookup path = scope.lookup path := by
  have hstat : other.lookupStatus = scope.lookupStatus := by
    funext source
    simp [lookupStatus, hdata]
  have hcopy : other.lookupCopy = scope.lookupCopy := by
    funext name
    simp [lookupCopy, hdata, hcopies]
  unfold lookup
  rw [hstat, hcopy]
  cases path with
  | nil => rfl
  | cons root rest =>
    unfold pathNames at hnames
    cases howner : Path.statusOwner (root :: rest) with
    | some source => rfl
    | none =>
      dsimp only
      by_cases hroot : root = "copy"
      · rw [if_pos hroot, if_pos hroot]
      · dsimp only at hnames
        rw [if_neg (by simp [howner, hroot])] at hnames
        have hfold := foldlM_descend_congr fun inner hinner hcopy =>
          hnames inner (List.mem_cons_of_mem _ (List.mem_filter.mpr ⟨hinner, by simpa using hcopy⟩))
        simp only [if_neg hroot, hnames root List.mem_cons_self, hfold]

/-- A path of one segment is a name. -/
theorem lookup_singleton {name : String} (h : name ≠ "copy") :
    scope.lookup [name] = scope.lookupName name := by
  unfold lookup
  have hstat : Path.statusOwner [name] = none := by simp [Path.statusOwner]
  rw [hstat]
  cases hname : scope.lookupName name <;> simp [h, hname]

end ValueScope

/-- The states of a card are bound in their order, the last one innermost. -/
theorem names_cardStates [F64Ops] (store : Option InstanceStore) (data : Json.Value)
    (states : List StateDecl) : (cardStates store data states).1.map Frame.name =
      (states.map fun state => state.path.text).reverse := by
  induction states with
  | nil => rfl
  | cons state states ih =>
    unfold cardStates
    dsimp only
    split
    · simp [ih]
    · split <;> simp [ih]

end Octoscript.Ui
