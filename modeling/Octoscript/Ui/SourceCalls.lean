import Octoscript.Lib.Search
import Octoscript.Ui.Realize

namespace Octoscript.Ui

open List Relation

section
variable (call : Path → Option (Option String)) (scope : ValueScope)

/-- The calls that a nested call makes for its arguments, up to a path without a value. -/
def nestedCalls : List (String × SourceArg) → List Path
  | [] => []
  | (_, .text _) :: args | (_, .number _) :: args => nestedCalls args
  | (_, .list items) :: args => items.map Path.stripState ++ nestedCalls args
  | (_, .path path) :: args =>
    if (scope.lookup path.stripState).isSome then nestedCalls args else []

/-- Whether a path has a call or a value. -/
def answered (path : Path) : Bool :=
  ((call path).bind id).isSome || (scope.lookup path).isSome

/-- The items of a list that a binding calls, up to the first without an answer. -/
def itemCalls : List Path → List Path
  | [] => []
  | item :: items =>
    item.stripState :: if answered call scope item.stripState then itemCalls items else []

/-- The calls that a binding makes for its arguments, up to a path without an answer. -/
def bindingCalls : List (String × SourceArg) → List Path
  | [] => []
  | (_, .text _) :: args | (_, .number _) :: args => bindingCalls args
  | (_, .list items) :: args => itemCalls call scope items ++ bindingCalls args
  | (_, .path path) :: args =>
    path.stripState :: if answered call scope path.stripState then bindingCalls args else []

end

/-- The nested call for one source makes one for the other. -/
def Card.CallsNested (card : Card) (scope : ValueScope) (a b : SourceDecl) : Prop :=
  ∃ path ∈ nestedCalls scope a.valueArgs, ∃ field, nestedSource card path = some (b, field)

/-- The nested calls for a path lead into a cycle of sources. -/
def Card.Loops (card : Card) (scope : ValueScope) (path : Path) : Prop :=
  ∃ source field, nestedSource card path = some (source, field) ∧
    ∃ c, ReflTransGen (card.CallsNested scope) source c ∧ TransGen (card.CallsNested scope) c c

theorem nestedSource_mem {card : Card} {path field : Path} {source : SourceDecl}
    (h : nestedSource card path = some (source, field)) : source ∈ card.sources := by
  unfold nestedSource at h
  split at h
  · obtain ⟨found, hfound, heq⟩ := Option.map_eq_some_iff.mp h
    simp only [Prod.mk.injEq] at heq
    exact heq.1 ▸ mem_of_find?_eq_some hfound
  · cases h

/-- A path into a cycle calls another one into a cycle. -/
theorem Card.Loops.step {card : Card} {scope : ValueScope} {path : Path}
    (h : card.Loops scope path) : ∃ source field, nestedSource card path = some (source, field) ∧
      ∃ next ∈ nestedCalls scope source.valueArgs, card.Loops scope next := by
  obtain ⟨source, field, hsource, c, hreach, hcycle⟩ := h
  obtain ⟨b, ⟨next, hnext, field', hb⟩, hrest⟩ :=
    TransGen.head'_iff.mp (TransGen.trans_right hreach hcycle)
  exact ⟨source, field, hsource, next, hnext, b, field', hb, c, hrest, hcycle⟩

section
variable {call : Path → Option (Option String)} {scope : ValueScope}

theorem mapM_nestedItem_eq_none_iff {items : List Path} :
    items.mapM (nestedItem call scope) = none ↔
      ∃ path ∈ items.map Path.stripState, call path = none := by
  induction items with
  | nil => simp
  | cons item items ih =>
    rw [map_cons, exists_mem_cons_iff, ← ih, mapM_cons]
    cases hcall : call item.stripState with
    | none => simp [nestedItem, hcall]
    | some found =>
      cases items.mapM (nestedItem call scope) <;> simp [nestedItem, hcall]

theorem bindingItems_eq_none_iff {items : List Path} :
    bindingItems call scope items = none ↔
      ∃ path ∈ itemCalls call scope items, call path = none := by
  induction items with
  | nil => simp [bindingItems, itemCalls]
  | cons item items ih =>
    unfold bindingItems itemCalls
    cases hcall : call item.stripState with
    | none => simp [hcall]
    | some found =>
      cases found <;> cases hlookup : scope.lookup item.stripState <;>
        simp [answered, hcall, hlookup, ih]

variable [F64Ops]

/-- A nested call ends exactly if the calls it makes do. -/
theorem resolveArgs_nestedArg_eq_none_iff {args : List (String × SourceArg)} :
    resolveArgs (nestedArg call scope) args = none ↔
      ∃ path ∈ nestedCalls scope args, call path = none := by
  fun_induction nestedCalls scope args with
  | case1 => simp [resolveArgs]
  | case2 | case3 => simpa [resolveArgs, nestedArg]
  | case4 name items args ih =>
    simp only [mem_append, or_and_right, exists_or]
    rw [← ih, ← mapM_nestedItem_eq_none_iff]
    cases h : items.mapM (nestedItem call scope) <;> simp [resolveArgs, nestedArg, h]
  | case5 name path args h ih =>
    obtain ⟨value, hvalue⟩ := Option.isSome_iff_exists.mp h
    simpa [resolveArgs, nestedArg, hvalue] using ih
  | case6 name path args h => simp_all [resolveArgs, nestedArg]

/-- A binding ends exactly if the calls it makes do. -/
theorem resolveArgs_bindingArg_eq_none_iff {args : List (String × SourceArg)} :
    resolveArgs (bindingArg call scope) args = none ↔
      ∃ path ∈ bindingCalls call scope args, call path = none := by
  induction args with
  | nil => simp [resolveArgs, bindingCalls]
  | cons arg args ih =>
    obtain ⟨name, arg⟩ := arg
    cases arg with
    | text text => simpa [resolveArgs, bindingArg, bindingCalls] using ih
    | number n => simpa [resolveArgs, bindingArg, bindingCalls] using ih
    | list items =>
      simp only [bindingCalls, mem_append, or_and_right, exists_or]
      rw [← ih, ← bindingItems_eq_none_iff]
      cases h : bindingItems call scope items <;> simp [resolveArgs, bindingArg, h]
    | path path =>
      cases hcall : call path.stripState with
      | none => simp [resolveArgs, bindingArg, bindingCalls, hcall]
      | some found =>
        cases found <;> cases hlookup : scope.lookup path.stripState <;>
          simp [resolveArgs, bindingArg, bindingCalls, answered, hcall, hlookup, ih]

variable [Unicode] {card : Card}

theorem nestedSourceCall_eq_none_of_loops {path : Path} (h : card.Loops scope path) (stack : ℕ) :
    nestedSourceCall card scope stack path = none := by
  induction stack generalizing path with
  | zero =>
    obtain ⟨source, field, hsource, -⟩ := h
    simp [nestedSourceCall, hsource]
  | succ stack ih =>
    obtain ⟨source, field, hsource, next, hnext, hloops⟩ := h.step
    have hnone := resolveArgs_nestedArg_eq_none_iff.mpr ⟨next, hnext, ih hloops⟩
    simp [nestedSourceCall, hsource, hnone]

/-- Nested calls that lead into no cycle end within as many steps as there are sources. -/
theorem nestedSourceCall_ne_none {path : Path} (h : ¬card.Loops scope path) :
    nestedSourceCall card scope card.sources.length path ≠ none := by
  cases hsource : nestedSource card path with
  | none =>
    unfold nestedSourceCall
    split <;> simp [hsource]
  | some found =>
    obtain ⟨start, field⟩ := found
    -- the sources that can be reached from this one have no cycle
    let Next (a b : SourceDecl) := card.CallsNested scope a b ∧
      ReflTransGen (card.CallsNested scope) start a
    have hacyclic : ∀ a, ¬TransGen Next a a := by
      intro a hcycle
      obtain ⟨b, hfirst, -⟩ := TransGen.head'_iff.mp hcycle
      exact h ⟨start, field, hsource, a, hfirst.2, hcycle.lift id fun _ _ hab => hab.1⟩
    refine Search.acyclic_induction hacyclic card.sources (P := fun stack source =>
      ReflTransGen (card.CallsNested scope) start source → ∀ path field,
      nestedSource card path = some (source, field) →
      nestedSourceCall card scope stack path ≠ none) ?_ (nestedSource_mem hsource) .refl path
      field hsource
    intro stack a _ ih hreach path field hpath
    simp only [nestedSourceCall, hpath, ne_eq, Option.map_eq_none_iff]
    rw [resolveArgs_nestedArg_eq_none_iff]
    rintro ⟨next, hnext, hnone⟩
    cases hb : nestedSource card next with
    | none =>
      unfold nestedSourceCall at hnone
      split at hnone <;> simp [hb] at hnone
    | some found =>
      have hcalls : card.CallsNested scope a found.1 := ⟨next, hnext, found.2, hb⟩
      exact ih found.1 (nestedSource_mem hb) ⟨hcalls, hreach⟩ (hreach.tail hcalls) next found.2 hb
        hnone

/-- Resolving a path to a source binding ends, with nested calls no deeper than the number of
sources, exactly if no call that it makes leads into a cycle. -/
theorem sourceBinding_finishes_iff (card : Card) (scope : ValueScope) (path : Path) :
    sourceBinding card scope card.sources.length path ≠ none ↔
      ∀ source ∈ declarationOf card.sources (rewriteOrigin scope path),
      ∀ called ∈ bindingCalls (nestedSourceCall card scope card.sources.length) scope
        source.valueArgs, ¬card.Loops scope called := by
  unfold sourceBinding
  dsimp only
  split
  · next hnone => simp [hnone]
  · next source hsource =>
    rw [ne_eq, Option.map_eq_none_iff, resolveArgs_bindingArg_eq_none_iff, hsource]
    simp only [Option.mem_def, Option.some.injEq, forall_eq', not_exists, not_and]
    refine forall₂_congr fun called _ => not_congr ⟨?_, ?_⟩
    · exact fun hnone => by_contra fun h => nestedSourceCall_ne_none h hnone
    · exact fun h => nestedSourceCall_eq_none_of_loops h _

end

/-- A route by way of itself. -/
def loopCard : Card where
  sources := [⟨["trip"], "sys.route", [("via", .list [["trip", "duration"]]),
    ("fields", .list [["duration"]])]⟩]
  states := []
  events := []
  copies := []
  components := []
  views := [⟨"root", .call "TextHero" [⟨"value", .path ["trip", "duration"]⟩] []⟩]

theorem loops_loopCard (scope : ValueScope) : loopCard.Loops scope ["trip", "duration"] := by
  refine ⟨_, _, rfl, _, .refl, .single ⟨["trip", "duration"], ?_, _, rfl⟩⟩
  exact mem_append_left _ mem_cons_self

theorem sourceBinding_loopCard [F64Ops] [Unicode] (data : Json.Value) (stack : ℕ) :
    sourceBinding loopCard ⟨[], data, []⟩ stack ["trip", "duration"] = none := by
  refine Option.map_eq_none_iff.mpr (resolveArgs_bindingArg_eq_none_iff.mpr ?_)
  exact ⟨_, mem_cons_self, nestedSourceCall_eq_none_of_loops (loops_loopCard _) _⟩

/-- The binding of a route by way of itself never ends, however deep the stack. -/
theorem loopCard_never_finishes :
    ∃ (_ : F64Ops) (_ : Unicode) (card : Card) (path : Path), card.Accepted ∧
      ∀ data stack, sourceBinding card ⟨[], data, []⟩ stack path = none :=
  ⟨F64Ops.counting, Unicode.ascii, loopCard, ["trip", "duration"], by decide,
    @sourceBinding_loopCard F64Ops.counting Unicode.ascii⟩

end Octoscript.Ui
