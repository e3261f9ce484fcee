import Octoscript.Lib.Lists
import Octoscript.Ui.Lexical

namespace Octoscript.Ui

open List Sight

variable {scope lexical top : ValueScope} {sights : Sights}

/-- A stack that has grown by frames of these names, the last one first. -/
structure Grows (names : List String) (scope scope' : ValueScope) : Prop where
  data : scope'.data = scope.data
  copies : scope'.copies = scope.copies
  frames : ∃ front : List Frame,
    front.map Frame.name = names ∧ scope'.frames = front ++ scope.frames

namespace Grows
variable {names names' : List String} {scope' scope'' : ValueScope}

theorem refl (scope : ValueScope) : Grows [] scope scope := ⟨rfl, rfl, [], rfl, rfl⟩

theorem push (scope : ValueScope) (frame : Frame) : Grows [frame.name] scope (scope.push frame) :=
  ⟨rfl, rfl, [frame], rfl, rfl⟩

theorem trans (h : Grows names scope scope') (h' : Grows names' scope' scope'') :
    Grows (names' ++ names) scope scope'' := by
  obtain ⟨front, rfl, hframes⟩ := h.frames
  obtain ⟨front', rfl, hframes'⟩ := h'.frames
  refine ⟨h'.data.trans h.data, h'.copies.trans h.copies, front' ++ front, map_append, ?_⟩
  rw [hframes', hframes, append_assoc]

theorem suffix (h : Grows names scope scope') : scope.frames <:+ scope'.frames := by
  obtain ⟨front, _, hframes⟩ := h.frames
  exact ⟨front, hframes.symm⟩

theorem length (h : Grows names scope scope') :
    scope'.frames.length = scope.frames.length + names.length := by
  obtain ⟨front, rfl, hframes⟩ := h.frames
  rw [hframes, length_append, length_map, Nat.add_comm]

/-- The new names are at their heights. -/
theorem valid (h : Grows names scope scope') :
    Valid Frame.name scope'.frames (stacked scope.frames.length names) := by
  obtain ⟨front, rfl, hframes⟩ := h.frames
  rw [hframes]
  exact valid_stacked _

end Grows

theorem grows_bindProps [F64Ops] (call : Element) (params : List Param) (scope : ValueScope) :
    Grows (params.map Param.name).reverse scope (Realizer.bindProps call params scope) := by
  induction params generalizing scope with
  | nil => exact .refl scope
  | cons param params ih =>
    rw [map_cons, reverse_cons]
    exact (Grows.push scope (Realizer.propFrame call scope param)).trans (ih _)

theorem grows_loopFrames (binders : List String) (path : Path) (item : Json.Value) (index : ℕ)
    (scope : ValueScope) : Grows (binders.take 2).reverse scope
      (Realizer.loopFrames binders path item index scope) := by
  match binders with
  | [] => exact .refl scope
  | [binder] => exact .push scope ⟨binder, item, some (path, index)⟩
  | binder :: number :: _ =>
    exact (Grows.push scope ⟨binder, item, some (path, index)⟩).trans
      (.push _ ⟨number, .nat (index + 1), none⟩)

section
variable [F64Ops] [Unicode]

/-- The frame of a state. -/
def Realizer.stateFrame (self : Realizer) (component : Component) (key : String) (state : StateDecl)
    (scope : ValueScope) : Frame :=
  ⟨state.path.text, (((self.liveCell component key state).or state.initial).or
    (state.initialPath.bind scope.lookup)).getD (initialFor state.shape), none⟩

theorem Realizer.bindStates_cons (self : Realizer) (component : Component) (key : String)
    (state : StateDecl) (states : List StateDecl) (scope : ValueScope) :
    self.bindStates component key (state :: states) scope =
      self.bindStates component key states
        (scope.push (self.stateFrame component key state scope)) := rfl

theorem grows_bindStates (self : Realizer) (component : Component) (key : String)
    (states : List StateDecl) (scope : ValueScope) :
    Grows (states.map fun state => state.path.text).reverse scope
      (self.bindStates component key states scope) := by
  induction states generalizing scope with
  | nil => exact .refl scope
  | cons state states ih =>
    rw [map_cons, reverse_cons]
    exact (Grows.push scope (self.stateFrame component key state scope)).trans (ih _)

theorem grows_bodyScope (self : Realizer) (component : Component) (call : Element) (key : String)
    (scope : ValueScope) :
    Grows component.ownNames.reverse scope (self.bodyScope component call key scope) := by
  rw [Component.ownNames, reverse_append]
  exact (grows_bindProps call component.params scope).trans
    (grows_bindStates self component key component.states _)

end

theorem scope_of_mem_spots {slots : Slots} {scope : ValueScope} {start : String}
    {children : List Element} {next : Spot} (h : next ∈ spots slots scope start children) :
    next.scope = scope := by
  obtain ⟨_, _, rfl⟩ := mem_map.mp h
  rfl

theorem Realizer.grows_of_mem_loopSpots [F64Ops] {self : Realizer} {spot next : Spot}
    {a : LoopRun × List Spot} (ha : a ∈ self.loopSpots spot) (h : next ∈ a.2) :
    Grows spot.element.loopNames.reverse spot.scope next.scope := by
  unfold Realizer.loopSpots at ha
  split at ha
  · split at ha
    · cases ha
    · obtain ⟨run, _, rfl⟩ := mem_map.mp ha
      rw [scope_of_mem_spots h]
      exact grows_loopFrames _ _ _ _ _
  · cases ha

namespace Realizer
variable [F64Ops] [Unicode] {self : Realizer}

/-- The names that are bound below a spot, the innermost first. -/
def boundBelow (self : Realizer) (spot : Spot) : List String :=
  if spot.element.name = "for" then spot.element.loopNames.reverse
  else ((self.called spot).elim [] Component.ownNames).reverse

/-- Nothing is bound but by a loop or a component. -/
theorem scope_of_mem_nexts {spot next : Spot} (hfor : spot.element.name ≠ "for")
    (hcalled : self.called spot = none) (h : next ∈ self.nexts spot) : next.scope = spot.scope := by
  unfold nexts at h
  split at h
  · cases h
  split at h
  · split at h
    · cases h
    · split at h
      · cases h
      · exact scope_of_mem_spots h
  split at h
  · split at h
    · exact scope_of_mem_spots h
    · cases h
  split at h
  · split at h
    · rw [mem_singleton.mp h]
    · cases h
  · rename_i hempty hslot hwhen hreference
    have hcall : spot.element.isCall = true :=
      Element.isCall_iff.mpr ⟨hempty, hslot, hfor, hwhen, by simpa using hreference⟩
    rw [called, if_pos hcall] at hcalled
    rw [hcalled] at h
    exact scope_of_mem_spots h

theorem grows_of_mem_nexts {spot next : Spot} (h : next ∈ self.nexts spot) :
    Grows (self.boundBelow spot) spot.scope next.scope := by
  unfold boundBelow
  by_cases hfor : spot.element.name = "for"
  · rw [if_pos hfor]
    simp only [nexts, hfor] at h
    obtain ⟨a, ha, hnext⟩ := mem_flatMap.mp h
    exact grows_of_mem_loopSpots ha hnext
  rw [if_neg hfor]
  cases hcalled : self.called spot with
  | some component =>
    obtain ⟨hcall, hfound⟩ := Option.ite_none_right_eq_some.mp hcalled
    obtain ⟨hempty, hslot, _, hwhen, hreference⟩ := Element.isCall_iff.mp hcall
    simp only [nexts, hempty, hslot, hfor, hwhen, hreference, hfound, if_false, Bool.false_eq_true,
      mem_singleton] at h
    rw [h]
    exact grows_bodyScope _ _ _ _ _
  | none =>
    rw [scope_of_mem_nexts hfor hcalled h]
    exact .refl _

end Realizer

/-- The lexical scope has what is in sight on the stack. -/
structure Seen (scope lexical : ValueScope) (sights : Sights) : Prop where
  data : scope.data = lexical.data
  copies : scope.copies = lexical.copies
  frames : InSight Frame.name scope.frames lexical.frames sights

namespace Seen

theorem grow (h : Seen scope lexical sights) {names : List String} {scope' : ValueScope}
    (hgrows : Grows names scope scope') : Seen scope' lexical sights :=
  ⟨hgrows.data.trans h.data, hgrows.copies.trans h.copies, h.frames.of_suffix hgrows.suffix⟩

theorem push (h : Seen scope lexical sights) (frame : Frame) :
    Seen (scope.push frame) (lexical.push frame) ((frame.name, scope.frames.length) :: sights) :=
  ⟨h.data, h.copies, h.frames.push frame⟩

theorem lookup (h : Seen scope lexical sights) {path : Path}
    (hread : (Reading.value scope sights path).Resolves) :
    scope.lookup path = lexical.lookup path := by
  apply ValueScope.lookup_congr h.data h.copies
  intro name hname
  unfold ValueScope.lookupName
  rw [h.frames.find?_eq (hread name hname), h.data]

theorem originOf (h : Seen scope lexical sights) {name : String}
    (hread : (Reading.place scope sights name).Resolves) :
    scope.originOf name = lexical.originOf name := by
  unfold ValueScope.originOf
  simp only [Bool.decide_and, Bool.decide_eq_true, h.frames.find?_and_eq hread]

end Seen

section
variable [F64Ops]

theorem scopeValue_congr {operand : Operand}
    (h : ∀ path ∈ exprPaths operand, scope.lookup path = lexical.lookup path) :
    scopeValue scope operand = scopeValue lexical operand := by
  induction operand with
  | path path => exact h path mem_cons_self
  | token token | str text | num n | predicate path cmp rhs => rfl
  | expr lhs op rhs ihl ihr =>
    unfold scopeValue
    rw [ihl fun path hpath => h path (mem_append_left _ hpath),
      ihr fun path hpath => h path (mem_append_right _ hpath)]

theorem nodeValue_congr (constructor arg : String) {operand : Operand}
    (h : ∀ path ∈ exprPaths operand, scope.lookup path = lexical.lookup path) :
    nodeValue constructor arg operand scope = nodeValue constructor arg operand lexical := by
  unfold nodeValue
  cases operand with
  | path path => simp only [h path mem_cons_self]
  | token token | str text | num n => rfl
  | predicate path cmp rhs =>
    simp only [h path mem_cons_self,
      scopeValue_congr fun path hpath => h path (mem_cons_of_mem _ hpath)]
  | expr lhs op rhs => simp only [scopeValue_congr h]

variable {call call' : Path → Option (Option String)}

omit [F64Ops] in
theorem nestedItem_congr {item : Path} (hcall : call item.stripState = call' item.stripState)
    (h : call item.stripState = some none →
      scope.lookup item.stripState = top.lookup item.stripState) :
    nestedItem call scope item = nestedItem call' top item := by
  unfold nestedItem
  rw [← hcall]
  rcases hfound : call item.stripState with _ | _ | text
  · rfl
  · rw [h hfound]
  · rfl

omit [F64Ops] in
theorem resolveArgs_congr {resolve resolve' : SourceArg → Option (Option String)}
    {args : List (String × SourceArg)} (h : ∀ arg ∈ args, resolve arg.2 = resolve' arg.2) :
    resolveArgs resolve args = resolveArgs resolve' args := by
  induction args with
  | nil => rfl
  | cons arg args ih =>
    obtain ⟨name, value⟩ := arg
    unfold resolveArgs
    rw [h _ mem_cons_self, ih fun later hlater => h later (mem_cons_of_mem _ hlater)]

omit [F64Ops] in
theorem bindingItems_congr {items : List Path}
    (hcall : ∀ item ∈ items, call item.stripState = call' item.stripState)
    (h : ∀ item ∈ items, call item.stripState = some none →
      scope.lookup item.stripState = top.lookup item.stripState) :
    bindingItems call scope items = bindingItems call' top items := by
  induction items with
  | nil => rfl
  | cons item items ih =>
    have hrest := ih (fun later hlater => hcall later (mem_cons_of_mem _ hlater))
      fun later hlater => h later (mem_cons_of_mem _ hlater)
    unfold bindingItems
    rw [← hcall item mem_cons_self, hrest]
    rcases hfound : call item.stripState with _ | _ | text
    · rfl
    · rw [h item mem_cons_self hfound]
    · rfl

variable [Unicode] {card : Card}

omit [F64Ops] [Unicode] in
theorem callPaths_lookup {nested : Path → List Path} {path : Path}
    (h : ∀ q ∈ callPaths call nested path, scope.lookup q = top.lookup q) :
    (∀ q ∈ nested path, scope.lookup q = top.lookup q) ∧
      (call path = some none → scope.lookup path = top.lookup path) :=
  ⟨fun q hq => h q (mem_append_left _ hq),
    fun hnone => h path (mem_append_right _ (by simp [hnone]))⟩

theorem nestedSourceCall_congr {stack : ℕ} {path : Path}
    (h : ∀ q ∈ nestedPaths card scope stack path, scope.lookup q = top.lookup q) :
    nestedSourceCall card scope stack path = nestedSourceCall card top stack path := by
  induction stack generalizing path with
  | zero => rfl
  | succ stack ih =>
    unfold nestedSourceCall
    unfold nestedPaths at h
    cases hsource : nestedSource card path with
    | none => rfl
    | some found =>
      obtain ⟨source, field⟩ := found
      rw [hsource] at h
      dsimp only at h ⊢
      rw [resolveArgs_congr fun arg harg => ?_]
      have harg' := fun q hq => h q (mem_flatMap.mpr ⟨arg, harg, hq⟩)
      unfold nestedArg
      cases hvalue : arg.2 with
      | text text | number n => rfl
      | path path =>
        rw [hvalue] at harg'
        dsimp only
        rw [harg' path.stripState mem_cons_self]
      | list items =>
        rw [hvalue] at harg'
        dsimp only
        rw [Option.mapM_congr fun item hitem => ?_]
        have hitem' := callPaths_lookup fun q hq => harg' q (mem_flatMap.mpr ⟨item, hitem, hq⟩)
        exact nestedItem_congr (ih hitem'.1) hitem'.2

theorem sourceBinding_congr {stack : ℕ} {path : Path}
    (horigin : scope.originOf path.root = lexical.originOf path.root)
    (h : ∀ q ∈ bindingPaths card scope stack path, scope.lookup q = top.lookup q) :
    sourceBinding card scope stack path = sourceBindingAt card top lexical stack path := by
  have hrewrite : rewriteOrigin scope path = rewriteOrigin lexical path := by
    unfold rewriteOrigin
    rw [horigin]
  unfold sourceBinding sourceBindingAt
  unfold bindingPaths at h
  dsimp only
  rw [hrewrite] at h ⊢
  cases hdeclared : declarationOf card.sources (rewriteOrigin lexical path) with
  | none => rfl
  | some source =>
    rw [hdeclared] at h
    dsimp only at h ⊢
    rw [resolveArgs_congr fun arg harg => ?_]
    have harg' := fun q hq => h q (mem_flatMap.mpr ⟨arg, harg, hq⟩)
    unfold bindingArg
    cases hvalue : arg.2 with
    | text text | number n => rfl
    | path path =>
      rw [hvalue] at harg'
      obtain ⟨hnested, hlookup⟩ := callPaths_lookup harg'
      dsimp only
      rw [← nestedSourceCall_congr hnested]
      rcases hfound : nestedSourceCall card scope stack path.stripState with _ | _ | text
      · rfl
      · rw [hlookup hfound]
      · rfl
    | list items =>
      rw [hvalue] at harg'
      have hitems := fun item hitem =>
        callPaths_lookup fun q hq => harg' q (mem_flatMap.mpr ⟨item, hitem, hq⟩)
      dsimp only
      rw [bindingItems_congr (fun item hitem => nestedSourceCall_congr (hitems item hitem).1)
        fun item hitem => (hitems item hitem).2]

/-- The paths of an operand, where they are bound to sources and where they are looked up. -/
theorem exprShape_congr {stack : ℕ} {operand : Operand}
    (hpaths : ∀ path ∈ exprPaths operand, scope.lookup path = lexical.lookup path)
    (hbound : ∀ path ∈ boundPaths operand,
      sourceBinding card scope stack path = sourceBindingAt card top lexical stack path) :
    exprShape card scope stack operand = exprShapeAt card top lexical stack operand := by
  induction operand with
  | token token | str text | num n | predicate path cmp rhs => rfl
  | path path =>
    have hbind := hbound path mem_cons_self
    have hlook := hpaths path mem_cons_self
    unfold exprShape exprShapeAt
    revert hbind hlook
    generalize sourceBinding card scope stack path = binding
    generalize scope.lookup path = value
    rintro rfl rfl
    rfl
  | expr lhs op rhs ihl ihr =>
    have hl := ihl (fun path hpath => hpaths path (mem_append_left _ hpath))
      fun path hpath => hbound path (mem_append_left _ hpath)
    have hr := ihr (fun path hpath => hpaths path (mem_append_right _ hpath))
      fun path hpath => hbound path (mem_append_right _ hpath)
    unfold exprShape exprShapeAt
    revert hl hr
    generalize exprShape card scope stack lhs = left
    generalize exprShape card scope stack rhs = right
    rintro rfl rfl
    rfl

end

namespace Realizer

section
variable [F64Ops]

theorem propFrame_congr {call : Element} {param : Param} {params : List Param}
    (h : Seen scope lexical sights)
    (hreads : ∀ reading ∈ propReadings call sights (param :: params) scope, reading.Resolves) :
    propFrame call scope param = propFrame call lexical param := by
  unfold propFrame propValue propOrigin
  unfold propReadings at hreads
  dsimp only
  generalize (call.args.find? fun arg => arg.name = param.name) = supplied at hreads ⊢
  rcases supplied with _ | ⟨label, value⟩
  · rfl
  cases value with
  | token token | str text | num n | expr lhs op rhs => rfl
  | path path | predicate path cmp rhs =>
    dsimp only at hreads ⊢
    rw [h.originOf (hreads _ (mem_append_left _ mem_cons_self))]
    split
    · rfl
    · rename_i hshape
      have hread : (Reading.value scope sights path).Resolves := hreads _ (by simp [hshape])
      rw [h.lookup hread]

/-- Parameters whose arguments find their binders are bound as by the text. -/
theorem seen_bindProps {call : Element} {params : List Param} (h : Seen scope lexical sights)
    {own : ValueScope} {names : List String} {height : ℕ}
    (hown : Seen scope own (stacked height names))
    (hheight : scope.frames.length = height + names.length)
    (hreads : ∀ reading ∈ propReadings call sights params scope, reading.Resolves) :
    Seen (bindProps call params scope)
      ⟨propFrames call params lexical ++ own.frames, own.data, own.copies⟩
      (stacked height ((params.map Param.name).reverse ++ names)) := by
  induction params generalizing scope own names with
  | nil => exact hown
  | cons param params ih =>
    have hframe := propFrame_congr h hreads
    have hpush : Seen (scope.push (propFrame call scope param))
        (own.push (propFrame call scope param)) (stacked height (param.name :: names)) := by
      have hframe := hown.push (propFrame call scope param)
      rwa [hheight] at hframe
    have hnext := ih (h.grow (.push _ _)) hpush
      (by simp [ValueScope.push, hheight, Nat.add_assoc])
      fun reading hreading => hreads reading (mem_append_right _ hreading)
    have hframes : propFrames call (param :: params) lexical ++ own.frames =
        propFrames call params lexical ++ propFrame call lexical param :: own.frames := by
      simp [propFrames]
    rw [hframe] at hnext
    change Seen (bindProps call params (scope.push (propFrame call scope param))) _ _
    rw [hframe, hframes, map_cons, reverse_cons, append_assoc]
    exact hnext

variable [Unicode] {self : Realizer} {component : Component} {key : String}

/-- States whose initials find their binders are bound as by the text. -/
theorem seen_bindStates {states : List StateDecl} {own : ValueScope} {names : List String}
    {height : ℕ} (hown : Seen scope own (stacked height names))
    (hheight : scope.frames.length = height + names.length)
    (hreads : ∀ reading ∈ self.stateReadings component key height names states scope,
      reading.Resolves) :
    Seen (self.bindStates component key states scope) (self.bindStates component key states own)
      (stacked height ((states.map fun state => state.path.text).reverse ++ names)) := by
  induction states generalizing scope own names with
  | nil => exact hown
  | cons state states ih =>
    have hframe : self.stateFrame component key state scope =
        self.stateFrame component key state own := by
      unfold stateFrame
      rcases hset : (self.liveCell component key state).or state.initial with _ | value
      · rcases hpath : state.initialPath with _ | path
        · rfl
        · rw [Option.bind_some, Option.bind_some, hown.lookup (hreads _ (mem_append_left _ ?_))]
          simp [hset, hpath]
      · rfl
    have hpush : Seen (scope.push (self.stateFrame component key state scope))
        (own.push (self.stateFrame component key state scope))
        (stacked height (state.path.text :: names)) := by
      have hframe := hown.push (self.stateFrame component key state scope)
      rwa [hheight] at hframe
    have hnext := ih hpush
      (by simp [ValueScope.push, hheight, Nat.add_assoc])
      fun reading hreading => hreads reading (mem_append_right _ hreading)
    rw [hframe] at hnext
    rw [bindStates_cons, bindStates_cons, hframe, map_cons, reverse_cons, append_assoc]
    exact hnext

end

end Realizer

end Octoscript.Ui
