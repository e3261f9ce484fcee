import Octoscript.Lib.Keys
import Octoscript.Lib.Unfolding
import Octoscript.Ui.Scopes

namespace Octoscript.Ui

open Keys List Realizer Unfolding

mutual

/-- The keys of a node and of the nodes below it. -/
def UiNode.keys : UiNode → List String
  | ⟨_, key, _, children, _, _⟩ => key :: keysOf children

def UiNode.keysOf : List UiNode → List String
  | [] => []
  | node :: nodes => node.keys ++ keysOf nodes

end

theorem UiNode.keysOf_append (nodes nodes' : List UiNode) :
    keysOf (nodes ++ nodes') = keysOf nodes ++ keysOf nodes' := by
  induction nodes with
  | nil => rfl
  | cons node nodes ih => simp [keysOf, ih]

/-- An item that a loop comes to, its index and the key that it gets. -/
structure LoopRun where
  item : Json.Value
  index : ℕ
  key : String

/-- The items that a loop comes to; a repeated key is marked with the index. -/
def Realizer.loopRuns (self : Realizer) (keyPath : Option Path) :
    ℕ → List String → List Json.Value → List LoopRun
  | _, _, [] => []
  | index, seen, item :: items =>
    if self.limits.maxCollection ≤ index then []
    else if itemKey keyPath item index ∈ seen then
      ⟨item, index, numbered (itemKey keyPath item index) index⟩ ::
        self.loopRuns keyPath (index + 1) seen items
    else
      ⟨item, index, itemKey keyPath item index⟩ ::
        self.loopRuns keyPath (index + 1) (seen ++ [itemKey keyPath item index]) items

/-- The start of the keys inside an item of a loop. -/
def itemStart (key used : String) : String := key ++ "[" ++ used ++ "]/"

/-- A place that the walk comes to. -/
structure Spot where
  slots : Slots
  scope : ValueScope
  element : Element
  key : String

/-- The spots of siblings. -/
def spots (slots : Slots) (scope : ValueScope) (key : String) (children : List Element) :
    List Spot :=
  (siblingSegments [] children).map fun (segment, child) => ⟨slots, scope, child, key ++ segment⟩

/-- Neither a form of the language nor a reference to a view: a component or a constructor. -/
def Element.isCall (element : Element) : Bool :=
  element.name ∉ ["", "slot", "for", "when"] && !element.isReference

theorem Element.isCall_iff {element : Element} : element.isCall = true ↔
    element.name ≠ "" ∧ element.name ≠ "slot" ∧ element.name ≠ "for" ∧ element.name ≠ "when" ∧
      element.isReference = false := by
  simp [isCall, and_assoc]

section
variable [F64Ops] [Unicode]

namespace Realizer
variable (self : Realizer)

/-- The spots in the items that a loop comes to, item by item. -/
def loopSpots (spot : Spot) : List (LoopRun × List Spot) :=
  match spot.element.args with
  | ⟨_, .path path⟩ :: _ =>
    match (self.loopItems path spot.scope).bind asArray with
    | none => []
    | some items => (self.loopRuns spot.element.keyPath 0 [] items).map fun run =>
        (run, spots spot.slots (loopFrames spot.element.binders path run.item run.index spot.scope)
          (itemStart spot.key run.key) spot.element.children)
  | _ => []

/-- Where the walk goes on from a spot. -/
def nexts (spot : Spot) : List Spot :=
  if spot.element.name = "" then []
  else if spot.element.name = "slot" then
    match spot.slots with
    | [] => []
    | groups :: slots =>
      match groups.find? fun group => group.1 = spot.element.binders.headD "" with
      | none => []
      | some (_, children) => spots slots spot.scope (spot.key ++ "/s:") children
  else if spot.element.name = "for" then (self.loopSpots spot).flatMap Prod.snd
  else if spot.element.name = "when" then
    if guardHolds spot.element spot.scope then
      spots spot.slots spot.scope (spot.key ++ "/w:") spot.element.children
    else []
  else if spot.element.isReference then
    match self.card.view? spot.element.name with
    | some view => [⟨spot.slots, spot.scope, view.body, spot.key ++ "/" ++ spot.element.name⟩]
    | none => []
  else
    match self.card.component? spot.element.name with
    | some component => [⟨splitSlots spot.element.children :: spot.slots,
        self.bodyScope component spot.element (spot.key ++ "/" ++ component.name) spot.scope,
        component.body, spot.key ++ "/" ++ component.name⟩]
    | none => spots spot.slots spot.scope (spot.key ++ "/") spot.element.children

/-- The component that is called at a spot. -/
def called (spot : Spot) : Option Component :=
  if spot.element.isCall then self.card.component? spot.element.name else none

/-- The key of the instance at a spot. -/
def instanceAt (spot : Spot) : Option String :=
  (self.called spot).map fun component => spot.key ++ "/" ++ component.name

/-- The key of the node at a spot. -/
def nodeAt (spot : Spot) : Option String :=
  if spot.element.isCall && (self.card.component? spot.element.name).isNone then some spot.key
  else none

/-- The keys that a mark gives the spots from a spot on, of which `depth` levels are realized. -/
def keysFrom (mark : Spot → Option String) (depth : ℕ) (spot : Spot) : List String :=
  (visits self.nexts depth spot).filterMap mark

end Realizer

end

theorem realize_bind {α β : Type} {z : Realize α} {f : α → Realize β} {walk walk' : Walk} {b : β}
    (h : (z >>= f) walk = some (b, walk')) :
    ∃ a between, z walk = some (a, between) ∧ f a between = some (b, walk') := by
  simp only [bind, StateT.bind, Option.bind_eq_some_iff] at h
  obtain ⟨⟨a, between⟩, hz, hf⟩ := h
  exact ⟨a, between, hz, hf⟩

theorem realize_lift {α : Type} {x : Option α} {walk walk' : Walk} {a : α}
    (h : (liftM x : Realize α) walk = some (a, walk')) : x = some a ∧ walk' = walk := by
  cases x with
  | none => exact absurd h nofun
  | some b =>
    cases h
    exact ⟨rfl, rfl⟩

/-- The step realizes nodes and instances of these keys: all of them, unless it says that it has
truncated. -/
def Realizes (x : Realize (List UiNode)) (nodeKeys instanceKeys : List String) : Prop :=
  ∀ walk nodes walk', x walk = some (nodes, walk') → ∃ live, walk'.live = walk.live ++ live ∧
    UiNode.keysOf nodes <+ nodeKeys ∧ live <+ instanceKeys ∧
    (walk'.truncated = false → walk.truncated = false ∧ UiNode.keysOf nodes = nodeKeys ∧
      live = instanceKeys)

section
variable {x y : Realize (List UiNode)} {ks ks' ls ls' : List String}

theorem realizes_nil : Realizes (pure []) [] [] := by
  rintro walk nodes walk' ⟨⟩
  exact ⟨[], by simp, .slnil, .slnil, fun h => ⟨h, rfl, rfl⟩⟩

theorem realizes_truncate : Realizes truncate ks ls := by
  rintro walk nodes walk' ⟨⟩
  exact ⟨[], by simp, nil_sublist _, nil_sublist _, nofun⟩

theorem realizes_diagnose (problem : RealizeProblem) : Realizes (diagnose problem) [] [] := by
  rintro walk nodes walk' ⟨⟩
  exact ⟨[], by simp, .slnil, .slnil, fun h => ⟨h, rfl, rfl⟩⟩

/-- Two walks one after the other. -/
theorem Realizes.append (hx : Realizes x ks ls) (hy : Realizes y ks' ls') :
    Realizes (do
      let nodes ← x
      let rest ← y
      return nodes ++ rest) (ks ++ ks') (ls ++ ls') := by
  intro walk nodes walk' h
  obtain ⟨first, between, hfirst, h⟩ := realize_bind h
  obtain ⟨second, last, hsecond, hlast⟩ := realize_bind h
  cases hlast
  obtain ⟨live, hlive, hkeys, hpart, hall⟩ := hx walk first between hfirst
  obtain ⟨live', hlive', hkeys', hpart', hall'⟩ := hy between second walk' hsecond
  refine ⟨live ++ live', by rw [hlive', hlive, append_assoc], ?_, hpart.append hpart', ?_⟩
  · rw [UiNode.keysOf_append]
    exact hkeys.append hkeys'
  · intro hwhole
    obtain ⟨hbetween, hrest, rfl⟩ := hall' hwhole
    obtain ⟨hwalk, hfront, rfl⟩ := hall hbetween
    exact ⟨hwalk, by rw [UiNode.keysOf_append, hfront, hrest], rfl⟩

theorem realizes_realizeEach {α : Type} {each : α → Realize (List UiNode)}
    {ks ls : α → List String} {items : List α}
    (h : ∀ item ∈ items, Realizes (each item) (ks item) (ls item)) :
    Realizes (realizeEach each items) (items.flatMap ks) (items.flatMap ls) := by
  induction items with
  | nil => exact realizes_nil
  | cons item items ih =>
    rw [flatMap_cons, flatMap_cons]
    exact (h item mem_cons_self).append (ih fun item hitem => h item (mem_cons_of_mem _ hitem))

/-- Where no work is left, the walk says so. -/
theorem Realizes.charge (self : Realizer) {f : Bool → Realize (List UiNode)}
    (htrue : Realizes (f true) ks ls) (hfalse : f false = truncate ∨ f false = pure []) :
    Realizes (self.chargeWork >>= f) ks ls := by
  intro walk nodes walk' h
  obtain ⟨charged, between, hcharge, h⟩ := realize_bind h
  unfold chargeWork at hcharge
  split at hcharge
  · cases hcharge
    rcases hfalse with hfalse | hfalse
    · rw [hfalse] at h
      cases h
      exact ⟨[], by simp, nil_sublist _, nil_sublist _, nofun⟩
    · rw [hfalse] at h
      cases h
      exact ⟨[], by simp, nil_sublist _, nil_sublist _, nofun⟩
  · cases hcharge
    obtain ⟨live, hlive, hspec⟩ := htrue _ nodes walk' h
    exact ⟨live, hlive, hspec⟩

theorem Realizes.diagnosed (hx : Realizes x ks ls) (problem : RealizeProblem) :
    Realizes (do
      let _ ← diagnose problem
      x) ks ls := by
  intro walk nodes walk' h
  obtain ⟨_, between, hsaid, h⟩ := realize_bind h
  cases hsaid
  obtain ⟨live, hlive, hspec⟩ := hx _ nodes walk' h
  exact ⟨live, hlive, hspec⟩

end

namespace Realizer
variable {self : Realizer} {descend : Descent} {ks ls : Spot → List String}

/-- The walk below goes as the keys tell. -/
def Goes (descend : Descent) (ks ls : Spot → List String) : Prop :=
  ∀ spot, Realizes (descend spot.slots spot.scope spot.element spot.key) (ks spot) (ls spot)

theorem realizes_siblings (hdesc : Goes descend ks ls) (slots : Slots) (scope : ValueScope)
    (key : String) (children : List Element) :
    Realizes (siblings (descend slots scope) key children)
      ((spots slots scope key children).flatMap ks)
      ((spots slots scope key children).flatMap ls) := by
  rw [spots, flatMap_map, flatMap_map]
  exact realizes_realizeEach fun item _ => hdesc ⟨slots, scope, item.2, key ++ item.1⟩

/-- A loop's item starts its keys with the one that it gets. -/
theorem loopItem_eq (descend : ValueScope → Element → String → Realize (List UiNode))
    (element : Element) (path : Path) (scope : ValueScope) (key : String) (index : ℕ)
    (seen : List String) (item : Json.Value) :
    loopItem descend element path scope key index seen item =
      let itemKey := itemKey element.keyPath item index
      let scope := loopFrames element.binders path item index scope
      if itemKey ∈ seen then do
        let _ ← diagnose (.duplicateKey itemKey)
        let nodes ← siblings (descend scope) (itemStart key (numbered itemKey index))
          element.children
        return (nodes, seen)
      else do
        let nodes ← siblings (descend scope) (itemStart key itemKey) element.children
        return (nodes, seen ++ [itemKey]) := by
  simp only [loopItem, itemStart, numbered, String.append_assoc]

theorem realizes_loopOver (hdesc : Goes descend ks ls) (spot : Spot) (path : Path) (index : ℕ)
    (seen : List String) (items : List Json.Value) :
    let kids : LoopRun → List Spot := fun run => spots spot.slots
      (loopFrames spot.element.binders path run.item run.index spot.scope)
      (itemStart spot.key run.key) spot.element.children
    Realizes (self.loopOver (descend spot.slots) spot.element path spot.scope spot.key index seen
        items)
      ((self.loopRuns spot.element.keyPath index seen items).flatMap fun run =>
        (kids run).flatMap ks)
      ((self.loopRuns spot.element.keyPath index seen items).flatMap fun run =>
        (kids run).flatMap ls) := by
  intro kids
  induction items generalizing index seen with
  | nil => exact realizes_nil
  | cons item items ih =>
    unfold loopOver
    refine Realizes.charge self ?_ (.inr rfl)
    simp only [if_true]
    split
    · exact realizes_truncate
    rename_i hindex
    unfold loopRuns
    rw [loopItem_eq, if_neg hindex]
    dsimp only
    split
    · simp only [bind_assoc, pure_bind]
      exact ((realizes_siblings hdesc _ _ _ _).append (ih _ _)).diagnosed _
    · simp only [bind_assoc, pure_bind]
      exact (realizes_siblings hdesc _ _ _ _).append (ih _ _)

variable [F64Ops] [Unicode]

omit [Unicode] in
theorem realizes_realizeLoop (hdesc : Goes descend ks ls) (spot : Spot) :
    Realizes (self.realizeLoop (descend spot.slots) spot.element spot.scope spot.key)
      (((self.loopSpots spot).flatMap Prod.snd).flatMap ks)
      (((self.loopSpots spot).flatMap Prod.snd).flatMap ls) := by
  unfold realizeLoop loopSpots
  rcases spot.element.args with _ | ⟨⟨label, value⟩, rest⟩
  · exact realizes_nil
  cases value with
  | path path =>
    dsimp only
    cases self.loopItems path spot.scope with
    | none => exact realizes_nil
    | some collection =>
      dsimp only [Option.bind_some]
      cases asArray collection with
      | none => exact realizes_diagnose _
      | some items =>
        dsimp only
        rw [flatMap_map, flatMap_assoc, flatMap_assoc]
        exact realizes_loopOver hdesc spot path 0 [] items
  | token token | str text | num n | predicate path cmp rhs | expr lhs op rhs => exact realizes_nil

theorem realizes_realizeConstructor (hdesc : Goes descend ks ls) (slots : Slots)
    (scope : ValueScope) (element : Element) (key : String) :
    Realizes (self.realizeConstructor descend slots scope element key)
      (key :: (spots slots scope (key ++ "/") element.children).flatMap ks)
      ((spots slots scope (key ++ "/") element.children).flatMap ls) := by
  intro walk nodes walk' h
  unfold realizeConstructor at h
  obtain ⟨_, counted, hcount, h⟩ := realize_bind h
  obtain ⟨node, between, hnode, h⟩ := realize_bind h
  obtain ⟨children, last, hwalk, h⟩ := realize_bind h
  cases h
  cases hcount
  obtain ⟨hargs, rfl⟩ := realize_lift hnode
  obtain ⟨live, hlive, hkeys, hpart, hall⟩ := realizes_siblings hdesc _ _ _ _ _ _ _ hwalk
  have hkey : UiNode.keysOf [{ node with children }] = key :: UiNode.keysOf children := by
    unfold nodeArgs at hargs
    obtain ⟨_, _, rfl⟩ := Option.map_eq_some_iff.mp hargs
    simp [UiNode.keysOf, UiNode.keys]
  rw [hkey]
  refine ⟨live, hlive, hkeys.cons_cons key, hpart, fun hwhole => ?_⟩
  obtain ⟨hwalk, hrest, hlives⟩ := hall hwhole
  exact ⟨hwalk, by rw [hrest], hlives⟩

theorem realizes_realizeComponent (hdesc : Goes descend ks ls) (slots : Slots) (scope : ValueScope)
    (component : Component) (call : Element) (key : String) :
    let body : Spot := ⟨splitSlots call.children :: slots,
      self.bodyScope component call (key ++ "/" ++ component.name) scope, component.body,
      key ++ "/" ++ component.name⟩
    Realizes (self.realizeComponent descend slots scope component call key) (ks body)
      ((key ++ "/" ++ component.name) :: ls body) := by
  intro body walk nodes walk' h
  unfold realizeComponent at h
  obtain ⟨_, reported, hrep, h⟩ := realize_bind h
  cases hrep
  obtain ⟨live, hlive, hkeys, hpart, hall⟩ := hdesc body _ nodes walk' h
  refine ⟨(key ++ "/" ++ component.name) :: live, by simp [hlive], hkeys, hpart.cons_cons _,
    fun hwhole => ?_⟩
  obtain ⟨hwalk, hrest, hlives⟩ := hall hwhole
  exact ⟨hwalk, hrest, by rw [hlives]⟩

/-- One element, where the walk below goes as the keys tell. -/
theorem realizes_elementInner (hdesc : Goes descend ks ls) (spot : Spot) :
    Realizes (self.elementInner descend spot.slots spot.scope spot.element spot.key)
      ((self.nodeAt spot).toList ++ (self.nexts spot).flatMap ks)
      ((self.instanceAt spot).toList ++ (self.nexts spot).flatMap ls) := by
  unfold elementInner nexts nodeAt instanceAt called Element.isCall
  by_cases hempty : spot.element.name = ""
  · simpa [hempty] using realizes_nil
  by_cases hslot : spot.element.name = "slot"
  · simp only [hslot]
    cases spot.slots with
    | nil => simpa using realizes_nil
    | cons groups slots =>
      dsimp only
      cases groups.find? fun group => group.1 = spot.element.binders.headD "" with
      | none => simpa using realizes_nil
      | some group => simpa using realizes_siblings hdesc _ _ _ _
  by_cases hfor : spot.element.name = "for"
  · simpa [hfor] using realizes_realizeLoop hdesc spot
  by_cases hwhen : spot.element.name = "when"
  · cases hguard : guardHolds spot.element spot.scope with
    | true => simpa [hwhen, hguard] using realizes_siblings hdesc _ _ _ _
    | false => simpa [hwhen, hguard] using realizes_nil
  cases hreference : spot.element.isReference with
  | true =>
    cases hview : self.card.view? spot.element.name with
    | none => simpa [hempty, hslot, hfor, hwhen, hreference, hview] using realizes_diagnose _
    | some view =>
      simpa [hempty, hslot, hfor, hwhen, hreference, hview] using
        hdesc ⟨spot.slots, spot.scope, view.body, spot.key ++ "/" ++ spot.element.name⟩
  | false =>
    cases hfound : self.card.component? spot.element.name with
    | some component =>
      simpa [hempty, hslot, hfor, hwhen, hreference, hfound] using
        realizes_realizeComponent hdesc spot.slots spot.scope component spot.element spot.key
    | none =>
      simpa [hempty, hslot, hfor, hwhen, hreference, hfound] using
        realizes_realizeConstructor hdesc spot.slots spot.scope spot.element spot.key

/-- The walk from a spot realizes what the visits tell; the induction is on the depth left. -/
theorem realizes_element (depth : ℕ) :
    Goes (self.element depth) (self.keysFrom self.nodeAt depth)
      (self.keysFrom self.instanceAt depth) := by
  induction depth with
  | zero =>
    intro spot
    exact Realizes.charge self realizes_truncate (.inl rfl)
  | succ depth ih =>
    intro spot
    unfold Realizer.element keysFrom
    rw [filterMap_visits_succ, filterMap_visits_succ]
    exact Realizes.charge self (realizes_elementInner ih spot) (.inl rfl)

end Realizer

end Octoscript.Ui
