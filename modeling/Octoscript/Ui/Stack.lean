import Octoscript.Ui.Identity
import Octoscript.Ui.Scoping

namespace Octoscript.Ui

open List Sight Unfolding

section
variable [F64Ops]

namespace Realizer
variable {self : Realizer} {top scope lexical : ValueScope} {sights : Sights}

omit [F64Ops] in
theorem siblings_congr {descend descend' : Element → String → Realize (List UiNode)} {key : String}
    {children : List Element} (h : ∀ segment child, (segment, child) ∈ siblingSegments [] children →
      descend child (key ++ segment) = descend' child (key ++ segment)) :
    siblings descend key children = siblings descend' key children := by
  unfold siblings
  generalize siblingSegments [] children = segments at h
  induction segments with
  | nil => rfl
  | cons first segments ih =>
    unfold realizeEach
    dsimp only
    rw [h first.1 first.2 mem_cons_self,
      ih fun segment child hmem => h segment child (mem_cons_of_mem _ hmem)]

omit [F64Ops] in
theorem loopOver_congr {descend descend' : ValueScope → Element → String → Realize (List UiNode)}
    {element : Element} {path : Path} {key : String} {index : ℕ} {seen : List String}
    {items : List Json.Value} (h : ∀ run ∈ self.loopRuns element.keyPath index seen items,
      siblings (descend (loopFrames element.binders path run.item run.index scope))
        (itemStart key run.key) element.children =
      siblings (descend' (loopFrames element.binders path run.item run.index lexical))
        (itemStart key run.key) element.children) :
    self.loopOver descend element path scope key index seen items =
      self.loopOver descend' element path lexical key index seen items := by
  induction items generalizing index seen with
  | nil => rfl
  | cons item items ih =>
    unfold loopOver
    congr 1
    funext charged
    cases charged with
    | false => rfl
    | true =>
      simp only [if_true]
      split
      · rfl
      · rename_i hindex
        unfold loopRuns at h
        rw [loopItem_eq, loopItem_eq]
        dsimp only at h ⊢
        rw [if_neg hindex] at h
        split
        · rename_i hrepeated
          rw [if_pos hrepeated] at h
          simp only [bind_assoc, pure_bind, h _ mem_cons_self,
            ih fun run hrun => h run (mem_cons_of_mem _ hrun)]
        · rename_i hfresh
          rw [if_neg hfresh] at h
          simp only [bind_assoc, pure_bind, h _ mem_cons_self,
            ih fun run hrun => h run (mem_cons_of_mem _ hrun)]

omit [F64Ops] in
theorem seen_loopFrames (h : Seen scope lexical sights) (binders : List String) (path : Path)
    (item : Json.Value) (index : ℕ) :
    Seen (loopFrames binders path item index scope) (loopFrames binders path item index lexical)
      (stacked scope.frames.length (binders.take 2).reverse ++ sights) := by
  match binders with
  | [] => exact h
  | [binder] => exact h.push ⟨binder, item, some (path, index)⟩
  | binder :: number :: _ =>
    exact (h.push ⟨binder, item, some (path, index)⟩).push ⟨number, .nat (index + 1), none⟩

variable [Unicode]

/-- The lexical scopes at a place, of the card and of the enclosing callers have what is in sight
there on the stack. -/
structure Stands (r : Realizer) (top : ValueScope) (p : Place) (lexical : ValueScope)
    (closures : Closures) : Prop where
  slots : p.spot.slots = closures.map Prod.fst
  seen : Seen p.spot.scope lexical p.sights
  card : Seen p.spot.scope top r.cardSights
  callers : Forall₂ (fun closure sights => Seen p.spot.scope closure.2 sights) closures p.callers

omit [F64Ops] [Unicode] in
/-- The stack grows below a place, and the slots stay. -/
theorem Stands.grow {p : Place} {closures : Closures} (h : self.Stands top p lexical closures)
    {names : List String} {scope' : ValueScope} (hgrows : Grows names p.spot.scope scope')
    {inner : ValueScope} {sights : Sights} (hseen : Seen scope' inner sights) (element : Element)
    (key : String) :
    self.Stands top ⟨⟨p.spot.slots, scope', element, key⟩, sights, p.callers⟩ inner closures :=
  ⟨h.slots, hseen, h.card.grow hgrows, h.callers.imp fun _ _ hcaller => hcaller.grow hgrows⟩

/-- The scope of a component's body has what the text gives it. -/
theorem seen_bodyScope {component : Component} {call : Element} {key : String}
    (h : Seen scope lexical sights) (hcard : Seen scope top self.cardSights)
    (hprops : ∀ reading ∈ propReadings call sights component.params scope, reading.Resolves)
    (hstates : ∀ reading ∈ self.stateReadings component key scope.frames.length
      (component.params.map Param.name).reverse component.states
      (bindProps call component.params scope), reading.Resolves) :
    Seen (self.bodyScope component call key scope)
      (self.lexicalScope top component call key lexical)
      (stacked scope.frames.length component.ownNames.reverse) := by
  have hempty : Seen scope ⟨[], top.data, top.copies⟩ (stacked scope.frames.length []) :=
    ⟨hcard.data, hcard.copies, .nil⟩
  have hown := seen_bindProps h hempty rfl hprops
  rw [append_nil, append_nil] at hown
  have hbody := seen_bindStates hown (grows_bindProps call component.params scope).length hstates
  rwa [← reverse_append] at hbody

omit [Unicode] in
theorem guardHolds_congr {element : Element}
    (h : Seen scope lexical sights)
    (hreads : ∀ reading ∈ guardReadings scope sights element, reading.Resolves) :
    guardHolds element scope = guardHolds element lexical := by
  unfold guardHolds
  unfold guardReadings at hreads
  split
  · rename_i path _ hargs
    rw [hargs] at hreads
    dsimp only at hreads ⊢
    rw [h.lookup (hreads _ mem_cons_self)]
    cases hcmp : element.cmp with
    | none => rfl
    | some cmp =>
      dsimp only
      cases hrhs : element.rhs with
      | none => rfl
      | some rhs =>
        rw [Option.bind_some, Option.bind_some, scopeValue_congr fun path hpath =>
          h.lookup (hreads _ (mem_cons_of_mem _ (by simp [hcmp, hrhs, hpath])))]
  · rfl

theorem nodeArgs_congr {constructor key : String} {args : List Arg}
    (h : Seen scope lexical sights) (hcard : Seen scope top self.cardSights)
    (hreads : ∀ reading ∈ args.flatMap (self.argReadings scope sights), reading.Resolves) :
    self.nodeArgs constructor key scope args =
      self.nodeArgsAt top constructor key lexical args := by
  have hargs : ∀ arg ∈ args,
      (∀ path ∈ exprPaths arg.value, scope.lookup path = lexical.lookup path) ∧
      ∀ path ∈ boundPaths arg.value, sourceBinding self.card scope self.stack path =
        sourceBindingAt self.card top lexical self.stack path := by
    intro arg harg
    have hread := fun reading hreading => hreads reading (mem_flatMap.mpr ⟨arg, harg, hreading⟩)
    refine ⟨fun path hpath => h.lookup (hread _ (mem_append_left _ (mem_map_of_mem hpath))),
      fun path hpath => ?_⟩
    have hbound := fun reading hreading =>
      hread reading (mem_append_right _ (mem_flatMap.mpr ⟨path, hpath, hreading⟩))
    exact sourceBinding_congr (h.originOf (hbound _ mem_cons_self)) fun q hq =>
      hcard.lookup (hbound _ (mem_cons_of_mem _ (mem_map_of_mem hq)))
  have hlowered : ∀ arg ∈ args, self.nodeArg scope arg = self.nodeArgAt top lexical arg := by
    intro arg harg
    obtain ⟨hpaths, hbound⟩ := hargs arg harg
    unfold nodeArg nodeArgAt
    cases hvalue : arg.value with
    | token token | str text | num n | predicate path cmp rhs => rfl
    | path path =>
      rw [hvalue] at hbound
      dsimp only
      rw [hbound path mem_cons_self]
    | expr lhs op rhs =>
      rw [hvalue] at hpaths hbound
      dsimp only
      rw [exprShape_congr hpaths hbound]
  have hvalues : (args.map fun arg => (arg.name, nodeValue constructor arg.name arg.value scope)) =
      args.map fun arg => (arg.name, nodeValue constructor arg.name arg.value lexical) :=
    map_congr_left fun arg harg => by rw [nodeValue_congr _ _ (hargs arg harg).1]
  unfold nodeArgs nodeArgsAt
  rw [hvalues, Option.mapM_congr fun arg harg => by rw [hlowered arg harg]]

section
variable {p : Place} {closures : Closures} {descend : Descent} {descend' : LexicalDescent}

/-- The walk goes by the text at the places below a place. -/
def ByText (r : Realizer) (top : ValueScope) (p : Place) (descend : Descent)
    (descend' : LexicalDescent) : Prop :=
  ∀ q ∈ r.nextPlaces p, ∀ lexical closures, r.Stands top q lexical closures →
    descend q.spot.slots q.spot.scope q.spot.element q.spot.key =
      descend' closures lexical q.spot.element q.spot.key

theorem ByText.siblings (hdesc : self.ByText top p descend descend') {slots : Slots}
    {inner : ValueScope} {start : String} {children : List Element}
    (hmem : ∀ spot ∈ spots slots inner start children, spot ∈ self.nexts p.spot)
    {sights : Sights} {callers : List Sights} (hbelow : self.sightsBelow p = (sights, callers))
    (hstands : ∀ element key,
      self.Stands top ⟨⟨slots, inner, element, key⟩, sights, callers⟩ lexical closures) :
    Realizer.siblings (descend slots inner) start children =
      Realizer.siblings (descend' closures lexical) start children := by
  refine siblings_congr fun segment child hchild => ?_
  have hnext : (⟨⟨slots, inner, child, start ++ segment⟩, sights, callers⟩ : Place) ∈
      self.nextPlaces p := by
    rw [nextPlaces, hbelow]
    exact mem_map_of_mem (hmem _ (mem_map_of_mem hchild))
  exact hdesc _ hnext lexical closures (hstands child _)

theorem slot_eq_lexical (h : self.Stands top p lexical closures)
    (hdesc : self.ByText top p descend descend') (hname : p.spot.element.name = "slot") :
    self.elementInner descend p.spot.slots p.spot.scope p.spot.element p.spot.key =
      self.lexicalInner top descend' closures lexical p.spot.element p.spot.key := by
  simp only [elementInner, lexicalInner, hname, if_true, h.slots]
  cases closures with
  | nil => rfl
  | cons closure closures =>
    obtain ⟨groups, caller⟩ := closure
    obtain ⟨sights, callers, hcaller, hcallers, heq⟩ := forall₂_cons_left_iff.mp h.callers
    have hbelow : self.sightsBelow p = (sights, callers) := by simp [sightsBelow, hname, heq]
    rw [map_cons]
    dsimp only
    cases hgroup : groups.find? fun group => group.1 = p.spot.element.binders.headD "" with
    | none => rfl
    | some group =>
      have hslots : p.spot.slots = groups :: closures.map Prod.fst := h.slots
      refine hdesc.siblings ?_ hbelow fun element key => ⟨rfl, hcaller, h.card, hcallers⟩
      simp only [nexts, hname, hslots, hgroup]
      exact fun _ hspot => hspot

theorem loop_eq_lexical (h : self.Stands top p lexical closures)
    (hreads : ∀ reading ∈ self.readings p, reading.Resolves)
    (hdesc : self.ByText top p descend descend') (hname : p.spot.element.name = "for") :
    self.realizeLoop (descend p.spot.slots) p.spot.element p.spot.scope p.spot.key =
      self.realizeLoop (descend' closures) p.spot.element lexical p.spot.key := by
  unfold realizeLoop
  split
  · rename_i path rest hargs
    have hlookup : p.spot.scope.lookup path = lexical.lookup path := by
      apply h.seen.lookup
      apply hreads
      simp [readings, hname, hargs]
    have hitems : self.loopItems path p.spot.scope = self.loopItems path lexical := by
      unfold loopItems
      rw [hlookup]
    have hbelow : self.sightsBelow p =
        (stacked p.spot.scope.frames.length p.spot.element.loopNames.reverse ++ p.sights,
          p.callers) := by
      simp [sightsBelow, hname]
    rw [← hitems]
    cases hcollection : self.loopItems path p.spot.scope with
    | none => rfl
    | some collection =>
      dsimp only
      cases harray : asArray collection with
      | none => rfl
      | some items =>
        refine loopOver_congr fun run hrun => hdesc.siblings ?_ hbelow
          (h.grow (grows_loopFrames _ _ _ _ _) (seen_loopFrames h.seen _ _ _ _))
        intro spot hspot
        simp only [nexts, hname, loopSpots, hargs, hcollection, Option.bind_some, harray]
        exact mem_flatMap.mpr ⟨_, mem_map_of_mem hrun, hspot⟩
  · rfl

/-- Where the stack and what is in sight do not change below, the children go by the text. -/
theorem ByText.children (hdesc : self.ByText top p descend descend')
    (h : self.Stands top p lexical closures) {start : String}
    (hnexts : self.nexts p.spot = spots p.spot.slots p.spot.scope start p.spot.element.children)
    (hbelow : self.sightsBelow p = (p.sights, p.callers)) :
    Realizer.siblings (descend p.spot.slots p.spot.scope) start p.spot.element.children =
      Realizer.siblings (descend' closures lexical) start p.spot.element.children :=
  hdesc.siblings (fun _ hspot => hnexts ▸ hspot) hbelow (h.grow (.refl _) h.seen)

theorem component_eq_lexical (h : self.Stands top p lexical closures)
    (hreads : ∀ reading ∈ self.readings p, reading.Resolves)
    (hdesc : self.ByText top p descend descend') (hcall : p.spot.element.isCall = true)
    {component : Component} (hfound : self.card.component? p.spot.element.name = some component) :
    self.realizeComponent descend p.spot.slots p.spot.scope component p.spot.element p.spot.key =
      self.lexicalComponent top descend' closures lexical component p.spot.element p.spot.key := by
  obtain ⟨hempty, hslot, hfor, hwhen, hreference⟩ := Element.isCall_iff.mp hcall
  simp only [readings, hempty, hslot, hfor, hwhen, hreference, hfound, if_false, or_false,
    Bool.false_eq_true] at hreads
  have hbody := seen_bodyScope h.seen h.card
    (fun reading hreading => hreads reading (mem_append_left _ hreading))
    fun reading hreading => hreads reading (mem_append_right _ hreading)
  have hgrows := grows_bodyScope self component p.spot.element
    (p.spot.key ++ "/" ++ component.name) p.spot.scope
  unfold realizeComponent lexicalComponent
  dsimp only
  congr 1
  funext _
  -- the content of the slots is kept with what the caller has in sight
  refine hdesc ⟨⟨splitSlots p.spot.element.children :: p.spot.slots,
    self.bodyScope component p.spot.element (p.spot.key ++ "/" ++ component.name) p.spot.scope,
    component.body, p.spot.key ++ "/" ++ component.name⟩, _, p.sights :: p.callers⟩ ?_ _ _
    ⟨congrArg _ h.slots, hbody, h.card.grow hgrows,
      .cons (h.seen.grow hgrows) (h.callers.imp fun _ _ hcaller => hcaller.grow hgrows)⟩
  simp [nextPlaces, nexts, sightsBelow, hempty, hslot, hfor, hwhen, hreference, hfound]

theorem constructor_eq_lexical (h : self.Stands top p lexical closures)
    (hreads : ∀ reading ∈ self.readings p, reading.Resolves)
    (hdesc : self.ByText top p descend descend') (hcall : p.spot.element.isCall = true)
    (hfound : self.card.component? p.spot.element.name = none) :
    self.realizeConstructor descend p.spot.slots p.spot.scope p.spot.element p.spot.key =
      self.lexicalConstructor top descend' closures lexical p.spot.element p.spot.key := by
  obtain ⟨hempty, hslot, hfor, hwhen, hreference⟩ := Element.isCall_iff.mp hcall
  simp only [readings, hempty, hslot, hfor, hwhen, hreference, hfound, if_false, or_false,
    Bool.false_eq_true] at hreads
  have hkids : Realizer.siblings (descend p.spot.slots p.spot.scope) (p.spot.key ++ "/")
      p.spot.element.children = _ :=
    hdesc.children h
      (by simp [nexts, hempty, hslot, hfor, hwhen, hreference, hfound])
      (by simp [sightsBelow, hslot, hfor, hwhen, hreference, hfound])
  unfold realizeConstructor lexicalConstructor
  rw [nodeArgs_congr h.seen h.card hreads, hkids]

/-- One element whose readings find their binders, where the walk below goes by the text. -/
theorem elementInner_eq_lexical (h : self.Stands top p lexical closures)
    (hreads : ∀ reading ∈ self.readings p, reading.Resolves)
    (hdesc : self.ByText top p descend descend') :
    self.elementInner descend p.spot.slots p.spot.scope p.spot.element p.spot.key =
      self.lexicalInner top descend' closures lexical p.spot.element p.spot.key := by
  by_cases hempty : p.spot.element.name = ""
  · simp only [elementInner, lexicalInner, hempty, if_true]
  by_cases hslot : p.spot.element.name = "slot"
  · exact slot_eq_lexical h hdesc hslot
  by_cases hfor : p.spot.element.name = "for"
  · simpa [elementInner, lexicalInner, hfor] using loop_eq_lexical h hreads hdesc hfor
  by_cases hwhen : p.spot.element.name = "when"
  · have hguard : guardHolds p.spot.element p.spot.scope = guardHolds p.spot.element lexical := by
      apply guardHolds_congr h.seen
      simpa [readings, hwhen] using hreads
    simp only [elementInner, lexicalInner, hwhen, ← hguard]
    cases hholds : guardHolds p.spot.element p.spot.scope with
    | false => rfl
    | true => exact hdesc.children h (by simp [nexts, hwhen, hholds]) (by simp [sightsBelow, hwhen])
  cases hreference : p.spot.element.isReference with
  | true =>
    simp only [elementInner, lexicalInner, hempty, hslot, hfor, hwhen, hreference, if_true,
      if_false]
    cases hview : self.card.view? p.spot.element.name with
    | none => rfl
    | some view =>
      refine hdesc ⟨⟨p.spot.slots, p.spot.scope, view.body,
        p.spot.key ++ "/" ++ p.spot.element.name⟩, self.cardSights, p.callers⟩ ?_ top closures
        (h.grow (.refl _) h.card _ _)
      simp [nextPlaces, nexts, sightsBelow, hempty, hslot, hfor, hwhen, hreference, hview]
  | false =>
    have hcall := Element.isCall_iff.mpr ⟨hempty, hslot, hfor, hwhen, hreference⟩
    simp only [elementInner, lexicalInner, hempty, hslot, hfor, hwhen, hreference, if_false,
      Bool.false_eq_true]
    cases hfound : self.card.component? p.spot.element.name with
    | some component => exact component_eq_lexical h hreads hdesc hcall hfound
    | none => exact constructor_eq_lexical h hreads hdesc hcall hfound

/-- The walk goes by the text, where the readings at the places it comes to find their binders; the
induction is on the depth left. -/
theorem element_eq_lexical (depth : ℕ) (p : Place) (lexical : ValueScope) (closures : Closures)
    (h : self.Stands top p lexical closures)
    (hreads : ∀ q ∈ visits self.nextPlaces depth p, ∀ reading ∈ self.readings q,
      reading.Resolves) :
    self.element depth p.spot.slots p.spot.scope p.spot.element p.spot.key =
      self.lexicalElement top depth closures lexical p.spot.element p.spot.key := by
  induction depth generalizing p lexical closures with
  | zero => rfl
  | succ depth ih =>
    obtain ⟨hhere, hbelow⟩ := forall_visits_succ.mp hreads
    unfold Realizer.element lexicalElement
    rw [elementInner_eq_lexical h hhere fun q hq lexical closures hstands =>
      ih q lexical closures hstands (hbelow q hq)]

end

/-- The names in sight at a place, at the card and at the enclosing calls are on the stack. -/
structure Placed (r : Realizer) (p : Place) : Prop where
  sights : Sight.Valid Frame.name p.spot.scope.frames p.sights
  card : Sight.Valid Frame.name p.spot.scope.frames r.cardSights
  callers : ∀ sights ∈ p.callers, Sight.Valid Frame.name p.spot.scope.frames sights

theorem Placed.next {p q : Place} (h : self.Placed p) (hq : q ∈ self.nextPlaces p) :
    self.Placed q := by
  obtain ⟨spot, hspot, rfl⟩ := mem_map.mp hq
  have hgrows := grows_of_mem_nexts hspot
  have hcallers : ∀ sights ∈ p.callers, Valid Frame.name spot.scope.frames sights :=
    fun sights hmem => (h.callers sights hmem).of_suffix hgrows.suffix
  have hsights := h.sights.of_suffix hgrows.suffix
  have hcard := h.card.of_suffix hgrows.suffix
  unfold sightsBelow
  dsimp only
  -- slot content sees what its caller saw, a loop its names as well, a view only the card's states,
  -- and a body its own names
  split
  · split
    · exact ⟨hsights, hcard, nofun⟩
    · rename_i sights callers heq
      rw [heq, forall_mem_cons] at hcallers
      exact ⟨hcallers.1, hcard, hcallers.2⟩
  split
  · rename_i hfor
    have hown := hgrows.valid
    rw [boundBelow, if_pos hfor] at hown
    exact ⟨forall_mem_append.mpr ⟨hown, hsights⟩, hcard, hcallers⟩
  split
  · exact ⟨hsights, hcard, hcallers⟩
  split
  · exact ⟨hcard, hcard, hcallers⟩
  · rename_i hslot hfor hwhen hreference
    split
    · rename_i component hfound
      have hempty : p.spot.element.name ≠ "" := by
        intro hempty
        simp [nexts, hempty] at hspot
      have hcall : p.spot.element.isCall = true :=
        Element.isCall_iff.mpr ⟨hempty, hslot, hfor, hwhen, by simpa using hreference⟩
      have hown := hgrows.valid
      rw [boundBelow, if_neg hfor, called, if_pos hcall, hfound] at hown
      exact ⟨hown, hcard, forall_mem_cons.mpr ⟨hsights, hcallers⟩⟩
    · exact ⟨hsights, hcard, hcallers⟩

end Realizer

namespace Reading

/-- The names in sight are on the stack that is read. -/
def Placed : Reading → Prop
  | value scope sights _ | place scope sights _ => Valid Frame.name scope.frames sights

omit [F64Ops] in
/-- A reading finds its binder exactly if the name is not bound again. -/
theorem resolves_iff {reading : Reading} (h : reading.Placed) :
    reading.Resolves ↔ ¬reading.Rebound := by
  cases reading with
  | value scope sights path =>
    simp only [Resolves, Rebound, topmost_eq_lookup_iff h, not_exists, not_and]
  | place scope sights name =>
    simp only [Resolves, Rebound, ne_eq, not_exists, not_and, not_not]

end Reading

namespace Realizer
variable {self : Realizer} {scope : ValueScope} {sights : Sights}

theorem placed_propReadings {call : Element} {params : List Param}
    (h : Valid Frame.name scope.frames sights) :
    ∀ reading ∈ propReadings call sights params scope, reading.Placed := by
  induction params generalizing scope with
  | nil => exact nofun
  | cons param params ih =>
    unfold propReadings
    refine forall_mem_append.mpr ⟨?_, ih (h.of_suffix (grows_bindProps call [param] scope).suffix)⟩
    intro reading hreading
    have hpath : ∀ path : Path, reading ∈ Reading.place scope sights path.root ::
        (if param.shape = .event then [] else [.value scope sights path]) → reading.Placed := by
      intro path hmem
      rcases mem_cons.mp hmem with rfl | hmem
      · exact h
      · split at hmem
        · cases hmem
        · rw [mem_singleton.mp hmem]
          exact h
    split at hreading
    · exact hpath _ hreading
    · exact hpath _ hreading
    · cases hreading

variable [Unicode]

theorem placed_stateReadings {component : Component} {key : String} {names : List String}
    {states : List StateDecl} {base : ValueScope} (h : Grows names base scope) :
    ∀ reading ∈ self.stateReadings component key base.frames.length names states scope,
      reading.Placed := by
  induction states generalizing scope names with
  | nil => exact nofun
  | cons state states ih =>
    unfold stateReadings
    refine forall_mem_append.mpr ⟨fun reading hreading => ?_,
      ih (h.trans (grows_bindStates self component key [state] scope))⟩
    split at hreading
    · obtain ⟨path, _, rfl⟩ := mem_map.mp hreading
      exact h.valid
    · cases hreading

theorem placed_readings {p : Place} (h : self.Placed p) :
    ∀ reading ∈ self.readings p, reading.Placed := by
  intro reading hreading
  have hvalues : ∀ {paths : List Path}, reading ∈ paths.map (.value p.spot.scope p.sights) →
      reading.Placed := by
    intro paths hmem
    obtain ⟨path, _, rfl⟩ := mem_map.mp hmem
    exact h.sights
  unfold readings at hreading
  dsimp only at hreading
  split at hreading
  · cases hreading
  split at hreading
  · split at hreading
    · rw [mem_singleton.mp hreading]
      exact h.sights
    · cases hreading
  split at hreading
  · unfold guardReadings at hreading
    split at hreading
    · rcases mem_cons.mp hreading with rfl | hreading
      · exact h.sights
      · split at hreading
        · exact hvalues hreading
        · cases hreading
    · cases hreading
  split at hreading
  · cases hreading
  split at hreading
  · rename_i component _
    rcases mem_append.mp hreading with hreading | hreading
    · exact placed_propReadings h.sights reading hreading
    · exact placed_stateReadings (grows_bindProps _ _ _) reading hreading
  · obtain ⟨arg, _, hreading⟩ := mem_flatMap.mp hreading
    rcases mem_append.mp hreading with hreading | hreading
    · exact hvalues hreading
    · obtain ⟨path, _, hreading⟩ := mem_flatMap.mp hreading
      rcases mem_cons.mp hreading with rfl | hreading
      · exact h.sights
      · obtain ⟨_, _, rfl⟩ := mem_map.mp hreading
        exact h.card

end Realizer

end

/-- A box with a parameter of this name and a slot. -/
def box (param : String) : Component where
  name := "Box"
  params := [⟨param, .text, none⟩]
  states := []
  events := []
  body := .call "Col" []
    [.call "TextTitle" [⟨"text", .path [param]⟩] [],
      ⟨"slot", [], [], [], false, none, none, none⟩]

/-- A box for each place; what it holds reads the card's title and the place. -/
def boxesView (param : String) : View :=
  ⟨"root", .call "Col" [] [⟨"for", [⟨"", .path ["places"]⟩],
    [.call "Box" [⟨param, .path ["p", "name"]⟩]
      [.call "TextBody" [⟨"text", .path ["title"]⟩] [],
        .call "TextBody" [⟨"text", .path ["p", "name"]⟩] []]],
    ["p"], false, none, none, some ["p", "name"]⟩]⟩

def boxesCard (param : String) : Card where
  sources := [⟨["places"], "sys.search", [("query", .text "cafe"), ("fields", .list [["name"]])]⟩]
  states := [⟨["title"], .text, some (.string "Home"), none, false⟩]
  events := []
  copies := []
  components := [box param]
  views := [boxesView param]

def boxesRealizer : Realizer := ⟨boxesCard "title", ⟨8192, 64, 512, 65536⟩, none, 8⟩

mutual

/-- The texts that the nodes show, in the order of the tree. -/
def UiNode.texts : UiNode → List String
  | ⟨_, _, args, children, _, _⟩ =>
    (args.filterMap fun arg => match arg.2 with
      | .text text => some text
      | _ => none) ++ textsOf children

def UiNode.textsOf : List UiNode → List String
  | [] => []
  | node :: nodes => node.texts ++ textsOf nodes

end

/-- A badge whose parameter has the name of the card's state, from which it is read. -/
def badgeCard : Card where
  sources := []
  states := [⟨["title"], .text, some (.string "Home"), none, false⟩]
  events := []
  copies := []
  components := [⟨"Badge", [⟨"title", .text, none⟩], [], [],
    .call "TextBody" [⟨"text", .path ["title"]⟩] []⟩]
  views := [⟨"root", .call "Badge" [⟨"title", .path ["title"]⟩] []⟩]

end Octoscript.Ui
