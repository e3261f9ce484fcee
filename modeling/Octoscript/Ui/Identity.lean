import Octoscript.Ui.Walk

namespace Octoscript.Ui

open Keys List Realizer Unfolding

/-- What may follow a segment of a key. -/
def endsSegment (c : Char) : Bool := c = '/' || c = '['

/-- A name without the characters that keys are built with, as the lexer reads names. -/
def isPlainName (name : String) : Bool := name.toList.all fun c => c ≠ '/' ∧ c ≠ '[' ∧ c ≠ '#'

theorem runs_of_isPlainName {name : String} (h : isPlainName name = true) :
    Runs endsSegment name.toList ∧ '#' ∉ name.toList := by
  have hall := all_eq_true.mp h
  constructor
  · intro c hc
    have hplain := hall c hc
    simp only [decide_eq_true_eq] at hplain
    simp [endsSegment, hplain.1, hplain.2.1]
  · intro hc
    have hplain := hall '#' hc
    simp at hplain

theorem endsSegment_digit {c : Char} (h : c.isDigit = true) : endsSegment c = false := by
  simp only [endsSegment, Bool.or_eq_false_iff, decide_eq_false_iff_not]
  constructor
  · rintro rfl
    exact absurd h (by decide)
  · rintro rfl
    exact absurd h (by decide)

theorem mem_siblingSegments {seen : List String} {children : List Element} {segment : String}
    {child : Element} (h : (segment, child) ∈ siblingSegments seen children) :
    child ∈ children ∧ ∃ n, seen.count child.name ≤ n ∧ segment = numbered child.name n := by
  induction children generalizing seen with
  | nil => simp [siblingSegments] at h
  | cons first children ih =>
    rcases mem_cons.mp h with heq | h
    · cases heq
      exact ⟨mem_cons_self, _, le_rfl, rfl⟩
    · obtain ⟨hmem, n, hn, hseg⟩ := ih h
      refine ⟨mem_cons_of_mem _ hmem, n, le_trans ?_ hn, hseg⟩
      exact count_le_count_cons

theorem exists_siblingSegment (seen : List String) {children : List Element} {child : Element}
    (h : child ∈ children) : ∃ segment, (segment, child) ∈ siblingSegments seen children := by
  induction children generalizing seen with
  | nil => exact absurd h not_mem_nil
  | cons first children ih =>
    rcases mem_cons.mp h with rfl | h
    · exact ⟨_, mem_cons_self⟩
    · obtain ⟨segment, hsegment⟩ := ih (first.name :: seen) h
      exact ⟨segment, mem_cons_of_mem _ hsegment⟩

/-- No two siblings have one segment. -/
theorem pairwise_siblingSegments {seen : List String} {children : List Element}
    (h : ∀ child ∈ children, isPlainName child.name = true) :
    (siblingSegments seen children).Pairwise fun a b => a.1 ≠ b.1 := by
  induction children generalizing seen with
  | nil => exact List.Pairwise.nil
  | cons first children ih =>
    refine pairwise_cons.mpr
      ⟨?_, ih fun child hchild => h child (mem_cons_of_mem _ hchild)⟩
    rintro ⟨segment, child⟩ hlater heq
    obtain ⟨hmem, n, hn, rfl⟩ := mem_siblingSegments hlater
    have hfirst := (runs_of_isPlainName (h first mem_cons_self)).2
    have hchild := (runs_of_isPlainName (h child (mem_cons_of_mem _ hmem))).2
    obtain ⟨hname, hcount⟩ := numbered_inj hfirst hchild heq
    rw [← hname, count_cons_self] at hn
    omega

/-- Keys of items of which the one is the other, or goes on after it as the keys inside that item
do. -/
def Clash (used used' : String) : Prop :=
  used = used' ∨ (used ++ "]/").toList <+: used'.toList ∨ (used' ++ "]/").toList <+: used.toList

instance (used used' : String) : Decidable (Clash used used') :=
  inferInstanceAs (Decidable (_ ∨ _ ∨ _))

/-- Of two texts that go on alike, with `]/` in between, one is the other or holds it. -/
theorem eq_or_starts {u v : List Char} (h : u ++ [']', '/'] <+: v ++ [']', '/']) :
    u = v ∨ u ++ [']', '/'] <+: v := by
  obtain ⟨t, ht⟩ := h
  rcases eq_nil_or_concat t with rfl | ⟨t, last, rfl⟩
  · rw [append_nil] at ht
    exact .inl (append_cancel_right ht)
  · rcases eq_nil_or_concat t with rfl | ⟨t, before, rfl⟩
    · have hlast := congrArg (·.reverse.take 2) ht
      simp at hlast
    · have hdrop := congrArg (fun l => (l.reverse.drop 2).reverse) ht
      exact .inr ⟨t, by simpa using hdrop⟩

/-- Only items whose keys clash have a key in common. -/
theorem clash_of_starts {key used used' : String} {s : List Char}
    (h : (itemStart key used).toList <+: s) (h' : (itemStart key used').toList <+: s) :
    Clash used used' := by
  have hboth : ∀ {u v : String}, (itemStart key u).toList <+: (itemStart key v).toList →
      u = v ∨ (u ++ "]/").toList <+: v.toList := by
    intro u v hpre
    simp only [itemStart, String.toList_append, append_assoc, prefix_append_right_inj] at hpre
    rw [String.toList_append]
    exact (eq_or_starts hpre).imp_left fun heq => String.toList_injective heq
  rcases prefix_or_prefix_of_prefix h h' with hpre | hpre
  · exact (hboth hpre).imp_right .inl
  · rcases hboth hpre with heq | hpre
    · exact .inl heq.symm
    · exact .inr (.inr hpre)

section
variable [F64Ops] [Unicode]

namespace Realizer
variable {self : Realizer} {depth : ℕ} {spot : Spot}

omit [Unicode] in
theorem mem_loopSpots {a : LoopRun × List Spot} (h : a ∈ self.loopSpots spot) :
    ∃ scope, a.2 = spots spot.slots scope (itemStart spot.key a.1.key) spot.element.children := by
  unfold loopSpots at h
  split at h
  · split at h
    · cases h
    · obtain ⟨run, _, rfl⟩ := mem_map.mp h
      exact ⟨_, rfl⟩
  · cases h

/-- Below a spot stand the items of a loop, siblings, or one body. -/
theorem nexts_cases (self : Realizer) (spot : Spot) :
    (spot.element.name = "for" ∧ self.nexts spot = (self.loopSpots spot).flatMap Prod.snd) ∨
    (spot.element.name ≠ "for" ∧ ∃ slots mark more children, mark.toList = '/' :: more ∧
      self.nexts spot = spots slots spot.scope (spot.key ++ mark) children) ∨
    spot.element.name ≠ "for" ∧ ∃ next name, next.key = spot.key ++ "/" ++ name ∧
      self.nexts spot = [next] := by
  by_cases hfor : spot.element.name = "for"
  · exact .inl ⟨hfor, by simp [nexts, hfor]⟩
  refine .inr ?_
  have hnone : ∀ l : List Spot, l = [] → ∃ slots mark more children, mark.toList = '/' :: more ∧
      l = spots slots spot.scope (spot.key ++ mark) children :=
    fun l hl => ⟨[], "/", [], [], rfl, hl⟩
  simp only [hfor, ne_eq, not_false_eq_true, true_and]
  unfold nexts
  split
  · exact .inl (hnone _ rfl)
  split
  · split
    · exact .inl (hnone _ rfl)
    · split
      · exact .inl (hnone _ rfl)
      · exact .inl ⟨_, "/s:", _, _, rfl, rfl⟩
  split
  · split
    · exact .inl ⟨_, "/w:", _, _, rfl, rfl⟩
    · exact .inl (hnone _ rfl)
  split
  · split
    · exact .inr ⟨_, _, rfl, rfl⟩
    · exact .inl (hnone _ rfl)
  · split
    · exact .inr ⟨_, _, rfl, rfl⟩
    · exact .inl ⟨_, "/", _, _, rfl, rfl⟩

omit [F64Ops] [Unicode] in
theorem starts_of_mem_spots {slots : Slots} {scope : ValueScope} {key : String}
    {children : List Element} {next : Spot} (h : next ∈ spots slots scope key children) :
    key.toList <+: next.key.toList := by
  obtain ⟨⟨segment, child⟩, _, rfl⟩ := mem_map.mp h
  exact ⟨segment.toList, String.toList_append.symm⟩

theorem below_of_mem_nexts {next : Spot} (h : next ∈ self.nexts spot) :
    Below endsSegment spot.key next.key := by
  rcases self.nexts_cases spot with ⟨_, heq⟩ | ⟨_, slots, mark, more, children, hmark, heq⟩ |
    ⟨_, body, name, hkey, heq⟩
  · rw [heq] at h
    obtain ⟨a, ha, hnext⟩ := mem_flatMap.mp h
    obtain ⟨scope, hspots⟩ := mem_loopSpots ha
    rw [hspots] at hnext
    have hstarts := starts_of_mem_spots hnext
    rw [itemStart, String.append_assoc, String.append_assoc] at hstarts
    exact below_of_starts (c := '[') (by rw [String.toList_append]; rfl) rfl hstarts
  · rw [heq] at h
    exact below_of_starts hmark rfl (starts_of_mem_spots h)
  · rw [heq] at h
    rw [mem_singleton.mp h, hkey]
    exact below_of_starts (t := "/") rfl rfl ⟨name.toList, String.toList_append.symm⟩

/-- The keys of the spots from a spot on go on after its key. -/
theorem under_of_mem_visits :
    ∀ c ∈ visits self.nexts depth spot, Under endsSegment spot.key c.key := by
  refine visits_induction (P := fun c : Spot => Under endsSegment spot.key c.key) ?_
    (under_self _) depth
  intro a ha b hb
  exact (ha.trans_below (below_of_mem_nexts hb)).under

/-- Keys that some of the spots have: a key goes on after that of its spot, and no spot further on
has it again. -/
structure Marks (r : Realizer) (mark : Spot → Option String) : Prop where
  under : ∀ {spot s}, mark spot = some s → Under endsSegment spot.key s
  ne : ∀ {spot s next c}, mark spot = some s → next ∈ r.nexts spot →
    Under endsSegment next.key c.key → mark c ≠ some s

theorem marks_nodeAt (self : Realizer) : self.Marks self.nodeAt where
  under {spot s} h := by
    obtain ⟨_, ⟨⟩⟩ := Option.ite_none_right_eq_some.mp h
    exact under_self _
  ne {spot s next c} h hnext hc hmark := by
    obtain ⟨_, ⟨⟩⟩ := Option.ite_none_right_eq_some.mp h
    obtain ⟨_, heq⟩ := Option.ite_none_right_eq_some.mp hmark
    exact ((below_of_mem_nexts hnext).trans_under hc).ne (Option.some.inj heq)

theorem marks_instanceAt (self : Realizer) : self.Marks self.instanceAt where
  under {spot s} h := by
    obtain ⟨component, _, rfl⟩ := Option.map_eq_some_iff.mp h
    exact (below_of_starts (t := "/") rfl rfl ⟨_, String.toList_append.symm⟩).under
  ne {spot s next c} h hnext hc hmark := by
    obtain ⟨component, hcalled, rfl⟩ := Option.map_eq_some_iff.mp h
    obtain ⟨other, _, heq⟩ := Option.map_eq_some_iff.mp hmark
    obtain ⟨hcall, hfound⟩ := Option.ite_none_right_eq_some.mp hcalled
    have hbody : next.key = spot.key ++ "/" ++ component.name := by
      obtain ⟨hempty, hslot, hfor, hwhen, hreference⟩ := Element.isCall_iff.mp hcall
      simp only [nexts, hempty, hslot, hfor, hwhen, hreference, hfound, if_false,
        Bool.false_eq_true, mem_singleton] at hnext
      rw [hnext]
    rw [hbody] at hc
    have hbelow : Below endsSegment c.key (c.key ++ "/" ++ other.name) :=
      below_of_starts (t := "/") rfl rfl ⟨_, String.toList_append.symm⟩
    exact (hc.trans_below hbelow).ne heq

/-- Where two items of a loop have keys that clash, nothing in the one has the key of something in
the other. -/
def Apart (self : Realizer) (mark : Spot → Option String) : ℕ → Spot → Prop
  | 0, _ => True
  | depth + 1, spot =>
    (spot.element.name = "for" → (self.loopSpots spot).Pairwise fun a b => Clash a.1.key b.1.key →
      ∀ s ∈ a.2.flatMap (self.keysFrom mark depth), s ∉ b.2.flatMap (self.keysFrom mark depth)) ∧
    ∀ next ∈ self.nexts spot, self.Apart mark depth next

instance decidableApart (self : Realizer) (mark : Spot → Option String) :
    ∀ depth spot, Decidable (self.Apart mark depth spot)
  | 0, _ => isTrue trivial
  | depth + 1, _ =>
    have := self.decidableApart mark depth
    inferInstanceAs (Decidable ((_ → _) ∧ _))

section
variable {mark : Spot → Option String}

theorem under_of_mem_keysFrom (hmarks : self.Marks mark) {s : String}
    (h : s ∈ self.keysFrom mark depth spot) : Under endsSegment spot.key s := by
  obtain ⟨c, hc, hmark⟩ := mem_filterMap.mp h
  exact (under_of_mem_visits c hc).trans (hmarks.under hmark)

theorem starts_of_mem_keysFrom (hmarks : self.Marks mark) {slots : Slots} {scope : ValueScope}
    {key s : String} {children : List Element}
    (h : s ∈ (spots slots scope key children).flatMap (self.keysFrom mark depth)) :
    key.toList <+: s.toList := by
  obtain ⟨next, hnext, hs⟩ := mem_flatMap.mp h
  obtain ⟨rest, hrest, _⟩ := under_of_mem_keysFrom hmarks hs
  exact (starts_of_mem_spots hnext).trans ⟨rest, hrest.symm⟩

/-- Siblings have no key in common. -/
theorem pairwise_spots (hmarks : self.Marks mark) {slots : Slots} {scope : ValueScope}
    {key : String} {children : List Element} (hplain : ∀ next ∈ spots slots scope key children,
      ∀ c ∈ visits self.nexts depth next, isPlainName c.element.name = true) :
    (spots slots scope key children).Pairwise
      (Function.onFun List.Disjoint (self.keysFrom mark depth)) := by
  cases depth with
  | zero => exact pairwise_of_forall fun _ _ => disjoint_nil_left _
  | succ depth =>
    have hnames : ∀ child ∈ children, isPlainName child.name = true := by
      intro child hchild
      obtain ⟨segment, hsegment⟩ := exists_siblingSegment [] hchild
      exact hplain _ (mem_map_of_mem hsegment) _ mem_cons_self
    refine pairwise_map.mpr ((List.Pairwise.and_mem.mp (pairwise_siblingSegments hnames)).imp ?_)
    rintro ⟨segment, child⟩ ⟨segment', child'⟩ ⟨ha, hb, hne⟩ s hs hs'
    have hruns : ∀ {segment child}, (segment, child) ∈ siblingSegments [] children →
        Runs endsSegment segment.toList := by
      intro segment child hmem
      obtain ⟨hchild, n, _, rfl⟩ := mem_siblingSegments hmem
      exact runs_numbered (runs_of_isPlainName (hnames child hchild)).1 (by decide)
        fun c => endsSegment_digit
    exact not_under_both (hruns ha) (hruns hb) hne (under_of_mem_keysFrom hmarks hs)
      (under_of_mem_keysFrom hmarks hs')

/-- The spots below a spot have no key in common exactly if the items of a loop do not. -/
theorem pairwise_nexts_iff (hmarks : self.Marks mark) (hplain : ∀ next ∈ self.nexts spot,
      ∀ c ∈ visits self.nexts depth next, isPlainName c.element.name = true) :
    (self.nexts spot).Pairwise (Function.onFun List.Disjoint (self.keysFrom mark depth)) ↔
      (spot.element.name = "for" → (self.loopSpots spot).Pairwise fun a b =>
        Clash a.1.key b.1.key → ∀ s ∈ a.2.flatMap (self.keysFrom mark depth),
          s ∉ b.2.flatMap (self.keysFrom mark depth)) := by
  rcases self.nexts_cases spot with ⟨hfor, heq⟩ | ⟨hfor, slots, sign, more, children, _, heq⟩ |
    ⟨hfor, body, name, hkey, heq⟩
  · rw [heq] at hplain ⊢
    have hinner : ∀ a ∈ self.loopSpots spot,
        a.2.Pairwise (Function.onFun List.Disjoint (self.keysFrom mark depth)) := by
      intro a ha
      obtain ⟨scope, hspots⟩ := mem_loopSpots ha
      rw [hspots]
      refine pairwise_spots hmarks fun next hnext => hplain next (mem_flatMap.mpr ⟨a, ha, ?_⟩)
      rwa [hspots]
    rw [pairwise_flatMap]
    simp only [hfor, true_imp_iff, and_iff_right hinner]
    refine ⟨fun h => h.imp ?_, fun h => (List.Pairwise.and_mem.mp h).imp ?_⟩
    · rintro a b hab _ s hs hs'
      obtain ⟨x, hx, hsx⟩ := mem_flatMap.mp hs
      obtain ⟨y, hy, hsy⟩ := mem_flatMap.mp hs'
      exact hab x hx y hy hsx hsy
    · rintro a b ⟨ha, hb, hab⟩ x hx y hy s hsx hsy
      have hs : s ∈ a.2.flatMap (self.keysFrom mark depth) := mem_flatMap.mpr ⟨x, hx, hsx⟩
      have hs' : s ∈ b.2.flatMap (self.keysFrom mark depth) := mem_flatMap.mpr ⟨y, hy, hsy⟩
      -- a key in both items makes their own keys clash
      obtain ⟨_, hspots⟩ := mem_loopSpots ha
      obtain ⟨_, hspots'⟩ := mem_loopSpots hb
      refine hab (clash_of_starts (starts_of_mem_keysFrom hmarks (hspots ▸ hs))
        (starts_of_mem_keysFrom hmarks (hspots' ▸ hs'))) s hs hs'
  · rw [heq] at hplain ⊢
    exact iff_of_true (pairwise_spots hmarks hplain) fun h => absurd h hfor
  · rw [heq]
    exact iff_of_true (pairwise_singleton _ _) fun h => absurd h hfor

/-- No two spots have one key exactly if the items of the loops stand apart; the induction is on the
depth. -/
theorem nodup_keysFrom_iff (hmarks : self.Marks mark) (depth : ℕ) (spot : Spot)
    (hplain : ∀ c ∈ visits self.nexts depth spot, isPlainName c.element.name = true) :
    (self.keysFrom mark depth spot).Nodup ↔ self.Apart mark depth spot := by
  induction depth generalizing spot with
  | zero => exact iff_of_true nodup_nil trivial
  | succ depth ih =>
    have hplain' := (forall_visits_succ.mp hplain).2
    have hown : ∀ s ∈ (mark spot).toList,
        s ∉ (self.nexts spot).flatMap (self.keysFrom mark depth) := by
      intro s hs hbelow
      obtain ⟨next, hnext, hkeys⟩ := mem_flatMap.mp hbelow
      obtain ⟨c, hc, hmark⟩ := mem_filterMap.mp hkeys
      exact hmarks.ne (Option.mem_toList.mp hs) hnext (under_of_mem_visits c hc) hmark
    have hone : (mark spot).toList.Nodup := by
      cases mark spot with
      | none => exact nodup_nil
      | some s => exact nodup_singleton s
    have heq : self.keysFrom mark (depth + 1) spot =
        (mark spot).toList ++ (self.nexts spot).flatMap (self.keysFrom mark depth) :=
      filterMap_visits_succ mark depth spot
    have hrest : (self.keysFrom mark (depth + 1) spot).Nodup ↔
        ((self.nexts spot).flatMap (self.keysFrom mark depth)).Nodup := by
      rw [heq]
      exact ⟨Nodup.of_append_right, fun h => hone.append h hown⟩
    rw [hrest, nodup_flatMap, pairwise_nexts_iff hmarks hplain', and_comm, Apart]
    exact and_congr_right' (forall₂_congr fun next hnext => ih next (hplain' next hnext))

end

/-- Where a constructor is called, no more than one node is realized. -/
theorem length_element_le_one {key : String} (hnode : self.nodeAt spot = some key)
    {walk walk' : Walk} {nodes : List UiNode} (h : self.element depth spot.slots spot.scope
      spot.element spot.key walk = some (nodes, walk')) : nodes.length ≤ 1 := by
  obtain ⟨hboth, _⟩ := Option.ite_none_right_eq_some.mp hnode
  rw [Bool.and_eq_true, Element.isCall_iff, Option.isNone_iff_eq_none] at hboth
  obtain ⟨⟨hempty, hslot, hfor, hwhen, hreference⟩, hnone⟩ := hboth
  cases depth with
  | zero =>
    obtain ⟨_, _, _, h⟩ := realize_bind h
    cases h
    exact Nat.zero_le 1
  | succ depth =>
    obtain ⟨charged, between, _, h⟩ := realize_bind h
    cases charged with
    | false =>
      cases h
      exact Nat.zero_le 1
    | true =>
      simp only [elementInner, hempty, hslot, hfor, hwhen, hreference, hnone, if_true, if_false,
        Bool.false_eq_true, realizeConstructor] at h
      obtain ⟨_, _, _, h⟩ := realize_bind h
      obtain ⟨_, _, _, h⟩ := realize_bind h
      obtain ⟨_, _, _, h⟩ := realize_bind h
      cases h
      exact le_rfl

end Realizer

/-- Where two items of a loop with keys that clash have nothing at one key, no two nodes have one
key and no two instances have one. If the walk was not truncated, and the root view is a node, then
only there. -/
theorem realize_keys_nodup_iff {card : Card} {data : Json.Value} {store : Option InstanceStore}
    {limits : RealizeLimits} {stack : ℕ} {root : View} (hroot : card.view? "root" = some root)
    {report : RealizeReport} (h : realize card data store limits stack = some report)
    (hplain : ∀ spot ∈ visits (nexts ⟨card, limits, store, stack⟩) limits.maxDepth
      ⟨[], card.valueScope store data, root.body, "root"⟩, isPlainName spot.element.name = true) :
    let r : Realizer := ⟨card, limits, store, stack⟩
    let start : Spot := ⟨[], card.valueScope store data, root.body, "root"⟩
    let distinct := (∀ node ∈ report.root, node.keys.Nodup) ∧ report.liveKeys.Nodup
    let apart := r.Apart r.nodeAt limits.maxDepth start ∧ r.Apart r.instanceAt limits.maxDepth start
    (apart → distinct) ∧
      (report.truncated = false → (r.nodeAt start).isSome → (distinct ↔ apart)) := by
  intro r start distinct apart
  unfold realize at h
  rw [hroot] at h
  simp only [Option.bind_eq_bind, Option.bind_some, Option.bind_eq_some_iff] at h
  obtain ⟨⟨nodes, walk⟩, hwalk, hrep⟩ := h
  cases hrep
  obtain ⟨live, hlive, hkeys, hpart, hall⟩ := r.realizes_element limits.maxDepth start _ _ _ hwalk
  have hnodes := nodup_keysFrom_iff r.marks_nodeAt limits.maxDepth start hplain
  have hlives := nodup_keysFrom_iff r.marks_instanceAt limits.maxDepth start hplain
  -- instances stand below `root`, the card's own cells do not
  have hcard : cardStateKey ∉ r.keysFrom r.instanceAt limits.maxDepth start := by
    intro hmem
    obtain ⟨rest, hrest, _⟩ := under_of_mem_keysFrom r.marks_instanceAt hmem
    simp [cardStateKey, start] at hrest
  have hlive' : walk.live.Nodup ↔ live.Nodup := by
    rw [hlive]
    exact ⟨fun h => (nodup_cons.mp h).2,
      fun h => nodup_cons.mpr ⟨fun hmem => hcard (hpart.subset hmem), h⟩⟩
  refine ⟨fun hapart => ⟨fun node hnode => ?_, ?_⟩, fun hwhole hroot => ?_⟩
  · cases nodes with
    | nil => exact absurd hnode nofun
    | cons first nodes =>
      cases hnode
      exact ((hnodes.mpr hapart.1).sublist hkeys).of_append_left
  · exact hlive'.mpr ((hlives.mpr hapart.2).sublist hpart)
  -- the walk left nothing out, and the root is one node
  · obtain ⟨_, hkeys, rfl⟩ := hall hwhole
    obtain ⟨key, hkey⟩ := Option.isSome_iff_exists.mp hroot
    refine and_congr ?_ (hlive'.trans hlives)
    rw [← hnodes, ← hkeys]
    have hone := length_element_le_one hkey hwalk
    match nodes, hone with
    | [], _ => simp [UiNode.keysOf]
    | [node], _ => simp [UiNode.keysOf]

end

/-- A place that can be picked. -/
def place : Component where
  name := "Place"
  params := []
  states := [⟨["picked"], .bool, some (.bool false), none, false⟩]
  events := [⟨"pick", [⟨["picked"], .toggle, []⟩]⟩]
  body := .call "Chip" [⟨"active", .path ["picked"]⟩, ⟨"on_tap", .path ["pick"]⟩] []

/-- `for p in places` with the key `p.name`. -/
def placesLoop : Element :=
  ⟨"for", [⟨"", .path ["places"]⟩], [.call "Place" [] []], ["p"], false, none, none,
    some ["p", "name"]⟩

def placesCard : Card where
  sources := [⟨["places"], "sys.search", [("query", .text "cafe"), ("fields", .list [["name"]])]⟩]
  states := []
  events := []
  copies := []
  components := [place]
  views := [⟨"root", .call "Col" [] [placesLoop]⟩]

def placesData (names : List String) : Json.Value :=
  .object [("places", .array (names.map fun name => .object [("name", .string name)]))]

/-- Repeated names, a name with the mark and one with a bracket. -/
theorem realize_keys_nodup_places :
    ∃ (_ : F64Ops) (_ : Unicode) (report : RealizeReport),
      realize placesCard (placesData ["a", "a", "b#9", "c]"]) none ⟨8192, 64, 512, 65536⟩ 8 =
        some report ∧
      report.liveKeys.length = 5 ∧ (∀ node ∈ report.root, node.keys.Nodup) ∧
      report.liveKeys.Nodup := by
  refine ⟨F64Ops.counting, Unicode.ascii, ?_⟩
  let _ := F64Ops.counting
  let _ := Unicode.ascii
  have hcount : (realize placesCard (placesData ["a", "a", "b#9", "c]"]) none
      ⟨8192, 64, 512, 65536⟩ 8).map (·.liveKeys.length) = some 5 := by decide +kernel
  obtain ⟨report, hrep, hlen⟩ := Option.map_eq_some_iff.mp hcount
  exact ⟨report, hrep, hlen, (realize_keys_nodup_iff rfl hrep (by decide +kernel)).1
    (by decide +kernel)⟩

/-- A repeated key is marked with its index, and a later item can have the marked key itself. -/
theorem placesCard_shares_key :
    ∃ (_ : F64Ops) (_ : Unicode), placesCard.Accepted ∧
      (realize placesCard (placesData ["a", "a", "a#1"]) none ⟨8192, 64, 512, 65536⟩ 8).map
          (fun report => (report.liveKeys, report.root.map UiNode.keys)) =
        some (["@card", "root/for#0[a]/Place#0/Place", "root/for#0[a#1]/Place#0/Place",
            "root/for#0[a#1]/Place#0/Place"],
          some ["root", "root/for#0[a]/Place#0/Place", "root/for#0[a#1]/Place#0/Place",
            "root/for#0[a#1]/Place#0/Place"]) :=
  ⟨F64Ops.counting, Unicode.ascii, by decide, by decide +kernel⟩

end Octoscript.Ui
