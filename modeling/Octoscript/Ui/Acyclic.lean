import Octoscript.Lib.Lists
import Octoscript.Ui.Check

namespace Octoscript.Ui

open List

inductive Record
  | component (component : Component)
  | view (view : View)

namespace Record

def name : Record → String
  | component c => c.name
  | view v => v.name

def body : Record → Element
  | component c => c.body
  | view v => v.body

end Record

namespace Element

mutual

/-- The names an element calls as constructors or components. -/
def calls : Element → List String
  | ⟨name, _, children, _, isReference, _, _, _⟩ =>
    (if isReference = false ∧ name ∉ ["", "for", "when", "slot", "into"] then [name] else []) ++
      callsOf children

def callsOf : List Element → List String
  | [] => []
  | child :: children => child.calls ++ callsOf children

end

mutual

theorem constructors_of_calls {name : String} :
    ∀ {element : Element}, name ∈ element.calls → name ∈ element.constructors
  | ⟨own, _, children, _, isReference, _, _, _⟩, h => by
    unfold calls at h
    unfold constructors
    rw [mem_append] at h ⊢
    obtain hown | hinner := h
    · left
      split at hown
      · next hcall =>
        have hkind : own ≠ "" ∧ own ≠ "for" ∧ own ≠ "when" ∧ own ≠ "slot" := by
          simp only [mem_cons, not_or] at hcall
          exact ⟨hcall.2.1, hcall.2.2.1, hcall.2.2.2.1, hcall.2.2.2.2.1⟩
        rwa [if_pos hkind]
      · cases hown
    · exact .inr (constructorsOf_of_callsOf hinner)

theorem constructorsOf_of_callsOf {name : String} :
    ∀ {children : List Element}, name ∈ callsOf children → name ∈ constructorsOf children
  | [], h => h
  | child :: children, h => by
    unfold callsOf at h
    unfold constructorsOf
    rw [mem_append] at h ⊢
    exact h.imp constructors_of_calls constructorsOf_of_callsOf

end

end Element

namespace Card

def records (card : Card) : List Record :=
  card.components.map .component ++ card.views.map .view

/-- The first record calls the second, a component, or splices it, a view. -/
def Refers (card : Card) (r r' : Record) : Prop :=
  r ∈ card.records ∧ r' ∈ card.records ∧ match r' with
    | .component c => c.name ∈ r.body.calls
    | .view v => v.name ∈ r.body.references

def Acyclic (card : Card) : Prop := ∀ r, ¬Relation.TransGen card.Refers r r

/-- No record before this one has its name. -/
def First (card : Card) (r : Record) : Prop :=
  (card.records.find? fun other => other.name = r.name) = some r

/-- How many references the search can follow: those of the first record of each name that the
checker keeps. -/
def referenceCount (card : Card) : ℕ :=
  ∑ name ∈ (card.records.map Record.name).toFinset, (pending (declarationEdges card) name).length

end Card

theorem declarations_eq (card : Card) :
    declarations card =
      card.records.map fun r => (r.name, r.body.constructors ++ r.body.references) := by
  rw [declarations, Card.records, map_append, map_map, map_map]
  rfl

theorem map_fst_declarationEdges (card : Card) :
    (declarationEdges card).map Prod.fst = card.records.map Record.name := by
  simp [declarationEdges, declarations_eq]

/-- The checker keeps every reference of the first record of a name to a record. -/
theorem mem_pending_of_refers {card : Card} {r r' : Record} (hfirst : card.First r)
    (h : card.Refers r r') : r'.name ∈ pending (declarationEdges card) r.name := by
  obtain ⟨hr, hr', hrefers⟩ := h
  have hnamed : r'.name ∈ r.body.constructors ++ r.body.references := by
    cases r' with
    | component c => exact mem_append_left _ (Element.constructors_of_calls hrefers)
    | view v => exact mem_append_right _ hrefers
  have hentry : referenced (declarationEdges card) r.name =
      ((r.body.constructors ++ r.body.references).filter
        (· ∈ card.records.map Record.name)).destutter (· ≠ ·) := by
    rw [referenced, declarationEdges, declarations_eq, map_map, map_map, find?_map]
    change Option.getD (((card.records.find? fun other => other.name = r.name).map _).map _) _ = _
    rw [hfirst]
    rfl
  rw [pending, mem_reverse, hentry]
  apply mem_destutter_ne
  rw [mem_filter]
  exact ⟨hnamed, decide_eq_true (mem_map_of_mem hr')⟩

theorem pending_of_not_mem {card : Card} {name : String}
    (h : name ∉ card.records.map Record.name) : pending (declarationEdges card) name = [] := by
  have hnone : (declarationEdges card).find? (fun record => record.1 = name) = none := by
    rw [find?_eq_none]
    intro entry hentry heq
    apply h
    rw [← map_fst_declarationEdges, mem_map]
    exact ⟨entry, hentry, by simpa using heq⟩
  simp [pending, referenced, hnone]

section
variable [F64Ops]

theorem Card.Accepted.acyclicity {card : Card} (h : card.Accepted) :
    checkComponentAcyclicity card = [] := by
  unfold Card.Accepted validate at h
  simp only [append_eq_nil_iff] at h
  exact h.1.1.1.1.2

/-- The search comes upon every cycle of records that are the first of their names, if it has
steps for all references. -/
theorem not_accepted_of_cycle {card : Card} (hcount : card.referenceCount ≤ maxUiL0Declarations)
    {r : Record} (hcycle : Relation.TransGen (fun a b => card.Refers a b ∧ card.First a) r r) :
    ¬card.Accepted := by
  intro haccepted
  -- the cycle of records is a cycle of names, and the search for `r` comes back to it
  have hnamed : Relation.TransGen (fun a b => b ∈ pending (declarationEdges card) a)
      r.name r.name :=
    hcycle.lift Record.name fun a b hab => mem_pending_of_refers hab.2 hab.1
  have hfinds : Search.finds (pending (declarationEdges card)) r.name maxUiL0Declarations
      (pending (declarationEdges card) r.name) [r.name] = true :=
    Search.finds_of_cycle (fun name hname => pending_of_not_mem (by simpa using hname)) hcount hnamed
  obtain ⟨r', hfirst, -⟩ := Relation.TransGen.head'_iff.mp hcycle
  have hmem : r.name ∈ (declarationEdges card).map Prod.fst := by
    rw [map_fst_declarationEdges]
    exact mem_map_of_mem hfirst.1.1
  obtain ⟨entry, hentry, hname⟩ := mem_map.mp hmem
  have hnone := flatMap_eq_nil_iff.mp haccepted.acyclicity entry hentry
  rw [report_eq_nil, hname] at hnone
  exact hnone hfinds

/-- The declaration graph of an accepted card is acyclic exactly if no cycle depends on a record
whose name an earlier one has, and none is left because the search gives up. -/
theorem acyclic_iff_of_accepted (card : Card) (haccepted : card.Accepted) :
    card.Acyclic ↔ ∀ r, Relation.TransGen card.Refers r r →
      Relation.TransGen (fun a b => card.Refers a b ∧ card.First a) r r ∧
        card.referenceCount ≤ maxUiL0Declarations := by
  constructor
  · exact fun hacyclic r hcycle => absurd hcycle (hacyclic r)
  · intro hfound r hcycle
    obtain ⟨hfirst, hcount⟩ := hfound r hcycle
    exact not_accepted_of_cycle hcount hfirst haccepted

end

/-- A view that calls a component. -/
def calling : Card where
  sources := []
  states := []
  events := []
  copies := []
  components := [⟨"Line", [], [], [], .call "Rule" [] []⟩]
  views := [⟨"root", .call "Line" [] []⟩]

theorem acyclic_calling : calling.Acyclic := by
  refine (@acyclic_iff_of_accepted F64Ops.counting calling (by decide)).mpr fun r hcycle => ?_
  refine ⟨hcycle.lift id fun a b hab => ⟨hab, ?_⟩, by decide +kernel⟩
  exact find?_of_nodup_map (by decide) hab.1

/-- A view that splices itself and a component of the same name. -/
def selfSplicing : Card where
  sources := []
  states := []
  events := []
  copies := []
  components := [⟨"foo", [], [], [], .call "Rule" [] []⟩]
  views := [⟨"foo", .splice "foo"⟩, ⟨"root", .splice "foo"⟩]

/-- The search looks up the references of the component twice and those of the view never. -/
theorem accepted_selfSplicing :
    ∃ (_ : F64Ops) (card : Card), card.Accepted ∧ ¬card.Acyclic := by
  refine ⟨F64Ops.counting, selfSplicing, by decide, fun hacyclic => ?_⟩
  refine hacyclic (.view ⟨"foo", .splice "foo"⟩) (.single ⟨?_, ?_, ?_⟩)
  · simp [Card.records, selfSplicing]
  · simp [Card.records, selfSplicing]
  · decide

end Octoscript.Ui
