import Octoscript.Lib.JsonOrder
import Octoscript.Protocol.Message

namespace Octoscript
open Wire Json List

theorem canonicalItems_eq (vs : List Value) : canonicalItems vs = vs.map canonicalJson := by
  induction vs with
  | nil => rfl
  | cons v vs ih => rw [canonicalItems, ih, map_cons]

theorem canonicalMembers_eq (fs : List (String × Value)) :
    canonicalMembers fs = fs.map fun f => (f.1, canonicalJson f.2) := by
  induction fs with
  | nil => rfl
  | cons f fs ih =>
    obtain ⟨k, v⟩ := f
    rw [canonicalMembers, ih, map_cons]

theorem canonicalMembers_keys (fs : List (String × Value)) :
    (canonicalMembers fs).map Prod.fst = fs.map Prod.fst := by
  rw [canonicalMembers_eq, map_map]
  rfl

mutual

/-- What has one canonical form is the same up to the order of members. -/
theorem same_of_canonicalJson_eq : ∀ (v : Value) {w : Value},
    canonicalJson v = canonicalJson w → Same v w
  | .null, w, h => by
    cases w <;> simp only [canonicalJson, reduceCtorEq] at h
    exact .null
  | .bool b, w, h => by
    cases w <;> simp only [canonicalJson, reduceCtorEq, Value.bool.injEq] at h
    rw [h]
    exact .bool _
  | .number n, w, h => by
    cases w <;> simp only [canonicalJson, reduceCtorEq, Value.number.injEq] at h
    rw [h]
    exact .number _
  | .string s, w, h => by
    cases w <;> simp only [canonicalJson, reduceCtorEq, Value.string.injEq] at h
    rw [h]
    exact .string _
  | .array vs, w, h => by
    cases w <;> simp only [canonicalJson, reduceCtorEq, Value.array.injEq] at h
    rw [canonicalItems_eq, canonicalItems_eq] at h
    exact .array (forall₂_of_map_eq h fun v hv _ heq => same_of_items vs v hv heq)
  | .object fs, w, h => by
    cases w <;> simp only [canonicalJson, reduceCtorEq, Value.object.injEq] at h
    rename_i gs
    -- the two sorted lists are one, so the members are rearranged into each other
    have hperm : (canonicalMembers fs).Perm (canonicalMembers gs) := by
      apply (perm_insertionSort (fun a b => a.1 ≤ b.1) _).symm.trans
      rw [h]
      exact perm_insertionSort _ _
    rw [canonicalMembers_eq, canonicalMembers_eq] at hperm
    obtain ⟨fs', hfs', hmap⟩ := exists_perm_of_map_perm hperm
    apply Same.object hfs'
    · have hkeys := congrArg (map Prod.fst) hmap
      simpa only [map_map, Function.comp_def] using hkeys
    · rw [forall₂_map_left_iff, forall₂_map_right_iff]
      apply forall₂_of_map_eq hmap
      intro f hf g heq
      exact same_of_fields fs f (hfs'.mem_iff.mpr hf) (Prod.mk.inj heq).2

theorem same_of_items : ∀ (vs : List Value), ∀ v ∈ vs, ∀ {w : Value},
    canonicalJson v = canonicalJson w → Same v w
  | [], _, hv, _, _ => by cases hv
  | first :: rest, v, hv, _, h => by
    rcases mem_cons.mp hv with heq | hv
    · rw [heq] at h ⊢
      exact same_of_canonicalJson_eq first h
    · exact same_of_items rest v hv h

theorem same_of_fields : ∀ (fs : List (String × Value)), ∀ f ∈ fs, ∀ {w : Value},
    canonicalJson f.2 = canonicalJson w → Same f.2 w
  | [], _, hf, _, _ => by cases hf
  | (k, first) :: rest, f, hf, _, h => by
    rcases mem_cons.mp hf with heq | hf
    · rw [heq] at h ⊢
      exact same_of_canonicalJson_eq first h
    · exact same_of_fields rest f hf h

end

mutual

/-- Values without repeated keys that are the same have one canonical form. -/
theorem canonicalJson_eq_of_same : ∀ (v : Value) {w : Value}, distinctKeys v = true → Same v w →
    canonicalJson v = canonicalJson w
  | .null, _, _, .null | .bool _, _, _, .bool _ | .number _, _, _, .number _
  | .string _, _, _, .string _ => rfl
  | .array vs, _, hkeys, .array hitems => by
    rw [distinctKeys] at hkeys
    rw [canonicalJson, canonicalJson, canonicalItems_eq, canonicalItems_eq]
    congr 1
    apply map_eq_of_forall₂ hitems
    exact fun v hv w hsame => canonicalItem_eq_of_same vs v hv hkeys hsame
  | .object fs, _, hkeys, @Same.object _ gs hs hperm hnames hvalues => by
    rw [distinctKeys, Bool.and_eq_true, decide_eq_true_eq] at hkeys
    rw [canonicalJson, canonicalJson]
    have hmems : canonicalMembers gs = canonicalMembers hs := by
      rw [canonicalMembers_eq, canonicalMembers_eq]
      rw [forall₂_map_left_iff, forall₂_map_right_iff] at hvalues
      have hcanonical : (gs.map fun g => canonicalJson g.2) = hs.map fun h => canonicalJson h.2 :=
        map_eq_of_forall₂ hvalues fun g hg _ hsame =>
          canonicalField_eq_of_same fs g (hperm.mem_iff.mpr hg) hkeys.2 hsame
      apply eq_of_map_eq
      · simpa only [map_map, Function.comp_def] using hnames
      · simpa only [map_map, Function.comp_def] using hcanonical
    have hrearranged : (canonicalMembers fs).Perm (canonicalMembers gs) := by
      rw [canonicalMembers_eq, canonicalMembers_eq]
      exact hperm.map _
    rw [insertionSort_eq_of_perm hrearranged (by rw [canonicalMembers_keys]; exact hkeys.1),
      hmems]

theorem canonicalItem_eq_of_same : ∀ (vs : List Value), ∀ v ∈ vs, ∀ {w : Value},
    distinctKeysOf vs = true → Same v w → canonicalJson v = canonicalJson w
  | [], _, hv, _, _, _ => by cases hv
  | first :: rest, v, hv, _, hkeys, h => by
    rw [distinctKeysOf, Bool.and_eq_true] at hkeys
    rcases mem_cons.mp hv with heq | hv
    · rw [heq] at h ⊢
      exact canonicalJson_eq_of_same first hkeys.1 h
    · exact canonicalItem_eq_of_same rest v hv hkeys.2 h

theorem canonicalField_eq_of_same : ∀ (fs : List (String × Value)), ∀ f ∈ fs, ∀ {w : Value},
    distinctKeysIn fs = true → Same f.2 w → canonicalJson f.2 = canonicalJson w
  | [], _, hf, _, _, _ => by cases hf
  | (k, first) :: rest, f, hf, _, hkeys, h => by
    rw [distinctKeysIn, Bool.and_eq_true] at hkeys
    rcases mem_cons.mp hf with heq | hf
    · rw [heq] at h ⊢
      exact canonicalJson_eq_of_same first hkeys.1 h
    · exact canonicalField_eq_of_same rest f hf hkeys.2 h

end

theorem canonicalJson_eq_iff {v w : Value} (hkeys : distinctKeys v = true) :
    canonicalJson v = canonicalJson w ↔ Same v w :=
  ⟨same_of_canonicalJson_eq v, canonicalJson_eq_of_same v hkeys⟩

namespace ToolPayload

/-- Objects inside the payload are maps. -/
def distinctKeys : ToolPayload → Bool
  | .text _ => true
  | .json value => Json.distinctKeys value

/-- Equal texts, or JSON values that are equal up to the order of members. -/
def Same : ToolPayload → ToolPayload → Prop
  | .text value, .text value' => value = value'
  | .json value, .json value' => Json.Same value value'
  | .text _, .json _ | .json _, .text _ => False

end ToolPayload

/-- The bytes that stand for a payload. -/
def ToolPayload.canonicalBytes : ToolPayload → Bytes
  | .text value => utf8 "text" ++ component (utf8 value)
  | .json value => utf8 "json" ++ component (encode (canonicalJson value))

/-- The length before a component is eight bytes long, whatever it says. -/
theorem component_inj {a b : Bytes} (h : component a = component b) : a = b := by
  have hlen : (beBytes (UInt64.ofNat a.length)).length =
      (beBytes (UInt64.ofNat b.length)).length := by simp
  exact (append_inj h hlen).2

theorem component_injective : Function.Injective component := fun _ _ => component_inj

theorem ToolPayload.canonicalBytes_eq_iff {p q : ToolPayload} (hkeys : p.distinctKeys = true) :
    p.canonicalBytes = q.canonicalBytes ↔ p.Same q := by
  have htags : (utf8 "text").length = (utf8 "json").length := by decide
  have hdiffer : utf8 "text" ≠ utf8 "json" := by decide
  cases p with
  | text value =>
    cases q with
    | text value' =>
      simp only [canonicalBytes, append_cancel_left_eq, component_injective.eq_iff,
        utf8_injective.eq_iff, ToolPayload.Same]
    | json value' =>
      simp only [ToolPayload.Same, iff_false]
      exact fun h => hdiffer (append_inj h htags).1
  | json value =>
    cases q with
    | text value' =>
      simp only [ToolPayload.Same, iff_false]
      exact fun h => hdiffer (append_inj h htags.symm).1.symm
    | json value' =>
      simp only [canonicalBytes, append_cancel_left_eq, component_injective.eq_iff,
        encode_injective.eq_iff, ToolPayload.Same]
      exact canonicalJson_eq_iff hkeys

/-- A payload that passes its check has these canonical bytes. -/
theorem canonicalOperationInputBytes_eq {p : ToolPayload} {bytes : Bytes}
    (h : canonicalOperationInputBytes p = .ok bytes) : bytes = p.canonicalBytes := by
  unfold canonicalOperationInputBytes at h
  obtain ⟨_, -, h⟩ := Except.bind_ok_iff.mp h
  cases p <;> exact (Except.ok.inj h).symm

/-- Two inputs have the same canonical bytes exactly if they are equal texts, or JSON values that
are equal up to the order of object members at every depth. -/
theorem canonicalOperationInputBytes_eq_iff {p q : ToolPayload} {bytes bytes' : Bytes}
    (hp : canonicalOperationInputBytes p = .ok bytes)
    (hq : canonicalOperationInputBytes q = .ok bytes') (hkeys : p.distinctKeys = true) :
    bytes = bytes' ↔ p.Same q := by
  rw [canonicalOperationInputBytes_eq hp, canonicalOperationInputBytes_eq hq]
  exact ToolPayload.canonicalBytes_eq_iff hkeys

theorem canonicalOperationInputBytes_eq_iff_reordered :
    ∃ bytes bytes' : Bytes,
      canonicalOperationInputBytes (.json (.object [("b", .array [.null]), ("a", .bool true)])) =
        .ok bytes ∧
      canonicalOperationInputBytes (.json (.object [("a", .bool true), ("b", .array [.null])])) =
        .ok bytes' ∧
      (bytes = bytes' ↔ ToolPayload.Same
        (.json (.object [("b", .array [.null]), ("a", .bool true)]))
        (.json (.object [("a", .bool true), ("b", .array [.null])]))) :=
  ⟨_, _, rfl, rfl, canonicalOperationInputBytes_eq_iff rfl rfl (by decide)⟩

end Octoscript
