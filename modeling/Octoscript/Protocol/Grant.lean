import Octoscript.Lib.Json
import Octoscript.Protocol.Error

namespace Octoscript
open Wire

inductive ResourceKind
  | fileRoot
  | executable
  | networkOrigin
  | secret
  deriving DecidableEq

structure ResourceSelector where
  kind : ResourceKind
  id : String
  deriving DecidableEq

/-- The derived order: first the kind as declared, then the identifier. -/
instance : Ord ResourceSelector :=
  ⟨compareLex (compareOn fun r => r.kind.ctorIdx) (compareOn fun r => r.id)⟩

instance : Std.TransOrd ResourceSelector :=
  inferInstanceAs (Std.TransCmp
    (compareLex (compareOn fun r : ResourceSelector => r.kind.ctorIdx) (compareOn fun r => r.id)))

theorem ResourceKind.ctorIdx_injective : Function.Injective ResourceKind.ctorIdx := by
  intro a b h
  cases a <;> cases b <;> first | rfl | exact absurd h (by decide)

instance : Std.LawfulEqOrd ResourceSelector where
  eq_of_compare {a b} h := by
    obtain ⟨hk, hi⟩ : compare a.kind.ctorIdx b.kind.ctorIdx = .eq ∧ compare a.id b.id = .eq := by
      simpa [compare, compareLex, compareOn, Ordering.then_eq_eq] using h
    have hkind := ResourceKind.ctorIdx_injective (Std.LawfulEqCmp.eq_of_compare hk)
    have hid := Std.LawfulEqCmp.eq_of_compare hi
    cases a
    cases b
    simp_all

abbrev ResourceSet := Std.ExtTreeSet ResourceSelector

def ResourceSelector.validate (r : ResourceSelector) : Except ProtocolError Unit :=
  validateToken "resource selector" r.id

/-- A capability a worker may exercise for one session. -/
structure CapabilityGrant where
  tool : String
  format : EnvelopeFormat
  (maxCalls maxInputBytes maxOutputBytes maxCompensations : UInt32)
  resources : ResourceSet
  deriving DecidableEq

/-- Restrictions on one grant; what is absent is inherited. -/
structure GrantAttenuation where
  (maxCalls maxInputBytes maxOutputBytes maxCompensations : Option UInt32)
  resources : Option ResourceSet

namespace CapabilityGrant

/-- The default grant of a text tool. -/
def text (tool : String) : CapabilityGrant where
  tool := tool
  format := .text
  maxCalls := 1
  maxInputBytes := 16 * 1024
  maxOutputBytes := 64 * 1024
  maxCompensations := 0
  resources := ∅

/-- The default grant of a JSON tool. -/
def json (tool : String) : CapabilityGrant := { text tool with format := .json }

def validate (g : CapabilityGrant) : Except ProtocolError Unit := do
  validateToken "tool" g.tool
  rejectIf (g.maxCalls = 0) (.invalidGrant "max_calls must be greater than zero")
  rejectIf (g.maxInputBytes = 0 ∨ g.maxOutputBytes = 0)
    (.invalidGrant "byte limits must be greater than zero")
  rejectIf (g.resources.size > maxResourcesPerGrant) (.tooManyResources maxResourcesPerGrant)
  forM g.resources.toList ResourceSelector.validate

/-- A grant with no more authority than this one. -/
def attenuate (self : CapabilityGrant) (attenuation : GrantAttenuation) :
    Except ProtocolError CapabilityGrant := do
  self.validate
  let maxCalls := attenuation.maxCalls.getD self.maxCalls
  let maxInputBytes := attenuation.maxInputBytes.getD self.maxInputBytes
  let maxOutputBytes := attenuation.maxOutputBytes.getD self.maxOutputBytes
  let maxCompensations := attenuation.maxCompensations.getD self.maxCompensations
  rejectIf (maxCalls = 0 ∨ maxInputBytes = 0 ∨ maxOutputBytes = 0)
    (.invalidGrant "attenuated limits must be greater than zero")
  rejectIf (maxCalls > self.maxCalls ∨ maxInputBytes > self.maxInputBytes ∨
      maxOutputBytes > self.maxOutputBytes ∨ maxCompensations > self.maxCompensations)
    .attenuationWidensLimits
  let resources := attenuation.resources.getD self.resources
  rejectIf (¬∀ r ∈ resources.toList, r ∈ self.resources) .attenuationExpandsResources
  let grant : CapabilityGrant :=
    { tool := self.tool, format := self.format, maxCalls, maxInputBytes, maxOutputBytes,
      maxCompensations, resources }
  grant.validate
  return grant

/-- The facts that `validate` checks. -/
structure Valid (g : CapabilityGrant) : Prop where
  tool : IsToken g.tool
  maxCalls : g.maxCalls ≠ 0
  maxInputBytes : g.maxInputBytes ≠ 0
  maxOutputBytes : g.maxOutputBytes ≠ 0
  size : g.resources.size ≤ maxResourcesPerGrant
  resources : ∀ r ∈ g.resources, IsToken r.id

theorem validate_ok_iff {g : CapabilityGrant} {u : Unit} : g.validate = .ok u ↔ g.Valid := by
  simp only [validate, ResourceSelector.validate, Except.bind_ok_iff, validateToken_ok_iff,
    Except.rejectIf_ok_iff, Except.forM_ok_iff, Std.ExtTreeSet.mem_toList, not_or, not_lt,
    gt_iff_lt]
  constructor
  · rintro ⟨_, htool, _, hcalls, _, ⟨hin, hout⟩, _, hsize, hres⟩
    exact ⟨htool, hcalls, hin, hout, hsize, hres⟩
  · rintro ⟨htool, hcalls, hin, hout, hsize, hres⟩
    exact ⟨(), htool, (), hcalls, (), ⟨hin, hout⟩, (), hsize, hres⟩

end CapabilityGrant

/-- The grants issued for one worker session. -/
structure CapabilityManifest where
  protocolVersion : UInt16
  sessionId : String
  grants : List CapabilityGrant
  deriving DecidableEq

/-- Restrictions on a manifest: a subset of its tools and restrictions by tool. -/
structure ManifestAttenuation where
  allowedTools : Option (Std.ExtTreeSet String)
  grants : Std.ExtTreeMap String GrantAttenuation

/-- `allowed_tools.is_none_or(|allowed| allowed.contains(tool))`. -/
def ManifestAttenuation.allows (attenuation : ManifestAttenuation) (tool : String) : Bool :=
  attenuation.allowedTools.all (·.contains tool)

namespace CapabilityManifest
variable {m : CapabilityManifest} {g : CapabilityGrant}

def validate (m : CapabilityManifest) : Except ProtocolError Unit := do
  validateProtocolVersion m.protocolVersion
  rejectIf (m.grants.length > maxCapabilityGrantsPerManifest)
    (.tooManyGrants maxCapabilityGrantsPerManifest)
  validateToken "session id" m.sessionId
  Except.checkDistinct CapabilityGrant.validate CapabilityGrant.tool .duplicateGrant [] m.grants

def new (sessionId : String) (grants : List CapabilityGrant) :
    Except ProtocolError CapabilityManifest := do
  let manifest : CapabilityManifest :=
    { protocolVersion := Octoscript.protocolVersion, sessionId, grants }
  manifest.validate
  return manifest

/-- The facts that `validate` checks. -/
structure Valid (m : CapabilityManifest) : Prop where
  version : m.protocolVersion = Octoscript.protocolVersion
  size : m.grants.length ≤ maxCapabilityGrantsPerManifest
  sessionId : IsToken m.sessionId
  grants : ∀ g ∈ m.grants, g.Valid
  tools : (m.grants.map CapabilityGrant.tool).Nodup

theorem validate_ok_iff {u : Unit} : m.validate = .ok u ↔ m.Valid := by
  simp only [validate, Except.bind_ok_iff, validateProtocolVersion_ok_iff, validateToken_ok_iff,
    Except.rejectIf_ok_iff, Except.checkDistinct_ok_iff, CapabilityGrant.validate_ok_iff,
    gt_iff_lt, not_lt]
  constructor
  · rintro ⟨_, hver, _, hsize, _, hid, hgrants, htools, _⟩
    exact ⟨hver, hsize, hid, hgrants, htools⟩
  · rintro ⟨hver, hsize, hid, hgrants, htools⟩
    exact ⟨(), hver, (), hsize, (), hid, hgrants, htools, by simp⟩

/-- `self.grants.iter().find(|grant| grant.tool == tool)`. -/
def grantFor (m : CapabilityManifest) (tool : String) : Option CapabilityGrant :=
  m.grants.find? (·.tool = tool)

def requireGrant (m : CapabilityManifest) (tool : String) : Except ProtocolError CapabilityGrant :=
  (m.grantFor tool).okOr (.unknownTool tool)

@[simp] theorem requireGrant_ok_iff {tool : String} :
    m.requireGrant tool = .ok g ↔ m.grantFor tool = some g := by
  simp [requireGrant]

theorem Valid.grantFor_mem (h : m.Valid) (hg : g ∈ m.grants) : m.grantFor g.tool = some g := by
  obtain ⟨g', hfind⟩ : ∃ g', m.grantFor g.tool = some g' := by
    rw [← Option.isSome_iff_exists, grantFor, List.find?_isSome]
    exact ⟨g, hg, by simp⟩
  have htool : g'.tool = g.tool := by simpa using List.find?_some hfind
  rw [hfind, List.inj_on_of_nodup_map h.tools (List.mem_of_find?_eq_some hfind) hg htool]

theorem tool_of_grantFor {tool : String} (h : m.grantFor tool = some g) : g.tool = tool := by
  simpa using List.find?_some h

/-- A grant that the attenuation does not mention is kept as it is. -/
def restrict (attenuation : ManifestAttenuation) (grant : CapabilityGrant) :
    Except ProtocolError CapabilityGrant :=
  match attenuation.grants[grant.tool]? with
  | none => .ok grant
  | some restriction => grant.attenuate restriction

/-- The checks on the tools that an attenuation selects. -/
def validateAllowedTools (self : CapabilityManifest) :
    Option (Std.ExtTreeSet String) → Except ProtocolError Unit
  | none => pure ()
  | some allowedTools =>
    forM allowedTools.toList fun tool => do
      validateToken "tool" tool
      rejectIf (∀ grant ∈ self.grants, grant.tool ≠ tool) (.unknownTool tool)

def attenuate (self : CapabilityManifest) (attenuation : ManifestAttenuation) :
    Except ProtocolError CapabilityManifest := do
  self.validate
  forM attenuation.grants.keys fun tool =>
    rejectIf (∀ grant ∈ self.grants, grant.tool ≠ tool) (.unknownTool tool)
  self.validateAllowedTools attenuation.allowedTools
  let kept := self.grants.filter fun grant => attenuation.allows grant.tool
  let grants ← kept.mapM (restrict attenuation)
  CapabilityManifest.new self.sessionId grants

end CapabilityManifest

def EnvelopeFormat.toJson : EnvelopeFormat → Json.Value
  | .text => .string "text"
  | .json => .string "json"

def ResourceKind.toJson : ResourceKind → Json.Value
  | .fileRoot => .string "file_root"
  | .executable => .string "executable"
  | .networkOrigin => .string "network_origin"
  | .secret => .string "secret"

def ResourceSelector.toJson (r : ResourceSelector) : Json.Value :=
  .object [("kind", r.kind.toJson), ("id", .string r.id)]

def CapabilityGrant.toJson (g : CapabilityGrant) : Json.Value :=
  .object [("tool", .string g.tool), ("format", g.format.toJson),
    ("max_calls", .nat g.maxCalls.toNat), ("max_input_bytes", .nat g.maxInputBytes.toNat),
    ("max_output_bytes", .nat g.maxOutputBytes.toNat),
    ("max_compensations", .nat g.maxCompensations.toNat),
    ("resources", .array (g.resources.toList.map ResourceSelector.toJson))]

def CapabilityManifest.toJson (m : CapabilityManifest) : Json.Value :=
  .object [("protocol_version", .nat m.protocolVersion.toNat), ("session_id", .string m.sessionId),
    ("grants", .array (m.grants.map CapabilityGrant.toJson))]

@[simp] theorem EnvelopeFormat.toJson_inj {a b : EnvelopeFormat} :
    a.toJson = b.toJson ↔ a = b := by
  cases a <;> cases b <;> simp [toJson]

@[simp] theorem ResourceKind.toJson_inj {a b : ResourceKind} : a.toJson = b.toJson ↔ a = b := by
  cases a <;> cases b <;> simp [toJson]

@[simp] theorem ResourceSelector.toJson_inj {a b : ResourceSelector} :
    a.toJson = b.toJson ↔ a = b := by
  cases a
  cases b
  simp [toJson]

theorem ResourceSet.toList_inj {a b : ResourceSet} : a.toList = b.toList ↔ a = b := by
  refine ⟨fun h => Std.ExtTreeSet.ext_mem fun r => ?_, fun h => h ▸ rfl⟩
  rw [← Std.ExtTreeSet.mem_toList, h, Std.ExtTreeSet.mem_toList]

@[simp] theorem CapabilityGrant.toJson_inj {a b : CapabilityGrant} :
    a.toJson = b.toJson ↔ a = b := by
  have hmap : Function.Injective ResourceSelector.toJson := fun _ _ => ResourceSelector.toJson_inj.mp
  cases a
  cases b
  simp [toJson, hmap.list_map.eq_iff, ResourceSet.toList_inj, UInt32.toNat_inj]

@[simp] theorem CapabilityManifest.toJson_inj {a b : CapabilityManifest} :
    a.toJson = b.toJson ↔ a = b := by
  have hmap : Function.Injective CapabilityGrant.toJson := fun _ _ => CapabilityGrant.toJson_inj.mp
  cases a
  cases b
  simp [toJson, hmap.list_map.eq_iff, UInt16.toNat_inj]

/-- The BLAKE3 binding of a grant that a compensation request carries. -/
def CapabilityGrant.compensationFingerprint [Blake3] (g : CapabilityGrant) :
    Except ProtocolError String := do
  g.validate
  let encoded := Json.encode g.toJson
  return (Blake3.hash (utf8 "octoscript-compensation-grant-v1" ++ component encoded)).toHex

end Octoscript
