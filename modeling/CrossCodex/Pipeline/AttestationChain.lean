/-
Layouts, links and the verification of a run's attestation (pkg/attestation; executor.go
createLayout, createLink). Signatures are symbolic. Commands, thresholds, inspections and
byproducts are read by no check.
-/

import CrossCodex.Pipeline.CacheCheckpoints
import CrossCodex.Pipeline.Stages

namespace CrossCodex.Pipeline

open ResultCache List

structure LayoutStep where
  name : Text
  expectedMaterials : List Text
  expectedProducts : List Text
  deriving DecidableEq

structure SignedLayout where
  key : Text
  steps : List LayoutStep
  expires : Nat
  deriving DecidableEq

/-- A link as the run holds it. VerifyChain reads `raw` only. -/
structure SignedLink where
  raw : Envelope
  step : Text
  products : List Artifact
  deriving DecidableEq

structure Bundle where
  layout : SignedLayout
  links : List Envelope
  deriving DecidableEq

/-- A map from URI to digest: of two artifacts with one URI the later counts. -/
def artifactsToHashObj : List Artifact → List Artifact
  | [] => []
  | artifact :: rest =>
    if rest.any fun later => later.uri = artifact.uri then artifactsToHashObj rest
    else artifact :: artifactsToHashObj rest

def artifactDigest (artifacts : List Artifact) (uri : Text) : Option Text :=
  (artifacts.find? fun artifact => artifact.uri = uri).map Artifact.digest

def firstMissing (want : List Text) (artifacts : List Artifact) : Option Text :=
  want.find? fun uri => uri ∉ artifacts.map Artifact.uri

variable {artifacts : List Artifact} {links : List Link} {subject artifact : Artifact}
  {produced : List (Text × Text × Text)} {recorded key : Text} {steps : List LayoutStep}
  {raws : List Envelope} {link : Link} {now : Nat}

theorem mem_of_mem_artifactsToHashObj (mem : artifact ∈ artifactsToHashObj artifacts) :
    artifact ∈ artifacts := by
  induction artifacts with
  | nil => cases mem
  | cons first rest ih =>
    unfold artifactsToHashObj at mem
    split at mem
    · exact mem_cons_of_mem first (ih mem)
    · rcases mem_cons.mp mem with rfl | later
      · exact mem_cons_self
      · exact mem_cons_of_mem first (ih later)

theorem artifactsToHashObj_uris {uri : Text} :
    uri ∈ (artifactsToHashObj artifacts).map Artifact.uri ↔ uri ∈ artifacts.map Artifact.uri := by
  induction artifacts with
  | nil => rfl
  | cons first rest ih =>
    unfold artifactsToHashObj
    split
    · rename_i later
      rw [ih, map_cons, mem_cons]
      constructor
      · exact .inr
      · rintro (rfl | mem)
        · obtain ⟨other, mem, same⟩ := any_eq_true.mp later
          exact mem_map.mpr ⟨other, mem, of_decide_eq_true same⟩
        · exact mem
    · rw [map_cons, mem_cons, ih, map_cons, mem_cons]

theorem artifactDigest_artifactsToHashObj (mem : artifact ∈ artifacts)
    (alone : ∀ other ∈ artifacts, other.uri = artifact.uri → other = artifact) :
    artifactDigest (artifactsToHashObj artifacts) artifact.uri = some artifact.digest := by
  obtain ⟨found, kept, named⟩ := mem_map.mp
    (artifactsToHashObj_uris.mpr (mem_map_of_mem (f := Artifact.uri) mem))
  unfold artifactDigest
  cases search : (artifactsToHashObj artifacts).find? fun other => other.uri = artifact.uri with
  | none =>
    have absent := find?_eq_none.mp search found kept
    rw [named] at absent
    exact absurd (decide_eq_true rfl) absent
  | some other =>
    have same : other.uri = artifact.uri := by simpa using find?_some search
    have present := mem_of_mem_artifactsToHashObj (mem_of_find?_eq_some search)
    rw [Option.map_some, alone other present same]

theorem mem_of_artifactDigest {uri digest : Text}
    (found : artifactDigest artifacts uri = some digest) :
    (⟨uri, digest⟩ : Artifact) ∈ artifacts := by
  obtain ⟨artifact, search, rfl⟩ := Option.map_eq_some_iff.mp found
  have named : artifact.uri = uri := by simpa using find?_some search
  subst named
  exact mem_of_find?_eq_some search

theorem firstMissing_eq_none {want : List Text} :
    firstMissing want artifacts = none ↔ ∀ uri ∈ want, uri ∈ artifacts.map Artifact.uri := by
  simp only [firstMissing, find?_eq_none, decide_eq_true_eq, not_not]

inductive ChainFailure where
  | noSubject
  | noLayout
  | layoutUnverified
  | expired
  | linkUnverified (failure : VerifyFailure)
  | unexpectedLink
  | missingLink
  | subjectMismatch
  | chainBroken
  deriving DecidableEq

def linkOf (links : List Link) (step : Text) : Option Link :=
  links.find? fun link => link.step = step

theorem linkOf_eq_some {step : Text} (found : linkOf links step = some link) :
    link ∈ links ∧ link.step = step :=
  ⟨mem_of_find?_eq_some found, by simpa using find?_some found⟩

def collectLinks (key : Text) (declared : List Text) :
    List Link → List Envelope → Except ChainFailure (List Link)
  | byStep, [] => .ok byStep
  | byStep, raw :: rest =>
    match raw.verify key with
    | .error failure => .error (.linkUnverified failure)
    | .ok link =>
      if link.step ∉ declared then .error .unexpectedLink
      else if link.step ∈ byStep.map Link.step then .error .unexpectedLink
      else collectLinks key declared (byStep ++ [link]) rest

/-- The first step, in layout order, that produced an artifact, with its digest. -/
def producedBy (links : List Link) (steps : List LayoutStep) : List (Text × Text × Text) :=
  steps.flatMap fun step =>
    match linkOf links step.name with
    | none => []
    | some link => link.products.map fun product => (product.uri, step.name, product.digest)

def breaksChain (produced : List (Text × Text × Text)) (step : Text) (material : Artifact) : Bool :=
  match produced.lookup material.uri with
  | none => false
  | some (producer, digest) => producer ≠ step && digest ≠ material.digest

/-- What one step of the layout must show; the digest of the run that later steps are
held to. -/
def checkStep (subject : Text) (produced : List (Text × Text × Text)) (recorded : Text)
    (step : LayoutStep) (link : Link) : Except ChainFailure Text :=
  if subject ∉ step.expectedMaterials then .error .subjectMismatch
  else
    match artifactDigest link.materials subject with
    | none => .error .subjectMismatch
    | some got =>
      let recorded := if recorded = [] then got else recorded
      if got ≠ recorded then .error .subjectMismatch
      else if firstMissing step.expectedMaterials link.materials ≠ none then
        .error .chainBroken
      else if firstMissing step.expectedProducts link.products ≠ none then
        .error .chainBroken
      else if link.materials.any (breaksChain produced step.name) then .error .chainBroken
      else .ok recorded

def checkSteps (subject : Text) (links : List Link) (produced : List (Text × Text × Text)) :
    Text → List LayoutStep → Except ChainFailure Text
  | recorded, [] => .ok recorded
  | recorded, step :: rest =>
    match linkOf links step.name with
    | none => .error .missingLink
    | some link =>
      match checkStep subject produced recorded step link with
      | .error failure => .error failure
      | .ok recorded => checkSteps subject links produced recorded rest

/-- VerifyChain from a verified layout on. -/
def checkChain (key : Text) (steps : List LayoutStep) (links : List Envelope)
    (subject : Artifact) : Except ChainFailure Text :=
  match collectLinks key (steps.map LayoutStep.name) [] links with
  | .error failure => .error failure
  | .ok byStep =>
    if steps.all fun step => (linkOf byStep step.name).isSome then
      checkSteps subject.uri byStep (producedBy byStep steps) subject.digest steps
    else .error .missingLink

def verifyChain (key : Text) (now : Nat) (layout : Option SignedLayout) (links : List Envelope)
    (subject : Artifact) : Except ChainFailure Text :=
  if subject.uri = [] then .error .noSubject
  else
    match layout with
    | none => .error .noLayout
    | some layout =>
      if layout.key ≠ key then .error .layoutUnverified
      else if layout.expires < now then .error .expired
      else checkChain key layout.steps links subject

def marshalBundle (layout : Option SignedLayout) (links : List Envelope) : Option Bundle :=
  match layout with
  | none => none
  | some layout => if links = [] then none else some ⟨layout, links⟩

/-! ### What an accepted chain shows -/

structure StepHolds (subject : Artifact) (produced : List (Text × Text × Text))
    (step : LayoutStep) (link : Link) : Prop where
  named : subject.uri ∈ step.expectedMaterials
  recorded : artifactDigest link.materials subject.uri = some subject.digest
  materials : ∀ uri ∈ step.expectedMaterials, uri ∈ link.materials.map Artifact.uri
  products : ∀ uri ∈ step.expectedProducts, uri ∈ link.products.map Artifact.uri
  matching : ∀ material ∈ link.materials, breaksChain produced step.name material = false

structure ChainHolds (key : Text) (now : Nat) (layout : SignedLayout) (links : List Link)
    (subject : Artifact) : Prop where
  named : subject.uri ≠ []
  signed : layout.key = key
  unexpired : now ≤ layout.expires
  declared : ∀ link ∈ links, link.step ∈ layout.steps.map LayoutStep.name
  distinct : (links.map Link.step).Nodup
  steps : ∀ step ∈ layout.steps, ∃ link, linkOf links step.name = some link ∧
    StepHolds subject (producedBy links layout.steps) step link

theorem collectLinks_eq_ok {declared : List Text} {byStep : List Link}
    (distinct : (byStep.map Link.step).Nodup) :
    collectLinks key declared byStep raws = .ok links ↔
      ∃ more, raws = more.map (Envelope.signed key) ∧ links = byStep ++ more ∧
        (∀ link ∈ more, link.step ∈ declared) ∧ (links.map Link.step).Nodup := by
  induction raws generalizing byStep with
  | nil =>
    constructor
    · intro collected
      cases collected
      exact ⟨[], rfl, (append_nil _).symm, by simp, distinct⟩
    · rintro ⟨more, none, grown, _, _⟩
      cases more with
      | nil =>
        rw [grown, append_nil]
        rfl
      | cons link rest => cases none
  | cons raw rest ih =>
    constructor
    · intro collected
      simp only [collectLinks] at collected
      split at collected
      · cases collected
      rename_i link verified
      split at collected
      · cases collected
      rename_i known
      split at collected
      · cases collected
      rename_i fresh
      have grown : ((byStep ++ [link]).map Link.step).Nodup := by
        rw [map_append, map_singleton]
        exact distinct.append (nodup_singleton _) (by simpa using fresh)
      obtain ⟨more, rfl, rfl, all, nodup⟩ := (ih grown).mp collected
      refine ⟨link :: more, ?_, ?_, ?_, nodup⟩
      · rw [Envelope.verify_eq_ok.mp verified, map_cons]
      · rw [append_assoc, singleton_append]
      · intro other mem
        rcases mem_cons.mp mem with rfl | later
        · exact not_not.mp known
        · exact all other later
    · rintro ⟨more, given, rfl, all, nodup⟩
      cases more with
      | nil => cases given
      | cons link more =>
        cases given
        have fresh : link.step ∉ byStep.map Link.step := by
          intro mem
          rw [map_append] at nodup
          exact disjoint_of_nodup_append nodup mem (by simp)
        have grown : ((byStep ++ [link]).map Link.step).Nodup := by
          rw [map_append, map_singleton]
          exact distinct.append (nodup_singleton _) (by simpa using fresh)
        have verified : (Envelope.signed key link).verify key = .ok link :=
          Envelope.verify_eq_ok.mpr rfl
        unfold collectLinks
        rw [verified]
        simp only [if_neg (not_not.mpr (all link mem_cons_self)), if_neg fresh]
        apply (ih grown).mpr
        refine ⟨more, rfl, ?_, fun other later => all other (mem_cons_of_mem _ later),
          nodup⟩
        rw [append_assoc, singleton_append]

theorem mem_producedBy_iff {uri name digest : Text} :
    (uri, name, digest) ∈ producedBy links steps ↔
      ∃ step ∈ steps, step.name = name ∧ ∃ link, linkOf links step.name = some link ∧
        ⟨uri, digest⟩ ∈ link.products := by
  unfold producedBy
  rw [mem_flatMap]
  constructor
  · intro produced
    obtain ⟨step, mem, listed⟩ := produced
    split at listed
    · cases listed
    rename_i link found
    obtain ⟨product, made, same⟩ := mem_map.mp listed
    cases same
    exact ⟨step, mem, rfl, link, found, made⟩
  · intro produced
    obtain ⟨step, mem, rfl, link, found, made⟩ := produced
    refine ⟨step, mem, ?_⟩
    rw [found]
    exact mem_map.mpr ⟨⟨uri, digest⟩, made, rfl⟩

theorem checkStep_eq_ok {subject : Text} {step : LayoutStep} {next : Text} :
    checkStep subject produced recorded step link = .ok next ↔
      (recorded = [] ∨ recorded = next) ∧ StepHolds ⟨subject, next⟩ produced step link := by
  unfold checkStep
  constructor
  · intro accepted
    split at accepted
    · cases accepted
    rename_i named
    split at accepted
    · cases accepted
    rename_i got found
    simp only at accepted
    generalize keeps : (if recorded = [] then got else recorded) = held at accepted
    split at accepted
    · cases accepted
    rename_i same
    split at accepted
    · cases accepted
    rename_i materials
    split at accepted
    · cases accepted
    rename_i products
    split at accepted
    · cases accepted
    rename_i matching
    cases accepted
    constructor
    · by_cases given : recorded = []
      · exact .inl given
      · exact .inr ((if_neg given).symm.trans keeps)
    · refine ⟨not_not.mp named, ?_, firstMissing_eq_none.mp (not_not.mp materials),
        firstMissing_eq_none.mp (not_not.mp products), ?_⟩
      · rw [found, not_not.mp same]
      · intro material mem
        rw [Bool.eq_false_iff]
        intro breaks
        exact matching (any_eq_true.mpr ⟨material, mem, breaks⟩)
  · intro shown
    obtain ⟨given, holds⟩ := shown
    have matching : ¬link.materials.any (breaksChain produced step.name) = true := by
      intro breaks
      obtain ⟨material, mem, breaks⟩ := any_eq_true.mp breaks
      rw [holds.matching material mem] at breaks
      cases breaks
    have kept : (if recorded = [] then next else recorded) = next := by
      rcases given with none | same
      · exact if_pos none
      · rw [same, ite_self]
    rw [if_neg (not_not.mpr holds.named), holds.recorded]
    simp only [kept, firstMissing_eq_none.mpr holds.materials,
      firstMissing_eq_none.mpr holds.products, if_neg matching, ne_eq, not_true_eq_false, if_false]

theorem checkSteps_eq_ok (given : subject.digest ≠ []) :
    checkSteps subject.uri links produced subject.digest steps = .ok recorded ↔
      recorded = subject.digest ∧ ∀ step ∈ steps, ∃ link, linkOf links step.name = some link ∧
        StepHolds subject produced step link := by
  induction steps with
  | nil =>
    simp only [checkSteps, Except.ok.injEq, not_mem_nil, false_implies, implies_true, and_true]
    exact eq_comm
  | cons step rest ih =>
    unfold checkSteps
    constructor
    · intro accepted
      split at accepted
      · cases accepted
      rename_i link found
      split at accepted
      · cases accepted
      rename_i carried checked
      obtain ⟨same, holds⟩ := checkStep_eq_ok.mp checked
      cases same.resolve_left given
      obtain ⟨rfl, all⟩ := ih.mp accepted
      refine ⟨rfl, ?_⟩
      intro other mem
      rcases mem_cons.mp mem with rfl | later
      · exact ⟨link, found, holds⟩
      · exact all other later
    · rintro ⟨rfl, all⟩
      obtain ⟨link, found, holds⟩ := all step mem_cons_self
      rw [found]
      simp only [checkStep_eq_ok.mpr ⟨.inr rfl, holds⟩]
      exact ih.mpr ⟨rfl, fun other later => all other (mem_cons_of_mem _ later)⟩

theorem linked_of_checkSteps {uri start : Text}
    (accepted : checkSteps uri links produced start steps = .ok recorded) :
    (steps.all fun step => (linkOf links step.name).isSome) = true := by
  induction steps generalizing start with
  | nil => rfl
  | cons step rest ih =>
    unfold checkSteps at accepted
    split at accepted
    · cases accepted
    rename_i link found
    split at accepted
    · cases accepted
    rw [all_cons, found, ih accepted]
    rfl

theorem checkChain_eq_ok :
    checkChain key steps raws subject = .ok recorded ↔
      ∃ links, raws = links.map (Envelope.signed key) ∧
        (∀ link ∈ links, link.step ∈ steps.map LayoutStep.name) ∧
        (links.map Link.step).Nodup ∧
        checkSteps subject.uri links (producedBy links steps) subject.digest steps =
          .ok recorded := by
  have none : (([] : List Link).map Link.step).Nodup := nodup_nil
  unfold checkChain
  constructor
  · intro accepted
    split at accepted
    · cases accepted
    rename_i byStep collected
    obtain ⟨_, rfl, listed, declared, nodup⟩ := (collectLinks_eq_ok none).mp collected
    subst listed
    split at accepted
    · exact ⟨byStep, rfl, declared, nodup, accepted⟩
    · cases accepted
  · rintro ⟨links, rfl, declared, nodup, accepted⟩
    rw [(collectLinks_eq_ok none).mpr ⟨links, rfl, rfl, declared, nodup⟩]
    exact (if_pos (linked_of_checkSteps accepted)).trans accepted

/-- VerifyChain accepts exactly one verified link per step of the layout, each recording
the run, with digests that agree along the chain. -/
theorem verifyChain_eq_ok {layout : Option SignedLayout} (given : subject.digest ≠ []) :
    verifyChain key now layout raws subject = .ok recorded ↔
      recorded = subject.digest ∧ ∃ signed links, layout = some signed ∧
        raws = links.map (Envelope.signed key) ∧ ChainHolds key now signed links subject := by
  unfold verifyChain
  constructor
  · intro accepted
    split at accepted
    · cases accepted
    rename_i named
    split at accepted
    · cases accepted
    rename_i signed
    split at accepted
    · cases accepted
    rename_i signer
    split at accepted
    · cases accepted
    rename_i unexpired
    obtain ⟨links, rfl, declared, nodup, checked⟩ := checkChain_eq_ok.mp accepted
    obtain ⟨rfl, steps⟩ := (checkSteps_eq_ok given).mp checked
    exact ⟨rfl, signed, links, rfl, rfl,
      ⟨named, not_not.mp signer, not_lt.mp unexpired, declared, nodup, steps⟩⟩
  · rintro ⟨rfl, signed, links, rfl, rfl, holds⟩
    have checked := (checkSteps_eq_ok given).mpr ⟨rfl, holds.steps⟩
    simp only [if_neg holds.named, holds.signed, ne_eq, not_true_eq_false, if_false,
      if_neg (not_lt.mpr holds.unexpired)]
    exact checkChain_eq_ok.mpr ⟨links, rfl, holds.declared, holds.distinct, checked⟩

def outputURI (name : Text) : Text := name ++ ".output".toList

def cacheManifestURI (analyzerName : Text) : Text := analyzerName ++ ".cache_manifest".toList

def synthesisStep : Text := PipelineStage.synthesis.stageName

def graphStep : Text := PipelineStage.graph.stageName

def linkedPipelineStages : List Text := [synthesisStep, graphStep]

def Registry.convert (registry : Registry) : List LayoutStep :=
  registry.analyzers.map fun name =>
    { name
      expectedMaterials := (registry.dependsOn name).map outputURI
      expectedProducts := [outputURI name] }

def Registry.layoutSteps (registry : Registry) (subject : Text) : List LayoutStep :=
  let analyzers := registry.convert.map fun step =>
    { step with expectedMaterials := step.expectedMaterials ++ [cacheManifestURI step.name] }
  let outputs := analyzers.flatMap LayoutStep.expectedProducts
  let steps := analyzers ++
    [⟨synthesisStep, outputs, [outputURI synthesisStep]⟩,
      ⟨graphStep, [outputURI synthesisStep], []⟩]
  steps.map fun step => { step with expectedMaterials := subject :: step.expectedMaterials }

/-- The link createLink signs: every link records the job as a material. -/
def stepLink (subject : Artifact) (step : Text) (materials products : List Artifact) : Link where
  step := step
  materials := artifactsToHashObj (subject :: materials)
  products := artifactsToHashObj products

def createLink (key : Text) (subject : Artifact) (step : Text)
    (materials products : List Artifact) : SignedLink where
  raw := .signed key (stepLink subject step materials products)
  step := step
  products := products

/-- Every step that has a link: the analyzers, then synthesis and graph. -/
def Registry.linkedSteps (registry : Registry) : List Text :=
  registry.analyzers ++ linkedPipelineStages

theorem Registry.layoutSteps_names (registry : Registry) (subject : Text) :
    (registry.layoutSteps subject).map LayoutStep.name = registry.linkedSteps := by
  simp only [Registry.layoutSteps, Registry.convert, Registry.linkedSteps, map_append,
    map_map, linkedPipelineStages, map_cons, map_nil]
  congr 1
  exact map_id _

theorem Registry.linkedSteps_nodup (registry : Registry) : registry.linkedSteps.Nodup := by
  apply registry.distinct.append
  · decide
  · intro name analyzer stage
    rcases mem_pair.mp stage with rfl | rfl
    · exact registry.unreserved .synthesis analyzer
    · exact registry.unreserved .graph analyzer

theorem ChainHolds.steps_perm {layout : SignedLayout}
    (holds : ChainHolds key now layout links subject)
    (nodup : (layout.steps.map LayoutStep.name).Nodup) :
    (links.map Link.step).Perm (layout.steps.map LayoutStep.name) := by
  rw [perm_ext_iff_of_nodup holds.distinct nodup]
  intro name
  constructor
  · intro mem
    obtain ⟨link, present, rfl⟩ := mem_map.mp mem
    exact holds.declared link present
  · intro mem
    obtain ⟨step, present, rfl⟩ := mem_map.mp mem
    obtain ⟨link, found, _⟩ := holds.steps step present
    obtain ⟨listed, same⟩ := linkOf_eq_some found
    exact mem_map.mpr ⟨link, listed, same⟩

end CrossCodex.Pipeline
