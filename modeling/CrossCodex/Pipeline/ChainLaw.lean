/-
VerifyChain (pkg/attestation/generator.go) and the law of its contract (interface.go). The
entries of a map stand in the order in which Verify ranges over it.
-/

import Mathlib.Data.Fintype.Basic
import CrossCodex.Library.Upsert
import CrossCodex.Pipeline.AttestationChain

namespace CrossCodex.Pipeline

open ResultCache
open Library (Table)
open List

abbrev HashObj := Table Text Text

/-- The digest hashObjToArtifacts keeps: SHA-256, or else the first one it meets. -/
def HashObj.digest (hashes : HashObj) : Text :=
  let digest := (hashes.lookup "sha256".toList).getD []
  if digest = [] then (hashes.entries.head?.map Sigma.snd).getD [] else digest

def hashObjToArtifacts (hashObjs : Table Text HashObj) : List Artifact :=
  hashObjs.entries.map fun entry => ⟨entry.1, HashObj.digest entry.2⟩

/-- The map CreateLink puts into a link. -/
def hashObjs (artifacts : List Artifact) : Table Text HashObj :=
  Library.upsertAll ∅
    (artifacts.map fun artifact => (artifact.uri, AList.singleton "sha256".toList artifact.digest))

structure InTotoLink where
  name : Text
  materials : Table Text HashObj
  products : Table Text HashObj

def InTotoLink.verified (link : InTotoLink) : Link where
  step := link.name
  materials := hashObjToArtifacts link.materials
  products := hashObjToArtifacts link.products

/-- Rules are `MATCH name WITH …`; a shorter one names nothing. -/
structure InTotoStep where
  name : Text
  expectedMaterials : List (List Text)
  expectedProducts : List (List Text)

def inTotoStepsToSteps (steps : List InTotoStep) : List LayoutStep :=
  steps.map fun step =>
    ⟨step.name, step.expectedMaterials.filterMap (·[1]?), step.expectedProducts.filterMap (·[1]?)⟩

/-- The raw bytes of a link: a payload under a signature, or bytes that do not verify. -/
inductive RawLink where
  | signed (key : Text) (payload : InTotoLink)
  | broken (failure : VerifyFailure)

/-- An entry of the links VerifyChain is called with; `none` is nil. -/
def givenEnvelope : Option RawLink → Envelope
  | none => .broken .verificationFailed
  | some (.signed key payload) => .signed key payload.verified
  | some (.broken failure) => .broken failure

/-- The raw bytes of a layout. The expiry of a signed one need not parse. -/
inductive RawLayout where
  | signed (key : Text) (steps : List InTotoStep) (expires : Option Nat)
  | broken

def verifyLayout (key : Text) (now : Nat) : Option RawLayout → Except ChainFailure (List LayoutStep)
  | none => .error .noLayout
  | some .broken => .error .layoutUnverified
  | some (.signed signer steps expires) =>
    if signer ≠ key then .error .layoutUnverified
    else
      match expires with
      | none => .error .layoutUnverified
      | some expires =>
        if expires < now then .error .expired else .ok (inTotoStepsToSteps steps)

/-- VerifyChain, down to the raw envelopes. -/
def verifyRawChain (key : Text) (now : Nat) (layout : Option RawLayout)
    (links : List (Option RawLink)) (subject : Artifact) : Except ChainFailure Text :=
  if subject.uri = [] then .error .noSubject
  else
    match verifyLayout key now layout with
    | .error failure => .error failure
    | .ok steps => checkChain key steps (links.map givenEnvelope) subject

theorem hashObjToArtifacts_uris (hashObjs : Table Text HashObj) :
    (hashObjToArtifacts hashObjs).map Artifact.uri = hashObjs.keys := by
  unfold hashObjToArtifacts AList.keys List.keys
  rw [map_map]
  rfl

theorem hashObjToArtifacts_nodup (hashObjs : Table Text HashObj) :
    ((hashObjToArtifacts hashObjs).map Artifact.uri).Nodup := by
  rw [hashObjToArtifacts_uris]
  exact hashObjs.keys_nodup

theorem artifactDigest_eq_some {artifacts : List Artifact}
    (nodup : (artifacts.map Artifact.uri).Nodup) {uri digest : Text} :
    artifactDigest artifacts uri = some digest ↔ (⟨uri, digest⟩ : Artifact) ∈ artifacts := by
  unfold artifactDigest
  rw [Option.map_eq_some_iff]
  constructor
  · intro found
    obtain ⟨artifact, search, rfl⟩ := found
    obtain ⟨mem, rfl⟩ := (Library.find?_key_iff Artifact.uri nodup).mp search
    exact mem
  · intro mem
    exact ⟨_, (Library.find?_key_iff Artifact.uri nodup).mpr ⟨mem, rfl⟩, rfl⟩

def verifiedLinks (key : Text) (links : List (Option RawLink)) : List Link :=
  (links.map givenEnvelope).filterMap fun raw => (raw.verify key).toOption

/-- What the steps of a layout and the verified links must show, but for the digests. A step
is known by its name: two entries of a layout with one name are held to one link. -/
structure ChainFrame (steps : List LayoutStep) (links : List Link) (subject : Artifact) :
    Prop where
  linked : ∀ step ∈ steps, ∃ link ∈ links, link.step = step.name
  declared : ∀ link ∈ links, ∃ step ∈ steps, step.name = link.step
  single : (links.map Link.step).Nodup
  expects : ∀ step ∈ steps, subject.uri ∈ step.expectedMaterials
  materials : ∀ step ∈ steps, ∀ link ∈ links, link.step = step.name →
    ∀ uri ∈ step.expectedMaterials, uri ∈ link.materials.map Artifact.uri
  products : ∀ step ∈ steps, ∀ link ∈ links, link.step = step.name →
    ∀ uri ∈ step.expectedProducts, uri ∈ link.products.map Artifact.uri

/-- Every link records the subject with one digest, the given one if there is one. -/
def OneDigest (links : List Link) (subject : Artifact) : Prop :=
  ∃ digest, (subject.digest = [] ∨ digest = subject.digest) ∧
    ∀ link ∈ links, (⟨subject.uri, digest⟩ : Artifact) ∈ link.materials

def Agree (links : List Link) : Prop :=
  ∀ user ∈ links, ∀ maker ∈ links, user.step ≠ maker.step →
    ∀ material ∈ user.materials, ∀ product ∈ maker.products,
      product.uri = material.uri → material.digest = product.digest

def Lawful (key : Text) (now : Nat) (layout : Option RawLayout) (links : List (Option RawLink))
    (subject : Artifact) : Prop :=
  ∃ steps, verifyLayout key now layout = .ok steps ∧
    (∀ raw ∈ links, ∃ link, (givenEnvelope raw).verify key = .ok link) ∧
      ChainFrame steps (verifiedLinks key links) subject ∧
      OneDigest (verifiedLinks key links) subject ∧ Agree (verifiedLinks key links)

def recordedDigests (steps : List LayoutStep) (links : List Link) (uri : Text) : List Text :=
  steps.filterMap fun step =>
    (linkOf links step.name).bind fun link => artifactDigest link.materials uri

/-- No digest is given; the first links record an empty one and the others another. -/
def Mixed (steps : List LayoutStep) (links : List Link) (subject : Artifact) : Prop :=
  subject.digest = [] ∧ ∃ empty rest digest, digest ≠ [] ∧
    recordedDigests steps links subject.uri =
      replicate (empty + 1) [] ++ replicate (rest + 1) digest

/-- The first step of the layout that produced an artifact, with the digest. -/
def firstProduct (steps : List LayoutStep) (links : List Link) (uri : Text) :
    Option (Text × Text) :=
  steps.findSome? fun step => (linkOf links step.name).bind fun link =>
    (artifactDigest link.products uri).map (step.name, ·)

/-- Some steps disagree, and every material that does has the digest of the first product of
its URI, or is itself used by the first step that produced it. -/
def Shadowed (steps : List LayoutStep) (links : List Link) : Prop :=
  ¬ Agree links ∧ ∀ user ∈ links, ∀ material ∈ user.materials,
    ∀ made ∈ firstProduct steps links material.uri,
      made.1 = user.step ∨ made.2 = material.digest

/-- Where nothing else is wrong with a chain that has a subject, its digests are not mixed and
no disagreement is shadowed; a chain without a subject has something wrong with it. -/
def Exposed (key : Text) (now : Nat) (layout : Option RawLayout) (links : List (Option RawLink))
    (subject : Artifact) : Prop :=
  ∀ steps, verifyLayout key now layout = .ok steps →
    (∀ raw ∈ links, ∃ link, (givenEnvelope raw).verify key = .ok link) →
    ChainFrame steps (verifiedLinks key links) subject →
    (OneDigest (verifiedLinks key links) subject ∨
      Mixed steps (verifiedLinks key links) subject) →
    (Agree (verifiedLinks key links) ∨ Shadowed steps (verifiedLinks key links)) →
      (subject.uri = [] → Mixed steps (verifiedLinks key links) subject ∨
        Shadowed steps (verifiedLinks key links)) ∧
      (subject.uri ≠ [] → ¬ Mixed steps (verifiedLinks key links) subject ∧
        ¬ Shadowed steps (verifiedLinks key links))

variable {key : Text}

theorem map_givenEnvelope_iff {links : List (Option RawLink)} {verified : List Link} :
    links.map givenEnvelope = verified.map (Envelope.signed key) ↔
      (∀ raw ∈ links, ∃ link, (givenEnvelope raw).verify key = .ok link) ∧
        verifiedLinks key links = verified := by
  have reads : ∀ {verified}, links.map givenEnvelope = verified.map (Envelope.signed key) →
      verifiedLinks key links = verified := by
    intro verified same
    have kept : (fun raw : Envelope => (raw.verify key).toOption) ∘ Envelope.signed key = some := by
      funext link
      rw [Function.comp_apply, Envelope.verify_eq_ok.mpr rfl]
      rfl
    rw [verifiedLinks, same, filterMap_map, kept, filterMap_some]
  constructor
  · intro same
    refine ⟨fun raw mem => ?_, reads same⟩
    obtain ⟨link, _, signed⟩ := mem_map.mp (same ▸ mem_map_of_mem mem)
    exact ⟨link, Envelope.verify_eq_ok.mpr signed.symm⟩
  · rintro ⟨all, rfl⟩
    have signed : links.map givenEnvelope ∈ Set.range (List.map (Envelope.signed key)) := by
      rw [Set.range_list_map]
      intro envelope mem
      obtain ⟨raw, given, rfl⟩ := mem_map.mp mem
      obtain ⟨link, verified⟩ := all raw given
      exact ⟨link, (Envelope.verify_eq_ok.mp verified).symm⟩
    obtain ⟨verified, same⟩ := signed
    rw [reads same.symm, same]

variable {link : Link}

theorem verifiedLinks_nodup {links : List (Option RawLink)} (mem : link ∈ verifiedLinks key links) :
    (link.materials.map Artifact.uri).Nodup := by
  obtain ⟨_, given, reads⟩ := mem_filterMap.mp mem
  obtain ⟨raw, _, rfl⟩ := mem_map.mp given
  cases raw with
  | none => cases reads
  | some raw =>
    cases raw with
    | broken failure => cases reads
    | signed signer payload =>
      simp only [givenEnvelope, Envelope.verify] at reads
      split at reads
      · cases reads
        exact hashObjToArtifacts_nodup _
      · cases reads

theorem linkOf_eq_some_iff {links : List Link} (single : (links.map Link.step).Nodup)
    {name : Text} : linkOf links name = some link ↔ link ∈ links ∧ link.step = name :=
  Library.find?_key_iff Link.step single

variable {steps : List LayoutStep} {links : List Link} {subject : Artifact}
  {produced : List (Text × Text × Text)}

theorem lookup_producedBy (steps : List LayoutStep) (links : List Link) (uri : Text) :
    (producedBy links steps).lookup uri = firstProduct steps links uri := by
  have products : ∀ (name : Text) (artifacts : List Artifact),
      (artifacts.map fun product => (product.uri, name, product.digest)).lookup uri =
        (artifactDigest artifacts uri).map (name, ·) := by
    intro name artifacts
    induction artifacts with
    | nil => rfl
    | cons artifact rest ih =>
      rw [map_cons, artifactDigest, find?_cons]
      by_cases same : artifact.uri = uri
      · simp [same]
      · have other : (uri == artifact.uri) = false := by simpa using Ne.symm same
        simpa [same, lookup_cons, other, artifactDigest] using ih
  unfold producedBy firstProduct
  induction steps with
  | nil => rfl
  | cons step rest ih =>
    rw [flatMap_cons, lookup_append, ih, findSome?_cons]
    cases linkOf links step.name with
    | none => rfl
    | some link =>
      rw [products, Option.bind_some]
      cases artifactDigest link.products uri <;> rfl

theorem breaksChain_eq_false_iff {user : Text} {material : Artifact} :
    breaksChain (producedBy links steps) user material = false ↔
      ∀ made ∈ firstProduct steps links material.uri,
        made.1 = user ∨ made.2 = material.digest := by
  rw [breaksChain, lookup_producedBy]
  cases firstProduct steps links material.uri with
  | none => simp
  | some made => simp [or_iff_not_imp_left]

/-- An empty digest counts as not yet given: each recorded digest is the one before it, or
that one is empty. -/
def Settles (earlier later : Text) : Prop := earlier = [] ∨ earlier = later

theorem checkSteps_eq_ok_iff {uri start : Text} :
    (∃ recorded, checkSteps uri links produced start steps = .ok recorded) ↔
      (∀ step ∈ steps, ∃ link, linkOf links step.name = some link ∧
        ∃ digest, StepHolds ⟨uri, digest⟩ produced step link) ∧
      (start :: recordedDigests steps links uri).IsChain Settles := by
  induction steps generalizing start with
  | nil => simp [checkSteps, recordedDigests]
  | cons step rest ih =>
    rw [forall_mem_cons]
    unfold checkSteps
    cases found : linkOf links step.name with
    | none => simp
    | some link =>
      cases checked : checkStep uri produced start step link with
      | ok next =>
        obtain ⟨settles, holds⟩ := checkStep_eq_ok.mp checked
        have digests : recordedDigests (step :: rest) links uri =
            next :: recordedDigests rest links uri := by
          rw [recordedDigests, filterMap_cons, found, Option.bind_some, holds.recorded]
          rfl
        simp only [checked]
        rw [digests, isChain_cons_cons, ih]
        constructor
        · rintro ⟨each, chain⟩
          exact ⟨⟨⟨link, rfl, next, holds⟩, each⟩, settles, chain⟩
        · rintro ⟨⟨_, each⟩, _, chain⟩
          exact ⟨each, chain⟩
      | error failure =>
        simp only [checked]
        constructor
        · rintro ⟨_, failed⟩
          cases failed
        · rintro ⟨⟨⟨_, same, next, holds⟩, _⟩, chain⟩
          cases same
          rw [recordedDigests, filterMap_cons, found, Option.bind_some, holds.recorded,
            isChain_cons_cons] at chain
          rw [checkStep_eq_ok.mpr ⟨chain.1, holds⟩] at checked
          cases checked

theorem settles_iff {start : Text} {digests : List Text} :
    (start :: digests).IsChain Settles ↔
      (∃ digest, (start = [] ∨ digest = start) ∧ ∀ recorded ∈ digests, recorded = digest) ∨
      start = [] ∧ ∃ empty rest digest, digest ≠ [] ∧
        digests = replicate (empty + 1) [] ++ replicate (rest + 1) digest := by
  induction digests generalizing start with
  | nil => simp
  | cons first digests ih =>
    rw [isChain_cons_cons, ih]
    constructor
    · rintro ⟨settles, ⟨digest, given, all⟩ | ⟨rfl, empty, rest, digest, some, rfl⟩⟩
      · by_cases constant : digest = first ∨ digests = []
        · refine .inl ⟨first, settles.imp_right Eq.symm, forall_mem_cons.mpr ⟨rfl, ?_⟩⟩
          intro recorded mem
          rcases constant with rfl | rfl
          · exact all recorded mem
          · cases mem
        · obtain ⟨other, some⟩ := not_or.mp constant
          obtain rfl := given.resolve_right other
          refine .inr ⟨settles.elim id id, 0, digests.length - 1, digest, other, ?_⟩
          have length : digests.length - 1 + 1 = digests.length :=
            Nat.sub_add_cancel (length_pos_iff.mpr some)
          rw [length, ← eq_replicate_of_mem all]
          rfl
      · exact .inr ⟨settles.elim id id, empty + 1, rest, digest, some, rfl⟩
    · rintro (⟨digest, given, all⟩ | ⟨rfl, empty, rest, digest, some, same⟩)
      · obtain ⟨rfl, later⟩ := forall_mem_cons.mp all
        exact ⟨given.imp_right Eq.symm, .inl ⟨first, .inr rfl, later⟩⟩
      · rw [replicate_succ, cons_append, List.cons.injEq] at same
        obtain ⟨rfl, rfl⟩ := same
        refine ⟨.inl rfl, ?_⟩
        cases empty with
        | zero => exact .inl ⟨digest, .inl rfl, fun _ mem => eq_of_mem_replicate mem⟩
        | succ empty => exact .inr ⟨rfl, empty, rest, digest, some, rfl⟩

section Maps

variable (maps : ∀ link ∈ links, (link.materials.map Artifact.uri).Nodup)
include maps

theorem mem_recordedDigests (frame : ChainFrame steps links subject) {digest : Text} :
    digest ∈ recordedDigests steps links subject.uri ↔
      ∃ link ∈ links, (⟨subject.uri, digest⟩ : Artifact) ∈ link.materials := by
  rw [recordedDigests, mem_filterMap]
  constructor
  · rintro ⟨step, _, recorded⟩
    obtain ⟨link, found, read⟩ := Option.bind_eq_some_iff.mp recorded
    exact ⟨link, (linkOf_eq_some found).1, mem_of_artifactDigest read⟩
  · rintro ⟨link, mem, recorded⟩
    obtain ⟨step, wanted, named⟩ := frame.declared link mem
    refine ⟨step, wanted, ?_⟩
    rw [(linkOf_eq_some_iff frame.single).mpr ⟨mem, named.symm⟩, Option.bind_some]
    exact (artifactDigest_eq_some (maps link mem)).mpr recorded

theorem oneDigest_iff (frame : ChainFrame steps links subject) :
    OneDigest links subject ↔ ∃ digest, (subject.digest = [] ∨ digest = subject.digest) ∧
      ∀ recorded ∈ recordedDigests steps links subject.uri, recorded = digest := by
  refine exists_congr fun digest => and_congr_right fun _ => ?_
  constructor
  · intro records recorded mem
    obtain ⟨link, inLinks, read⟩ := (mem_recordedDigests maps frame).mp mem
    have own := (artifactDigest_eq_some (maps link inLinks)).mpr read
    have same := (artifactDigest_eq_some (maps link inLinks)).mpr (records link inLinks)
    exact Option.some.inj (own.symm.trans same)
  · intro same link mem
    obtain ⟨step, wanted, named⟩ := frame.declared link mem
    have present := frame.materials step wanted link mem named.symm _ (frame.expects step wanted)
    obtain ⟨artifact, inside, uri⟩ := mem_map.mp present
    have read : (⟨subject.uri, artifact.digest⟩ : Artifact) ∈ link.materials := by
      rw [← uri]
      exact inside
    rwa [← same artifact.digest ((mem_recordedDigests maps frame).mpr ⟨link, mem, read⟩)]

theorem settled_iff (frame : ChainFrame steps links subject) :
    (subject.digest :: recordedDigests steps links subject.uri).IsChain Settles ↔
      OneDigest links subject ∨ Mixed steps links subject := by
  rw [settles_iff, oneDigest_iff maps frame]
  rfl

theorem stepsHold_iff (declared : ∀ link ∈ links, link.step ∈ steps.map LayoutStep.name)
    (single : (links.map Link.step).Nodup) :
    (∀ step ∈ steps, ∃ link, linkOf links step.name = some link ∧
      ∃ digest, StepHolds ⟨subject.uri, digest⟩ (producedBy links steps) step link) ↔
    ChainFrame steps links subject ∧ ∀ user ∈ links, ∀ material ∈ user.materials,
      ∀ made ∈ firstProduct steps links material.uri,
        made.1 = user.step ∨ made.2 = material.digest := by
  constructor
  · intro holds
    have shown : ∀ link ∈ links, ∀ step ∈ steps, link.step = step.name →
        ∃ digest, StepHolds ⟨subject.uri, digest⟩ (producedBy links steps) step link := by
      intro link mem step wanted named
      obtain ⟨other, found, held⟩ := holds step wanted
      have same := (linkOf_eq_some_iff single).mpr ⟨mem, named⟩
      rw [found, Option.some.injEq] at same
      exact same ▸ held
    refine ⟨⟨?_, fun link mem => mem_map.mp (declared link mem), single, ?_, ?_, ?_⟩, ?_⟩
    · intro step wanted
      obtain ⟨link, found, _⟩ := holds step wanted
      exact ⟨link, linkOf_eq_some found⟩
    · intro step wanted
      obtain ⟨_, _, _, held⟩ := holds step wanted
      exact held.named
    · intro step wanted link mem named
      exact (shown link mem step wanted named).choose_spec.materials
    · intro step wanted link mem named
      exact (shown link mem step wanted named).choose_spec.products
    · intro user used material takes
      obtain ⟨step, wanted, named⟩ := mem_map.mp (declared user used)
      obtain ⟨_, held⟩ := shown user used step wanted named.symm
      rw [← named]
      exact breaksChain_eq_false_iff.mp (held.matching material takes)
  · rintro ⟨frame, first⟩ step wanted
    obtain ⟨link, mem, named⟩ := frame.linked step wanted
    have materials := frame.materials step wanted link mem named
    obtain ⟨artifact, inside, uri⟩ := mem_map.mp (materials _ (frame.expects step wanted))
    have recorded : artifactDigest link.materials subject.uri = some artifact.digest := by
      rw [← uri]
      exact (artifactDigest_eq_some (maps link mem)).mpr inside
    refine ⟨link, (linkOf_eq_some_iff single).mpr ⟨mem, named⟩, artifact.digest,
      frame.expects step wanted, recorded, materials,
      frame.products step wanted link mem named, ?_⟩
    intro material takes
    rw [breaksChain_eq_false_iff, ← named]
    exact first link mem material takes

end Maps

theorem agree_or_shadowed : (Agree links ∨ Shadowed steps links) ↔
    ∀ user ∈ links, ∀ material ∈ user.materials,
      ∀ made ∈ firstProduct steps links material.uri,
        made.1 = user.step ∨ made.2 = material.digest := by
  constructor
  · rintro (agree | ⟨_, first⟩)
    · rintro user used material takes ⟨name, digest⟩ made
      obtain ⟨step, _, found⟩ := exists_of_findSome?_eq_some made
      obtain ⟨maker, linked, read⟩ := Option.bind_eq_some_iff.mp found
      obtain ⟨_, gives, same⟩ := Option.map_eq_some_iff.mp read
      cases same
      obtain ⟨inLinks, named⟩ := linkOf_eq_some linked
      refine or_iff_not_imp_left.mpr fun other => Eq.symm ?_
      refine agree user used maker inLinks ?_ material takes _ (mem_of_artifactDigest gives) rfl
      rw [named]
      exact Ne.symm other
    · exact first
  · intro first
    exact (Classical.em (Agree links)).imp_right fun disagree => ⟨disagree, first⟩

theorem verifyRawChain_eq_ok (key : Text) (now : Nat) (layout : Option RawLayout)
    (links : List (Option RawLink)) (subject : Artifact) :
    (∃ recorded, verifyRawChain key now layout links subject = .ok recorded) ↔
      subject.uri ≠ [] ∧ ∃ steps, verifyLayout key now layout = .ok steps ∧
        (∀ raw ∈ links, ∃ link, (givenEnvelope raw).verify key = .ok link) ∧
        ChainFrame steps (verifiedLinks key links) subject ∧
        (OneDigest (verifiedLinks key links) subject ∨
          Mixed steps (verifiedLinks key links) subject) ∧
        (Agree (verifiedLinks key links) ∨ Shadowed steps (verifiedLinks key links)) := by
  have maps : ∀ link ∈ verifiedLinks key links, (link.materials.map Artifact.uri).Nodup :=
    fun _ mem => verifiedLinks_nodup mem
  unfold verifyRawChain
  by_cases absent : subject.uri = []
  · simp [absent]
  rw [if_neg absent, and_iff_right absent]
  cases verified : verifyLayout key now layout with
  | error failure => simp
  | ok steps =>
    simp only [Except.ok.injEq, exists_eq_left']
    constructor
    · rintro ⟨recorded, accepted⟩
      obtain ⟨_, given, declared, single, checked⟩ := checkChain_eq_ok.mp accepted
      obtain ⟨all, rfl⟩ := map_givenEnvelope_iff.mp given
      obtain ⟨shown, chain⟩ := checkSteps_eq_ok_iff.mp ⟨recorded, checked⟩
      obtain ⟨frame, first⟩ := (stepsHold_iff maps declared single).mp shown
      exact ⟨all, frame, (settled_iff maps frame).mp chain, agree_or_shadowed.mpr first⟩
    · rintro ⟨all, frame, digests, producers⟩
      have declared : ∀ link ∈ verifiedLinks key links,
          link.step ∈ steps.map LayoutStep.name :=
        fun link mem => mem_map.mpr (frame.declared link mem)
      have shown := (stepsHold_iff maps declared frame.single).mpr
        ⟨frame, agree_or_shadowed.mp producers⟩
      obtain ⟨recorded, checked⟩ :=
        checkSteps_eq_ok_iff.mpr ⟨shown, (settled_iff maps frame).mpr digests⟩
      exact ⟨recorded, checkChain_eq_ok.mpr
        ⟨_, map_givenEnvelope_iff.mpr ⟨all, rfl⟩, declared, frame.single, checked⟩⟩

theorem Mixed.not_oneDigest (maps : ∀ link ∈ links, (link.materials.map Artifact.uri).Nodup)
    (frame : ChainFrame steps links subject) (mixed : Mixed steps links subject) :
    ¬ OneDigest links subject := by
  obtain ⟨_, empty, rest, digest, some, same⟩ := mixed
  rw [oneDigest_iff maps frame, same]
  rintro ⟨other, _, all⟩
  have first : [] = other := all [] (by simp)
  exact some ((all digest (by simp)).trans first.symm)

/-- VerifyChain accepts what its law describes and nothing else, exactly where the chain is
exposed. -/
theorem verifyRawChain_accepts_iff (key : Text) (now : Nat) (layout : Option RawLayout)
    (links : List (Option RawLink)) (subject : Artifact) :
    ((∃ recorded, verifyRawChain key now layout links subject = .ok recorded) ↔
      Lawful key now layout links subject) ↔ Exposed key now layout links subject := by
  have maps : ∀ link ∈ verifiedLinks key links, (link.materials.map Artifact.uri).Nodup :=
    fun _ mem => verifiedLinks_nodup mem
  have accepts := verifyRawChain_eq_ok key now layout links subject
  constructor
  · intro same steps verified all frame digests producers
    constructor
    · intro absent
      by_contra clean
      obtain ⟨unmixed, unshadowed⟩ := not_or.mp clean
      have accepted := same.mpr ⟨steps, verified, all, frame, digests.resolve_right unmixed,
        producers.resolve_right unshadowed⟩
      exact (accepts.mp accepted).1 absent
    · intro named
      obtain ⟨_, _, _, _, one, agree⟩ :=
        same.mp (accepts.mpr ⟨named, steps, verified, all, frame, digests, producers⟩)
      exact ⟨fun mixed => mixed.not_oneDigest maps frame one, fun shadowed => shadowed.1 agree⟩
  · intro exposed
    rw [accepts]
    constructor
    · rintro ⟨named, steps, verified, all, frame, digests, producers⟩
      obtain ⟨unmixed, unshadowed⟩ := (exposed steps verified all frame digests producers).2 named
      exact ⟨steps, verified, all, frame, digests.resolve_right unmixed,
        producers.resolve_right unshadowed⟩
    · rintro ⟨steps, verified, all, frame, one, agree⟩
      have clean := (exposed steps verified all frame (.inl one) (.inl agree)).1
      refine ⟨fun absent => ?_, steps, verified, all, frame, .inl one, .inl agree⟩
      rcases clean absent with mixed | shadowed
      · exact mixed.not_oneDigest maps frame one
      · exact shadowed.1 agree

def runSubject : Artifact := ⟨"job:t/j".toList, "c0".toList⟩

def matchRule (name : Text) : List Text := ["MATCH".toList, name, "WITH".toList]

def extractStep : InTotoStep :=
  ⟨"extract".toList, [matchRule runSubject.uri], [matchRule "extract.output".toList]⟩

def reviewStep : InTotoStep :=
  ⟨"review".toList, [matchRule runSubject.uri, matchRule "extract.output".toList], []⟩

def runLayout (steps : List InTotoStep) : RawLayout := .signed "run".toList steps (some 10)

def runLink (step : Text) (materials products : List Artifact) : Option RawLink :=
  some (.signed "run".toList ⟨step, hashObjs materials, hashObjs products⟩)

def extracted : Artifact := ⟨"extract.output".toList, "a1".toList⟩

def runLinks : List (Option RawLink) :=
  [runLink "extract".toList [runSubject] [extracted],
    runLink "review".toList [runSubject, extracted] []]

theorem verifyRawChain_accepts_two_steps :
    verifyRawChain "run".toList 5 (some (runLayout [extractStep, reviewStep])) runLinks
        ⟨runSubject.uri, []⟩ = .ok runSubject.digest ∧
      Lawful "run".toList 5 (some (runLayout [extractStep, reviewStep])) runLinks
        ⟨runSubject.uri, []⟩ := by
  have accepted : verifyRawChain "run".toList 5 (some (runLayout [extractStep, reviewStep]))
      runLinks ⟨runSubject.uri, []⟩ = .ok runSubject.digest := by decide +kernel
  refine ⟨accepted, ((verifyRawChain_accepts_iff _ _ _ _ _).mpr ?_).mp ⟨_, accepted⟩⟩
  intro steps verified _all _frame _digests _producers
  cases verified
  refine ⟨fun absent => absurd absent (by decide), fun _ => ⟨?_, ?_⟩⟩
  · rintro ⟨_, empty, rest, digest, _, same⟩
    have recorded : recordedDigests (inTotoStepsToSteps [extractStep, reviewStep])
        (verifiedLinks "run".toList runLinks) runSubject.uri =
          [runSubject.digest, runSubject.digest] := by decide +kernel
    rw [recorded, replicate_succ, cons_append] at same
    cases same
  · exact fun shadowed => shadowed.1 (by unfold Agree; decide +kernel)

/-- An empty digest counts as none: the links do not agree, and the chain is accepted. -/
example :
    verifyRawChain "run".toList 5 (some (runLayout [extractStep, reviewStep]))
      [runLink "extract".toList [⟨runSubject.uri, []⟩] [extracted],
        runLink "review".toList [runSubject, extracted] []] ⟨runSubject.uri, []⟩ =
      .ok runSubject.digest := by
  decide +kernel

def rewriteStep : InTotoStep :=
  ⟨"rewrite".toList, [matchRule runSubject.uri], [matchRule "extract.output".toList]⟩

def rewrittenLinks : List (Option RawLink) :=
  runLinks ++
    [runLink "rewrite".toList [runSubject] [⟨"extract.output".toList, "b2".toList⟩]]

/-- The review used what the first step produced, not what the second did, and the chain is
accepted. -/
theorem verifyRawChain_accepts_rewritten :
    verifyRawChain "run".toList 5 (some (runLayout [extractStep, rewriteStep, reviewStep]))
        rewrittenLinks runSubject = .ok runSubject.digest ∧
      ¬Lawful "run".toList 5 (some (runLayout [extractStep, rewriteStep, reviewStep]))
        rewrittenLinks runSubject := by
  refine ⟨by decide +kernel, ?_⟩
  intro lawful
  obtain ⟨_, _, _, _, _, agree⟩ := lawful
  have equal := agree
    ⟨"review".toList, hashObjToArtifacts (hashObjs [runSubject, extracted]),
      hashObjToArtifacts (hashObjs [])⟩ (by decide +kernel)
    ⟨"rewrite".toList, hashObjToArtifacts (hashObjs [runSubject]),
      hashObjToArtifacts (hashObjs [⟨"extract.output".toList, "b2".toList⟩])⟩ (by decide +kernel)
    (by decide) extracted (by decide +kernel) ⟨"extract.output".toList, "b2".toList⟩
    (by decide +kernel) rfl
  exact absurd equal (by decide)

end CrossCodex.Pipeline
