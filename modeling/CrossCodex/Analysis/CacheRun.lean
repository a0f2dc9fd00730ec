/-
Stages over one result cache, in any order. One event is one transaction, one object access
or a replacement of the tables, or of the objects by ones without a new signature. No stage
reads the evidence.
-/

import CrossCodex.Library.Run
import CrossCodex.Analysis.CacheLookup

namespace CrossCodex.Analysis

open Library ResultCache Pipeline List

inductive Deed where
  | put (tenantID : Text) (entry : Entry)
  | sealed (tenantID : Text) (ref : AttemptRef)
  deriving DecidableEq

/-- What SHA-256 is computed on: a result's bytes or a manifest's canonical JSON. -/
inductive HashInput where
  | result (bytes : Bytes)
  | manifest (recorded : Manifest)
  deriving DecidableEq

def HashInput.bytes : HashInput → Bytes
  | .result bytes => bytes
  | .manifest recorded => recorded.encoded

/-- Everything that was done, signed and hashed so far, oldest first. -/
structure Evidence where
  history : List Deed
  signatures : List (Text × Link)
  hashed : List HashInput
  deriving DecidableEq

structure Evidence.Extends (earlier later : Evidence) : Prop where
  history : earlier.history <+: later.history
  signatures : earlier.signatures ⊆ later.signatures
  hashed : earlier.hashed ⊆ later.hashed

namespace Evidence

variable (evidence : Evidence)

theorem Extends.refl : evidence.Extends evidence :=
  ⟨prefix_rfl, List.Subset.refl _, List.Subset.refl _⟩

theorem Extends.trans {earlier middle later : Evidence} (first : earlier.Extends middle)
    (second : middle.Extends later) : earlier.Extends later :=
  ⟨first.history.trans second.history, List.Subset.trans first.signatures second.signatures,
    List.Subset.trans first.hashed second.hashed⟩

def hashes (inputs : List HashInput) : Evidence :=
  { evidence with hashed := evidence.hashed ++ inputs }

def does (deed : Deed) : Evidence :=
  { evidence with history := evidence.history ++ [deed] }

def signs (key : Text) (link : Link) : Evidence :=
  { evidence with signatures := evidence.signatures ++ [(key, link)] }

theorem extends_hashes (inputs : List HashInput) : evidence.Extends (evidence.hashes inputs) :=
  ⟨prefix_rfl, List.Subset.refl _, subset_append_left _ _⟩

theorem extends_does (deed : Deed) : evidence.Extends (evidence.does deed) :=
  ⟨prefix_append _ _, List.Subset.refl _, List.Subset.refl _⟩

theorem extends_signs (key : Text) (link : Link) : evidence.Extends (evidence.signs key link) :=
  ⟨prefix_rfl, subset_append_left _ _, List.Subset.refl _⟩

end Evidence

structure Stage (Result : Type) where
  cache : StageCache
  lookup : LookupPhase Result
  unsent : Option Envelope

structure CacheWorld (Result : Type) where
  tables : Tables
  objects : Objects
  stages : List (Stage Result)
  evidence : Evidence

/-- How a transaction ends. `refused` wrote nothing and says so; a failure may have
committed all the same. -/
inductive Fate where
  | commits
  | refused
  | fails (committed : Bool)
  deriving DecidableEq, Repr

inductive CacheEvent (Result : Type) where
  | start (cache : StageCache)
  | beginLookup (stage : Nat)
  | lookup (stage : Nat) (fails : Bool)
  | put (stage : Nat) (answer : StageCache.Answer Result) (fate : Fate)
  | recordStage (stage : Nat) (tasks dispatched : Nat) (fate : Fate)
  | checkpoint (stage : Nat) (commits : Bool)
  | storeCheckpoint (stage : Nat) (stored : Bool)
  /-- A key signs a link of another step, such as a stage's attestation link. -/
  | attest (key : Text) (link : Link)
  | rewriteTables (tables : Tables)
  | rewriteObjects (objects : Objects)

def Issued (evidence : Evidence) : Envelope → Prop
  | .signed key link => (key, link) ∈ evidence.signatures
  | .broken _ => True

instance Issued.decidable (evidence : Evidence) : ∀ envelope, Decidable (Issued evidence envelope)
  | .signed key link => inferInstanceAs (Decidable ((key, link) ∈ evidence.signatures))
  | .broken _ => isTrue trivial

def Unforged (evidence : Evidence) (objects : Objects) : Prop :=
  ∀ object ∈ objects, Issued evidence object.2

instance Unforged.decidable (evidence : Evidence) (objects : Objects) :
    Decidable (Unforged evidence objects) :=
  inferInstanceAs (Decidable (∀ object ∈ objects, Issued evidence object.2))

variable {Result : Type} (services : CacheServices Result)

def LookupPhase.running : LookupPhase Result → Bool
  | .idle => false
  | .served _ => false
  | .failed _ => false
  | _ => true

def snapshotInputs (snapshot : Snapshot) : List HashInput :=
  snapshot.manifests.map (fun entry => .manifest entry.2) ++
    snapshot.hits.map fun entry => .result entry.2.result

def StageCache.lookupInputs (sc : StageCache) (tables : Tables) : LookupPhase Result → List HashInput
  | .snapshot locals here =>
    match sc.readSnapshot tables locals here with
    | .ok snapshot => snapshotInputs snapshot
    | .error _ => []
  | _ => []

def StageCache.checkpointInputs (sc : StageCache) (tables : Tables) : List HashInput :=
  .manifest sc.expected ::
    match tables.readManifest sc.tenantID sc.ref with
    | .ok stored => [.manifest stored]
    | .error _ => []

namespace Stage

def enters (stage : Stage Result) (phase : LookupPhase Result) : Stage Result :=
  { stage with
    lookup := phase
    cache := { stage.cache with
      hits := stage.cache.hits ++ phase.results.map (StageCache.hitEntry services) } }

end Stage

namespace CacheWorld

def empty : CacheWorld Result := ⟨.empty, [], [], ⟨[], [], []⟩⟩

variable (world : CacheWorld Result)

variable (index : Nat) (stage : Stage Result)

def setStage : CacheWorld Result :=
  { world with stages := world.stages.set index stage }

def starts (cache : StageCache) : CacheWorld Result :=
  let fresh := { cache with hits := [], writes := [], recorded := false, uncertain := false }
  { world with stages := world.stages ++ [⟨fresh, .idle, none⟩] }

def beginsLookup : Option (CacheWorld Result) :=
  match stage.lookup with
  | .idle =>
    if stage.cache.lookups then
      some (world.setStage index { stage with lookup := stage.cache.startLookup })
    else none
  | _ => none

def looksUp (fails : Bool) : Option (CacheWorld Result) :=
  if fails then
    if stage.lookup.running then
      some (world.setStage index (stage.enters services (.failed .unavailable)))
    else none
  else
    match stage.cache.nextLookup services world.tables world.objects stage.lookup with
    | none => none
    | some phase =>
      some { world.setStage index (stage.enters services phase) with
        evidence := world.evidence.hashes (stage.cache.lookupInputs world.tables stage.lookup) }

/-- One round of putResults. A refused or failed put leaves the record as it is. -/
def puts (answer : StageCache.Answer Result) (fate : Fate) : Option (CacheWorld Result) :=
  if stage.cache.puts then
    match stage.cache.putEntry services answer with
    | none => some world
    | some entry =>
      if entry.problems services.jsonText ≠ [] then some world
      else
        let hashed := world.evidence.hashes [.result entry.result]
        let tables := world.tables.put services.sha256 stage.cache.tenantID entry
        match fate with
        | .commits =>
          let cache := { stage.cache with
            writes := stage.cache.writes ++ [entry.write services.sha256] }
          some { world.setStage index { stage with cache := cache } with
            tables := tables
            evidence := hashed.does (.put stage.cache.tenantID entry) }
        | .refused => some { world with evidence := hashed }
        | .fails committed =>
          some { world.setStage index { stage with cache := { stage.cache with uncertain := true } } with
            tables := if committed then tables else world.tables
            evidence := hashed }
  else none

def recordsStage (tasks dispatched : Nat) (fate : Fate) : Option (CacheWorld Result) :=
  if stage.cache.records then
    let cache := (stage.cache.count tasks dispatched).sortHits
    let tables := world.tables.recordStage cache.tenantID cache.stageRecord
    if cache.stageRecord.problems ≠ [] then some (world.setStage index { stage with cache := cache })
    else
      match fate with
      | .commits =>
        some { world.setStage index { stage with cache := { cache with recorded := true } } with
          tables := tables }
      | .refused => some (world.setStage index { stage with cache := cache })
      | .fails committed =>
        some { world.setStage index { stage with cache := { cache with uncertain := true } } with
          tables := if committed then tables else world.tables }
  else none

/-- Checkpoint with Sign under the job lock. When the transaction then fails, the
signature exists but seal drops it. -/
def checkpoints (commits : Bool) : Option (CacheWorld Result) :=
  if stage.cache.records then
    let cache := stage.cache
    let hashed := world.evidence.hashes (cache.checkpointInputs world.tables)
    match world.tables.checkpoint cache.tenantID services.sha256 cache.expected with
    | .error _ => some { world with evidence := hashed }
    | .ok digest =>
      match cache.checkpoints.sign cache.tenantID cache.ref digest with
      | none => some { world with evidence := hashed }
      | some link =>
        let unsent := if commits then some (.signed cache.checkpoints.key link) else stage.unsent
        some { world.setStage index { stage with unsent := unsent } with
          evidence := (hashed.signs cache.checkpoints.key link).does
            (.sealed cache.tenantID cache.ref) }
  else none

/-- CacheCheckpoints.Store; a failed write may have stored the object. -/
def storesCheckpoint (stored : Bool) : Option (CacheWorld Result) :=
  match stage.unsent with
  | none => none
  | some envelope =>
    let cache := stage.cache
    let key := checkpointKey cache.tenantID cache.jobID cache.name cache.attempt
    let sent := world.setStage index { stage with unsent := none }
    if cache.checkpoints.checkRef cache.tenantID cache.ref then
      match cache.checkpoints.verifyCheckpoint envelope cache.tenantID cache.ref with
      | .error _ => some sent
      | .ok _ => some { sent with objects := if stored then (key, envelope) :: world.objects else world.objects }
    else some sent

def withStage (action : Stage Result → Option (CacheWorld Result)) : Option (CacheWorld Result) :=
  match world.stages[index]? with
  | none => none
  | some stage => action stage

def step : CacheEvent Result → Option (CacheWorld Result)
  | .start cache => some (world.starts cache)
  | .beginLookup index => world.withStage index (world.beginsLookup index)
  | .lookup index fails => world.withStage index fun stage => world.looksUp services index stage fails
  | .put index answer fate =>
    world.withStage index fun stage => world.puts services index stage answer fate
  | .recordStage index tasks dispatched fate =>
    world.withStage index fun stage => world.recordsStage index stage tasks dispatched fate
  | .checkpoint index commits =>
    world.withStage index fun stage => world.checkpoints services index stage commits
  | .storeCheckpoint index stored =>
    world.withStage index fun stage => world.storesCheckpoint index stage stored
  | .attest key link =>
    if link.step = cacheCheckpointStep then none
    else some { world with evidence := world.evidence.signs key link }
  | .rewriteTables tables => some { world with tables := tables }
  | .rewriteObjects objects =>
    if Unforged world.evidence objects then some { world with objects := objects } else none

variable {world} {next : CacheWorld Result}

theorem withStage_eq_some {index : Nat} {action : Stage Result → Option (CacheWorld Result)}
    (taken : world.withStage index action = some next) :
    ∃ stage ∈ world.stages, action stage = some next := by
  unfold withStage at taken
  split at taken
  · cases taken
  · rename_i stage here
    exact ⟨stage, mem_of_getElem? here, taken⟩

theorem recordsStage_cases {index tasks dispatched : Nat} {stage : Stage Result} {fate : Fate}
    (taken : world.recordsStage index stage tasks dispatched fate = some next) :
    ∃ cache tables, next = { world.setStage index { stage with cache := cache } with tables := tables } ∧
      cache.tenantID = stage.cache.tenantID ∧ cache.ref = stage.cache.ref ∧
      cache.byTask = stage.cache.byTask ∧ cache.writes = stage.cache.writes := by
  unfold recordsStage at taken
  split at taken
  case isFalse => cases taken
  case isTrue =>
    simp only at taken
    split at taken
    · cases taken
      exact ⟨_, _, rfl, rfl, rfl, rfl, rfl⟩
    · cases fate with
      | commits | refused | fails committed =>
        cases taken
        exact ⟨_, _, rfl, rfl, rfl, rfl, rfl⟩

end CacheWorld

end CrossCodex.Analysis
