/-
The collections a worker remembers as abandoned (internal/worker/abandoned.go). A time is
what its clock read, counted from Go's zero time; the size gauge is left out.
-/

import Mathlib.Data.List.AList
import Mathlib.Data.List.Induction

namespace CrossCodex.Worker

open List

inductive Operation (Collection : Type) where
  | add (collection : Collection) (now : Int)
  | contains (collection : Collection) (now : Int)

variable {Collection : Type}

def Operation.now : Operation Collection → Int
  | .add _ now => now
  | .contains _ now => now

theorem Operation.exists_latest (operations : List (Operation Collection)) :
    ∃ clock, ∀ operation ∈ operations, operation.now ≤ clock := by
  induction operations with
  | nil => exact ⟨0, by simp⟩
  | cons first rest ih =>
    obtain ⟨clock, latest⟩ := ih
    refine ⟨max first.now clock, ?_⟩
    intro operation mem
    rcases mem_cons.mp mem with rfl | later
    · omega
    · have bound := latest operation later
      omega

variable [DecidableEq Collection]

structure AbandonedSet (Collection : Type) [DecidableEq Collection] where
  expires : AList fun _ : Collection => Int
  order : List Collection

namespace AbandonedSet

def empty : AbandonedSet Collection := ⟨∅, []⟩

section

variable (set : AbandonedSet Collection)

def popOldest : AbandonedSet Collection :=
  match set.order with
  | [] => set
  | oldest :: rest => ⟨set.expires.erase oldest, rest⟩

/-- The loop of pruneExpired, over the order that is left. A missing key reads as Go's
zero time. -/
def pruneFrom (now : Int) (expires : AList fun _ : Collection => Int) :
    List Collection → AbandonedSet Collection
  | [] => ⟨expires, []⟩
  | oldest :: rest =>
    if now < (expires.lookup oldest).getD 0 then ⟨expires, oldest :: rest⟩
    else pruneFrom now (expires.erase oldest) rest

def pruneExpired (now : Int) : AbandonedSet Collection :=
  pruneFrom now set.expires set.order

def held (collection : Collection) : Bool :=
  (set.expires.lookup collection).isSome

def contains (collection : Collection) (now : Int) : Bool × AbandonedSet Collection :=
  ((set.pruneExpired now).held collection, set.pruneExpired now)

end

def add (ttl : Int) (limit : Nat) (set : AbandonedSet Collection) (collection : Collection)
    (now : Int) : Nat × AbandonedSet Collection :=
  let pruned := set.pruneExpired now
  if pruned.held collection then (pruned.order.length, pruned)
  else
    let roomy := if limit ≤ pruned.order.length then pruned.popOldest else pruned
    let order := roomy.order ++ [collection]
    (order.length, ⟨roomy.expires.insert collection (now + ttl), order⟩)

end AbandonedSet

/-- The set with the additions that were effective, oldest first. -/
structure History (Collection : Type) [DecidableEq Collection] where
  set : AbandonedSet Collection
  effective : List (Collection × Int)

def History.step (ttl : Int) (limit : Nat) (history : History Collection) :
    Operation Collection → History Collection
  | .add collection now =>
    ⟨(history.set.add ttl limit collection now).2,
      if (history.set.pruneExpired now).held collection then history.effective
      else history.effective ++ [(collection, now)]⟩
  | .contains collection now => ⟨(history.set.contains collection now).2, history.effective⟩

def History.run (ttl : Int) (limit : Nat) (operations : List (Operation Collection)) :
    History Collection :=
  operations.foldl (History.step ttl limit) ⟨.empty, []⟩

section

variable {ttl clock now : Int} {limit : Nat} {old recent : List (Collection × Int)}
  {set : AbandonedSet Collection}

structure Holds (ttl clock : Int) (old recent : List (Collection × Int))
    (set : AbandonedSet Collection) : Prop where
  order : set.order = recent.map Prod.fst
  distinct : (recent.map Prod.fst).Nodup
  expires : ∀ collection added,
    set.expires.lookup collection = some (added + ttl) ↔ (collection, added) ∈ recent
  sorted : (old ++ recent).Pairwise fun earlier later => earlier.2 ≤ later.2
  past : ∀ entry ∈ old ++ recent, entry.2 ≤ clock

/-- The others have expired, or `limit` have followed them. -/
structure Gone (ttl : Int) (limit : Nat) (clock : Int) (old recent : List (Collection × Int)) :
    Prop where
  bounded : recent.length ≤ limit
  expired : recent.length = limit ∨ ∀ entry ∈ old, entry.2 + ttl ≤ clock

theorem Holds.held_iff (holds : Holds ttl clock old recent set) (collection : Collection) :
    set.held collection = true ↔ ∃ added, (collection, added) ∈ recent := by
  simp only [AbandonedSet.held, Option.isSome_iff_exists, ← holds.expires]
  constructor
  · rintro ⟨expiry, found⟩
    exact ⟨expiry - ttl, by rw [found, Int.sub_add_cancel]⟩
  · rintro ⟨added, found⟩
    exact ⟨_, found⟩

theorem Holds.pop {oldest : Collection × Int} (holds : Holds ttl clock old (oldest :: recent) set) :
    Holds ttl clock (old ++ [oldest]) recent
      ⟨set.expires.erase oldest.1, recent.map Prod.fst⟩ := by
  have nodup := nodup_cons.mp holds.distinct
  refine ⟨rfl, nodup.2, ?_, by simpa using holds.sorted, by simpa using holds.past⟩
  intro collection added
  by_cases same : collection = oldest.1
  · have absent : (collection, added) ∉ recent := fun mem =>
      nodup.1 (mem_map.mpr ⟨_, mem, same⟩)
    rw [same] at absent ⊢
    simp [absent]
  · rw [AList.lookup_erase_ne same, holds.expires]
    grind

theorem Holds.append {collection : Collection} (holds : Holds ttl clock old recent set)
    (absent : ∀ added, (collection, added) ∉ recent) :
    Holds ttl clock old (recent ++ [(collection, clock)])
      ⟨set.expires.insert collection (clock + ttl), set.order ++ [collection]⟩ := by
  have past := holds.past
  refine ⟨by simp [holds.order], ?_, ?_, ?_, by grind⟩
  · have nodup := holds.distinct
    grind
  · intro other added
    by_cases same : other = collection
    · subst same
      rw [AList.lookup_insert]
      grind
    · rw [AList.lookup_insert_ne same, holds.expires]
      grind
  · rw [← append_assoc, pairwise_append]
    exact ⟨holds.sorted, pairwise_singleton _ _, by grind⟩

/-- By induction over the entries from the oldest on: every one popped is expired, and with
it all before it. -/
theorem Holds.prune (holds : Holds ttl clock old recent set)
    (gone : Gone ttl limit clock old recent) :
    ∃ moved kept, recent = moved ++ kept ∧
      Holds ttl clock (old ++ moved) kept (set.pruneExpired clock) ∧
      Gone ttl limit clock (old ++ moved) kept ∧ ∀ entry ∈ kept, clock < entry.2 + ttl := by
  unfold AbandonedSet.pruneExpired
  rw [holds.order]
  induction recent generalizing old set with
  | nil =>
    refine ⟨[], [], rfl, ?_, by simpa using gone, by simp⟩
    rw [append_nil]
    exact ⟨rfl, holds.distinct, holds.expires, holds.sorted, holds.past⟩
  | cons oldest rest ih =>
    have expiry := (holds.expires oldest.1 oldest.2).mpr mem_cons_self
    have sorted := holds.sorted
    rw [pairwise_append, pairwise_cons] at sorted
    rw [map_cons, AbandonedSet.pruneFrom, expiry, Option.getD_some]
    split
    · refine ⟨[], oldest :: rest, rfl, ?_, by simpa using gone, ?_⟩
      · rw [append_nil, ← map_cons, ← holds.order]
        exact holds
      · clear ih
        grind
    · have bounded := gone.bounded
      rw [length_cons] at bounded
      have expired : ∀ entry ∈ old ++ [oldest], entry.2 + ttl ≤ clock := by
        have first := fun entry mem => sorted.2.2 entry mem oldest mem_cons_self
        grind
      obtain ⟨moved, kept, rfl, later⟩ := ih holds.pop ⟨by omega, Or.inr expired⟩
      refine ⟨oldest :: moved, kept, rfl, ?_⟩
      rwa [append_assoc] at later

def History.Traced (ttl : Int) (limit : Nat) (clock : Int) (history : History Collection) : Prop :=
  ∃ old recent, history.effective = old ++ recent ∧ Holds ttl clock old recent history.set ∧
    Gone ttl limit clock old recent

variable {history : History Collection}

theorem History.Traced.later (traced : history.Traced ttl limit clock) (later : clock ≤ now) :
    history.Traced ttl limit now := by
  obtain ⟨old, recent, effective, holds, gone⟩ := traced
  have past := holds.past
  have expired := gone.expired
  exact ⟨old, recent, effective, { holds with past := by grind }, ⟨gone.bounded, by grind⟩⟩

theorem History.Traced.pruned (traced : history.Traced ttl limit clock) :
    ∃ old recent, history.effective = old ++ recent ∧
      Holds ttl clock old recent (history.set.pruneExpired clock) ∧
      Gone ttl limit clock old recent ∧ ∀ entry ∈ recent, clock < entry.2 + ttl := by
  obtain ⟨old, recent, effective, holds, gone⟩ := traced
  obtain ⟨moved, kept, rfl, pruned⟩ := holds.prune gone
  exact ⟨old ++ moved, kept, by rw [effective, append_assoc], pruned⟩

theorem History.Traced.step {operation : Operation Collection} (positive : 0 < limit)
    (traced : history.Traced ttl limit operation.now) :
    (history.step ttl limit operation).Traced ttl limit operation.now := by
  obtain ⟨old, recent, effective, holds, gone, _⟩ := traced.pruned
  cases operation with
  | contains collection now => exact ⟨old, recent, effective, holds, gone⟩
  | add collection now =>
    simp only [Operation.now] at holds gone ⊢
    obtain ⟨bounded, expired⟩ := gone
    unfold History.step AbandonedSet.add
    by_cases present : (history.set.pruneExpired now).held collection = true
    · simp only [present, if_true]
      exact ⟨old, recent, effective, holds, bounded, expired⟩
    have absent : ∀ added, (collection, added) ∉ recent := fun added mem =>
      present ((holds.held_iff collection).mpr ⟨added, mem⟩)
    simp only [present, if_false, Bool.false_eq_true]
    have size : (history.set.pruneExpired now).order.length = recent.length := by
      rw [holds.order, length_map]
    split
    · cases recent with
      | nil => grind
      | cons oldest rest =>
        have popped : (history.set.pruneExpired now).popOldest =
            ⟨(history.set.pruneExpired now).expires.erase oldest.1, rest.map Prod.fst⟩ := by
          rw [AbandonedSet.popOldest, holds.order]
          rfl
        rw [popped]
        exact ⟨old ++ [oldest], rest ++ [(collection, now)], by simp [effective],
          holds.pop.append (by grind), by grind, by grind⟩
    · exact ⟨old, recent ++ [(collection, now)], by simp [effective], holds.append absent,
        by grind, by grind⟩

theorem History.run_traced (positive : 0 < limit) (operations : List (Operation Collection))
    (monotone : operations.Pairwise fun earlier later => earlier.now ≤ later.now)
    (clock : Int) (latest : ∀ operation ∈ operations, operation.now ≤ clock) :
    (History.run ttl limit operations).Traced ttl limit clock := by
  induction operations using List.reverseRecOn generalizing clock with
  | nil =>
    refine ⟨[], [], rfl, ⟨rfl, nodup_nil, ?_, Pairwise.nil, by simp⟩, Nat.zero_le _, by simp⟩
    intro collection added
    simp [run, AbandonedSet.empty]
  | append_singleton operations last ih =>
    have parts := pairwise_append.mp monotone
    rw [run, foldl_append]
    have before := ih parts.1 last.now fun operation mem =>
      parts.2.2 operation mem last (mem_singleton_self last)
    exact (before.step positive).later (latest last (by simp))

/-- Pruned at `now`, the set holds a collection exactly where the effective additions say. -/
theorem History.Traced.contains_iff (traced : history.Traced ttl limit now)
    (collection : Collection) :
    (history.set.contains collection now).1 = true ↔
      ∃ earlier added later, history.effective = earlier ++ (collection, added) :: later ∧
        (∀ entry ∈ later, entry.1 ≠ collection) ∧ now - added < ttl ∧ later.length < limit := by
  obtain ⟨old, recent, effective, holds, gone, unexpired⟩ := traced.pruned
  have bounded := gone.bounded
  refine (holds.held_iff collection).trans ⟨?_, ?_⟩
  · rintro ⟨added, mem⟩
    have fresh := unexpired _ mem
    obtain ⟨before, after, rfl⟩ := append_of_mem mem
    have nodup := holds.distinct
    rw [map_append, map_cons, nodup_middle, nodup_cons, mem_append, not_or] at nodup
    refine ⟨old ++ before, added, after, by rw [effective, append_assoc], ?_, by omega, ?_⟩
    · intro entry later same
      exact nodup.1.2 (mem_map.mpr ⟨entry, later, same⟩)
    · rw [length_append, length_cons] at bounded
      omega
  · rintro ⟨earlier, added, later, split, _, fresh, few⟩
    refine ⟨added, ?_⟩
    rw [effective, append_eq_append_iff] at split
    rcases split with ⟨middle, _, same⟩ | ⟨middle, before, same⟩
    · rw [same]
      simp
    · cases middle with
      | nil => simp only [nil_append] at same; simp [← same]
      | cons head rest =>
        -- The addition is an old one, with all the recent ones after it.
        rw [cons_append, cons.injEq] at same
        obtain ⟨rfl, rfl⟩ := same
        rcases gone.expired with full | expired
        · rw [length_append] at few
          omega
        · have late := expired (collection, added) (by simp [before])
          omega

end

/-- For every sequence of operations whose clock does not run backwards: the map and the
order hold the same collections, each once, at most `limit`, in expiry order; and a
collection is contained exactly when its last effective addition is less than `ttl` ago and
fewer than `limit` effective additions, all of others, followed it. -/
theorem abandoned_set_remembers (ttl : Int) (limit : Nat) (positive : 0 < limit)
    (operations : List (Operation Collection))
    (monotone : operations.Pairwise fun earlier later => earlier.now ≤ later.now) :
    let history := History.run ttl limit operations
    (∀ collection, collection ∈ history.set.expires ↔ collection ∈ history.set.order) ∧
    history.set.order.Nodup ∧ history.set.order.length ≤ limit ∧
    (history.set.order.Pairwise fun earlier later =>
      ∀ first ∈ history.set.expires.lookup earlier, ∀ second ∈ history.set.expires.lookup later,
        first ≤ second) ∧
    ∀ collection now, (∀ operation ∈ operations, operation.now ≤ now) →
      ((history.set.contains collection now).1 = true ↔
        ∃ earlier added later, history.effective = earlier ++ (collection, added) :: later ∧
          (∀ entry ∈ later, entry.1 ≠ collection) ∧ now - added < ttl ∧ later.length < limit) := by
  intro history
  obtain ⟨clock, latest⟩ := Operation.exists_latest operations
  have traced : history.Traced ttl limit clock :=
    History.run_traced positive operations monotone clock latest
  obtain ⟨old, recent, _, holds, gone⟩ := traced
  refine ⟨?_, ?_, ?_, ?_, ?_⟩
  · intro collection
    rw [← AList.lookup_isSome, holds.order, mem_map]
    refine (holds.held_iff collection).trans ⟨?_, ?_⟩
    · rintro ⟨added, mem⟩
      exact ⟨_, mem, rfl⟩
    · rintro ⟨entry, mem, rfl⟩
      exact ⟨entry.2, mem⟩
  · rw [holds.order]
    exact holds.distinct
  · rw [holds.order, length_map]
    exact gone.bounded
  · rw [holds.order, pairwise_map]
    apply (pairwise_append.mp holds.sorted).2.1.imp_of_mem
    intro earlier later earlierMember laterMember order first firstFound second secondFound
    rw [(holds.expires _ _).mpr earlierMember, Option.mem_some_iff] at firstFound
    rw [(holds.expires _ _).mpr laterMember, Option.mem_some_iff] at secondFound
    omega
  · intro collection now after
    exact (History.run_traced positive operations monotone now after).contains_iff collection

theorem abandoned_set_remembers_last :
    ((History.run 5 1 [.add 'a' 0, .add 'b' 1]).set.contains 'b' 3).1 = true :=
  ((abandoned_set_remembers 5 1 (by decide) [.add 'a' 0, .add 'b' 1] (by decide)).2.2.2.2 'b' 3
    (by decide)).mpr ⟨[('a', 0)], 1, [], by decide⟩

end CrossCodex.Worker
