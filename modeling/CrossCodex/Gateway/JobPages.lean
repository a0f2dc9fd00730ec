/-
Walking the pages of ListJobs (internal/pipeline: PGStore.ListJobs, Service.ListJobs). Each
page is a query of its own, and `ORDER BY created_at DESC` leaves the order of jobs that were
created at one instant to the database.
-/

import CrossCodex.Gateway.JobVisibility

namespace CrossCodex.Gateway.Backend

open Analyzer (Text)
open Database (Session completed)
open List

variable {Score : Type} (host : Host Score) (state : State Score) (session : Session)

abbrev Entry := Sigma fun _ : Text => Job

def newestFirst (first second : Entry) : Prop :=
  second.2.contents.createdAt ≤ first.2.contents.createdAt

instance : DecidableRel newestFirst := fun _ _ => Nat.decLe _ _

def listedJob (entry : Entry) : PipelineJob Score :=
  jobToProto host entry.1 entry.2 (getStages host state session entry.1) []

/-- The answer to a request for which the database returns the rows in this order. -/
def pageOf (rows : List Entry) (request : ListRequest) : JobPage Score :=
  { jobs := ((rows.drop request.offset.toNat).take request.limit).map
      (listedJob host state session)
    nextPageToken :=
      if request.offset + request.limit < rows.length then some (request.offset + request.limit)
      else none
    totalCount := rows.length }

theorem listJobs_eq_pageOf (request : ListRequest) : listJobs host state session request =
      pageOf host state session (listedRows state session request.status) request := rfl

/-- The pages a client gets that follows every token; `fuel` bounds their number. -/
def walkPages (pages : Nat → Int → JobPage Score) :
    Nat → Nat → Int → List (PipelineJob Score)
  | 0, _, _ => []
  | fuel + 1, query, offset =>
    (pages query offset).jobs ++ match (pages query offset).nextPageToken with
      | none => []
      | some token => walkPages pages fuel (query + 1) token

/-- No page ends between two jobs of one instant. -/
def TiesUnsplit (rows : List Entry) (limit : Nat) : Prop :=
  ∀ pages, ∀ newer ∈ rows.take (pages * limit), ∀ older ∈ rows.drop (pages * limit),
    older.2.contents.createdAt < newer.2.contents.createdAt

variable {rows order : List Entry}

theorem filter_first (newer : Entry → Bool)
    (sorted : order.Pairwise fun first second => newer second = true → newer first = true) :
    order.filter newer ++ order.filter (fun row => !newer row) = order := by
  induction order with
  | nil => rfl
  | cons row rest ih =>
    rw [pairwise_cons] at sorted
    have later := ih sorted.2
    cases isNewer : newer row with
    | true => simp [isNewer, later]
    | false =>
      have none : rest.filter newer = [] := by
        apply filter_eq_nil_iff.mpr
        intro other mem found
        simpa [isNewer] using sorted.1 other mem found
      simpa [isNewer, none] using later

/-- A cut that splits no tie is made alike in every order of the rows. -/
theorem cut_perm (cut : Nat) (same : order ~ rows) (sorted : order.Pairwise newestFirst)
    (apart : ∀ newer ∈ rows.take cut, ∀ older ∈ rows.drop cut,
      older.2.contents.createdAt < newer.2.contents.createdAt) :
    order.take cut ~ rows.take cut ∧ order.drop cut ~ rows.drop cut := by
  classical
  have halves : order.take cut ++ order.drop cut ~ rows.take cut ++ rows.drop cut := by
    simpa using same
  suffices taken : order.take cut ~ rows.take cut from
    ⟨taken, (perm_append_left_iff _).mp ((taken.symm.append_right _).trans halves)⟩
  let newer : Entry → Bool := fun row => row ∈ rows.take cut
  have kept : rows.filter newer = rows.take cut := by
    have first : (rows.take cut).filter newer = rows.take cut := by simp [newer]
    have second : (rows.drop cut).filter newer = [] := by
      simp only [newer, filter_eq_nil_iff, decide_eq_true_eq]
      intro row older twice
      exact absurd (apart row twice row older) (by omega)
    have both : (rows.take cut ++ rows.drop cut).filter newer = _ := filter_append (rows.take cut) (rows.drop cut)
    rwa [take_append_drop, first, second, append_nil] at both
  have found : order.filter newer ~ rows.take cut := kept ▸ same.filter newer
  have split := filter_first newer (sorted.imp_of_mem ?_)
  · rcases Nat.le_total cut rows.length with inside | outside
    · have size : (order.filter newer).length = cut := by
        rw [found.length_eq, length_take, Nat.min_eq_left inside]
      rw [← split, take_left' size]
      exact found
    · rw [take_of_length_le outside, take_of_length_le (same.length_eq ▸ outside)]
      exact same
  · intro first second inFirst inSecond ordered isNewer
    have stored := same.mem_iff.mp inFirst
    rw [← take_append_drop cut rows, mem_append] at stored
    simp only [newer, decide_eq_true_eq] at isNewer ⊢
    rcases stored with before | after
    · exact before
    · have strict := apart second isNewer first after
      unfold newestFirst at ordered
      omega

theorem limit_pos (request : ListRequest) : 0 < request.limit := by
  unfold ListRequest.limit
  split <;> omega

section Walk

variable {request : ListRequest} {orders : Nat → List Entry}

/-- By induction over the pages: where each query cuts the page that `rows` has there, in some
order, the walk returns what is left of `rows`. -/
theorem walkPages_perm (sizes : ∀ query, (orders query).length = rows.length)
    (cuts : ∀ query, ((orders query).drop (query * request.limit)).take request.limit ~
      (rows.drop (query * request.limit)).take request.limit) (fuel query : Nat)
    (enough : rows.length < query * request.limit + fuel) :
    walkPages (fun query offset => pageOf host state session (orders query) { request with offset })
      fuel query (query * request.limit : Nat) ~
        (rows.drop (query * request.limit)).map (listedJob host state session) := by
  have positive := limit_pos request
  induction fuel generalizing query with
  | zero =>
    rw [drop_of_length_le (by omega)]
    exact Perm.nil
  | succ fuel ih =>
    have advance : (query + 1) * request.limit = query * request.limit + request.limit :=
      Nat.succ_mul _ _
    have page := (cuts query).map (listedJob host state session)
    have last : request.limit = ({ request with offset := (query * request.limit : Nat) } :
        ListRequest).limit := rfl
    simp only [walkPages, pageOf, Int.toNat_natCast, ← last]
    by_cases more : query * request.limit + request.limit < rows.length
    · have token : ((query * request.limit : Nat) : Int) + request.limit =
          ((query + 1) * request.limit : Nat) := by omega
      rw [if_pos (by rw [sizes]; omega), token, ← take_append_drop request.limit (rows.drop _), map_append,
        drop_drop, ← advance]
      exact page.append (ih (query + 1) (by omega))
    · rw [if_neg (by rw [sizes]; omega), append_nil]
      rwa [take_of_length_le (by rw [length_drop]; omega : (rows.drop _).length ≤ _)] at page

theorem TiesUnsplit.cuts {limit : Nat} (unsplit : TiesUnsplit rows limit) (same : order ~ rows)
    (sorted : order.Pairwise newestFirst) (query : Nat) :
    (order.drop (query * limit)).take limit ~ (rows.drop (query * limit)).take limit := by
  have advance : (query + 1) * limit = query * limit + limit := Nat.succ_mul _ _
  have left := (cut_perm _ same sorted (unsplit query)).2
  refine (cut_perm limit left (sorted.sublist (drop_sublist _ _)) ?_).1
  intro newer first older later
  rw [drop_drop, ← advance] at later
  rw [take_drop, ← advance] at first
  exact unsplit (query + 1) newer (mem_of_mem_drop first) older later

end Walk

section SplitTie

open Classical in
noncomputable def exchanged (newer older : Entry) (rows : List Entry) : List Entry :=
  rows.map (Equiv.swap newer older)

variable {newer older : Entry}

theorem exchanged_perm (nodup : rows.Nodup) (first : newer ∈ rows) (second : older ∈ rows) :
    exchanged newer older rows ~ rows := by
  have inside : exchanged newer older rows ⊆ rows := by
    intro entry mem
    obtain ⟨row, inRows, rfl⟩ := mem_map.mp mem
    rw [Equiv.swap_apply_def]
    split_ifs
    · exact second
    · exact first
    · exact inRows
  have distinct : (exchanged newer older rows).Nodup := nodup.map (Equiv.injective _)
  exact (distinct.subperm inside).perm_of_length_le (by rw [exchanged, length_map])

theorem exchanged_sorted (sorted : rows.Pairwise newestFirst)
    (tied : older.2.contents.createdAt = newer.2.contents.createdAt) :
    (exchanged newer older rows).Pairwise newestFirst := by
  have same : ∀ entry : Entry, (Equiv.swap newer older entry).2.contents.createdAt =
      entry.2.contents.createdAt := by
    intro entry
    rw [Equiv.swap_apply_def]
    split_ifs with isNewer isOlder
    · rw [isNewer, tied]
    · rw [isOlder, tied]
    · rfl
  refine pairwise_map.mpr (sorted.imp ?_)
  intro left right ordered
  rw [newestFirst, same, same]
  exact ordered

/-- The walk whose queries change their order at a page end inside a tie returns one of the
tied jobs twice. -/
theorem walkPages_repeats {request : ListRequest} {pages fuel : Nat}
    (keys : (rows.map Sigma.fst).Nodup)
    (first : newer ∈ rows.take (pages * request.limit))
    (second : older ∈ rows.drop (pages * request.limit)) (enough : rows.length < fuel) :
    ¬ walkPages (fun query offset => pageOf host state session
        (if query < pages then rows else exchanged newer older rows) { request with offset })
      fuel 0 0 ~ rows.map (listedJob host state session) := by
  have positive := limit_pos request
  have inside : pages * request.limit < rows.length := by
    have left := length_pos_of_mem second
    rw [length_drop] at left
    omega
  let mixed := rows.take (pages * request.limit) ++
    (exchanged newer older rows).drop (pages * request.limit)
  have size : (exchanged newer older rows).length = rows.length := length_map _
  have whole : mixed.length = rows.length := by
    rw [length_append, length_take, length_drop, size]
    omega
  have walked := @walkPages_perm _ host state session mixed request
    (fun query => if query < pages then rows else exchanged newer older rows) ?_ ?_ fuel 0
    (by omega)
  · intro complete
    rw [Nat.zero_mul, drop_zero] at walked
    have listed := (walked.symm.trans complete).map PipelineJob.jobID
    rw [map_map, map_map] at listed
    have distinct : (mixed.map Sigma.fst).Nodup := listed.nodup_iff.mpr keys
    rw [map_append, nodup_append] at distinct
    refine distinct.2.2 _ (mem_map_of_mem first) _ (mem_map_of_mem (a := newer) ?_) rfl
    rw [exchanged, ← map_drop]
    exact mem_map.mpr ⟨older, second, Equiv.swap_apply_right _ _⟩
  · intro query
    split_ifs
    · rw [whole]
    · rw [whole, size]
  · intro query
    split_ifs with before
    · have ends : query * request.limit + request.limit ≤ pages * request.limit := by
        rw [← Nat.succ_mul]
        exact Nat.mul_le_mul_right _ before
      rw [take_drop, take_drop, take_append_of_le_length (by rw [length_take]; omega), take_take,
        Nat.min_eq_left ends]
    · obtain ⟨rest, later⟩ := Nat.exists_eq_add_of_le
        (Nat.mul_le_mul_right request.limit (Nat.not_lt.mp before))
      rw [later, ← drop_drop, ← drop_drop, drop_left' (by rw [length_take]; omega)]

end SplitTie

theorem listedRows_keys (status : Option Pipeline.JobStatus) :
    ((listedRows state session status).map Sigma.fst).Nodup := by
  rw [listedRows, ((perm_insertionSort _ _).map Sigma.fst).nodup_iff]
  exact List.NodupKeys.sublist filter_sublist state.jobs.nodupKeys

theorem listedRows_sorted (status : Option Pipeline.JobStatus) :
    (listedRows state session status).Pairwise newestFirst := by
  have total : Std.Total newestFirst := ⟨fun first second => Nat.le_total _ _⟩
  have trans : IsTrans Entry newestFirst := ⟨fun _ _ _ left right => Nat.le_trans right left⟩
  exact pairwise_insertionSort newestFirst _

def bobSession : Session := ⟨.app, some acme, some "bob".toList⟩

def twoJobs (first second : Nat) : State Nat :=
  { bobAlone with
    jobs := Library.upsertAll (∅ : Library.Table Text Job)
      [(aliceJobID, ⟨acme, "bob".toList, completed, [], first, 1, [], .retryable⟩),
        (bobJobID, ⟨acme, "bob".toList, completed, [], second, 1, [], .retryable⟩)] }

def jobsOf (first second : Nat) : List Entry :=
  listedRows (twoJobs first second) bobSession none

def walkOnes (first second : Nat) (orders : Nat → List Entry) : List (PipelineJob Nat) :=
  walkPages (fun query offset => pageOf sampleHost (twoJobs first second) bobSession (orders query)
    ⟨none, 1, offset⟩) 3 0 0

end CrossCodex.Gateway.Backend
