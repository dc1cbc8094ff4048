import SolanaArb.Machine
import SolanaArb.General.SweptCache

/-! # The cache of pool reserves

Updates overwrite the reserves of a pool, a cleanup removes what is stale for its own maximal
age, and a read takes an entry that is fresh for the reader's. The cache is behind a lock, so
the calls take effect one after the other. The clock is read once for an update and for a
read, and for every entry of a cleanup. Instants count nanoseconds.
-/
namespace SolanaArb.PoolCache
open SolanaArb.General

structure CachedReserves where
  poolAddress : String
  reserveA : UInt64
  reserveB : UInt64
  updatedAt : ℕ
  deriving DecidableEq, Repr

/-- `is_fresh` when the clock shows `now`; the age is a number of whole milliseconds. -/
def CachedReserves.isFresh (c : CachedReserves) (maxAgeMs now : ℕ) : Bool :=
  decide ((now - c.updatedAt) / 1000000 < maxAgeMs)

abbrev PoolStateCache := Cache String CachedReserves

def newPoolCache : PoolStateCache := ∅

def updateCache (cache : PoolStateCache) (poolAddress : String) (reserveA reserveB : UInt64)
    (now : ℕ) : PoolStateCache :=
  cache.insert poolAddress ⟨poolAddress, reserveA, reserveB, now⟩

def getCached (cache : PoolStateCache) (poolAddress : String) (maxAgeMs now : ℕ) :
    Option CachedReserves :=
  (cache.lookup poolAddress).filter (fun c => c.isFresh maxAgeMs now)

def cleanupStale (cache : PoolStateCache) (maxAgeMs : ℕ) (now : String → ℕ) : PoolStateCache :=
  cache.retain (fun poolAddress c => c.isFresh maxAgeMs (now poolAddress))

/-- A call that changes the cache. -/
inductive Call
  | update (poolAddress : String) (reserveA reserveB : UInt64) (now : ℕ)
  | cleanup (maxAgeMs : ℕ) (now : String → ℕ)

def call (cache : PoolStateCache) : Call → PoolStateCache
  | .update poolAddress reserveA reserveB now => updateCache cache poolAddress reserveA reserveB now
  | .cleanup maxAgeMs now => cleanupStale cache maxAgeMs now

def afterCalls (calls : List Call) : PoolStateCache := calls.foldl call newPoolCache

/-- The reserves a call writes for a pool. -/
def Call.written (poolAddress : String) : Call → Option CachedReserves
  | .update pool reserveA reserveB now =>
    if pool = poolAddress then some ⟨pool, reserveA, reserveB, now⟩ else none
  | .cleanup _ _ => none

/-- The last reserves written for a pool. -/
def lastUpdate (poolAddress : String) (calls : List Call) : Option CachedReserves :=
  calls.reverse.findSome? (Call.written poolAddress)

def Call.op : Call → CacheOp String CachedReserves
  | .update poolAddress reserveA reserveB now =>
    .write poolAddress ⟨poolAddress, reserveA, reserveB, now⟩
  | .cleanup maxAgeMs now => .sweep (fun poolAddress c => c.isFresh maxAgeMs (now poolAddress))

section Calls
variable {calls : List Call} {poolAddress : String} {c : CachedReserves} {maxAgeMs now : ℕ}

theorem afterCalls_eq (calls : List Call) :
    afterCalls calls = Cache.after (calls.map Call.op).reverse := by
  induction calls using List.reverseRecOn with
  | nil => rfl
  | append_singleton calls last ih =>
    have hsnoc : afterCalls (calls ++ [last]) = call (afterCalls calls) last := by
      simp [afterCalls]
    rw [hsnoc, ih, List.map_append, List.map_singleton, List.reverse_append, List.reverse_singleton,
      List.singleton_append]
    cases last with
    | update pool reserveA reserveB now => rfl
    | cleanup maxAgeMs now => rfl

theorem lastUpdate_eq (poolAddress : String) (calls : List Call) :
    lastUpdate poolAddress calls = lastWrite poolAddress (calls.map Call.op).reverse := by
  induction calls using List.reverseRecOn with
  | nil => rfl
  | append_singleton calls last ih =>
    have hreverse : ((calls ++ [last]).map Call.op).reverse =
        last.op :: (calls.map Call.op).reverse := by
      simp
    rw [hreverse, lastUpdate, List.reverse_append, List.reverse_singleton, List.singleton_append,
      List.findSome?_cons]
    cases last with
    | update pool reserveA reserveB now =>
      rw [Call.op, lastWrite, Call.written]
      by_cases hpool : pool = poolAddress
      · simp [hpool]
      · simp only [if_neg hpool]
        exact ih
    | cleanup maxAgeMs now => exact ih

/-- What is fresh for a reader was fresh before, for anyone who takes older entries. -/
theorem isFresh_mono {maxAgeMs' now' : ℕ} (hage : maxAgeMs ≤ maxAgeMs') (hnow : now' ≤ now)
    (h : c.isFresh maxAgeMs now = true) : c.isFresh maxAgeMs' now' = true := by
  simp only [CachedReserves.isFresh, decide_eq_true_eq] at *
  exact (Nat.div_le_div_right (Nat.sub_le_sub_right hnow _)).trans_lt (h.trans_le hage)

theorem op_eq_write {e : Call} : e.op = .write poolAddress c ↔
    e = .update poolAddress c.reserveA c.reserveB c.updatedAt ∧ c.poolAddress = poolAddress := by
  cases e with
  | update pool reserveA reserveB now =>
    simp only [Call.op, CacheOp.write.injEq, Call.update.injEq]
    constructor
    · rintro ⟨rfl, rfl⟩
      exact ⟨⟨rfl, rfl, rfl, rfl⟩, rfl⟩
    · rintro ⟨⟨rfl, rfl, rfl, rfl⟩, hpool⟩
      exact ⟨rfl, by rw [← hpool]⟩
  | cleanup maxAgeMs now => simp [Call.op]

theorem written_eq_none {e : Call} : e.written poolAddress = none ↔
    ∀ c, e.op ≠ .write poolAddress c := by
  cases e with
  | update pool reserveA reserveB now =>
    simp only [Call.written, Call.op, ne_eq, CacheOp.write.injEq]
    constructor
    · rintro hnone c ⟨hpool, _⟩
      simp [hpool] at hnone
    · intro hne
      rw [if_neg]
      intro hpool
      exact hne _ ⟨hpool, rfl⟩
  | cleanup maxAgeMs now => simp [Call.written, Call.op]

theorem op_eq_sweep {e : Call} {keep : Sweep String CachedReserves} (h : e.op = .sweep keep) :
    ∃ maxAgeMs now, e = .cleanup maxAgeMs now ∧
      ∀ poolAddress c, keep poolAddress c = c.isFresh maxAgeMs (now poolAddress) := by
  cases e with
  | update pool reserveA reserveB now => cases h
  | cleanup maxAgeMs now =>
    obtain rfl := CacheOp.sweep.inj h
    exact ⟨maxAgeMs, now, rfl, fun _ _ => rfl⟩

/-- An entry of the cache is the last update of its pool, and every cleanup since found it
fresh. -/
theorem lookup_afterCalls_iff : (afterCalls calls).lookup poolAddress = some c ↔
    ∃ before since,
      calls = before ++ .update poolAddress c.reserveA c.reserveB c.updatedAt :: since ∧
      c.poolAddress = poolAddress ∧ (∀ e ∈ since, e.written poolAddress = none) ∧
      ∀ maxAgeMs now, .cleanup maxAgeMs now ∈ since → c.isFresh maxAgeMs (now poolAddress) = true := by
  rw [afterCalls_eq, Cache.lookup_after_iff]
  constructor
  · rintro ⟨since, before, hsplit, hnone, hkept⟩
    have hcalls : calls.map Call.op = before.reverse ++ .write poolAddress c :: since.reverse := by
      rw [← List.reverse_reverse (calls.map Call.op), hsplit]
      simp
    obtain ⟨first, rest, rfl, _, hrest⟩ := List.map_eq_append_iff.mp hcalls
    obtain ⟨e, after, rfl, he, hafter⟩ := List.map_eq_cons_iff.mp hrest
    obtain ⟨rfl, hpool⟩ := op_eq_write.mp he
    have hmem (e : Call) (h : e ∈ after) : e.op ∈ since := by
      rw [← List.mem_reverse, ← hafter]
      exact List.mem_map_of_mem h
    refine ⟨first, after, rfl, hpool, ?_, ?_⟩
    · intro e he
      refine written_eq_none.mpr (fun c heq => hnone c ?_)
      rw [← heq]
      exact hmem e he
    · intro maxAgeMs now hcleanup
      exact hkept _ (hmem _ hcleanup)
  · rintro ⟨before, since, rfl, hpool, hnone, hkept⟩
    refine ⟨(since.map Call.op).reverse, (before.map Call.op).reverse, ?_, ?_, ?_⟩
    · have hop := op_eq_write.mpr ⟨rfl, hpool⟩
      simp [hop]
    · intro c' hmem
      obtain ⟨e, he, heq⟩ := List.mem_map.mp (List.mem_reverse.mp hmem)
      exact written_eq_none.mp (hnone e he) c' heq
    · intro keep hmem
      obtain ⟨e, he, heq⟩ := List.mem_map.mp (List.mem_reverse.mp hmem)
      obtain ⟨maxAgeMs, now, rfl, hkeep⟩ := op_eq_sweep heq
      rw [hkeep]
      exact hkept maxAgeMs now he

end Calls

/-- A read returns the last reserves written for the pool exactly when they are fresh for the
reader and were fresh for every cleanup since. So cleanups that keep at least what the reader
would take are not seen. -/
theorem cached_reserves_exact (calls : List Call) (poolAddress : String) (maxAgeMs now : ℕ) :
    (∀ c, getCached (afterCalls calls) poolAddress maxAgeMs now = some c ↔
      c.isFresh maxAgeMs now = true ∧ ∃ before since,
        calls = before ++ .update poolAddress c.reserveA c.reserveB c.updatedAt :: since ∧
        c.poolAddress = poolAddress ∧ (∀ e ∈ since, e.written poolAddress = none) ∧
        ∀ age time, .cleanup age time ∈ since → c.isFresh age (time poolAddress) = true) ∧
    ((∀ age time, .cleanup age time ∈ calls → maxAgeMs ≤ age ∧ time poolAddress ≤ now) →
      getCached (afterCalls calls) poolAddress maxAgeMs now =
        (lastUpdate poolAddress calls).filter (fun c => c.isFresh maxAgeMs now)) := by
  refine ⟨?_, ?_⟩
  · intro c
    rw [getCached, Option.filter_eq_some_iff, lookup_afterCalls_iff, and_comm]
  · intro hlate
    rw [getCached, afterCalls_eq, lastUpdate_eq]
    apply Cache.filter_lookup_after
    intro keep hmem c hfresh
    obtain ⟨e, he, heq⟩ := List.mem_map.mp (List.mem_reverse.mp (mem_of_sweepsSince hmem))
    obtain ⟨age, time, rfl, hkeep⟩ := op_eq_sweep heq
    obtain ⟨hage, htime⟩ := hlate age time he
    rw [hkeep]
    exact isFresh_mono hage htime hfresh

/-- A pool is updated, and a cleanup for entries of a second comes half a second later. -/
def updatedAndSwept : List Call :=
  [.update "Pool" 100 200 0, .cleanup 1000 (fun _ => 500000000), .update "Other" 1 2 600000000]

theorem cached_reserves_exact_swept :
    getCached (afterCalls updatedAndSwept) "Pool" 800 700000000 = some ⟨"Pool", 100, 200, 0⟩ := by
  have hlate : ∀ age time, Call.cleanup age time ∈ updatedAndSwept →
      800 ≤ age ∧ time "Pool" ≤ 700000000 := by
    intro age time hmem
    simp only [updatedAndSwept, List.mem_cons, reduceCtorEq, List.not_mem_nil, Call.cleanup.injEq,
      false_or, or_false] at hmem
    obtain ⟨rfl, rfl⟩ := hmem
    exact ⟨by decide, by decide⟩
  rw [(cached_reserves_exact updatedAndSwept "Pool" 800 700000000).2 hlate]
  rfl

end SolanaArb.PoolCache
