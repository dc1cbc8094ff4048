import SolanaArb.Feed.RugCheck
import SolanaArb.General.Runs
import SolanaArb.General.SweptCache

/-! # The safety cache

A verdict is kept for a number of seconds, after which the next check asks again. A check
that fails leaves the cache alone; any other writes its verdict and, once the cache has more
than a thousand entries, sweeps out the old ones. The clock is read once at the lookup, once
at the write, and once for every entry of a sweep. Instants count nanoseconds.
-/
namespace SolanaArb.RugCheck
open SolanaArb.General

/-- A verdict and when it was cached. -/
abbrev Cached := TokenSafety × ℕ

structure TokenSafetyCache where
  cache : Cache String Cached
  ttlSecs : ℕ

/-- `cached_at.elapsed().as_secs() < ttl_secs` at some instant. -/
def stillValid (ttlSecs now : ℕ) (cached : Cached) : Bool :=
  decide ((now - cached.2) / 1000000000 < ttlSecs)

/-- One call: its mint, the answer of the service, should it be asked, and the clock. -/
structure Check where
  mint : String
  response : ReportResponse
  lookedUp : ℕ
  inserted : ℕ
  swept : String → ℕ
  returned : ℕ

namespace TokenSafetyCache

def new (ttlSecs : ℕ) : TokenSafetyCache := ⟨∅, ttlSecs⟩

/-- The verdict found in the cache. -/
def valid (c : TokenSafetyCache) (mint : String) (now : ℕ) : Option TokenSafety :=
  ((c.cache.lookup mint).filter (stillValid c.ttlSecs now)).map Prod.fst

/-- `retain` beyond a thousand entries. -/
def prune (c : TokenSafetyCache) (swept : String → ℕ) : TokenSafetyCache :=
  if 1000 < c.cache.keys.length then
    { c with cache := c.cache.retain (fun mint cached => stillValid c.ttlSecs (swept mint) cached) }
  else c

def checkSafety (c : TokenSafetyCache) (i : Check) : TokenSafetyCache × Except String TokenSafety :=
  match c.valid i.mint i.lookedUp with
  | some safety => (c, .ok safety)
  | none =>
    match RugCheck.checkSafety i.mint i.response with
    | .error e => (c, .error e)
    | .ok safety =>
      ({ c with cache := c.cache.insert i.mint (safety, i.inserted) }.prune i.swept, .ok safety)

def isCached (c : TokenSafetyCache) (mint : String) (now : ℕ) : Bool :=
  match c.cache.lookup mint with
  | some cached => stillValid c.ttlSecs now cached
  | none => false

end TokenSafetyCache

structure Service where
  safety : TokenSafetyCache
  now : ℕ
  /-- Not in the program: the verdicts fetched, with their mints, newest first. -/
  fetched : List (String × Cached)

/-- The verdict a check fetches, if it asks and is answered. -/
def Service.fetches (s : Service) (i : Check) : Option TokenSafety :=
  match s.safety.valid i.mint i.lookedUp with
  | some _ => none
  | none => (RugCheck.checkSafety i.mint i.response).toOption

def Service.check (s : Service) (i : Check) : Service where
  safety := (s.safety.checkSafety i).1
  now := i.returned
  fetched := ((s.fetches i).map (fun safety => (i.mint, safety, i.inserted))).toList ++ s.fetched

def Service.start (ttlSecs began : ℕ) : Service := ⟨.new ttlSecs, began, []⟩

/-- The clock does not go back. -/
structure Check.Timely (i : Check) (now : ℕ) : Prop where
  lookedUp : now ≤ i.lookedUp
  inserted : i.lookedUp ≤ i.inserted
  swept : ∀ mint, i.inserted ≤ i.swept mint ∧ i.swept mint ≤ i.returned
  returned : i.inserted ≤ i.returned

/-- Checks come one after the other: the cache is borrowed mutably. -/
def Service.Step (s : Service) (i : Check) (t : Service) : Prop :=
  i.Timely s.now ∧ t = s.check i

def lastVerdict (mint : String) (fetched : List (String × Cached)) : Option Cached :=
  (fetched.find? (fun f => f.1 = mint)).map Prod.snd

/-- The cache against the log of what was fetched. -/
structure Service.Remembers (ttlSecs : ℕ) (s : Service) : Prop where
  ttl : s.safety.ttlSecs = ttlSecs
  cache : ∃ ops, s.safety.cache = Cache.after ops ∧ writes ops = s.fetched ∧
    ∀ keep, CacheOp.sweep keep ∈ ops → ∀ mint cached,
      stillValid ttlSecs s.now cached = true → keep mint cached = true
  past : ∀ f ∈ s.fetched, f.2.2 ≤ s.now
  sorted : s.fetched.Pairwise (fun newer older => older.2.2 ≤ newer.2.2)
  spaced : s.fetched.Pairwise (fun newer older => newer.1 = older.1 →
    older.2.2 + ttlSecs * 1000000000 ≤ newer.2.2)
  small : s.safety.cache.keys.length ≤ 1000 ∨ ∀ mint cached,
    s.safety.cache.lookup mint = some cached → ∀ newest ∈ s.fetched.head?,
      stillValid ttlSecs newest.2.2 cached = true

section Validity
variable {ttlSecs now later : ℕ} {cached : Cached}

theorem stillValid_iff (hpast : cached.2 ≤ now) :
    stillValid ttlSecs now cached = true ↔ now < cached.2 + ttlSecs * 1000000000 := by
  rw [stillValid, decide_eq_true_eq, Nat.div_lt_iff_lt_mul (by decide)]
  omega

theorem stillValid_earlier (hle : now ≤ later) (h : stillValid ttlSecs later cached = true) :
    stillValid ttlSecs now cached = true := by
  simp only [stillValid, decide_eq_true_eq] at *
  exact (Nat.div_le_div_right (Nat.sub_le_sub_right hle _)).trans_lt h

end Validity

section Steps
variable {ttlSecs : ℕ} {s : Service} {i : Check}

/-- A lookup finds what was last fetched, if that is still valid. -/
theorem Service.Remembers.valid_eq (h : s.Remembers ttlSecs) (mint : String) {now : ℕ}
    (hnow : s.now ≤ now) : s.safety.valid mint now =
      ((lastVerdict mint s.fetched).filter (stillValid ttlSecs now)).map Prod.fst := by
  obtain ⟨ops, hcache, hwrites, hsweeps⟩ := h.cache
  have hkeeps : ∀ keep ∈ sweepsSince mint ops, ∀ cached, stillValid ttlSecs now cached = true →
      keep mint cached = true := by
    intro keep hmem cached hvalid
    exact hsweeps keep (mem_of_sweepsSince hmem) mint cached (stillValid_earlier hnow hvalid)
  rw [TokenSafetyCache.valid, h.ttl, hcache, Cache.filter_lookup_after hkeeps, lastWrite_eq_find,
    hwrites]
  rfl

/-- A check fetches nothing and leaves the cache alone, or writes what it has fetched. -/
theorem Service.check_cases (s : Service) (i : Check) :
    (s.fetches i = none ∧ s.check i = { s with now := i.returned }) ∨
    ∃ safety, s.safety.valid i.mint i.lookedUp = none ∧
      s.check i = ⟨TokenSafetyCache.prune
          { s.safety with cache := s.safety.cache.insert i.mint (safety, i.inserted) } i.swept,
        i.returned, (i.mint, safety, i.inserted) :: s.fetched⟩ := by
  unfold Service.check Service.fetches TokenSafetyCache.checkSafety
  cases hvalid : s.safety.valid i.mint i.lookedUp with
  | some safety => exact Or.inl ⟨rfl, rfl⟩
  | none =>
    cases RugCheck.checkSafety i.mint i.response with
    | error e => exact Or.inl ⟨rfl, rfl⟩
    | ok safety => exact Or.inr ⟨safety, rfl, rfl⟩

/-- The verdict last fetched for a mint is the newest one. -/
theorem lastVerdict_newest {mint : String} {fetched : List (String × Cached)}
    (hsorted : fetched.Pairwise (fun newer older => older.2.2 ≤ newer.2.2))
    {f : String × Cached} (hmem : f ∈ fetched) (hmint : f.1 = mint) :
    ∃ last, lastVerdict mint fetched = some last ∧ f.2.2 ≤ last.2 := by
  induction fetched with
  | nil => cases hmem
  | cons newest rest ih =>
    obtain ⟨hnewest, hrest⟩ := List.pairwise_cons.mp hsorted
    by_cases hfirst : newest.1 = mint
    · refine ⟨newest.2, by simp [lastVerdict, hfirst], ?_⟩
      rcases List.mem_cons.mp hmem with rfl | hold
      · exact Nat.le_refl _
      · exact hnewest f hold
    · rcases List.mem_cons.mp hmem with rfl | hold
      · exact absurd hmint hfirst
      · obtain ⟨last, hlast, hle⟩ := ih hrest hold
        exact ⟨last, by simpa [lastVerdict, hfirst] using hlast, hle⟩

/-- Where a check has to ask, the verdicts it had are past their time. -/
theorem Service.Remembers.expired (h : s.Remembers ttlSecs) (hi : i.Timely s.now)
    (hvalid : s.safety.valid i.mint i.lookedUp = none) {f : String × Cached}
    (hmem : f ∈ s.fetched) (hmint : f.1 = i.mint) :
    f.2.2 + ttlSecs * 1000000000 ≤ i.inserted := by
  obtain ⟨last, hlast, hle⟩ := lastVerdict_newest h.sorted hmem hmint
  have hpast : last.2 ≤ i.lookedUp := by
    obtain ⟨g, hg, rfl⟩ := Option.map_eq_some_iff.mp hlast
    exact (h.past g (List.mem_of_find?_eq_some hg)).trans hi.lookedUp
  rw [h.valid_eq i.mint hi.lookedUp, hlast] at hvalid
  have hold : stillValid ttlSecs i.lookedUp last ≠ true := by
    intro hstill
    simp [hstill] at hvalid
  rw [Ne, stillValid_iff hpast] at hold
  have hinserted := hi.inserted
  omega

/-- Time passes. -/
theorem Service.Remembers.later (h : s.Remembers ttlSecs) {now : ℕ} (hle : s.now ≤ now) :
    Service.Remembers ttlSecs { s with now := now } := by
  refine ⟨h.ttl, ?_, fun f hf => (h.past f hf).trans hle, h.sorted, h.spaced, h.small⟩
  obtain ⟨ops, hcache, hwrites, hsweeps⟩ := h.cache
  exact ⟨ops, hcache, hwrites, fun keep hmem mint cached hvalid =>
    hsweeps keep hmem mint cached (stillValid_earlier hle hvalid)⟩

theorem Service.Remembers.check (h : s.Remembers ttlSecs) (hi : i.Timely s.now) :
    (s.check i).Remembers ttlSecs := by
  have hlater : s.now ≤ i.returned := hi.lookedUp.trans (hi.inserted.trans hi.returned)
  rcases s.check_cases i with ⟨_, heq⟩ | ⟨safety, hvalid, heq⟩
  · rw [heq]
    exact h.later hlater
  · have hsorted : ((i.mint, safety, i.inserted) :: s.fetched).Pairwise
        (fun newer older => older.2.2 ≤ newer.2.2) := by
      refine h.sorted.cons ?_
      intro f hf
      exact (h.past f hf).trans (hi.lookedUp.trans hi.inserted)
    have hspaced : ((i.mint, safety, i.inserted) :: s.fetched).Pairwise (fun newer older =>
        newer.1 = older.1 → older.2.2 + ttlSecs * 1000000000 ≤ newer.2.2) := by
      refine h.spaced.cons ?_
      intro f hf hmint
      exact h.expired hi hvalid hf hmint.symm
    have hpast : ∀ f ∈ (i.mint, safety, i.inserted) :: s.fetched, f.2.2 ≤ i.returned := by
      intro f hf
      rcases List.mem_cons.mp hf with rfl | hold
      · exact hi.returned
      · exact (h.past f hold).trans hlater
    obtain ⟨ops, hcache, hwrites, hsweeps⟩ := (h.later hlater).cache
    have hwritten : writes (.write i.mint (safety, i.inserted) :: ops) =
        (i.mint, safety, i.inserted) :: s.fetched := by
      rw [← hwrites]
      rfl
    have hinsert : s.safety.cache.insert i.mint (safety, i.inserted) =
        Cache.after (.write i.mint (safety, i.inserted) :: ops) := by
      rw [hcache]
      rfl
    have hswept (keep : Sweep String Cached)
        (hmem : CacheOp.sweep keep ∈ CacheOp.write i.mint (safety, i.inserted) :: ops) :
        CacheOp.sweep keep ∈ ops := by
      rcases List.mem_cons.mp hmem with hwrite | hold
      · cases hwrite
      · exact hold
    rw [heq]
    unfold TokenSafetyCache.prune
    split
    · refine ⟨h.ttl, ⟨.sweep (fun mint cached => stillValid ttlSecs (i.swept mint) cached) ::
        .write i.mint (safety, i.inserted) :: ops, ?_, hwritten, ?_⟩, hpast, hsorted, hspaced, ?_⟩
      · rw [h.ttl]
        exact congrArg (fun cache : Cache String Cached =>
          cache.retain (fun mint cached => stillValid ttlSecs (i.swept mint) cached)) hinsert
      · intro keep hmem mint cached hvalid'
        rcases List.mem_cons.mp hmem with hnew | hold
        · obtain rfl := CacheOp.sweep.inj hnew
          exact stillValid_earlier (hi.swept mint).2 hvalid'
        · exact hsweeps keep (hswept keep hold) mint cached hvalid'
      · refine Or.inr ?_
        intro mint cached hlookup newest hnewest
        obtain rfl := Option.some.inj hnewest
        rw [Cache.lookup_retain, Option.filter_eq_some_iff, h.ttl] at hlookup
        exact stillValid_earlier (hi.swept mint).1 hlookup.2
    · next hshort =>
      refine ⟨h.ttl, ⟨.write i.mint (safety, i.inserted) :: ops, hinsert, hwritten, ?_⟩, hpast,
        hsorted, hspaced, Or.inl (Nat.le_of_not_lt hshort)⟩
      exact fun keep hmem => hsweeps keep (hswept keep hmem)

end Steps

theorem isCached_eq (c : TokenSafetyCache) (mint : String) (now : ℕ) :
    c.isCached mint now = (c.valid mint now).isSome := by
  unfold TokenSafetyCache.isCached TokenSafetyCache.valid
  cases c.cache.lookup mint with
  | none => rfl
  | some cached => cases hvalid : stillValid c.ttlSecs now cached <;> simp [hvalid]

theorem run_remembers {ttlSecs began : ℕ} {es : List Check} {s : Service}
    (hr : Run Service.Step (.start ttlSecs began) es s) : s.Remembers ttlSecs := by
  apply hr.invariant (fun _ s => s.Remembers ttlSecs)
  · exact ⟨rfl, ⟨[], rfl, rfl, nofun⟩, nofun, List.Pairwise.nil, List.Pairwise.nil,
      Or.inl (Nat.zero_le _)⟩
  · rintro es s i t _ h ⟨hi, rfl⟩
    exact h.check hi

/-- In every run a check answers with the verdict last fetched for its mint while that is younger
than the time to live, and with a new one otherwise, as if the cache were never swept; two
verdicts fetched for one mint are the time to live apart; and beyond a thousand entries the cache
holds only those that were valid at the last fetch. -/
theorem answers_as_fetched (ttlSecs began : ℕ) (es : List Check) (s : Service)
    (hr : Run Service.Step (.start ttlSecs began) es s) :
    (∀ i : Check, s.now ≤ i.lookedUp →
      (s.safety.checkSafety i).2 =
        (match (lastVerdict i.mint s.fetched).filter (stillValid ttlSecs i.lookedUp) with
        | some cached => .ok cached.1
        | none => RugCheck.checkSafety i.mint i.response) ∧
      s.safety.isCached i.mint i.lookedUp =
        ((lastVerdict i.mint s.fetched).filter (stillValid ttlSecs i.lookedUp)).isSome) ∧
    s.fetched.Pairwise (fun newer older => newer.1 = older.1 →
      older.2.2 + ttlSecs * 1000000000 ≤ newer.2.2) ∧
    (s.safety.cache.keys.length ≤ 1000 ∨ ∀ mint cached,
      s.safety.cache.lookup mint = some cached → ∀ newest ∈ s.fetched.head?,
        stillValid ttlSecs newest.2.2 cached = true) := by
  have h := run_remembers hr
  refine ⟨?_, h.spaced, h.small⟩
  intro i hlookedUp
  rw [isCached_eq, TokenSafetyCache.checkSafety, h.valid_eq i.mint hlookedUp]
  cases (lastVerdict i.mint s.fetched).filter (stillValid ttlSecs i.lookedUp) with
  | some cached => exact ⟨rfl, rfl⟩
  | none =>
    rw [Option.map_none]
    cases RugCheck.checkSafety i.mint i.response with
    | error e => exact ⟨rfl, rfl⟩
    | ok safety => exact ⟨rfl, rfl⟩

def checkAt (response : ReportResponse) (time : ℕ) : Check :=
  ⟨"Mint", response, time, time, fun _ => time, time⟩

theorem checkAt_timely (response : ReportResponse) {now time : ℕ} (h : now ≤ time) :
    (checkAt response time).Timely now :=
  ⟨h, Nat.le_refl _, fun _ => ⟨Nat.le_refl _, Nat.le_refl _⟩, Nat.le_refl _⟩

/-- Three checks of a token, the last after a minute. The second is answered from the cache
while the service is down. -/
def threeChecks : List Check :=
  [] ++ [checkAt (.ok none) 1] ++ [checkAt (.error "down") 59000000000] ++
    [checkAt (.ok none) 60000000001]

def checkedThrice : Service := threeChecks.foldl Service.check (.start 60 0)

theorem threeChecks_run : Run Service.Step (.start 60 0) threeChecks checkedThrice :=
  ((Run.nil.snoc ⟨checkAt_timely _ (by decide), rfl⟩).snoc ⟨checkAt_timely _ (by decide), rfl⟩).snoc
    ⟨checkAt_timely _ (by decide), rfl⟩

theorem answers_as_fetched_thrice : checkedThrice.fetched.map (fun f => f.2.2) = [60000000001, 1] ∧
    checkedThrice.fetched.Pairwise (fun newer older => newer.1 = older.1 →
      older.2.2 + 60 * 1000000000 ≤ newer.2.2) :=
  ⟨by decide +kernel, (answers_as_fetched 60 0 threeChecks checkedThrice threeChecks_run).2.1⟩

end SolanaArb.RugCheck
