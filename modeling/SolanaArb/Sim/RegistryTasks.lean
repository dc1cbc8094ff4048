import SolanaArb.Sim.Candidates
import SolanaArb.General.Base58
import SolanaArb.General.Runs
import SolanaArb.General.Tables

/-! # Concurrent discoveries and the registry

Scans and registering tasks run side by side. A scan looks the token up and discovers
its pools only when it finds none; the sniper and the discovery loops always do. A
discovery gets its DexScreener response and later, after the account fetches, stores
what it found. No lock is held in between, and the last writer wins.
-/
namespace SolanaArb.RegistryTasks
open SolanaArb.AmmQuoter SolanaArb.LocalScanner SolanaArb.General

/-- `get_or_discover_pools`, or `discover_pools_for_token` and then `register_pools`. -/
inductive Caller
  | scan | register
  deriving DecidableEq, Repr

abbrev PairsResponse := Except String (Option (List DexScreenerPair))

/-- A discovery under way, with the time of its response once there is one. -/
structure Flight where
  caller : Caller
  tokenMint : String
  begun : ℕ
  answer : Option (ℕ × PairsResponse)

/-- When the response behind a registry entry was obtained, and when it was stored. -/
structure Origin where
  answered : ℕ
  stored : ℕ
  deriving DecidableEq, Repr

structure World where
  registry : PoolRegistry
  flights : AList (fun _ : ℕ => Flight)
  time : ℕ
  /-- Not in the program: where each entry comes from. -/
  origin : String → Option Origin

inductive Event
  | start (task : ℕ) (caller : Caller) (tokenMint : String)
  | respond (task : ℕ) (response : PairsResponse)
  | finish (task : ℕ) (raydiumRpc pumpswapRpc : Rpc)

def Caller.select : Caller → List KnownPool → List KnownPool
  | .scan, pools => dedupByDex pools
  | .register, pools => pools

/-- The lookup of a scan finds an entry and the scan goes no further. -/
def served (w : World) (caller : Caller) (tokenMint : String) : Bool :=
  caller == .scan && !((w.registry.lookup tokenMint).getD []).isEmpty

def World.tick (w : World) : World := { w with time := w.time + 1 }

section Base58
variable (bs58 : Bytes → String)

/-- What a flight stores when its account fetches end in this way. -/
def Flight.stores (f : Flight) (raydiumRpc pumpswapRpc : Rpc) : Option (ℕ × List KnownPool) := do
  let (answered, response) ← f.answer
  let found ← (discoverPoolsForToken bs58 ⟨response, raydiumRpc, pumpswapRpc⟩).toOption
  let pools := f.caller.select found
  if pools.isEmpty then none else some (answered, pools)

def World.store (w : World) (tokenMint : String) (stored : Option (ℕ × List KnownPool)) : World :=
  match stored with
  | none => w
  | some (answered, pools) =>
    { w with
      registry := registerPools w.registry tokenMint pools
      origin := Function.update w.origin tokenMint (some ⟨answered, w.time⟩) }

/-- Events that do not apply, such as a response to an unknown task, change nothing. -/
def World.next (w : World) : Event → World
  | .start task caller tokenMint =>
    if (w.flights.lookup task).isSome ∨ served w caller tokenMint = true then w.tick
    else { w.tick with flights := w.flights.insert task ⟨caller, tokenMint, w.time, none⟩ }
  | .respond task response =>
    match w.flights.lookup task with
    | none => w.tick
    | some f =>
      if f.answer.isSome then w.tick
      else { w.tick with
        flights := w.flights.insert task { f with answer := some (w.time, response) } }
  | .finish task raydiumRpc pumpswapRpc =>
    match w.flights.lookup task with
    | none => w.tick
    | some f =>
      if f.answer.isNone then w.tick
      else { (w.store f.tokenMint (f.stores bs58 raydiumRpc pumpswapRpc)).tick with
        flights := w.flights.erase task }

def Step (w : World) (e : Event) (w' : World) : Prop := w' = w.next bs58 e

end Base58

def World.init : World := ⟨∅, ∅, 0, fun _ => none⟩

section Steps
variable {bs58 : Bytes → String} {w w' : World} {e : Event} {task : ℕ} {f : Flight}

/-- Every event takes one unit of time, and only a finishing discovery with pools to
store touches the registry. -/
theorem Step.cases (h : Step bs58 w e w') : w'.time = w.time + 1 ∧
    ((w'.registry = w.registry ∧ w'.origin = w.origin) ∨
      ∃ task raydiumRpc pumpswapRpc f answered pools, e = .finish task raydiumRpc pumpswapRpc ∧
        w.flights.lookup task = some f ∧
        f.stores bs58 raydiumRpc pumpswapRpc = some (answered, pools) ∧
        w'.registry = registerPools w.registry f.tokenMint pools ∧
        w'.origin = Function.update w.origin f.tokenMint (some ⟨answered, w.time⟩)) := by
  rw [h]
  cases e with
  | start task caller tokenMint =>
    simp only [World.next]
    split
    · exact ⟨rfl, Or.inl ⟨rfl, rfl⟩⟩
    · exact ⟨rfl, Or.inl ⟨rfl, rfl⟩⟩
  | respond task response =>
    simp only [World.next]
    cases w.flights.lookup task with
    | none => exact ⟨rfl, Or.inl ⟨rfl, rfl⟩⟩
    | some f =>
      dsimp only
      split
      · exact ⟨rfl, Or.inl ⟨rfl, rfl⟩⟩
      · exact ⟨rfl, Or.inl ⟨rfl, rfl⟩⟩
  | finish task raydiumRpc pumpswapRpc =>
    simp only [World.next]
    cases hlookup : w.flights.lookup task with
    | none => exact ⟨rfl, Or.inl ⟨rfl, rfl⟩⟩
    | some f =>
      dsimp only
      split
      · exact ⟨rfl, Or.inl ⟨rfl, rfl⟩⟩
      · cases hstores : f.stores bs58 raydiumRpc pumpswapRpc with
        | none => exact ⟨rfl, Or.inl ⟨rfl, rfl⟩⟩
        | some stored =>
          obtain ⟨answered, pools⟩ := stored
          exact ⟨rfl, Or.inr ⟨task, raydiumRpc, pumpswapRpc, f, answered, pools, rfl, hlookup,
            hstores, rfl, rfl⟩⟩

/-- A flight was there before, has just begun, or has just got its response. -/
theorem Step.flights (h : Step bs58 w e w') (hf : w'.flights.lookup task = some f) :
    w.flights.lookup task = some f ∨
    (∃ caller tokenMint, e = .start task caller tokenMint ∧ served w caller tokenMint = false ∧
      f = ⟨caller, tokenMint, w.time, none⟩) ∨
    ∃ f₀ response, e = .respond task response ∧ w.flights.lookup task = some f₀ ∧
      f = { f₀ with answer := some (w.time, response) } := by
  rw [h] at hf
  cases e with
  | start task' caller tokenMint =>
    simp only [World.next] at hf
    split at hf
    · exact Or.inl hf
    · next hnew =>
      rw [not_or] at hnew
      rcases lookup_insert_cases hf with ⟨rfl, rfl⟩ | hf
      · exact Or.inr (Or.inl ⟨caller, tokenMint, rfl, Bool.eq_false_of_not_eq_true hnew.2, rfl⟩)
      · exact Or.inl hf
  | respond task' response =>
    simp only [World.next] at hf
    cases hlookup : w.flights.lookup task' with
    | none =>
      rw [hlookup] at hf
      exact Or.inl hf
    | some f₀ =>
      simp only [hlookup] at hf
      split at hf
      · exact Or.inl hf
      · rcases lookup_insert_cases hf with ⟨rfl, rfl⟩ | hf
        · exact Or.inr (Or.inr ⟨f₀, response, rfl, hlookup, rfl⟩)
        · exact Or.inl hf
  | finish task' raydiumRpc pumpswapRpc =>
    simp only [World.next] at hf
    cases hlookup : w.flights.lookup task' with
    | none =>
      rw [hlookup] at hf
      exact Or.inl hf
    | some f₀ =>
      simp only [hlookup] at hf
      split at hf
      · exact Or.inl hf
      · exact Or.inl (lookup_of_lookup_erase hf)

theorem stores_spec {raydiumRpc pumpswapRpc : Rpc} {answered : ℕ} {pools : List KnownPool}
    (h : f.stores bs58 raydiumRpc pumpswapRpc = some (answered, pools)) :
    pools ≠ [] ∧ ∃ response found, f.answer = some (answered, response) ∧
      discoverPoolsForToken bs58 ⟨response, raydiumRpc, pumpswapRpc⟩ = .ok found ∧
      pools = f.caller.select found := by
  unfold Flight.stores at h
  obtain ⟨⟨a, response⟩, hanswer, h⟩ := Option.bind_eq_some_iff.mp h
  obtain ⟨found, hfound, h⟩ := Option.bind_eq_some_iff.mp h
  simp only [Option.ite_none_left_eq_some, Option.some.injEq, Prod.mk.injEq] at h
  obtain ⟨hne, rfl, rfl⟩ := h
  exact ⟨fun hnil => hne (by rw [hnil]; rfl), response, found, hanswer,
    toOption_eq_some.mp hfound, rfl⟩

end Steps

/-- Responses come after the start of their discovery and before the store of its
result, and a scan is under way only since a time when its token had no entry. -/
structure Timed (w : World) : Prop where
  entry : ∀ tokenMint, (w.origin tokenMint).isSome → (w.registry.lookup tokenMint).getD [] ≠ []
  origin : ∀ tokenMint o, w.origin tokenMint = some o → o.answered < o.stored ∧ o.stored < w.time
  flight : ∀ task f, w.flights.lookup task = some f → f.begun < w.time ∧
    ∀ answered response, f.answer = some (answered, response) →
      f.begun < answered ∧ answered < w.time
  scan : ∀ task f, w.flights.lookup task = some f → f.caller = .scan →
    ∀ o, w.origin f.tokenMint = some o → f.begun < o.stored

section Invariant
variable {bs58 : Bytes → String} {w w' : World} {e : Event}

theorem init_timed : Timed World.init := by
  constructor
  · intro tokenMint h
    cases h
  · intro tokenMint o h
    cases h
  · intro task f h
    simp [World.init] at h
  · intro task f h
    simp [World.init] at h

theorem registerPools_lookup {reg : PoolRegistry} {tokenMint : String} {pools : List KnownPool}
    (hne : pools ≠ []) : (registerPools reg tokenMint pools).lookup tokenMint = some pools := by
  have hempty : pools.isEmpty = false := by simpa using hne
  rw [registerPools, hempty, if_neg Bool.false_ne_true, AList.lookup_insert]

theorem registerPools_lookup_ne {reg : PoolRegistry} {tokenMint other : String}
    {pools : List KnownPool} (h : other ≠ tokenMint) :
    (registerPools reg tokenMint pools).lookup other = reg.lookup other := by
  unfold registerPools
  split
  · rfl
  · exact AList.lookup_insert_ne h

/-- The origin of an entry is as old as before, or it has just been stored. -/
theorem Step.origin_cases (h : Step bs58 w e w') {tokenMint : String} {o : Origin}
    (ho : w'.origin tokenMint = some o) : w.origin tokenMint = some o ∨
      ∃ task raydiumRpc pumpswapRpc f pools, e = .finish task raydiumRpc pumpswapRpc ∧
        w.flights.lookup task = some f ∧ f.tokenMint = tokenMint ∧ o.stored = w.time ∧
        f.stores bs58 raydiumRpc pumpswapRpc = some (o.answered, pools) := by
  obtain ⟨_, ⟨_, hsame⟩ | ⟨task, r, p, f, answered, pools, he, hf, hstores, _, horigin⟩⟩ := h.cases
  · rw [hsame] at ho
    exact Or.inl ho
  · rw [horigin] at ho
    by_cases hmint : tokenMint = f.tokenMint
    · rw [hmint, Function.update_self, Option.some.injEq] at ho
      subst ho
      exact Or.inr ⟨task, r, p, f, pools, he, hf, hmint.symm, rfl, hstores⟩
    · rw [Function.update_of_ne hmint] at ho
      exact Or.inl ho

theorem Timed.step_entry (ht : Timed w) (h : Step bs58 w e w') (tokenMint : String)
    (hsome : (w'.origin tokenMint).isSome) : (w'.registry.lookup tokenMint).getD [] ≠ [] := by
  obtain ⟨_, ⟨hreg, horigin⟩ | ⟨task, r, p, f, answered, pools, _, _, hstores, hreg, horigin⟩⟩ :=
    h.cases
  · rw [hreg]
    exact ht.entry tokenMint (horigin ▸ hsome)
  · rw [hreg]
    by_cases hmint : tokenMint = f.tokenMint
    · rw [hmint, registerPools_lookup (stores_spec hstores).1]
      exact (stores_spec hstores).1
    · rw [registerPools_lookup_ne hmint]
      rw [horigin, Function.update_of_ne hmint] at hsome
      exact ht.entry tokenMint hsome

theorem Timed.step (ht : Timed w) (h : Step bs58 w e w') : Timed w' := by
  have htime := h.cases.1
  constructor
  · exact ht.step_entry h
  · intro tokenMint o ho
    rcases h.origin_cases ho with ho | ⟨task, r, p, f, pools, _, hf, _, hstored, hstores⟩
    · obtain ⟨hlt, hlt'⟩ := ht.origin tokenMint o ho
      exact ⟨hlt, by omega⟩
    · obtain ⟨_, response, found, hanswer, _, _⟩ := stores_spec hstores
      obtain ⟨_, hanswered⟩ := (ht.flight task f hf).2 o.answered response hanswer
      exact ⟨by omega, by omega⟩
  · intro task f hf
    rcases h.flights hf with hf | ⟨caller, tokenMint, _, _, rfl⟩ | ⟨f₀, response, _, hf₀, rfl⟩
    · obtain ⟨hbegun, hanswer⟩ := ht.flight task f hf
      refine ⟨by omega, ?_⟩
      intro answered response ha
      obtain ⟨hlt, hlt'⟩ := hanswer answered response ha
      exact ⟨hlt, by omega⟩
    · refine ⟨by simp only; omega, ?_⟩
      intro answered response ha
      cases ha
    · obtain ⟨hbegun, _⟩ := ht.flight task f₀ hf₀
      refine ⟨by simp only; omega, ?_⟩
      intro answered response' ha
      cases ha
      exact ⟨hbegun, by omega⟩
  · intro task f hf hscan o ho
    rcases h.origin_cases ho with ho' | ⟨task', r, p, g, pools, he, _, _, hstored, _⟩
    · rcases h.flights hf with hf | ⟨caller, tokenMint, _, hserved, rfl⟩ | ⟨f₀, response, _, hf₀, rfl⟩
      · exact ht.scan task f hf hscan o ho'
      · -- A scan that has just begun found no entry.
        have hentry := ht.entry tokenMint (by rw [ho']; rfl)
        simp only at hscan
        subst hscan
        simp [served] at hserved
        exact absurd hserved hentry
      · exact ht.scan task f₀ hf₀ hscan o ho'
    · rcases h.flights hf with hf | ⟨_, _, hstart, _⟩ | ⟨_, _, hrespond, _⟩
      · rw [hstored]
        exact (ht.flight task f hf).1
      · rw [he] at hstart
        cases hstart
      · rw [he] at hrespond
        cases hrespond

theorem run_timed {es : List Event} (hr : Run (Step bs58) World.init es w) : Timed w :=
  hr.invariant (fun _ w => Timed w) init_timed (fun _ _ _ _ _ ht h => ht.step h)

end Invariant

/-- In every run an entry changes only when a discovery of its token finishes, to the
non-empty pools that discovery found; and a scan only ever replaces entries stored after its
own lookup. If it goes back to an earlier response, the discovery of that response had begun
before the entry it replaces was stored, by the order of the times alone: it begins before its
response, and an entry is stored after its own. -/
theorem registry_last_writer (bs58 : Bytes → String) (es : List Event) (w w' : World) (e : Event)
    (hr : Run (Step bs58) World.init es w) (hstep : Step bs58 w e w') (tokenMint : String) :
    (w'.registry.lookup tokenMint = w.registry.lookup tokenMint ∧
      w'.origin tokenMint = w.origin tokenMint) ∨
    ∃ task raydiumRpc pumpswapRpc f answered pools, e = .finish task raydiumRpc pumpswapRpc ∧
      w.flights.lookup task = some f ∧ f.tokenMint = tokenMint ∧
      f.stores bs58 raydiumRpc pumpswapRpc = some (answered, pools) ∧ pools ≠ [] ∧
      w'.registry.lookup tokenMint = some pools ∧
      w'.origin tokenMint = some ⟨answered, w.time⟩ ∧
      ∀ o, w.origin tokenMint = some o →
        (answered ≤ o.answered → f.begun < o.stored) ∧ (f.caller = .scan → f.begun < o.stored) := by
  have ht := run_timed hr
  obtain ⟨_, ⟨hreg, horigin⟩ | ⟨task, r, p, f, answered, pools, he, hf, hstores, hreg, horigin⟩⟩ :=
    hstep.cases
  · exact Or.inl ⟨by rw [hreg], by rw [horigin]⟩
  · obtain ⟨hne, response, found, hanswer, _, _⟩ := stores_spec hstores
    by_cases hmint : tokenMint = f.tokenMint
    · subst hmint
      refine Or.inr ⟨task, r, p, f, answered, pools, he, hf, rfl, hstores, hne, ?_, ?_, ?_⟩
      · rw [hreg]
        exact registerPools_lookup hne
      · rw [horigin]
        exact Function.update_self ..
      · intro o ho
        obtain ⟨hbegun, _⟩ := (ht.flight task f hf).2 answered response hanswer
        obtain ⟨hlt, _⟩ := ht.origin f.tokenMint o ho
        exact ⟨fun hback => by omega, fun hscan => ht.scan task f hf hscan o ho⟩
    · refine Or.inl ⟨?_, ?_⟩
      · rw [hreg]
        exact registerPools_lookup_ne hmint
      · rw [horigin]
        exact Function.update_of_ne hmint _ _

def curvePair : DexScreenerPair :=
  ⟨"CurveAddress", "pumpfun", "TokenMint", wsolMint, some (some 5000)⟩
def graduatedPair : DexScreenerPair :=
  ⟨"PoolAddress", "pumpswap", "TokenMint", wsolMint, some (some 5000)⟩

/-- An endpoint that answers every address with the same account. -/
def constantRpc (data : Bytes) : Rpc :=
  fun addresses => .ok (some (addresses.map (fun _ => some (.ok data))))

/-- A scan asks before the graduation and finishes last; in between the sniper asks
after the graduation and registers the new pool. -/
def overtaken : List Event :=
  [.start 1 .scan "TokenMint", .respond 1 (.ok (some [curvePair])),
    .start 2 .register "TokenMint", .respond 2 (.ok (some [curvePair, graduatedPair])),
    .finish 2 (constantRpc []) (constantRpc (List.replicate 301 0))]

def beforeScanStores : World := overtaken.foldl (World.next base58Encode) World.init

def scanStores : Event := .finish 1 (constantRpc []) (constantRpc [])

theorem overtaken_run :
    Run (Step base58Encode) World.init overtaken beforeScanStores :=
  (run_foldl_iff (World.next base58Encode) World.init overtaken beforeScanStores).mpr rfl

/-- The scan's older list replaces the sniper's newer one, and the pool is lost. -/
theorem older_response_wins :
    Run (Step base58Encode) World.init overtaken beforeScanStores ∧
    beforeScanStores.origin "TokenMint" = some ⟨3, 4⟩ ∧
    (beforeScanStores.next base58Encode scanStores).origin "TokenMint" = some ⟨1, 5⟩ ∧
    ((beforeScanStores.registry.lookup "TokenMint").getD []).map KnownPool.poolAddress =
      ["CurveAddress", "PoolAddress"] ∧
    (((beforeScanStores.next base58Encode scanStores).registry.lookup "TokenMint").getD []).map
      KnownPool.poolAddress = ["CurveAddress"] :=
  ⟨overtaken_run, by decide +kernel, by decide +kernel, by decide +kernel, by decide +kernel⟩

theorem registry_last_writer_overtaken :
    ((beforeScanStores.next base58Encode scanStores).registry.lookup "TokenMint" =
        beforeScanStores.registry.lookup "TokenMint" ∧
      (beforeScanStores.next base58Encode scanStores).origin "TokenMint" =
        beforeScanStores.origin "TokenMint") ∨
    ∃ task raydiumRpc pumpswapRpc f answered pools,
      scanStores = .finish task raydiumRpc pumpswapRpc ∧
      beforeScanStores.flights.lookup task = some f ∧ f.tokenMint = "TokenMint" ∧
      f.stores base58Encode raydiumRpc pumpswapRpc = some (answered, pools) ∧ pools ≠ [] ∧
      (beforeScanStores.next base58Encode scanStores).registry.lookup "TokenMint" = some pools ∧
      (beforeScanStores.next base58Encode scanStores).origin "TokenMint" =
        some ⟨answered, beforeScanStores.time⟩ ∧
      ∀ o, beforeScanStores.origin "TokenMint" = some o →
        (answered ≤ o.answered → f.begun < o.stored) ∧ (f.caller = .scan → f.begun < o.stored) :=
  registry_last_writer base58Encode overtaken beforeScanStores _ scanStores overtaken_run rfl
    "TokenMint"

end SolanaArb.RegistryTasks
