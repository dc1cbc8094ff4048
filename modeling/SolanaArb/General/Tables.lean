import Mathlib.Data.List.AList

/-! # Entries of association lists

What an entry of a table may be after an insertion or a removal.
-/
namespace SolanaArb.General
variable {κ β : Type*} [DecidableEq κ] {table : AList (fun _ : κ => β)} {k k' : κ} {v v' : β}

theorem lookup_insert_cases (h : (table.insert k' v').lookup k = some v) :
    (k = k' ∧ v = v') ∨ table.lookup k = some v := by
  by_cases hk : k = k'
  · subst hk
    rw [AList.lookup_insert, Option.some.injEq] at h
    exact Or.inl ⟨rfl, h.symm⟩
  · rw [AList.lookup_insert_ne hk] at h
    exact Or.inr h

theorem lookup_of_lookup_erase (h : (table.erase k').lookup k = some v) :
    table.lookup k = some v := by
  by_cases hk : k = k'
  · subst hk
    rw [AList.lookup_erase] at h
    cases h
  · rwa [AList.lookup_erase_ne hk] at h

/-- A property of all entries is kept by inserting an entry that has it. -/
theorem forall_lookup_insert {P : κ → β → Prop} (hall : ∀ k v, table.lookup k = some v → P k v)
    (hnew : P k' v') (k : κ) (v : β) (h : (table.insert k' v').lookup k = some v) : P k v := by
  rcases lookup_insert_cases h with ⟨rfl, rfl⟩ | hold
  · exact hnew
  · exact hall k v hold

/-- Every value is updated or dropped. -/
def updateAll (table : AList (fun _ : κ => β)) (f : β → Option β) : AList (fun _ : κ => β) where
  entries := table.entries.filterMap (fun entry => (f entry.2).map (Sigma.mk entry.1))
  nodupKeys := by
    rw [List.nodupKeys_iff_pairwise, List.pairwise_filterMap]
    apply (List.nodupKeys_iff_pairwise.mp table.nodupKeys).imp
    intro old old' hne new hnew new' hnew'
    obtain ⟨_, _, rfl⟩ := Option.map_eq_some_iff.mp hnew
    obtain ⟨_, _, rfl⟩ := Option.map_eq_some_iff.mp hnew'
    exact hne

theorem lookup_updateAll (f : β → Option β) :
    (updateAll table f).lookup k = (table.lookup k).bind f := by
  apply Option.ext
  intro new
  rw [Option.bind_eq_some_iff]
  simp only [← Option.mem_def, AList.mem_lookup_iff, updateAll, List.mem_filterMap]
  constructor
  · rintro ⟨⟨k', old⟩, hmem, hnew⟩
    obtain ⟨_, hf, heq⟩ := Option.map_eq_some_iff.mp hnew
    cases heq
    exact ⟨old, hmem, hf⟩
  · rintro ⟨old, hmem, hf⟩
    exact ⟨⟨k, old⟩, hmem, Option.map_eq_some_iff.mpr ⟨new, hf, rfl⟩⟩

end SolanaArb.General
