import Mathlib.Data.List.Basic
import Mathlib.Data.List.Perm.Basic
import Mathlib.Order.Basic

/-! # Fixed-offset fields of a buffer

Fields are written into a buffer one after another, each over the elements at its own
offset. Writes keep the length, and a range that no write touches reads as before; so
fields that lie apart all read back, in whatever order they were written.
-/
namespace SolanaArb.General

variable {α : Type*}

def readAt (data : List α) (off len : ℕ) : List α := (data.drop off).take len

def writeAt (data : List α) (off : ℕ) (content : List α) : List α :=
  data.take off ++ content ++ data.drop (off + content.length)

/-- A field value at its offset. -/
structure BufferField (α : Type*) where
  offset : ℕ
  content : List α

namespace BufferField

def stop (f : BufferField α) : ℕ := f.offset + f.content.length

def Apart (f g : BufferField α) : Prop := f.stop ≤ g.offset ∨ g.stop ≤ f.offset

theorem Apart.symm {f g : BufferField α} (h : f.Apart g) : g.Apart f := Or.symm h

end BufferField

def writeAll (data : List α) (fields : List (BufferField α)) : List α :=
  fields.foldl (fun d f => writeAt d f.offset f.content) data

theorem getElem?_readAt (data : List α) (off len i : ℕ) :
    (readAt data off len)[i]? = if i < len then data[off + i]? else none := by
  rw [readAt, List.getElem?_take]
  split
  · rw [List.getElem?_drop]
  · rfl

theorem length_readAt {data : List α} {off len : ℕ} (h : off + len ≤ data.length) :
    (readAt data off len).length = len := by
  rw [readAt, List.length_take, List.length_drop]
  omega

theorem length_writeAt {data content : List α} {off : ℕ}
    (h : off + content.length ≤ data.length) : (writeAt data off content).length = data.length := by
  simp only [writeAt, List.length_append, List.length_take, List.length_drop]
  omega

/-- A write puts its content over its own range and leaves every other element. -/
theorem getElem?_writeAt {data content : List α} {off : ℕ}
    (h : off + content.length ≤ data.length) (i : ℕ) :
    (writeAt data off content)[i]? =
      if off ≤ i ∧ i < off + content.length then content[i - off]? else data[i]? := by
  have htake : (data.take off).length = off := by
    rw [List.length_take]
    omega
  rw [writeAt, List.append_assoc]
  rcases Nat.lt_or_ge i off with hlt | hge
  · rw [List.getElem?_append_left (by omega), List.getElem?_take_of_lt hlt, if_neg (by omega)]
  · rw [List.getElem?_append_right (by omega), htake]
    rcases Nat.lt_or_ge i (off + content.length) with hin | hout
    · rw [List.getElem?_append_left (by omega), if_pos ⟨hge, hin⟩]
    · rw [List.getElem?_append_right (by omega), List.getElem?_drop, if_neg (by omega)]
      congr 1
      omega

theorem readAt_writeAt_same {data content : List α} {off : ℕ}
    (h : off + content.length ≤ data.length) :
    readAt (writeAt data off content) off content.length = content := by
  apply List.ext_getElem?
  intro i
  rw [getElem?_readAt, getElem?_writeAt h]
  split
  · next hi =>
    rw [if_pos (by omega), Nat.add_sub_cancel_left]
  · next hi => exact (List.getElem?_eq_none (by omega)).symm

theorem readAt_writeAt_apart {data content : List α} {off i n : ℕ}
    (h : off + content.length ≤ data.length) (hapart : off + content.length ≤ i ∨ i + n ≤ off) :
    readAt (writeAt data off content) i n = readAt data i n := by
  apply List.ext_getElem?
  intro k
  rw [getElem?_readAt, getElem?_readAt, getElem?_writeAt h]
  split
  · next hk => exact if_neg (by omega)
  · rfl

/-- Fields that fit still do after a write. -/
theorem fits_writeAt {data : List α} {f : BufferField α} {rest : List (BufferField α)}
    (hf : f.stop ≤ data.length) (hrest : ∀ g ∈ rest, g.stop ≤ data.length) :
    ∀ g ∈ rest, g.stop ≤ (writeAt data f.offset f.content).length := by
  intro g hg
  rw [length_writeAt hf]
  exact hrest g hg

theorem length_writeAll {data : List α} {fields : List (BufferField α)}
    (hfits : ∀ f ∈ fields, f.stop ≤ data.length) :
    (writeAll data fields).length = data.length := by
  induction fields generalizing data with
  | nil => rfl
  | cons f rest ih =>
    obtain ⟨hf, hrest⟩ := List.forall_mem_cons.mp hfits
    exact (ih (fits_writeAt hf hrest)).trans (length_writeAt hf)

/-- A range apart from every write reads as before the writes. -/
theorem readAt_writeAll_apart {data : List α} {fields : List (BufferField α)} {i n : ℕ}
    (hfits : ∀ f ∈ fields, f.stop ≤ data.length)
    (hapart : ∀ f ∈ fields, f.stop ≤ i ∨ i + n ≤ f.offset) :
    readAt (writeAll data fields) i n = readAt data i n := by
  induction fields generalizing data with
  | nil => rfl
  | cons f rest ih =>
    obtain ⟨hf, hrest⟩ := List.forall_mem_cons.mp hfits
    obtain ⟨hf_apart, hrest_apart⟩ := List.forall_mem_cons.mp hapart
    have hlater := ih (fits_writeAt hf hrest) hrest_apart
    exact hlater.trans (readAt_writeAt_apart hf hf_apart)

/-- Fields that lie apart all read back: the later writes of a run leave the earlier
ones as they are. -/
theorem readAt_writeAll {data : List α} {fields : List (BufferField α)}
    (happart : fields.Pairwise BufferField.Apart) (hfits : ∀ f ∈ fields, f.stop ≤ data.length)
    {f : BufferField α} (hf : f ∈ fields) :
    readAt (writeAll data fields) f.offset f.content.length = f.content := by
  induction fields generalizing data with
  | nil => cases hf
  | cons g rest ih =>
    obtain ⟨hg_apart, hrest_apart⟩ := List.pairwise_cons.mp happart
    obtain ⟨hg, hrest⟩ := List.forall_mem_cons.mp hfits
    have hrest_fits := fits_writeAt hg hrest
    rcases List.mem_cons.mp hf with rfl | hmem
    · have hkept := readAt_writeAll_apart (i := f.offset) (n := f.content.length) hrest_fits
        fun h hh => (hg_apart h hh).symm
      exact hkept.trans (readAt_writeAt_same hg)
    · exact ih hrest_apart hrest_fits hmem

/-- The order of the writes does not matter. -/
theorem readAt_writeAll_perm {data : List α} {fields writes : List (BufferField α)}
    (happart : fields.Pairwise BufferField.Apart) (hfits : ∀ f ∈ fields, f.stop ≤ data.length)
    (hperm : writes.Perm fields) {f : BufferField α} (hf : f ∈ fields) :
    readAt (writeAll data writes) f.offset f.content.length = f.content :=
  readAt_writeAll (hperm.symm.pairwise happart BufferField.Apart.symm)
    (fun g hg => hfits g (hperm.mem_iff.mp hg)) (hperm.mem_iff.mpr hf)

end SolanaArb.General
