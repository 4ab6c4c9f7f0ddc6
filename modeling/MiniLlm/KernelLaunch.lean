import MiniLlm.BlockReduction
import MiniLlm.FlatMemory
import MiniLlm.RowBuffers

/-!
# Launches over device buffers

A device pointer has an address and a number of floats behind it. A load or a
store outside of them, or of a `float4` that is not aligned to its size, is
the `none` case. So is signed arithmetic that overflows, which is undefined.
A launch runs every thread of every block of its grid and is the list of
their stores. Loads read what was there before the launch: no kernel here
loads a cell that another of its threads stores to.
-/

set_option autoImplicit false

namespace MiniLlm.KernelLaunch

open FlatMemory RowBuffers BlockReduction

/-- `INT_MAX` -/
def intMax : ℕ := 2^31-1

/-- The most blocks of a launch in the second dimension of its grid. -/
def maxGridY : ℕ := 65535

structure Float4 (R : Type*) where
  x : R
  y : R
  z : R
  w : R

def Float4.ofFn {R : Type*} (f : ℕ → R) : Float4 R := ⟨f 0,f 1,f 2,f 3⟩

theorem Float4.of_fn_congr {R : Type*} {f g : ℕ → R} (h : ∀ j < 4, f j = g j) :
    Float4.ofFn f = .ofFn g := by
  unfold Float4.ofFn
  rw [h 0 (by omega), h 1 (by omega), h 2 (by omega), h 3 (by omega)]

/-- A pointer to `size` floats; `address` counts floats as well. -/
structure Buffer (R : Type*) where
  address : ℕ
  size : ℕ
  data : Memory R

namespace Buffer

variable {R : Type*} (p : Buffer R) (i : ℕ)

def withData (data : Memory R) : Buffer R := ⟨p.address,p.size,data⟩

/-- The byte address of element `i` is a multiple of 16. -/
def Aligned16 : Prop := (p.address+i)%4 = 0

instance : Decidable (p.Aligned16 i) := inferInstanceAs (Decidable ((p.address+i)%4 = 0))

def load : Option R := if i < p.size then some (p.data i) else none

def load4 : Option (Float4 R) :=
  if p.Aligned16 i ∧ i+3 < p.size then some (.ofFn fun j => p.data (i+j)) else none

def store (v : R) : Option (List (ℕ × R)) := if i < p.size then some [(i,v)] else none

def store4 (v : Float4 R) : Option (List (ℕ × R)) :=
  if p.Aligned16 i ∧ i+3 < p.size then some [(i,v.x),(i+1,v.y),(i+2,v.z),(i+3,v.w)] else none

variable {p i}

theorem load_some (h : i < p.size) : p.load i = some (p.data i) := if_pos h

theorem load4_some (ha : p.Aligned16 i) (h : i+3 < p.size) :
    p.load4 i = some (.ofFn fun j => p.data (i+j)) := if_pos ⟨ha,h⟩

theorem load4_misaligned (ha : ¬p.Aligned16 i) : p.load4 i = none := if_neg fun h => ha h.1

theorem store_some (v : R) (h : i < p.size) : p.store i v = some [(i,v)] := if_pos h

theorem store4_some (v : Float4 R) (ha : p.Aligned16 i) (h : i+3 < p.size) :
    p.store4 i v = some [(i,v.x),(i+1,v.y),(i+2,v.z),(i+3,v.w)] := if_pos ⟨ha,h⟩

end Buffer

section Gathering

variable {ι κ β : Type*}

def gather (xs : List ι) (f : ι → Option (List β)) : Option (List β) :=
  (xs.mapM f).map List.flatten

theorem gather_some {xs : List ι} {f : ι → Option (List β)} (g : ι → List β)
    (h : ∀ x ∈ xs, f x = some (g x)) : gather xs f = some (xs.flatMap g) := by
  suffices hall : xs.mapM f = some (xs.map g) by
    rw [gather, hall]
    rfl
  induction xs with
  | nil => rfl
  | cons x xs ih =>
    rw [List.mapM_cons, h x List.mem_cons_self, ih fun z hz => h z (List.mem_cons_of_mem x hz)]
    rfl

theorem gather_none {xs : List ι} {f : ι → Option (List β)} {x : ι} (hx : x ∈ xs)
    (h : f x = none) : gather xs f = none := by
  suffices hall : xs.mapM f = none by
    rw [gather, hall]
    rfl
  induction xs with
  | nil => exact absurd hx List.not_mem_nil
  | cons y xs ih =>
    rw [List.mapM_cons]
    rcases List.mem_cons.mp hx with rfl | hx
    · rw [h]
      rfl
    · rw [ih hx]
      cases f y <;> rfl

def launch (gridY gridX : ℕ) (block : ℕ → ℕ → Option (List β)) : Option (List β) :=
  gather (List.range gridY) fun y => gather (List.range gridX) fun x => block y x

theorem launch_some {gridY gridX : ℕ} {block : ℕ → ℕ → Option (List β)} (g : ℕ → ℕ → List β)
    (h : ∀ y < gridY, ∀ x < gridX, block y x = some (g y x)) :
    launch gridY gridX block =
      some ((List.range gridY).flatMap fun y => (List.range gridX).flatMap fun x => g y x) :=
  gather_some _ fun y hy => gather_some _ fun x hx =>
    h y (List.mem_range.mp hy) x (List.mem_range.mp hx)

theorem nodup_flat_map {xs : List ι} {f : ι → List κ} (key : κ → ι) (hxs : xs.Nodup)
    (hf : ∀ x ∈ xs, (f x).Nodup) (hkey : ∀ x ∈ xs, ∀ y ∈ f x, key y = x) :
    (xs.flatMap f).Nodup := by
  rw [List.nodup_flatMap]
  refine ⟨hf,hxs.imp_of_mem fun {a b} ha hb hne => ?_⟩
  intro y hya hyb
  exact hne ((hkey a ha y hya).symm.trans (hkey b hb y hyb))

end Gathering

section Staging

variable {R : Type*}

def blockIndices (threads n : ℕ) : List ℕ :=
  (List.range threads).flatMap fun tid => strided threads n n tid

theorem mem_block_indices {threads n : ℕ} (h : 0 < threads) (i : ℕ) :
    i ∈ blockIndices threads n ↔ i < n := by
  constructor
  · intro hi
    obtain ⟨tid,_,hi⟩ := List.mem_flatMap.mp hi
    exact ((mem_strided n tid i h (Nat.le_add_left n tid)).mp hi).1
  · intro hi
    have hlt := Nat.mod_lt i h
    refine List.mem_flatMap.mpr ⟨i%threads,List.mem_range.mpr hlt,?_⟩
    rw [mem_strided n _ i h (Nat.le_add_left n _), Nat.mod_mod]
    exact ⟨hi,Nat.mod_le i threads,rfl⟩

def stage (indices : List ℕ) (turn : ℕ → Option (List (ℕ × R))) (shared : Memory R) :
    Option (Memory R) := (gather indices turn).map fun stores => storeAll stores shared

theorem stage_some {indices : List ℕ} {turn : ℕ → Option (List (ℕ × R))} (g : ℕ → List (ℕ × R))
    (h : ∀ i ∈ indices, turn i = some (g i)) (shared : Memory R) :
    ∃ staged, stage indices turn shared = some staged ∧
      ∀ a v, (∃ i ∈ indices, a ∈ addresses (g i)) →
        (∀ i ∈ indices, ∀ w ∈ g i, w.1 = a → w.2 = v) → staged a = v := by
  refine ⟨_,by rw [stage, gather_some g h]; rfl,?_⟩
  rintro a v ⟨i,hi,ha⟩ hv
  apply store_all_agreed
  · obtain ⟨w,hw,rfl⟩ := List.mem_map.mp ha
    exact List.mem_map_of_mem (List.mem_flatMap.mpr ⟨i,hi,hw⟩)
  · intro w hw hwa
    obtain ⟨i,hi,hw⟩ := List.mem_flatMap.mp hw
    exact hv i hi w hw hwa

/-- The turns of `for (k = 0; k < n; k += step)` keep an invariant that knows `k`. -/
theorem strided_loop {S : Type*} {step n : ℕ} (hstep : 0 < step) (turn : S → ℕ → Option S)
    (I : ℕ → S → Prop) (h : ∀ k s, k < n → step ∣ k → I k s →
      ∃ t, turn s k = some t ∧ I (k+step) t) (turns k : ℕ) (s : S) (hk : step ∣ k)
    (hturns : n ≤ k+turns) (hs : I k s) :
    ∃ t last, (strided step n turns k).foldlM turn s = some t ∧ n ≤ last ∧ I last t := by
  induction turns generalizing k s with
  | zero => exact ⟨s,k,rfl,hturns,hs⟩
  | succ turns ih =>
    unfold strided
    split
    · rename_i hlt
      obtain ⟨t,ht,hnext⟩ := h k s hlt hk hs
      obtain ⟨u,last,hu,hlast,hinv⟩ :=
        ih (k+step) t (Nat.dvd_add hk (dvd_refl step)) (by omega) hnext
      refine ⟨u,last,?_,hlast,hinv⟩
      rw [List.foldlM_cons, ht]
      exact hu
    · rename_i hge
      exact ⟨s,k,rfl,Nat.not_lt.mp hge,hs⟩

end Staging

end MiniLlm.KernelLaunch
