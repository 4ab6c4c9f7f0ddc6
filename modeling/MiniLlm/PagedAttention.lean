import MiniLlm.AppendKv
import MiniLlm.BlockReduction
import MiniLlm.OnlineSoftmax

/-!
# The decode attention kernel

`paged_decode_attention_kernel` in exact arithmetic: a block of 256 threads
per request and head makes three passes over the cached tokens, with their
scores in shared memory. It computes a softmax average, but for the `1e-6`
in its divisor.
-/

set_option autoImplicit false

namespace MiniLlm

open FlatMemory OnlineSoftmax BlockReduction

namespace PagedAttention

def blockDim : ℕ := 8*warpSize

section Kernel

/-- The pointers a block starts from, and its number of tokens: the query and the output as
offsets, the block table as a function. -/
structure Pointers where
  query : ℕ
  out : ℕ
  table : ℕ → ℕ
  numTokens : ℕ

variable (qkv pool : Memory ℝ) (req : Pointers) (h : ℕ)

def keyPointer (t : ℕ) : ℕ :=
  attentionK (req.table (t/defaultKvBlockSize)) (t%defaultKvBlockSize) h 0

def valuePointer (t : ℕ) : ℕ :=
  attentionV (req.table (t/defaultKvBlockSize)) (t%defaultKvBlockSize) h 0

theorem key_pointer_add (t d : ℕ) : keyPointer req h t+d =
    attentionK (req.table (t/defaultKvBlockSize)) (t%defaultKvBlockSize) h d := by
  simp only [keyPointer, attentionK, Nat.add_zero]

theorem value_pointer_add (t d : ℕ) : valuePointer req h t+d =
    attentionV (req.table (t/defaultKvBlockSize)) (t%defaultKvBlockSize) h d := by
  simp only [valuePointer, attentionV, Nat.add_zero, Nat.add_assoc]

noncomputable def score (t : ℕ) : ℝ :=
  (List.range gpt2DHead).foldl
    (fun acc d => acc+qkv (req.query+d)*pool (keyPointer req h t+d)) 0/Real.sqrt gpt2DHead

noncomputable def scorePass (shared : Memory ℝ) : Memory ℝ × (ℕ → WithBot ℝ) :=
  rewriteBlock (fun t _ => score qkv pool req h t) (fun m (s : ℝ) => max m s) blockDim
    req.numTokens ⊥ shared

/-- `max_score`; it is a number if there is a token. -/
noncomputable def maxScore (shared : Memory ℝ) : ℝ :=
  (blockReduceMax blockDim (scorePass qkv pool req h shared).2).unbotD 0

noncomputable def expPass (shared : Memory ℝ) : Memory ℝ × (ℕ → ℝ) :=
  rewriteBlock (fun _ s => Real.exp (s-maxScore qkv pool req h shared)) (·+·) blockDim
    req.numTokens 0 (scorePass qkv pool req h shared).1

noncomputable def denom (shared : Memory ℝ) : ℝ :=
  blockReduceSum blockDim (expPass qkv pool req h shared).2+1e-6

noncomputable def weightedSum (shared : Memory ℝ) (d : ℕ) : ℝ :=
  (List.range req.numTokens).foldl
    (fun acc t => acc+(expPass qkv pool req h shared).1 t*pool (valuePointer req h t+d)) 0

noncomputable def component (shared : Memory ℝ) (d : ℕ) : ℝ :=
  if req.numTokens = 0 then 0
  else weightedSum qkv pool req h shared d/denom qkv pool req h shared

noncomputable def blockStores (shared : Memory ℝ) : List (ℕ × ℝ) :=
  (List.range blockDim).flatMap fun tid => (strided blockDim gpt2DHead gpt2DHead tid).map
    fun d => (req.out+d,component qkv pool req h shared d)

end Kernel

section Launch

variable (qkv pool : Memory ℝ) (blockTable blockOffsets numTokens : Memory ℕ)

def blockPointers (b h : ℕ) : Pointers where
  query := b*3*gpt2DModel+h*gpt2DHead
  out := b*gpt2DModel+h*gpt2DHead
  table logicalBlock := blockTable (blockOffsets b+logicalBlock)
  numTokens := numTokens b

noncomputable def gridStores (batchSize : ℕ) (shared : Memory ℝ) : List (ℕ × ℝ) :=
  (List.range batchSize).flatMap fun b => (List.range gpt2NHeads).flatMap fun h =>
    blockStores qkv pool (blockPointers blockTable blockOffsets numTokens b h) h shared

/-- `paged_decode_attention`, for any contents of shared memory. -/
noncomputable def pagedDecodeAttention (bufO : Memory ℝ) (batchSize : ℕ) (shared : Memory ℝ) :
    Memory ℝ :=
  storeAll (gridStores qkv pool blockTable blockOffsets numTokens batchSize shared) bufO

end Launch

section Passes

variable (qkv pool : Memory ℝ) (req : Pointers) (h : ℕ) (shared : Memory ℝ)

theorem score_stored {t : ℕ} (ht : t < req.numTokens) :
    (scorePass qkv pool req h shared).1 t = score qkv pool req h t := by
  rw [scorePass, (rewrite_block_eq _ _ _ _ _ (by decide) _).1, if_pos ht]

theorem max_score_eq (hn : 0 < req.numTokens) :
    (∀ t < req.numTokens, score qkv pool req h t ≤ maxScore qkv pool req h shared) ∧
      ∃ t < req.numTokens, maxScore qkv pool req h shared = score qkv pool req h t := by
  have hthreads (tid : ℕ) (htid : tid < 8*warpSize) :
      (scorePass qkv pool req h shared).2 tid =
        ((strided (8*warpSize) req.numTokens req.numTokens tid).map
          fun t => (score qkv pool req h t : WithBot ℝ)).foldl max ⊥ := by
    rw [scorePass, blockDim, (rewrite_block_eq _ _ _ _ _ (by decide) _).2 tid htid, List.foldl_map,
      List.foldl_map]
  obtain ⟨hbound,hattained⟩ := block_max_strided 8 req.numTokens (by decide) _ _ hthreads
  rcases hattained with hbot | ⟨t,ht,hmax⟩
  · have hle := hbound 0 hn
    rw [hbot] at hle
    exact absurd hle (WithBot.not_coe_le_bot _)
  · have hnumber : maxScore qkv pool req h shared = score qkv pool req h t := by
      rw [maxScore, blockDim, hmax]
      rfl
    refine ⟨fun other hother => ?_,t,ht,hnumber⟩
    have hle := hbound other hother
    rw [hmax, WithBot.coe_le_coe] at hle
    rwa [hnumber]

theorem exp_stored {t : ℕ} (ht : t < req.numTokens) :
    (expPass qkv pool req h shared).1 t =
      Real.exp (score qkv pool req h t-maxScore qkv pool req h shared) := by
  rw [expPass, (rewrite_block_eq _ _ _ _ _ (by decide) _).1, if_pos ht, score_stored _ _ _ _ _ ht]

noncomputable def expSum : ℝ :=
  ∑ t ∈ Finset.range req.numTokens,
    Real.exp (score qkv pool req h t-maxScore qkv pool req h shared)

theorem denom_eq : denom qkv pool req h shared = expSum qkv pool req h shared+1e-6 := by
  have hstrided (tid : ℕ) (htid : tid ∈ Finset.range (8*warpSize)) :
      (expPass qkv pool req h shared).2 tid =
        ((strided (8*warpSize) req.numTokens req.numTokens tid).map fun t =>
          Real.exp ((scorePass qkv pool req h shared).1 t-maxScore qkv pool req h shared)).sum := by
    rw [expPass, blockDim,
      (rewrite_block_eq _ _ _ _ _ (by decide) _).2 tid (Finset.mem_range.mp htid),
      List.sum_eq_foldl]
  have hsum : blockReduceSum blockDim (expPass qkv pool req h shared).2 =
      expSum qkv pool req h shared := by
    rw [blockDim, block_reduce_sum_eq, Finset.sum_congr rfl hstrided,
      sum_strided _ _ (by decide)]
    apply Finset.sum_congr rfl
    intro t ht
    rw [score_stored _ _ _ _ _ (Finset.mem_range.mp ht)]
  rw [denom, hsum]

theorem weighted_sum_eq (d : ℕ) : weightedSum qkv pool req h shared d =
    ∑ t ∈ Finset.range req.numTokens,
      Real.exp (score qkv pool req h t-maxScore qkv pool req h shared)*
        pool (valuePointer req h t+d) := by
  rw [weightedSum, foldl_sum]
  apply Finset.sum_congr rfl
  intro t ht
  rw [exp_stored _ _ _ _ _ (Finset.mem_range.mp ht)]

/-- The key with the largest score adds one to the sum. -/
theorem one_le_exp_sum (hn : 0 < req.numTokens) : 1 ≤ expSum qkv pool req h shared := by
  obtain ⟨_,t,ht,hmax⟩ := max_score_eq qkv pool req h shared hn
  have hone : Real.exp (score qkv pool req h t-maxScore qkv pool req h shared) = 1 := by
    rw [hmax, sub_self, Real.exp_zero]
  rw [← hone]
  apply Finset.single_le_sum (fun i _ => (Real.exp_pos _).le) (Finset.mem_range.mpr ht)

theorem component_eq (hn : 0 < req.numTokens) (d : ℕ) :
    component qkv pool req h shared d =
      softmaxAverage (score qkv pool req h) (fun t => pool (valuePointer req h t+d))
          (Finset.range req.numTokens)*
        expSum qkv pool req h shared/(expSum qkv pool req h shared+1e-6) := by
  have hpos : 0 < expSum qkv pool req h shared :=
    one_pos.trans_le (one_le_exp_sum qkv pool req h shared hn)
  rw [component, if_neg hn.ne', denom_eq, weighted_sum_eq,
    ← softmax_shift _ _ _ (maxScore qkv pool req h shared), softmaxAverage,
    show ∑ t ∈ Finset.range req.numTokens,
      Real.exp (score qkv pool req h t-maxScore qkv pool req h shared) =
        expSum qkv pool req h shared from rfl, div_mul_cancel₀ _ hpos.ne']

variable {qkv pool req h shared} {qkv' pool' : Memory ℝ} {req' : Pointers} (shared' : Memory ℝ)

theorem component_congr (hn : req.numTokens = req'.numTokens)
    (hq : ∀ d < gpt2DHead, qkv (req.query+d) = qkv' (req'.query+d))
    (hk : ∀ t < req.numTokens, ∀ d < gpt2DHead,
      pool (keyPointer req h t+d) = pool' (keyPointer req' h t+d))
    (hv : ∀ t < req.numTokens, ∀ d < gpt2DHead,
      pool (valuePointer req h t+d) = pool' (valuePointer req' h t+d)) {d : ℕ}
    (hd : d < gpt2DHead) :
    component qkv pool req h shared d = component qkv' pool' req' h shared' d := by
  have hscore (t : ℕ) (ht : t < req.numTokens) :
      score qkv pool req h t = score qkv' pool' req' h t := by
    have hturn (e : ℕ) (he : e ∈ Finset.range gpt2DHead) :
        qkv (req.query+e)*pool (keyPointer req h t+e) =
          qkv' (req'.query+e)*pool' (keyPointer req' h t+e) := by
      rw [hq e (Finset.mem_range.mp he), hk t ht e (Finset.mem_range.mp he)]
    rw [score, score, foldl_sum, foldl_sum, Finset.sum_congr rfl hturn]
  by_cases hpos : 0 < req.numTokens
  · obtain ⟨hbound,t,ht,hmax⟩ := max_score_eq qkv pool req h shared hpos
    obtain ⟨hbound',t',ht',hmax'⟩ := max_score_eq qkv' pool' req' h shared' (hn ▸ hpos)
    have hlargest : maxScore qkv pool req h shared = maxScore qkv' pool' req' h shared' := by
      apply le_antisymm
      · rw [hmax, hscore t ht]
        exact hbound' t (hn ▸ ht)
      · rw [hmax', ← hscore t' (hn ▸ ht')]
        exact hbound t' (hn ▸ ht')
    have hsum : expSum qkv pool req h shared = expSum qkv' pool' req' h shared' := by
      rw [expSum, expSum, ← hn, hlargest]
      exact Finset.sum_congr rfl fun t ht => by rw [hscore t (Finset.mem_range.mp ht)]
    rw [component_eq _ _ _ _ _ hpos, component_eq _ _ _ _ _ (hn ▸ hpos), hsum, ← hn,
      softmax_congr (fun t ht => hscore t (Finset.mem_range.mp ht))
        fun t ht => hv t (Finset.mem_range.mp ht) d hd]
  · have hzero := Nat.eq_zero_of_not_pos hpos
    rw [component, component, if_pos hzero, if_pos (hn ▸ hzero)]

end Passes

section Stored

variable (qkv pool : Memory ℝ) (blockTable blockOffsets numTokens : Memory ℕ)
  (batchSize : ℕ) (shared : Memory ℝ)

noncomputable def stored (b h d : ℕ) : ℝ :=
  component qkv pool (blockPointers blockTable blockOffsets numTokens b h) h shared d

theorem grid_store_mem {w : ℕ × ℝ}
    (hw : w ∈ gridStores qkv pool blockTable blockOffsets numTokens batchSize shared) :
    ∃ b < batchSize, ∃ h < gpt2NHeads, ∃ d < gpt2DHead,
      w = (b*gpt2DModel+h*gpt2DHead+d,
        stored qkv pool blockTable blockOffsets numTokens shared b h d) := by
  obtain ⟨b,hb,hw⟩ := List.mem_flatMap.mp hw
  obtain ⟨h,hh,hw⟩ := List.mem_flatMap.mp hw
  obtain ⟨tid,_,hw⟩ := List.mem_flatMap.mp hw
  obtain ⟨d,hd,rfl⟩ := List.mem_map.mp hw
  have hlt := ((mem_strided _ tid d (by decide) (Nat.le_add_left _ tid)).mp hd).1
  exact ⟨b,List.mem_range.mp hb,h,List.mem_range.mp hh,d,hlt,rfl⟩

theorem grid_stores_all {b h d : ℕ} (hb : b < batchSize) (hh : h < gpt2NHeads)
    (hd : d < gpt2DHead) : (b*gpt2DModel+h*gpt2DHead+d,
      stored qkv pool blockTable blockOffsets numTokens shared b h d) ∈
        gridStores qkv pool blockTable blockOffsets numTokens batchSize shared := by
  have htid : d < blockDim := hd.trans (by decide)
  refine List.mem_flatMap.mpr ⟨b,List.mem_range.mpr hb,?_⟩
  refine List.mem_flatMap.mpr ⟨h,List.mem_range.mpr hh,?_⟩
  refine List.mem_flatMap.mpr ⟨d,List.mem_range.mpr htid,?_⟩
  apply List.mem_map_of_mem
  rw [mem_strided _ _ _ (by decide) (Nat.le_add_left _ d)]
  exact ⟨hd,le_refl d,rfl⟩

theorem written_value (bufO : Memory ℝ) {b h d : ℕ} (hb : b < batchSize) (hh : h < gpt2NHeads)
    (hd : d < gpt2DHead) :
    pagedDecodeAttention qkv pool blockTable blockOffsets numTokens bufO batchSize shared
        (b*gpt2DModel+h*gpt2DHead+d) =
      stored qkv pool blockTable blockOffsets numTokens shared b h d := by
  rw [pagedDecodeAttention]
  apply store_all_agreed
  · exact List.mem_map.mpr ⟨_,grid_stores_all _ _ _ _ _ _ _ hb hh hd,rfl⟩
  · intro w hw ha
    obtain ⟨b',_,h',hh',d',hd',rfl⟩ := grid_store_mem _ _ _ _ _ _ _ hw
    have hplace : b' = b ∧ h' = h ∧ d' = d := by
      simp only [gpt2NHeads, gpt2DHead, gpt2DModel] at *
      omega
    obtain ⟨rfl,rfl,rfl⟩ := hplace
    rfl

end Stored

end PagedAttention

end MiniLlm
