import MiniLlm.CausalAttention
import MiniLlm.PagedAttention

/-!
# Decode attention against prefill attention

The last row of a sequence, computed by both kernels. The decode kernel
always computes the exact average, but for its `1e-6`; so the two agree up to
that factor where the prefill kernel is exact.
-/

set_option autoImplicit false

namespace MiniLlm

open FlatMemory OnlineSoftmax BlockReduction

namespace PagedAttention

/-- Request `b` of a decode launch has the query of row `m` of a sequence, and its cache holds the
keys and values of the rows up to it. -/
structure SameSequence (sequence qkv pool : Memory ℝ)
    (blockTable blockOffsets numTokens : Memory ℕ) (b m : ℕ) : Prop where
  length : numTokens b = m+1
  slotsApart : ∀ t ≤ m, ∀ t' ≤ m,
    blockTable (blockOffsets b+t/defaultKvBlockSize) =
      blockTable (blockOffsets b+t'/defaultKvBlockSize) →
    t%defaultKvBlockSize = t'%defaultKvBlockSize → t = t'
  query : ∀ h < gpt2NHeads, ∀ d < gpt2DHead,
    qkv (b*3*gpt2DModel+h*gpt2DHead+d) = FlashAttention.queryAt sequence h m d
  key : ∀ t ≤ m, ∀ h < gpt2NHeads, ∀ d < gpt2DHead,
    pool (attentionK (blockTable (blockOffsets b+t/defaultKvBlockSize)) (t%defaultKvBlockSize)
      h d) = FlashAttention.keyAt sequence h t d
  value : ∀ t ≤ m, ∀ h < gpt2NHeads, ∀ d < gpt2DHead,
    pool (attentionV (blockTable (blockOffsets b+t/defaultKvBlockSize)) (t%defaultKvBlockSize)
      h d) = FlashAttention.valueAt sequence h t d

/-- The scale `block_prefill` passes. -/
noncomputable def headScale : ℝ := 1/Real.sqrt gpt2DHead

noncomputable def relativeSum (s : ℕ → ℝ) (m : ℕ) : ℝ :=
  ∑ t ∈ Finset.range (m+1), Real.exp (s t-(Finset.range (m+1)).sup' Finset.nonempty_range_add_one s)

section Exact

variable {sequence qkv pool : Memory ℝ} {blockTable blockOffsets numTokens : Memory ℕ} {b m : ℕ}
  (same : SameSequence sequence qkv pool blockTable blockOffsets numTokens b m) {h : ℕ}
  (hh : h < gpt2NHeads) (shared : Memory ℝ)

include same hh

theorem score_exact {t : ℕ} (ht : t ≤ m) :
    score qkv pool (blockPointers blockTable blockOffsets numTokens b h) h t =
      FlashAttention.exactScore sequence headScale h m t := by
  have hturn (d : ℕ) (hd : d ∈ Finset.range gpt2DHead) :
      qkv ((blockPointers blockTable blockOffsets numTokens b h).query+d)*
          pool (keyPointer (blockPointers blockTable blockOffsets numTokens b h) h t+d) =
        FlashAttention.queryAt sequence h m d*FlashAttention.keyAt sequence h t d := by
    have hlt := Finset.mem_range.mp hd
    rw [key_pointer_add, ← same.query h hh d hlt, ← same.key t ht h hh d hlt]
    simp only [blockPointers]
  rw [score, foldl_sum, Finset.sum_congr rfl hturn, FlashAttention.exactScore, headScale,
    one_div_mul_eq_div]

theorem exp_sum_exact : expSum qkv pool (blockPointers blockTable blockOffsets numTokens b h) h
    shared = relativeSum (FlashAttention.exactScore sequence headScale h m) m := by
  let req := blockPointers blockTable blockOffsets numTokens b h
  have hn : req.numTokens = m+1 := same.length
  have hscore (t : ℕ) (ht : t ∈ Finset.range (m+1)) : score qkv pool req h t =
      FlashAttention.exactScore sequence headScale h m t :=
    score_exact same hh (Nat.le_of_lt_succ (Finset.mem_range.mp ht))
  obtain ⟨hbound,t,ht,hmax⟩ := max_score_eq qkv pool req h shared (hn ▸ m.succ_pos)
  rw [hn] at hbound ht
  have hlargest : maxScore qkv pool req h shared = (Finset.range (m+1)).sup'
      Finset.nonempty_range_add_one (FlashAttention.exactScore sequence headScale h m) := by
    apply le_antisymm
    · rw [hmax, hscore t (Finset.mem_range.mpr ht)]
      exact Finset.le_sup' _ (Finset.mem_range.mpr ht)
    · apply Finset.sup'_le
      intro other hother
      rw [← hscore other hother]
      exact hbound other (Finset.mem_range.mp hother)
  show expSum qkv pool req h shared = _
  rw [expSum, relativeSum, hn, hlargest]
  exact Finset.sum_congr rfl fun t ht => by rw [hscore t ht]

theorem one_le_relative_sum :
    1 ≤ relativeSum (FlashAttention.exactScore sequence headScale h m) m := by
  rw [← exp_sum_exact same hh (fun _ => 0)]
  apply one_le_exp_sum
  show 0 < numTokens b
  rw [same.length]
  exact m.succ_pos

/-- The decode kernel computes causal attention, but for what it adds to the divisor. -/
theorem stored_exact {d : ℕ} (hd : d < gpt2DHead) :
    stored qkv pool blockTable blockOffsets numTokens shared b h d =
      FlashAttention.causalAttention sequence headScale h m d*
        relativeSum (FlashAttention.exactScore sequence headScale h m) m/
        (relativeSum (FlashAttention.exactScore sequence headScale h m) m+1e-6) := by
  have hn : (blockPointers blockTable blockOffsets numTokens b h).numTokens = m+1 := same.length
  rw [stored, component_eq _ _ _ _ _ (hn ▸ m.succ_pos), exp_sum_exact same hh, hn,
    FlashAttention.causalAttention]
  congr 2
  apply softmax_congr
  · exact fun t ht => score_exact same hh (Nat.le_of_lt_succ (Finset.mem_range.mp ht))
  · intro t ht
    rw [value_pointer_add,
      ← same.value t (Nat.le_of_lt_succ (Finset.mem_range.mp ht)) h hh d hd]
    simp only [blockPointers]

end Exact

theorem guard_error {f s : ℝ} (hs : 1 ≤ s) : |f*s/(s+1e-6)-f| ≤ 1e-6*|f| := by
  have hpos : 0 < s+1e-6 := by linarith
  have hfactor : f*s/(s+1e-6)-f = -(1e-6/(s+1e-6))*f := by
    field_simp
    ring
  have hle : 1e-6/(s+1e-6) ≤ 1e-6 := by
    rw [div_le_iff₀ hpos]
    linarith
  rw [hfactor, abs_mul, abs_neg, abs_of_pos (by positivity)]
  exact mul_le_mul_of_nonneg_right hle (abs_nonneg f)

/-- What both kernels leave for the last row of a sequence, for all contents of the buffers, the
cache and shared memory. -/
def AgreesWithPrefill (m : ℕ) (order : LaneOrders) : Prop :=
  ∀ sequence bufO block qkv pool blockTable blockOffsets numTokens out shared batchSize,
  ∀ b < batchSize, SameSequence sequence qkv pool blockTable blockOffsets numTokens b m →
  ∀ h < gpt2NHeads, ∀ d < gpt2DHead,
    let sum := relativeSum (FlashAttention.exactScore sequence headScale h m) m
    let prefill := FlashAttention.flashattentionPrefill sequence bufO (m+1) headScale order block
      (m*gpt2DModel+h*gpt2DHead+d)
    let decode := pagedDecodeAttention qkv pool blockTable blockOffsets numTokens out batchSize
      shared (b*gpt2DModel+h*gpt2DHead+d)
    decode = prefill*sum/(sum+1e-6) ∧ 1 ≤ sum ∧ |decode-prefill| ≤ 1e-6*|prefill|

section LaidOut

def laidOut (sequence : Memory ℝ) : Memory ℝ := fun a =>
  if a < vPool then sequence (keySource (a/gpt2DModel) (a%gpt2DModel))
  else sequence (valueSource ((a-vPool)/gpt2DModel) ((a-vPool)%gpt2DModel))

theorem laid_out_row {t h d : ℕ} (ht : t < maxSeq) (hc : h*gpt2DHead+d < gpt2DModel) :
    attentionK (t/defaultKvBlockSize) (t%defaultKvBlockSize) h d < vPool ∧
      attentionK (t/defaultKvBlockSize) (t%defaultKvBlockSize) h d/gpt2DModel = t ∧
      attentionK (t/defaultKvBlockSize) (t%defaultKvBlockSize) h d%gpt2DModel = h*gpt2DHead+d := by
  simp only [attentionK, vPool, defaultTotalKvBlocks, defaultKvBlockSize, maxSeq, gpt2DHead,
    gpt2DModel, gpt2NHeads] at *
  omega

theorem laid_out_key (sequence : Memory ℝ) {t h d : ℕ} (ht : t < maxSeq)
    (hc : h*gpt2DHead+d < gpt2DModel) :
    laidOut sequence (attentionK (id (0+t/defaultKvBlockSize)) (t%defaultKvBlockSize) h d) =
      sequence (keySource t (h*gpt2DHead+d)) := by
  obtain ⟨hlt,hdiv,hmod⟩ := laid_out_row ht hc
  rw [id, Nat.zero_add, laidOut, if_pos hlt, hdiv, hmod]

theorem laid_out_value (sequence : Memory ℝ) {t h d : ℕ} (ht : t < maxSeq)
    (hc : h*gpt2DHead+d < gpt2DModel) :
    laidOut sequence (attentionV (id (0+t/defaultKvBlockSize)) (t%defaultKvBlockSize) h d) =
      sequence (valueSource t (h*gpt2DHead+d)) := by
  obtain ⟨_,hdiv,hmod⟩ := laid_out_row ht hc
  have hback : attentionV (t/defaultKvBlockSize) (t%defaultKvBlockSize) h d-vPool =
      attentionK (t/defaultKvBlockSize) (t%defaultKvBlockSize) h d := Nat.add_sub_cancel_left _ _
  have hvalues : ¬attentionV (t/defaultKvBlockSize) (t%defaultKvBlockSize) h d < vPool :=
    Nat.not_lt.mpr (Nat.le_add_right _ _)
  rw [id, Nat.zero_add, laidOut, if_neg hvalues, hback, hdiv, hmod]

theorem laid_out_same (sequence : Memory ℝ) (m : ℕ) (hm : m < maxSeq) :
    SameSequence sequence (fun a => sequence (m*3*gpt2DModel+a)) (laidOut sequence) id
      (fun _ => 0) (fun _ => m+1) 0 m where
  length := rfl
  slotsApart t _ t' _ hblock hoffset := by
    simp only [id, Nat.zero_add, defaultKvBlockSize] at hblock hoffset
    omega
  query h _ d _ := by
    simp only [Nat.zero_mul, Nat.zero_add, FlashAttention.queryAt, Nat.add_assoc]
  key t ht h hh d hd := by
    rw [laid_out_key sequence (ht.trans_lt hm) (component_lt h d hh hd), keySource,
      FlashAttention.keyAt, Nat.add_assoc _ _ d]
  value t ht h hh d hd := by
    rw [laid_out_value sequence (ht.trans_lt hm) (component_lt h d hh hd), valueSource,
      FlashAttention.valueAt, Nat.add_assoc _ _ d]

end LaidOut

theorem head_scale_ne_zero : headScale ≠ 0 := by
  have hpos : (0:ℝ) < Real.sqrt gpt2DHead := Real.sqrt_pos.mpr (by norm_num [gpt2DHead])
  exact (one_div_pos.mpr hpos).ne'

/-- Where two lanes of the last row were apart, some sequence shows it. -/
theorem probe_disagrees {m : ℕ} (hm : m < maxSeq) {order : LaneOrders} {h k : ℕ}
    (hh : h < gpt2NHeads) (hpos : 0 < m) (hk : k ≤ m) (hapart : ¬(order h m k).Together)
    (bufO : Memory ℝ) (block : FlashAttention.BlockState) (out shared : Memory ℝ) :
    let sequence := FlashAttention.probe headScale h m k
    let sum := relativeSum (FlashAttention.exactScore sequence headScale h m) m
    pagedDecodeAttention (fun a => sequence (m*3*gpt2DModel+a)) (laidOut sequence) id
        (fun _ => 0) (fun _ => m+1) out 1 shared (0*gpt2DModel+h*gpt2DHead+warpSize) ≠
      FlashAttention.flashattentionPrefill sequence bufO (m+1) headScale order block
        (m*gpt2DModel+h*gpt2DHead+warpSize)*sum/(sum+1e-6) := by
  intro sequence sum
  have hd : warpSize < gpt2DHead := by decide
  have same := laid_out_same sequence m hm
  have hsum : 1 ≤ sum := one_le_relative_sum same hh
  rw [written_value _ _ _ _ _ _ _ _ one_pos hh hd, stored_exact same hh shared hd,
    FlashAttention.written_value _ _ _ _ _ _ hh m.lt_succ_self hd]
  intro heq
  have hguard : (0:ℝ) < sum+1e-6 := by linarith
  have hscaled := (div_left_inj' hguard.ne').mp heq
  have hsame := mul_right_cancel₀ (one_pos.trans_le hsum).ne' hscaled
  exact FlashAttention.probe_differs headScale m k head_scale_ne_zero hpos hk hapart hsame.symm

/-- The two kernels agree on the last row if in every reduction of it both lanes load before one
of them stores, and only then; unless it is the only row. -/
theorem agrees_with_prefill_iff (m : ℕ) (hm : m < maxSeq) (order : LaneOrders) :
    AgreesWithPrefill m order ↔
      m = 0 ∨ ∀ h < gpt2NHeads, ∀ k ≤ m, (order h m k).Together := by
  constructor
  · intro hagrees
    by_contra hcontra
    push Not at hcontra
    obtain ⟨hrow,h,hh,k,hk,hapart⟩ := hcontra
    let sequence := FlashAttention.probe headScale h m k
    apply probe_disagrees hm hh (Nat.pos_of_ne_zero hrow) hk hapart (fun _ => 0)
      ⟨fun _ => 0,fun _ => 0,fun _ _ => start⟩ (fun _ => 0) (fun _ => 0)
    exact (hagrees sequence _ _ _ _ _ _ _ _ _ 1 0 one_pos (laid_out_same sequence m hm) h hh
      warpSize (by decide)).1
  · intro horder sequence bufO block qkv pool blockTable blockOffsets numTokens out shared
      batchSize b hb same h hh d hd
    have hsum := one_le_relative_sum same hh
    have hprefill : FlashAttention.flashattentionPrefill sequence bufO (m+1) headScale order
        block (m*gpt2DModel+h*gpt2DHead+d) =
          FlashAttention.causalAttention sequence headScale h m d := by
      rw [FlashAttention.written_value _ _ _ _ _ _ hh m.lt_succ_self hd]
      apply FlashAttention.scores_average
      refine .inr fun hpos => ?_
      rcases horder with hzero | htogether
      · exact absurd hzero hpos.ne'
      · exact htogether h hh
    have hdecode := written_value qkv pool blockTable blockOffsets numTokens batchSize shared
      out hb hh hd
    rw [stored_exact same hh shared hd] at hdecode
    dsimp only
    rw [hdecode, hprefill]
    exact ⟨rfl,hsum,guard_error hsum⟩

theorem both_first_each :
    LaneOrder.bothFirst.Perm [.load 0,.store 0,.load 1,.store 1] := by decide

theorem both_first_loads (warp : Fin 2) :
    [LaneAccess.load warp,.store warp].Sublist LaneOrder.bothFirst := by
  revert warp
  decide

def promptLanes : LaneOrder where
  accesses := LaneOrder.bothFirst
  each := both_first_each
  loadsFirst := both_first_loads

theorem two_rows_agree : AgreesWithPrefill 1 fun _ _ _ => promptLanes := by
  have htogether : promptLanes.Together := by decide
  exact (agrees_with_prefill_iff 1 (by decide) _).mpr (.inr fun _ _ _ _ => htogether)

/-- Two rows and a late lane: the decode kernel and the prefill kernel differ by more than the
factor. -/
theorem late_lane_disagrees :
    let sequence := FlashAttention.probe headScale 0 1 0
    let sum := relativeSum (FlashAttention.exactScore sequence headScale 0 1) 1
    pagedDecodeAttention (fun a => sequence (1*3*gpt2DModel+a)) (laidOut sequence) id
        (fun _ => 0) (fun _ => 2) (fun _ => 0) 1 (fun _ => 0)
        (0*gpt2DModel+0*gpt2DHead+warpSize) ≠
      FlashAttention.flashattentionPrefill sequence (fun _ => 0) 2 headScale
        (fun _ _ _ => FlashAttention.lateLane) ⟨fun _ => 0,fun _ => 0,fun _ _ => start⟩
        (1*gpt2DModel+0*gpt2DHead+warpSize)*sum/(sum+1e-6) :=
  probe_disagrees (by decide) (by decide) one_pos (Nat.zero_le 1) FlashAttention.late_lane_apart
    _ _ _ _

end PagedAttention

end MiniLlm
