import MiniLlm.FlashRows
import MiniLlm.LayernormLaunches

/-!
# Weights that show what is computed

With these weights every row of a prefill is three numbers and their
negatives, and a layer caches a component of its first layer norm in a key.
Most layers add nothing to the rows. One adds what the attention of one query
and one key comes to, or what its second layer norm has in a component, and
this can be seen in the key the next layer caches.
-/

set_option autoImplicit false

namespace MiniLlm

open FlatMemory RowBuffers OnlineSoftmax BlockReduction FlashAttention LayernormKernel

namespace ProbeWeights

section Pairs

variable (u v w : ℝ)

def pairCells : ℕ → ℝ
  | 0 => u
  | 1 => -u
  | 2 => v
  | 3 => -v
  | 4 => w
  | 5 => -w
  | _ => 0

def pairs : Row gpt2DModel := fun d => pairCells u v w d

theorem pair_cells_rest {d : ℕ} (h : 6 ≤ d) : pairCells u v w d = 0 := by
  obtain ⟨d,rfl⟩ := Nat.exists_eq_add_of_le' h
  rfl

theorem sum_first (f : ℕ → ℝ) (h : ∀ d ≥ 6, f d = 0) :
    ∑ d : Fin gpt2DModel, f d = ∑ d ∈ Finset.range 6, f d := by
  rw [Fin.sum_univ_eq_sum_range]
  symm
  apply Finset.sum_subset
  · exact Finset.range_subset_range.mpr (by decide)
  · intro d _ hd
    exact h d (Nat.not_lt.mp (mt Finset.mem_range.mpr hd))

theorem pairs_centred : Centred (pairs u v w) where
  sum := by
    simp only [pairs]
    rw [sum_first (pairCells u v w) fun _ => pair_cells_rest u v w]
    simp [Finset.sum_range_succ, pairCells]
  zero := fun _ hd => pair_cells_rest u v w ((show 6 ≤ warpSize*4 by decide).trans hd)

theorem pairs_squares : squares (pairs u v w) = 2*(u*u+v*v+w*w) := by
  simp only [squares, pairs]
  rw [sum_first (fun d => pairCells u v w d*pairCells u v w d)
    fun d hd => by rw [pair_cells_rest u v w hd, zero_mul]]
  simp only [Finset.sum_range_succ, Finset.sum_range_zero, pairCells]
  ring

theorem pairs_add (w' : ℝ) : pairs u v w+pairs 0 0 w' = pairs u v (w+w') := by
  ext d
  simp only [pairs, Pi.add_apply]
  rcases d with ⟨d,_⟩
  by_cases hd : 6 ≤ d
  · simp only [pair_cells_rest _ _ _ hd, add_zero]
  · interval_cases d <;> simp only [pairCells] <;> ring

theorem pairs_mul (d : Fin gpt2DModel) : pairs 0 0 w d = w*pairs 0 0 1 d := by
  simp only [pairs]
  rcases d with ⟨d,_⟩
  by_cases hd : 6 ≤ d
  · simp only [pair_cells_rest _ _ _ hd, mul_zero]
  · interval_cases d <;> simp [pairCells]

end Pairs

section Norm

variable (c : NormCalls) (u v w : ℝ)

noncomputable def plain : Row gpt2DModel → Row gpt2DModel := c.row (fun _ => 1) (fun _ => 0)

noncomputable def spread : ℝ := deviation c.first (2*(u*u+v*v+w*w))

theorem spread_pos : 0 < spread c u v w := by
  apply deviation_pos
  nlinarith [mul_self_nonneg u, mul_self_nonneg v, mul_self_nonneg w]

theorem spread_alike {c c' : NormCalls} (h : NormAlike c c') : spread c u v w = spread c' u v w :=
  alike_deviation h _

theorem spread_injective {w w' : ℝ} (hw : 0 < w) (hw' : 0 < w')
    (h : spread c u v w = spread c u v w') : w = w' := by
  have hmono {a b : ℝ} (ha : 0 < a) (hab : a < b) : spread c u v a < spread c u v b := by
    apply deviation_lt
    · nlinarith [mul_self_nonneg u, mul_self_nonneg v, mul_self_nonneg a]
    · nlinarith
  rcases lt_trichotomy w w' with hlt | heq | hlt
  · exact absurd h (hmono hw hlt).ne
  · exact heq
  · exact absurd h (hmono hw' hlt).ne'

theorem plain_first {d : Fin gpt2DModel} (hd : (d:ℕ) < warpSize*4) :
    plain c (pairs u v w) d = pairs u v w d*(spread c u v w)⁻¹ := by
  have hwarp : (d:ℕ)/4 < warpSize := Nat.div_lt_of_lt_mul (Nat.mul_comm warpSize 4 ▸ hd)
  have hlate : ¬Late c.first (d/4) := first_warp_loads (thread_lt d) hwarp
  rw [plain, NormCalls.row, centred_row (pairs_centred u v w), if_neg hlate, sub_zero, mul_one,
    add_zero, pairs_squares, spread]

theorem plain_rest {d : Fin gpt2DModel} (hd : warpSize*4 ≤ (d:ℕ)) :
    plain c (pairs u v w) d =
      -(if Late c.first (d/4) then mean (2*(u*u+v*v+w*w)) else 0)*(spread c u v w)⁻¹ := by
  have hzero := (pairs_centred u v w).zero d hd
  rw [plain, NormCalls.row, centred_row (pairs_centred u v w), hzero, zero_sub, mul_one, add_zero,
    pairs_squares, spread]

theorem plain_late {d : Fin gpt2DModel} (hd : warpSize*4 ≤ (d:ℕ)) :
    plain c (pairs 1 0 0) d = 0 ↔ ¬Late c.first (d/4) := by
  have hinv := (inv_pos.mpr (spread_pos c 1 0 0)).ne'
  rw [plain_rest c 1 0 0 hd, mul_eq_zero, or_iff_left hinv, neg_eq_zero]
  by_cases hlate : Late c.first (d/4)
  · rw [if_pos hlate]
    exact iff_of_false (by norm_num [mean]) (not_not_intro hlate)
  · rw [if_neg hlate]
    exact iff_of_true rfl hlate

theorem alike_of_plain {c c' : NormCalls}
    (h : ∀ d, plain c (pairs 1 0 0) d = 0 ↔ plain c' (pairs 1 0 0) d = 0) : NormAlike c c' := by
  intro tid htid
  by_cases hwarp : tid < warpSize
  · exact iff_of_false (first_warp_loads htid hwarp) (first_warp_loads htid hwarp)
  · let d : Fin gpt2DModel := ⟨tid*4,Nat.mul_lt_mul_of_pos_right htid (by decide)⟩
    have hrest : warpSize*4 ≤ (d:ℕ) := Nat.mul_le_mul_right 4 (Nat.le_of_not_lt hwarp)
    have hthread : (d:ℕ)/4 = tid := Nat.mul_div_cancel tid (by decide)
    have hlate := h d
    rwa [plain_late c hrest, plain_late c' hrest, hthread, not_iff_not] at hlate

theorem gelu_one_zero {v : ℝ} : geluOne v = 0 ↔ v = 0 := by
  have htanh := Real.neg_one_lt_tanh (0.7978845608*(v+0.044715*v*v*v))
  have hne : 1+Real.tanh (0.7978845608*(v+0.044715*v*v*v)) ≠ 0 := by linarith
  rw [geluOne, mul_eq_zero, or_iff_left hne, mul_eq_zero, or_iff_right (by norm_num)]

theorem plain_added (y : ℝ) : plain c (pairs 1 0 y) 4 = 0 ↔ y = 0 := by
  have hinv := (inv_pos.mpr (spread_pos c 1 0 y)).ne'
  rw [plain_first _ _ _ _ (by decide), mul_eq_zero, or_iff_left hinv]
  rfl

end Norm

def component (hid : ℕ) : ℕ := hid*gpt2DHead+warpSize

noncomputable def queryCell (hid j : ℕ) : ℝ := if j = component hid then 1 else 0

noncomputable def keyValueCell (hid j : ℕ) : ℝ :=
  if j = gpt2DModel+component hid then 1/PagedAttention.headScale
  else if j = 2*gpt2DModel+component hid then 1
  else 0

section Probe

variable {hid : ℕ} (hhid : hid < gpt2NHeads) (q k : ℕ)

include hhid

theorem component_model : component hid < gpt2DModel := component_lt hid warpSize hhid (by decide)

theorem probe_row (t : ℕ) (j : Fin (3*gpt2DModel)) :
    rowAt (3*gpt2DModel) (probe PagedAttention.headScale hid q k) t j =
      (if t = q then queryCell hid j else 0)+(if t = k then keyValueCell hid j else 0) := by
  have hcomponent := component_model hhid
  have hplace (row o : ℕ) (ho : o < 3*gpt2DModel) :
      t*(3*gpt2DModel)+j = row*3*gpt2DModel+o ↔ t = row ∧ (j:ℕ) = o := by
    rw [Nat.mul_assoc]
    exact row_cell_eq j.isLt ho
  have hquery := hplace q (component hid) (by omega)
  have hkey := hplace k (gpt2DModel+component hid) (by omega)
  have hvalue := hplace k (2*gpt2DModel+component hid) (by omega)
  simp only [component, ← Nat.add_assoc] at hquery hkey hvalue
  rw [rowAt, probe]
  simp only [hquery, hkey, hvalue, queryCell, keyValueCell, component, ← Nat.add_assoc]
  by_cases hc : (j:ℕ) = hid*gpt2DHead+warpSize
  · simp [hc, Nat.add_assoc]
  · by_cases ht : t = k
    · simp [hc, ht]
    · simp [hc, ht]

end Probe

section Layers

def one (p : Prop) [Decidable p] : ℝ := if p then 1 else 0

noncomputable def keyMatrix (column : Fin gpt2DModel) (i : Fin gpt2DModel)
    (j : Fin (3*gpt2DModel)) : ℝ := one (i = column ∧ (j:ℕ) = gpt2DModel)

/-- A layer that adds nothing to the rows. The first component of its keys is one of its layer
norm. -/
noncomputable def idleLayer (column : Fin gpt2DModel) : LoadedLayer where
  ln1W := fun _ => 1
  ln1B := fun _ => 0
  qkvW := ofRows 0 (keyMatrix column)
  qkvB := fun _ => 0
  outW := fun _ => 0
  outB := fun _ => 0
  ln2W := fun _ => 1
  ln2B := fun _ => 0
  fc1W := fun _ => 0
  fc1B := fun _ => 0
  fc2W := fun _ => 0
  fc2B := fun _ => 0

def normFc1 (column i : Fin gpt2DModel) (j : Fin gpt2DFf) : ℝ := one (i = column ∧ (j:ℕ) = 0)

def normFc2 (i : Fin gpt2DFf) (j : Fin gpt2DModel) : ℝ := if i = 0 then pairs 0 0 1 j else 0

/-- One that adds what a component of its second layer norm comes to. -/
noncomputable def normLayer (shown column : Fin gpt2DModel) : LoadedLayer :=
  { idleLayer shown with
    fc1W := ofRows 0 (normFc1 column)
    fc2W := ofRows 0 normFc2 }

noncomputable def attentionQkv (hid : ℕ) (query key : ℝ) (i : Fin gpt2DModel)
    (j : Fin (3*gpt2DModel)) : ℝ :=
  if i = 0 then query*queryCell hid j else if i = 2 then key*keyValueCell hid j else 0

def attentionOut (hid : ℕ) (i j : Fin gpt2DModel) : ℝ :=
  if (i:ℕ) = component hid then pairs 0 0 1 j else 0

/-- One that takes two rows to those of the probe and adds what attention leaves in the
component. -/
noncomputable def attentionLayer (hid : ℕ) (query key : ℝ) : LoadedLayer :=
  { idleLayer 0 with
    qkvW := ofRows 0 (attentionQkv hid query key)
    outW := ofRows 0 (attentionOut hid) }

noncomputable def weights (position : ℕ → Row gpt2DModel) (layer : Fin gpt2NLayers → LoadedLayer) :
    LoadedWeights where
  wte := fun _ => 0
  wpe := ofRows 0 fun t : Fin maxSeq => position t
  layer := layer
  lnFW := fun _ => 0
  lnFB := fun _ => 0

theorem embedding_row (position : ℕ → Row gpt2DModel) (layer : Fin gpt2NLayers → LoadedLayer)
    (norms : PassNorms) (token : ℤ) {t : ℕ} (ht : t < maxSeq) :
    embeddingRow ((weights position layer).launches norms) token t = position t := by
  ext d
  have hcell : ((t:ℤ)*gpt2DModel+d).toNat = t*gpt2DModel+d := by omega
  have hrow := congrFun (of_rows_get 0 (fun t : Fin maxSeq => position t) ⟨t,ht⟩) d
  rw [embeddingRow, hcell]
  show 0+_ = _
  rw [zero_add]
  exact hrow

variable (column shown : Fin gpt2DModel) (x attn : Row gpt2DModel) (ln1 ln2 : ℕ → NormCalls)
  (t : ℕ)

theorem key_shown : ((idleLayer column).launches ln1 ln2).qkv x
    ⟨gpt2DModel,by decide⟩ = x column := by
  have hrow (i : Fin gpt2DModel) : rowAt (3*gpt2DModel) (ofRows 0 (keyMatrix column)) i
      ⟨gpt2DModel,by decide⟩ = one (i = column) := by
    rw [of_rows_get, keyMatrix]
    simp [one]
  show linear (ofRows 0 (keyMatrix column)) (fun _ => 0) x _ = _
  rw [linear, add_zero, gemm_one _ _ _ column fun i hi => by rw [hrow, one, if_neg hi], hrow, one,
    if_pos rfl, mul_one]

theorem idle_after : ((idleLayer column).launches ln1 ln2).after attn x t = x := by
  have hout : ((idleLayer column).launches ln1 ln2).out attn = 0 := linear_zero attn
  have hfc2 (y : Row gpt2DFf) : ((idleLayer column).launches ln1 ln2).fc2 y = 0 := linear_zero y
  rw [LayerLaunches.after, residualAdd, residualAdd, hout, hfc2, add_zero, add_zero]

theorem norm_after : ((normLayer shown column).launches ln1 ln2).after attn x t =
    x+pairs 0 0 (geluOne (plain (ln2 t) x column)) := by
  let w := (normLayer shown column).launches ln1 ln2
  have hout : w.out attn = 0 := linear_zero attn
  have hff (y : Row gpt2DModel) : w.fc1Gelu y 0 = geluOne (y column) := by
    have hrow (i : Fin gpt2DModel) : rowAt gpt2DFf (ofRows 0 (normFc1 column)) i 0 =
        one (i = column) := by
      rw [of_rows_get, normFc1]
      simp [one]
    show linearGelu (ofRows 0 (normFc1 column)) (fun _ => 0) y 0 = _
    rw [linearGelu, linear, add_zero,
      gemm_one _ _ _ column fun i hi => by rw [hrow, one, if_neg hi], hrow, one, if_pos rfl,
      mul_one]
  have hfc2 (y : Row gpt2DFf) : w.fc2 y = pairs 0 0 (y 0) := by
    ext j
    show linear (ofRows 0 normFc2) (fun _ => 0) y j = _
    rw [linear, add_zero, gemm_one _ _ _ 0 fun i hi => by
      rw [of_rows_get, normFc2, if_neg hi], of_rows_get, normFc2, if_pos rfl, ← pairs_mul]
  show w.after attn x t = _
  rw [LayerLaunches.after, residualAdd, residualAdd, hout, add_zero, hfc2, hff]
  rfl

variable {hid : ℕ} (query key : ℝ)

theorem attention_after (hhid : hid < gpt2NHeads) :
    ((attentionLayer hid query key).launches ln1 ln2).after attn x t =
      x+pairs 0 0 (attn ⟨component hid,component_model hhid⟩) := by
  let w := (attentionLayer hid query key).launches ln1 ln2
  have hout : w.out attn = pairs 0 0 (attn ⟨component hid,component_model hhid⟩) := by
    ext j
    show linear (ofRows 0 (attentionOut hid)) (fun _ => 0) attn j = _
    rw [linear, add_zero, gemm_one _ _ _ ⟨component hid,component_model hhid⟩ fun i hi => by
      rw [of_rows_get, attentionOut, if_neg fun he => hi (Fin.ext he)], of_rows_get, attentionOut,
      if_pos rfl, ← pairs_mul]
  have hfc2 (y : Row gpt2DFf) : w.fc2 y = 0 := linear_zero y
  show w.after attn x t = _
  rw [LayerLaunches.after, residualAdd, residualAdd, hfc2, add_zero, hout]

theorem attention_qkv (j : Fin (3*gpt2DModel)) :
    ((attentionLayer hid query key).launches ln1 ln2).qkv x j =
      x 0*(query*queryCell hid j)+x 2*(key*keyValueCell hid j) := by
  have hne : (0:Fin gpt2DModel) ≠ 2 := by decide
  show linear (ofRows 0 (attentionQkv hid query key)) (fun _ => 0) x j = _
  rw [linear, add_zero, gemm_two _ _ _ hne fun i hi hi' => by
    rw [of_rows_get, attentionQkv, if_neg hi, if_neg hi'], of_rows_get, of_rows_get, attentionQkv,
    attentionQkv, if_pos rfl, if_neg hne.symm, if_pos rfl]

end Layers

section Positions

variable (q k : ℕ)

noncomputable def positionRow (t : ℕ) (w : ℝ) : Row gpt2DModel :=
  pairs (one (t = q)) (one (t = k)) w

noncomputable def positionSpread (c : NormCalls) (t : ℕ) : ℝ :=
  spread c (one (t = q)) (one (t = k)) 0

/-- Where the layer undoes the layer norm of the query and of the key, its rows are those of the
probe. -/
theorem probe_rows {hid : ℕ} (hhid : hid < gpt2NHeads) (ln1 ln2 : ℕ → NormCalls) (t : ℕ) :
    let w := (attentionLayer hid (positionSpread q k (ln1 q) q)
      (positionSpread q k (ln1 k) k)).launches ln1 ln2
    w.qkv (w.ln1 t (positionRow q k t 0)) =
      rowAt (3*gpt2DModel) (probe PagedAttention.headScale hid q k) t := by
  intro w
  ext j
  have hspread := (spread_pos (ln1 t) (one (t = q)) (one (t = k)) 0).ne'
  have hcell (d : Fin gpt2DModel) (hd : (d:ℕ) < warpSize*4) : w.ln1 t (positionRow q k t 0) d =
      positionRow q k t 0 d*(positionSpread q k (ln1 t) t)⁻¹ := plain_first (ln1 t) _ _ _ hd
  have hundo (p : ℕ) (y : ℝ) : one (t = p)*(positionSpread q k (ln1 t) t)⁻¹*
      (positionSpread q k (ln1 p) p*y) = if t = p then y else 0 := by
    by_cases ht : t = p
    · subst ht
      rw [if_pos rfl, one, if_pos rfl, one_mul]
      exact inv_mul_cancel_left₀ hspread y
    · rw [if_neg ht, one, if_neg ht, zero_mul, zero_mul]
  rw [attention_qkv, probe_row hhid, hcell 0 (by decide), hcell 2 (by decide)]
  exact congrArg₂ (·+·) (hundo q _) (hundo k _)

end Positions

section Shown

variable (q k : ℕ)

noncomputable def shownWeight (o : LaneOrder) : ℝ :=
  Real.exp (if o.Together then 1 else 2)/(Real.exp (if o.Together then 1 else 2)+q)

theorem shown_weight_pos (o : LaneOrder) : 0 < shownWeight q o := by
  have hexp := Real.exp_pos (if o.Together then 1 else 2)
  unfold shownWeight
  positivity

theorem shown_weight_differs {o o' : LaneOrder} (hq : 0 < q)
    (h : ¬(o.Together ↔ o'.Together)) : shownWeight q o ≠ shownWeight q o' := by
  unfold shownWeight
  by_cases ho : o.Together
  · have ho' : ¬o'.Together := fun ho' => h (iff_of_true ho ho')
    rw [if_pos ho, if_neg ho']
    exact (average_differs q hq).symm
  · have ho' : o'.Together := by
      by_contra ho'
      exact h (iff_of_false ho ho')
    rw [if_neg ho, if_pos ho']
    exact average_differs q hq

theorem probe_attention {hid n : ℕ} (hhid : hid < gpt2NHeads) (hq : q < n) (hk : k ≤ q)
    (order : Fin gpt2NLayers → LaneOrders) (block : BlockState) (layer : Fin gpt2NLayers)
    {qkv : Memory ℝ} (hrows : SameRows (3*gpt2DModel) n qkv 0
      (probe PagedAttention.headScale hid q k) 0) (out : Memory ℝ) :
    rowAt gpt2DModel (launch order block layer n qkv out) q
      ⟨component hid,component_model hhid⟩ = shownWeight q (order layer hid q k) := by
  have hwritten := written_value (probe PagedAttention.headScale hid q k) n
    PagedAttention.headScale (order layer) block out hhid hq (show warpSize < gpt2DHead by decide)
  rw [probe_average _ _ _ _ PagedAttention.head_scale_ne_zero hk, Nat.add_assoc] at hwritten
  rw [launch, flash_row_same hrows hq hq hq (fun _ _ _ _ _ => Iff.rfl) out out _ block block]
  exact hwritten

end Shown

end ProbeWeights

end MiniLlm
