import MiniLlm.FlashExact

/-!
# When prefill attention is exact

A score is the dot product of a query and a key only if both warps of the row
had loaded their halves before one of them stored the sum. Otherwise the
second half counts twice, and some query, key and value show it in every row
but the first.
-/

set_option autoImplicit false

namespace MiniLlm

open FlatMemory OnlineSoftmax BlockReduction

namespace FlashAttention

section Stores

variable (qkv : Memory ℝ) (seqLen : ℕ) (scale : ℝ) (order : LaneOrders) (s : BlockState)

/-- `m`, `l` and `o` of the thread of a component of a row, after the last tile. -/
noncomputable def rowRunning (hid q d : ℕ) : Running :=
  (blockRun qkv seqLen scale order hid (q/br) s).running (q%br) d

theorem row_running {hid q d : ℕ} (hq : q < seqLen) (hd : d < gpt2DHead) :
    rowRunning qkv seqLen scale order s hid q d =
      absorbAll (fun k => kernelScore qkv scale hid q k order) (fun k => valueAt qkv hid k d)
        (List.range (q+1)) start := by
  have hrow : q/br*br+q%br = q := Nat.div_add_mod' q br
  rw [rowRunning, block_running _ _ _ _ _ _ _ (Nat.mod_lt _ (by decide)) hd (hrow.symm ▸ hq),
    hrow]

theorem block_store_mem {hid qTile : ℕ} {w : ℕ × ℝ}
    (h : w ∈ blockStores qkv seqLen scale order hid qTile s) :
    ∃ q < seqLen, ∃ d < gpt2DHead, q/br = qTile ∧ w = (q*gpt2DModel+hid*gpt2DHead+d,
      (rowRunning qkv seqLen scale order s hid q d).o/
        (rowRunning qkv seqLen scale order s hid q d).l) := by
  obtain ⟨r,hr,h⟩ := List.mem_flatMap.mp h
  obtain ⟨d,hd,h⟩ := List.mem_flatMap.mp h
  have hrow := List.mem_range.mp hr
  have htile : (qTile*br+r)/br = qTile := by
    unfold br at *
    omega
  have hmod : (qTile*br+r)%br = r := by
    unfold br at *
    omega
  by_cases hq : qTile*br+r < seqLen
  · rw [if_pos hq, List.mem_singleton] at h
    refine ⟨qTile*br+r,hq,d,List.mem_range.mp hd,htile,?_⟩
    rw [h, rowRunning, htile, hmod]
  · rw [if_neg hq] at h
    exact absurd h List.not_mem_nil

theorem grid_store_mem {w : ℕ × ℝ} (h : w ∈ gridStores qkv seqLen scale order s) :
    ∃ hid < gpt2NHeads, ∃ q < seqLen, ∃ d < gpt2DHead, w = (q*gpt2DModel+hid*gpt2DHead+d,
      (rowRunning qkv seqLen scale order s hid q d).o/
        (rowRunning qkv seqLen scale order s hid q d).l) := by
  obtain ⟨hid,hhid,h⟩ := List.mem_flatMap.mp h
  obtain ⟨qTile,_,h⟩ := List.mem_flatMap.mp h
  obtain ⟨q,hq,d,hd,_,hw⟩ := block_store_mem qkv seqLen scale order s h
  exact ⟨hid,List.mem_range.mp hhid,q,hq,d,hd,hw⟩

theorem grid_stores_row {hid q d : ℕ} (hhid : hid < gpt2NHeads) (hq : q < seqLen)
    (hd : d < gpt2DHead) : (q*gpt2DModel+hid*gpt2DHead+d,
      (rowRunning qkv seqLen scale order s hid q d).o/
        (rowRunning qkv seqLen scale order s hid q d).l) ∈
      gridStores qkv seqLen scale order s := by
  have hrow : q/br*br+q%br = q := Nat.div_add_mod' q br
  have htile : q/br < (seqLen+br-1)/br := by
    unfold br
    omega
  refine List.mem_flatMap.mpr ⟨hid,List.mem_range.mpr hhid,?_⟩
  refine List.mem_flatMap.mpr ⟨q/br,List.mem_range.mpr htile,?_⟩
  refine List.mem_flatMap.mpr ⟨q%br,List.mem_range.mpr (Nat.mod_lt _ (by decide)),?_⟩
  refine List.mem_flatMap.mpr ⟨d,List.mem_range.mpr hd,?_⟩
  rw [hrow, if_pos hq]
  exact List.mem_singleton_self _

theorem written_value (bufO : Memory ℝ) {hid q d : ℕ} (hhid : hid < gpt2NHeads)
    (hq : q < seqLen) (hd : d < gpt2DHead) :
    flashattentionPrefill qkv bufO seqLen scale order s (q*gpt2DModel+hid*gpt2DHead+d) =
      softmaxAverage (fun k => kernelScore qkv scale hid q k order)
        (fun k => valueAt qkv hid k d) (Finset.range (q+1)) := by
  have hrows : seqLen ≠ 0 := (Nat.zero_lt_of_lt hq).ne'
  rw [flashattentionPrefill, if_neg hrows,
    store_all_agreed _ bufO _ ((rowRunning qkv seqLen scale order s hid q d).o/
      (rowRunning qkv seqLen scale order s hid q d).l)]
  · rw [row_running qkv seqLen scale order s hq hd]
    exact (absorb_range _ _ _ q.succ_pos).2
  · exact List.mem_map.mpr ⟨_,grid_stores_row qkv seqLen scale order s hhid hq hd,rfl⟩
  · intro w hw ha
    obtain ⟨hid',hhid',q',_,d',hd',rfl⟩ := grid_store_mem qkv seqLen scale order s hw
    have hplace : q' = q ∧ hid' = hid ∧ d' = d := by
      simp only [gpt2NHeads, gpt2DHead, gpt2DModel] at *
      omega
    obtain ⟨rfl,rfl,rfl⟩ := hplace
    rfl

theorem grid_stores_rows {w : ℕ × ℝ} (h : w ∈ gridStores qkv seqLen scale order s) :
    w.1/gpt2DModel < seqLen := by
  obtain ⟨hid,hhid,q,hq,d,hd,rfl⟩ := grid_store_mem qkv seqLen scale order s h
  simp only [gpt2NHeads, gpt2DHead, gpt2DModel] at *
  omega

end Stores

section Reads

theorem address_row {seqLen hid row d a : ℕ} (hhid : hid < gpt2NHeads) (hd : d < gpt2DHead)
    (h : a ∈ (queryAddress seqLen hid row d).toList ∨ a ∈ (keyAddress seqLen hid row d).toList ∨
      a ∈ (valueAddress seqLen hid row d).toList) : a/(3*gpt2DModel) < seqLen := by
  by_cases hrow : row < seqLen
  · simp only [queryAddress, keyAddress, valueAddress, if_pos hrow, Option.toList_some,
      List.mem_singleton] at h
    simp only [gpt2NHeads, gpt2DHead, gpt2DModel] at *
    omega
  · simp [queryAddress, keyAddress, valueAddress, if_neg hrow] at h

theorem tile_load_row {address : ℕ → ℕ → Option ℕ} {kStart : ℕ} {w : ℕ × Option ℕ}
    (h : w ∈ tileLoads address kStart) : ∃ row, ∃ d < gpt2DHead, w.2 = address row d :=
  ⟨_,_,Nat.mod_lt _ (by decide),tile_load_source kStart address w h⟩

theorem grid_reads_rows {seqLen a : ℕ} (h : a ∈ gridReads seqLen) :
    a/(3*gpt2DModel) < seqLen := by
  obtain ⟨hid,hhid,h⟩ := List.mem_flatMap.mp h
  have hhead := List.mem_range.mp hhid
  obtain ⟨qTile,_,h⟩ := List.mem_flatMap.mp h
  rcases List.mem_append.mp h with h | h
  · obtain ⟨r,_,h⟩ := List.mem_flatMap.mp h
    obtain ⟨d,hd,h⟩ := List.mem_flatMap.mp h
    exact address_row hhead (List.mem_range.mp hd) (.inl h)
  · obtain ⟨kStart,_,h⟩ := List.mem_flatMap.mp h
    obtain ⟨w,hw,h⟩ := List.mem_flatMap.mp h
    rcases List.mem_append.mp hw with hw | hw
    · obtain ⟨row,d,hd,hsource⟩ := tile_load_row hw
      exact address_row hhead hd (.inr (.inl (hsource ▸ h)))
    · obtain ⟨row,d,hd,hsource⟩ := tile_load_row hw
      exact address_row hhead hd (.inr (.inr (hsource ▸ h)))

end Reads

noncomputable def causalAttention (qkv : Memory ℝ) (scale : ℝ) (hid q d : ℕ) : ℝ :=
  softmaxAverage (exactScore qkv scale hid q) (fun k => valueAt qkv hid k d)
    (Finset.range (q+1))

theorem zero_scale_score (qkv : Memory ℝ) (order : LaneOrders) (hid q k : ℕ) :
    kernelScore qkv 0 hid q k order = exactScore qkv 0 hid q k := by
  rw [kernelScore, exactScore, mul_zero, zero_mul]

theorem scores_average (qkv : Memory ℝ) (scale : ℝ) (order : LaneOrders) (hid q d : ℕ)
    (h : scale = 0 ∨ (0 < q → ∀ k ≤ q, (order hid q k).Together)) :
    softmaxAverage (fun k => kernelScore qkv scale hid q k order)
      (fun k => valueAt qkv hid k d) (Finset.range (q+1)) =
        causalAttention qkv scale hid q d := by
  rcases h with rfl | h
  · exact softmax_congr (fun k _ => zero_scale_score qkv order hid q k) fun _ _ => rfl
  · by_cases hq : 0 < q
    · apply softmax_congr _ fun _ _ => rfl
      intro k hk
      exact kernel_score_together _ _ _ _ _ (h hq k (Nat.le_of_lt_succ (Finset.mem_range.mp hk)))
    · -- one key has all the weight, whatever its score
      obtain rfl := Nat.eq_zero_of_not_pos hq
      rw [causalAttention, softmax_single, softmax_single]

section Probe

variable (scale : ℝ) (hid q key : ℕ)

/-- A buffer in which the query and one key meet in a component of the second warp, and only that
key has a value there. -/
noncomputable def probe : Memory ℝ := fun a =>
  if a = q*3*gpt2DModel+hid*gpt2DHead+warpSize then 1
  else if a = key*3*gpt2DModel+gpt2DModel+hid*gpt2DHead+warpSize then 1/scale
  else if a = key*3*gpt2DModel+2*gpt2DModel+hid*gpt2DHead+warpSize then 1
  else 0

variable {hid}

section Apart

variable (row row' : ℕ) {d d' : ℕ} (hd : d < gpt2DHead) (hd' : d' < gpt2DHead)

include hd hd'

theorem query_key_apart : row*3*gpt2DModel+hid*gpt2DHead+d ≠
    row'*3*gpt2DModel+gpt2DModel+hid*gpt2DHead+d' := by
  simp only [gpt2DHead, gpt2DModel, gpt2NHeads] at *
  omega

theorem query_value_apart : row*3*gpt2DModel+hid*gpt2DHead+d ≠
    row'*3*gpt2DModel+2*gpt2DModel+hid*gpt2DHead+d' := by
  simp only [gpt2DHead, gpt2DModel, gpt2NHeads] at *
  omega

theorem key_value_apart : row*3*gpt2DModel+gpt2DModel+hid*gpt2DHead+d ≠
    row'*3*gpt2DModel+2*gpt2DModel+hid*gpt2DHead+d' := by
  simp only [gpt2DHead, gpt2DModel, gpt2NHeads] at *
  omega

end Apart

theorem probe_query {d : ℕ} (hd : d < gpt2DHead) :
    queryAt (probe scale hid q key) hid q d = if d = warpSize then 1 else 0 := by
  rw [queryAt, probe, if_neg (query_key_apart q key hd (by decide)),
    if_neg (query_value_apart q key hd (by decide))]
  simp only [add_right_inj]

theorem probe_key (k : ℕ) :
    keyAt (probe scale hid q key) hid k warpSize = if k = key then 1/scale else 0 := by
  rw [keyAt, probe, if_neg (query_key_apart q k (by decide) (by decide)).symm,
    if_neg (key_value_apart k key (by decide) (by decide))]
  simp [gpt2DModel]

theorem probe_value (k : ℕ) :
    valueAt (probe scale hid q key) hid k warpSize = if k = key then 1 else 0 := by
  rw [valueAt, probe, if_neg (query_value_apart q k (by decide) (by decide)).symm,
    if_neg (key_value_apart key k (by decide) (by decide)).symm]
  simp [gpt2DModel]

theorem probe_score (hscale : scale ≠ 0) (k : ℕ) :
    exactScore (probe scale hid q key) scale hid q k = if k = key then 1 else 0 := by
  have hmem : warpSize ∈ Finset.range gpt2DHead := by decide
  rw [exactScore, Finset.sum_eq_single_of_mem warpSize hmem]
  · rw [probe_query _ _ _ (Finset.mem_range.mp hmem), if_pos rfl, one_mul,
      probe_key]
    split_ifs
    · field_simp
    · ring
  · intro d hd hne
    rw [probe_query _ _ _ (Finset.mem_range.mp hd), if_neg hne, zero_mul]

theorem probe_product (hscale : scale ≠ 0) (k : ℕ) :
    warpProduct (probe scale hid q key) hid q k 1*scale = if k = key then 1 else 0 := by
  have hmem : 0 ∈ Finset.range warpSize := by decide
  rw [warpProduct, Finset.sum_eq_single_of_mem 0 hmem]
  · rw [Nat.one_mul, Nat.add_zero, probe_query _ _ _ (by decide), if_pos rfl, one_mul,
      probe_key]
    split_ifs
    · field_simp
    · ring
  · intro lane hlane hne
    have hd : 1*warpSize+lane < gpt2DHead := by
      have := Finset.mem_range.mp hlane
      simp only [warpSize, gpt2DHead, gpt2DModel, gpt2NHeads] at *
      omega
    rw [probe_query _ _ _ hd, if_neg (by omega), zero_mul]

theorem probe_kernel_score (order : LaneOrders) (hscale : scale ≠ 0) (k : ℕ) :
    kernelScore (probe scale hid q key) scale hid q k order =
      if k = key then (if (order hid q key).Together then 1 else 2) else 0 := by
  by_cases ht : (order hid q k).Together
  · rw [kernel_score_together _ _ _ _ _ ht, probe_score _ _ _ hscale]
    by_cases hk : k = key
    · rw [if_pos hk, if_pos hk, if_pos (hk ▸ ht)]
    · rw [if_neg hk, if_neg hk]
  · rw [kernel_score_apart _ _ _ _ _ ht, probe_score _ _ _ hscale, probe_product _ _ _ hscale]
    by_cases hk : k = key
    · rw [if_pos hk, if_pos hk, if_neg (hk ▸ ht)]
      norm_num
    · rw [if_neg hk, if_neg hk, zero_add]

theorem probe_average (order : LaneOrders) (hscale : scale ≠ 0) (hkey : key ≤ q) :
    softmaxAverage (fun k => kernelScore (probe scale hid q key) scale hid q k order)
        (fun k => valueAt (probe scale hid q key) hid k warpSize) (Finset.range (q+1)) =
      Real.exp (if (order hid q key).Together then 1 else 2)/
        (Real.exp (if (order hid q key).Together then 1 else 2)+q) := by
  have hmem : key ∈ Finset.range (q+1) := Finset.mem_range.mpr (Nat.lt_succ_of_le hkey)
  rw [softmax_congr (fun k _ => probe_kernel_score scale q key order hscale k)
      (fun k _ => probe_value scale q key k), softmax_one_key _ hmem,
    Finset.card_erase_of_mem hmem, Finset.card_range, Nat.add_sub_cancel]

theorem probe_exact (hscale : scale ≠ 0) (hkey : key ≤ q) :
    causalAttention (probe scale hid q key) scale hid q warpSize =
      Real.exp 1/(Real.exp 1+q) := by
  have hmem : key ∈ Finset.range (q+1) := Finset.mem_range.mpr (Nat.lt_succ_of_le hkey)
  rw [causalAttention, softmax_congr (fun k _ => probe_score scale q key hscale k)
      (fun k _ => probe_value scale q key k), softmax_one_key _ hmem,
    Finset.card_erase_of_mem hmem, Finset.card_range, Nat.add_sub_cancel]

/-- Twice the score makes a difference, as soon as there is another key. -/
theorem average_differs (hq : 0 < q) :
    Real.exp 2/(Real.exp 2+(q:ℝ)) ≠ Real.exp 1/(Real.exp 1+(q:ℝ)) := by
  have hrow : (0:ℝ) < q := Nat.cast_pos.mpr hq
  have hone := Real.exp_pos 1
  have htwo := Real.exp_pos 2
  have hlt : Real.exp 1 < Real.exp 2 := Real.exp_lt_exp.mpr one_lt_two
  rw [Ne, div_eq_div_iff (by positivity) (by positivity)]
  intro heq
  have hscaled : Real.exp 2*q = Real.exp 1*q := by linarith
  exact hlt.ne' (mul_right_cancel₀ hrow.ne' hscaled)

theorem probe_differs {order : LaneOrders} (hscale : scale ≠ 0)
    (hq : 0 < q) (hkey : key ≤ q) (h : ¬(order hid q key).Together) :
    softmaxAverage (fun k => kernelScore (probe scale hid q key) scale hid q k order)
        (fun k => valueAt (probe scale hid q key) hid k warpSize) (Finset.range (q+1)) ≠
      causalAttention (probe scale hid q key) scale hid q warpSize := by
  rw [probe_average scale q key order hscale hkey, probe_exact scale q key hscale hkey,
    if_neg h]
  exact average_differs q hq

end Probe

def lateLane : LaneOrder where
  accesses := LaneOrder.inTurn
  each := .refl _
  loadsFirst := by decide

theorem late_lane_apart : ¬lateLane.Together := by decide

end FlashAttention

end MiniLlm
