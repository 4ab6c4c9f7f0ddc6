import MiniLlm.FlashAttention

/-!
# Prefill attention is causal attention

Every thread of a query row takes up the keys up to its row, in order and
each once, whatever the tiles do with them: rows beyond the sequence load as
zeros and are never taken up, and a tile in which the mask is skipped is
visible as a whole.
-/

set_option autoImplicit false

namespace MiniLlm

open FlatMemory OnlineSoftmax BlockReduction

namespace FlashAttention

section Rows

variable (qkv : Memory ℝ) (hid row d : ℕ)

def queryAt : ℝ := qkv (row*3*gpt2DModel+hid*gpt2DHead+d)

def keyAt : ℝ := qkv (row*3*gpt2DModel+gpt2DModel+hid*gpt2DHead+d)

def valueAt : ℝ := qkv (row*3*gpt2DModel+2*gpt2DModel+hid*gpt2DHead+d)

end Rows

section Scores

variable (qkv : Memory ℝ) (scale : ℝ) (hid q k : ℕ)

noncomputable def exactScore : ℝ :=
  scale*∑ d ∈ Finset.range gpt2DHead, queryAt qkv hid q d*keyAt qkv hid k d

noncomputable def warpProduct (warp : ℕ) : ℝ :=
  ∑ lane ∈ Finset.range warpSize,
    queryAt qkv hid q (warp*warpSize+lane)*keyAt qkv hid k (warp*warpSize+lane)

noncomputable def kernelScore (order : LaneOrders) : ℝ :=
  (order hid q k).sum (warpProduct qkv hid q k 0) (warpProduct qkv hid q k 1)*scale

theorem warp_products : warpProduct qkv hid q k 0+warpProduct qkv hid q k 1 =
    ∑ d ∈ Finset.range gpt2DHead, queryAt qkv hid q d*keyAt qkv hid k d := by
  rw [show gpt2DHead = 2*warpSize from rfl, ← sum_warps _ 2]
  simp only [Finset.sum_range_succ, Finset.sum_range_zero, zero_add]
  rfl

theorem kernel_score_together {order : LaneOrders} (h : (order hid q k).Together) :
    kernelScore qkv scale hid q k order = exactScore qkv scale hid q k := by
  rw [kernelScore, LaneOrder.sum_together _ h, warp_products, exactScore, mul_comm]

theorem kernel_score_apart {order : LaneOrders} (h : ¬(order hid q k).Together) :
    kernelScore qkv scale hid q k order =
      exactScore qkv scale hid q k+warpProduct qkv hid q k 1*scale := by
  rw [kernelScore, LaneOrder.sum_apart _ h, warp_products, exactScore]
  ring

end Scores

section Tiles

variable (qkv : Memory ℝ) (kStart : ℕ)

theorem tile_load_source (address : ℕ → ℕ → Option ℕ) (w : ℕ × Option ℕ)
    (h : w ∈ tileLoads address kStart) :
    w.2 = address (kStart+w.1/gpt2DHead) (w.1%gpt2DHead) := by
  obtain ⟨tid,_,h⟩ := List.mem_flatMap.mp h
  obtain ⟨i,_,h⟩ := List.mem_flatMap.mp h
  obtain ⟨j,hj,rfl⟩ := List.mem_map.mp h
  have hj4 := List.mem_range.mp hj
  have hdiv : (i/dHeadVec4*gpt2DHead+(i%dHeadVec4*4+j))/gpt2DHead = i/dHeadVec4 := by
    simp only [dHeadVec4, gpt2DHead, gpt2DModel, gpt2NHeads]
    omega
  have hmod : (i/dHeadVec4*gpt2DHead+(i%dHeadVec4*4+j))%gpt2DHead = i%dHeadVec4*4+j := by
    simp only [dHeadVec4, gpt2DHead, gpt2DModel, gpt2NHeads]
    omega
  dsimp only
  rw [hdiv, hmod]

theorem tile_load_mem (address : ℕ → ℕ → Option ℕ) {kk d : ℕ} (hk : kk < bc)
    (hd : d < gpt2DHead) :
    (kk*gpt2DHead+d,address (kStart+kk) d) ∈ tileLoads address kStart := by
  let i := kk*dHeadVec4+d/4
  have hi : i < kvVecElems := by
    simp only [i, kvVecElems, bc, dHeadVec4, gpt2DHead, gpt2DModel, gpt2NHeads] at *
    omega
  have hsteps : 0 < blockThreads := by decide
  have hdiv : i/dHeadVec4 = kk := by
    simp only [i, dHeadVec4, gpt2DHead, gpt2DModel, gpt2NHeads] at *
    omega
  have hmod : i%dHeadVec4*4+d%4 = d := by
    simp only [i, dHeadVec4, gpt2DHead, gpt2DModel, gpt2NHeads] at *
    omega
  refine List.mem_flatMap.mpr ⟨i%blockThreads,List.mem_range.mpr (Nat.mod_lt _ hsteps),?_⟩
  refine List.mem_flatMap.mpr ⟨i,?_,?_⟩
  · rw [mem_strided _ _ _ hsteps (Nat.le_add_left _ _), Nat.mod_mod]
    exact ⟨hi,Nat.mod_le _ _,rfl⟩
  · refine List.mem_map.mpr ⟨d%4,List.mem_range.mpr (Nat.mod_lt _ (by decide)),?_⟩
    rw [hdiv, hmod]

theorem load_tile_get (address : ℕ → ℕ → Option ℕ) (shared : Memory ℝ) {kk d : ℕ}
    (hk : kk < bc) (hd : d < gpt2DHead) :
    loadTile qkv address kStart shared (kk*gpt2DHead+d) = load qkv (address (kStart+kk) d) := by
  have hdiv : (kk*gpt2DHead+d)/gpt2DHead = kk := by
    simp only [gpt2DHead, gpt2DModel, gpt2NHeads] at *
    omega
  have hmod : (kk*gpt2DHead+d)%gpt2DHead = d := by
    simp only [gpt2DHead, gpt2DModel, gpt2NHeads] at *
    omega
  apply store_all_agreed
  · refine List.mem_map.mpr ⟨_,List.mem_map_of_mem (tile_load_mem kStart address hk hd),rfl⟩
  · intro w hw ha
    obtain ⟨x,hx,rfl⟩ := List.mem_map.mp hw
    dsimp only at ha ⊢
    rw [tile_load_source kStart address x hx, ha, hdiv, hmod]

end Tiles

section Keys

variable (qkv : Memory ℝ) (seqLen : ℕ) (scale : ℝ) (order : LaneOrders) (hid qTile : ℕ)

/-- In a row of the sequence, what is taken up is what the mask allows. -/
theorem active_iff {r kStart kk : ℕ} (hk : kk < bc) (hq : qTile*br+r < seqLen) :
    active seqLen qTile kStart r kk = true ↔ kStart+kk ≤ qTile*br+r := by
  have hall : active seqLen qTile kStart r kk = true ↔
      kStart+kk < seqLen ∧ causal seqLen qTile kStart r kk = true := by
    simp [active, hq]
  rw [hall, causal]
  by_cases hfull : fullVisibleTile seqLen qTile kStart = true
  · -- the last key of the tile, or of the sequence, is not behind the first row
    rw [if_pos hfull, and_iff_left rfl]
    have hlast := of_decide_eq_true hfull
    unfold bc at *
    omega
  · rw [if_neg hfull, decide_eq_true_iff]
    omega

theorem key_turns_running (keys : List ℕ) (kStart r d : ℕ) (s : BlockState) :
    (keys.foldl (keyTurn qkv seqLen scale order hid qTile kStart) s).running r d =
      absorbAll (score qkv seqLen scale order hid qTile s kStart r)
        (fun kk => s.vShared (kk*gpt2DHead+d)) (keys.filter (active seqLen qTile kStart r))
        (s.running r d) := by
  induction keys generalizing s with
  | nil => rfl
  | cons kk keys ih =>
    rw [List.foldl_cons, ih]
    by_cases hactive : active seqLen qTile kStart r kk = true
    · rw [List.filter_cons_of_pos hactive]
      show absorbAll _ _ _ (keyRunning _ _ _ _ _ _ _ _ _ _ _) = absorbAll _ _ _ (absorb _ _ _)
      rw [keyRunning, if_pos hactive]
      rfl
    · rw [List.filter_cons_of_neg hactive]
      show absorbAll _ _ _ (keyRunning _ _ _ _ _ _ _ _ _ _ _) = _
      rw [keyRunning, if_neg hactive]
      rfl

theorem score_eq (s : BlockState) {kStart r kk : ℕ} (hq : qTile*br+r < seqLen)
    (hactive : active seqLen qTile kStart r kk = true)
    (hshared : ∀ d < gpt2DHead, s.kShared (kk*gpt2DHead+d) = keyAt qkv hid (kStart+kk) d) :
    score qkv seqLen scale order hid qTile s kStart r kk =
      kernelScore qkv scale hid (qTile*br+r) (kStart+kk) order := by
  have hwarp (warp : ℕ) (hlt : warp < 2) :
      warpValue (·+·) (partialProduct qkv seqLen hid qTile s kStart r kk) warp =
        warpProduct qkv hid (qTile*br+r) (kStart+kk) warp := by
    rw [warp_value_sum]
    apply Finset.sum_congr rfl
    intro lane hlane
    have hd : warp*warpSize+lane < gpt2DHead := by
      have := Finset.mem_range.mp hlane
      simp only [warpSize, gpt2DHead, gpt2DModel, gpt2NHeads] at *
      omega
    rw [partialProduct, if_pos hactive, hshared _ hd, qShared, queryAddress, if_pos hq]
    rfl
  rw [score, reduceDhead64Sum, hwarp 0 (by decide), hwarp 1 (by decide)]
  rfl

theorem range_filter_le (a q n : ℕ) :
    (List.range n).filter (fun kk => decide (a+kk ≤ q)) = List.range (min n (q+1-a)) := by
  induction n with
  | zero => simp
  | succ n ih =>
    rw [List.range_succ, List.filter_append, ih]
    by_cases h : a+n ≤ q
    · rw [List.filter_cons_of_pos (by simpa using h), List.filter_nil,
        show min (n+1) (q+1-a) = n+1 by omega, show min n (q+1-a) = n by omega, List.range_succ]
    · rw [List.filter_cons_of_neg (by simpa using h), List.filter_nil, List.append_nil,
        show min (n+1) (q+1-a) = min n (q+1-a) by omega]

theorem tile_turn_running (s : BlockState) (kStart : ℕ) {r d : ℕ} (hd : d < gpt2DHead)
    (hq : qTile*br+r < seqLen) :
    (tileTurn qkv seqLen scale order hid qTile s kStart).running r d =
      absorbAll (fun k => kernelScore qkv scale hid (qTile*br+r) k order)
        (fun k => valueAt qkv hid k d)
        (List.range' kStart (min bc (qTile*br+r+1-kStart))) (s.running r d) := by
  rw [tileTurn, key_turns_running]
  dsimp only
  have hkeys : (List.range bc).filter (active seqLen qTile kStart r) =
      List.range (min bc (qTile*br+r+1-kStart)) := by
    rw [← range_filter_le]
    apply List.filter_congr
    intro kk hkk
    rw [Bool.eq_iff_iff, active_iff seqLen qTile (List.mem_range.mp hkk) hq, decide_eq_true_iff]
  rw [hkeys, List.range'_eq_map_range, absorbAll, absorbAll, List.foldl_map]
  apply List.foldl_ext
  intro a kk hkk
  have hlt := List.mem_range.mp hkk
  have hbc : kk < bc := by omega
  have hle : kStart+kk ≤ qTile*br+r := by omega
  have hload (address : ℕ → ℕ → Option ℕ) (shared : Memory ℝ) {e : ℕ} (he : e < gpt2DHead) :=
    load_tile_get qkv kStart address shared hbc he
  rw [hload _ _ hd, score_eq _ _ _ _ _ _ _ hq
    ((active_iff seqLen qTile hbc hq).mpr hle)]
  · rw [valueAddress, if_pos (hle.trans_lt hq)]
    rfl
  · intro e he
    dsimp only
    rw [hload _ _ he, keyAddress, if_pos (hle.trans_lt hq)]
    rfl

/-- The tiles from one on take up the keys from its first on. -/
theorem tiles_running {turns kStart r d : ℕ} (s : BlockState) (hr : r < br)
    (hd : d < gpt2DHead) (hq : qTile*br+r < seqLen) (hturns : seqLen ≤ kStart+turns) :
    ((tileStarts seqLen qTile turns kStart).foldl
        (tileTurn qkv seqLen scale order hid qTile) s).running r d =
      absorbAll (fun k => kernelScore qkv scale hid (qTile*br+r) k order)
        (fun k => valueAt qkv hid k d) (List.range' kStart (qTile*br+r+1-kStart))
        (s.running r d) := by
  induction turns generalizing kStart s with
  | zero =>
    rw [show qTile*br+r+1-kStart = 0 by omega]
    rfl
  | succ turns ih =>
    rw [tileStarts]
    by_cases hin : kStart < seqLen
    · rw [if_pos hin]
      by_cases hbehind : min (qTile*br+br-1) (seqLen-1) < kStart
      · -- the break: the tile is behind every row of the block
        rw [if_pos hbehind, show qTile*br+r+1-kStart = 0 by omega]
        rfl
      · rw [if_neg hbehind, List.foldl_cons, ih _ (by unfold bc; omega),
          tile_turn_running _ _ _ _ _ _ _ _ hd hq, absorbAll, absorbAll, absorbAll,
          ← List.foldl_append]
        congr 1
        by_cases hmore : bc ≤ qTile*br+r+1-kStart
        · rw [Nat.min_eq_left hmore, List.range'_append_1]
          congr 1
          omega
        · rw [Nat.min_eq_right (by omega), show qTile*br+r+1-(kStart+bc) = 0 by omega]
          exact List.append_nil _
    · rw [if_neg hin, show qTile*br+r+1-kStart = 0 by omega]
      rfl

/-- What a thread of a row ends up with. -/
theorem block_running (s : BlockState) {r d : ℕ} (hr : r < br) (hd : d < gpt2DHead)
    (hq : qTile*br+r < seqLen) :
    (blockRun qkv seqLen scale order hid qTile s).running r d =
      absorbAll (fun k => kernelScore qkv scale hid (qTile*br+r) k order)
        (fun k => valueAt qkv hid k d) (List.range (qTile*br+r+1)) start := by
  rw [blockRun, tiles_running _ _ _ _ _ _ _ hr hd hq (Nat.le_add_left _ _),
    List.range_eq_range']
  rfl

end Keys

end FlashAttention

end MiniLlm
