import MiniLlm.DeviceGemm
import MiniLlm.LayernormLaunches

/-!
# The other kernels on device buffers

Layer norm, the embedding and the transposition of the token embedding have
no tiles, but their threads move four floats at a time. Every access is
checked against the size and the alignment of its buffer.
-/

set_option autoImplicit false

namespace MiniLlm.Kernels

open FlatMemory RowBuffers KernelLaunch BlockReduction Gemm

section RowGrid

variable {R : Type*}

theorem map_range_four (f : ℕ → R) : (List.range 4).map f = [f 0,f 1,f 2,f 3] := rfl

def float4Cells (threads : ℕ) : List (ℕ × ℕ) :=
  (List.range threads).flatMap fun t => (List.range 4).map fun j => (0,t*4+j)

theorem row_grid_fills (threads : ℕ) {rows : ℕ} {thread : ℕ → ℕ → Option (List (ℕ × R))}
    (value : ℕ → ℕ → R) (h : ∀ row < rows, ∀ t < threads, thread row t =
      some ((List.range 4).map fun j => (row*(threads*4)+(t*4+j),value row (t*4+j)))) :
    ∃ writes, launch 1 rows (fun _ row => gather (List.range threads) (thread row)) =
        some writes ∧ Fills rows (threads*4) value writes := by
  have hblock (y : ℕ) (hy : y < 1) (row : ℕ) (hrow : row < rows) :
      gather (List.range threads) (thread row) =
        some (tileStores rows (threads*4) 1 (threads*4) value (float4Cells threads) row 0) := by
    rw [gather_some _ fun t ht => h row hrow t (List.mem_range.mp ht)]
    simp only [tileStores, float4Cells, List.flatMap_assoc, List.flatMap_map]
    refine congrArg some (List.flatMap_congr fun t ht => ?_)
    rw [List.map_eq_flatMap]
    refine List.flatMap_congr fun j hj => ?_
    have hcell := row_cell_lt (List.mem_range.mp ht) (List.mem_range.mp hj)
    unfold cellStore
    dsimp only
    rw [Nat.mul_one, Nat.add_zero, Nat.zero_mul, Nat.zero_add, if_pos ⟨hrow,hcell⟩]
  rw [launch_some _ hblock]
  refine ⟨_,rfl,?_⟩
  have hgrid : Fills rows (threads*4) value
      (gridStores rows (threads*4) 1 (threads*4) value (float4Cells threads) rows 1) :=
    grid_fills (line_cells_tile threads 4) (Nat.mul_one rows).ge (Nat.one_mul _).ge
  simpa only [gridStores, List.range_one, List.flatMap_singleton] using hgrid

end RowGrid

section Pointers

variable {R : Type*} {n : ℕ}

/-- A pointer that `cudaMalloc` has returned for `n` floats. -/
structure DevicePtr (n : ℕ) where
  address : ℕ
  aligned : 4 ∣ address

def DevicePtr.whole (p : DevicePtr n) (data : Memory R) : Buffer R := ⟨p.address,n,data⟩

def DevicePtr.view (p : DevicePtr n) (k : ℕ) (data : Memory R) : Option (Buffer R) :=
  if k ≤ n then some ⟨p.address,k,data⟩ else none

theorem view_some {p : DevicePtr n} {k : ℕ} {data : Memory R} (h : k ≤ n) :
    p.view k data = some ⟨p.address,k,data⟩ := if_pos h

theorem DevicePtr.aligned16 (p : DevicePtr n) {k i : ℕ} {data : Memory R} (hi : 4 ∣ i) :
    (⟨p.address,k,data⟩ : Buffer R).Aligned16 i :=
  Nat.mod_eq_zero_of_dvd (dvd_add p.aligned hi)

theorem row_aligned {w : ℕ} (hw : 4 ∣ w) (row t : ℕ) : 4 ∣ row*w+t*4 :=
  dvd_add (Dvd.dvd.mul_left hw row) (Dvd.intro_left t rfl)

end Pointers

section Layernorm

open LayernormKernel BarrierInterval

/-- How the threads of a block of `layernorm_kernel` take turns: no thread is late for the first
sum. Whatever the row, the two calls of `block_reduce_sum` return something. -/
structure NormSchedule extends NormCalls where
  prompt : PromptLoads first
  run : ∀ x : Memory ℝ, Run x first second

/-- A thread of `layernorm_kernel`. -/
noncomputable def layernormThread (sched : NormSchedule) (x gamma beta y : Buffer ℝ)
    (row tid : ℕ) : Option (List (ℕ × ℝ)) := do
  let v ← x.load4 (row*gpt2DModel+tid*4)
  let g ← gamma.load4 (tid*4)
  let b ← beta.load4 (tid*4)
  let run := sched.run (advance x.data (row*gpt2DModel))
  let mean := LayernormKernel.mean (run.sum tid)
  let variance := LayernormKernel.mean (run.varSum tid)
  let invStd := (Real.sqrt (variance+1e-5))⁻¹
  y.store4 (row*gpt2DModel+tid*4) ⟨(v.x-mean)*invStd*g.x+b.x,(v.y-mean)*invStd*g.y+b.y,
    (v.z-mean)*invStd*g.z+b.z,(v.w-mean)*invStd*g.w+b.w⟩

/-- `layernorm`, with the schedule of each block. -/
noncomputable def launchLayernorm (scheds : ℕ → NormSchedule) (x gamma beta y : Buffer ℝ)
    (numRows : ℕ) : Option (List (ℕ × ℝ)) :=
  launch 1 numRows fun _ row => gather (List.range (layernormWarps*warpSize))
    (layernormThread (scheds row) x gamma beta y row)

variable {a b : ℕ} {x : DevicePtr a} {y : DevicePtr b} {gamma beta : DevicePtr gpt2DModel}
  {xs gs bs ys : Memory ℝ} {rows : ℕ}

theorem layernorm_thread_some (sched : NormSchedule) {row tid : ℕ} (hrow : row < rows)
    (htid : tid < layernormWarps*warpSize) :
    layernormThread sched ⟨x.address,rows*gpt2DModel,xs⟩ (gamma.whole gs) (beta.whole bs)
      ⟨y.address,rows*gpt2DModel,ys⟩ row tid =
    some ((List.range 4).map fun j => (row*gpt2DModel+(tid*4+j),
      output gs bs (sched.run (advance xs (row*gpt2DModel))) (tid*4+j))) := by
  have hwidth : gpt2DModel = layernormWarps*warpSize*4 := row_width.symm
  have hcell : tid*4+3 < gpt2DModel := by omega
  have hsize : row*gpt2DModel+tid*4+3 < rows*gpt2DModel := by
    rw [Nat.add_assoc]
    exact row_cell_lt hrow hcell
  have hrowAligned : 4 ∣ row*gpt2DModel+tid*4 := row_aligned (by decide) row tid
  have htidAligned : 4 ∣ tid*4 := Dvd.intro_left tid rfl
  have hv := Buffer.load4_some (p := ⟨x.address,rows*gpt2DModel,xs⟩)
    (x.aligned16 hrowAligned) hsize
  have hg := Buffer.load4_some (p := gamma.whole gs) (gamma.aligned16 htidAligned) hcell
  have hb := Buffer.load4_some (p := beta.whole bs) (beta.aligned16 htidAligned) hcell
  unfold layernormThread
  rw [hv, hg, hb]
  simp only [Option.bind_eq_bind, Option.bind_some]
  rw [Buffer.store4_some _ (y.aligned16 hrowAligned) hsize]
  have hthread (j : ℕ) (hj : j < 4) : (tid*4+j)/4 = tid := by omega
  have hzero := hthread 0 (by decide)
  rw [Nat.add_zero] at hzero
  simp only [map_range_four, output, Float4.ofFn, DevicePtr.whole, advance, Nat.add_zero,
    Nat.add_assoc, hzero, hthread 1 (by decide), hthread 2 (by decide), hthread 3 (by decide)]

theorem launch_layernorm_fills (scheds : ℕ → NormSchedule) :
    ∃ writes, launchLayernorm scheds ⟨x.address,rows*gpt2DModel,xs⟩ (gamma.whole gs)
        (beta.whole bs) ⟨y.address,rows*gpt2DModel,ys⟩ rows = some writes ∧
      storeAll writes ys = launchRows rows (fun row _ => layernorm gs bs row) xs ys := by
  obtain ⟨writes,hwrites,hfills⟩ := row_grid_fills (layernormWarps*warpSize)
    (fun row d => output gs bs ((scheds row).run (advance xs (row*gpt2DModel))) d)
    fun row hrow tid htid => layernorm_thread_some (x := x) (y := y) (scheds row) hrow htid
  refine ⟨writes,hwrites,?_⟩
  rw [fills_stored hfills]
  refine filled_rows _ xs fun row hrow d => ?_
  have hrow : (scheds row).row gs bs = layernorm gs bs := prompt_row (scheds row).prompt gs bs
  exact (output_row ((scheds row).run _) gs bs d).trans (congrFun (congrFun hrow _) d)

noncomputable def loadsFirstSchedule : NormSchedule where
  toNormCalls := promptCalls
  prompt := loads_first_prompt true layernormWarps
  run := rowRun _ _

end Layernorm

section Embedding

variable {R : Type}

def loadRow4 (table : Buffer R) (row : ℤ) (col : ℕ) : Option (Float4 R) :=
  if 0 ≤ row then table.load4 (row.toNat*gpt2DModel+col) else none

/-- A thread of `embedding_kernel`, with what has been copied to `ids` and `pos`. -/
def embeddingThread [Add R] (ids positions : List ℤ) (wte wpe x : Buffer R) (r v : ℕ) :
    Option (List (ℕ × R)) := do
  let tokenId ← ids[r]?
  let position ← positions[r]?
  let a ← loadRow4 wte tokenId (v*4)
  let b ← loadRow4 wpe position (v*4)
  x.store4 (r*gpt2DModel+v*4) ⟨a.x+b.x,a.y+b.y,a.z+b.z,a.w+b.w⟩

/-- `embedding_lookup`; a block has a thread for every four floats of a row. -/
def launchEmbedding [Add R] (ids positions : List ℤ) (wte wpe x : Buffer R) (seqLen : ℕ) :
    Option (List (ℕ × R)) :=
  launch 1 seqLen fun _ r =>
    gather (List.range (gpt2DModel/4)) (embeddingThread ids positions wte wpe x r)

def InTable (n : ℕ) (row : ℤ) : Prop := 0 ≤ row ∧ row < n

theorem load_row4_some {n : ℕ} {table : DevicePtr (n*gpt2DModel)} {data : Memory R} {row : ℤ}
    (h : InTable n row) {v : ℕ} (hv : v < gpt2DModel/4) :
    loadRow4 (table.whole data) row (v*4) =
      some (.ofFn fun j => data ((row*gpt2DModel+(v*4+j : ℕ)).toNat)) := by
  obtain ⟨k,rfl⟩ := Int.eq_ofNat_of_zero_le h.1
  have hk : k < n := Int.ofNat_lt.mp h.2
  have hcell : v*4+3 < gpt2DModel := by
    show v*4+3 < 768
    have : v < 192 := hv
    omega
  have hsize : k*gpt2DModel+v*4+3 < n*gpt2DModel := by
    rw [Nat.add_assoc]
    exact row_cell_lt hk hcell
  have hload := Buffer.load4_some (p := table.whole data)
    (table.aligned16 (row_aligned (by decide) k v)) hsize
  rw [loadRow4, if_pos h.1, Int.toNat_natCast, hload]
  refine congrArg some (Float4.of_fn_congr fun j _ => ?_)
  have hindex : ((k : ℤ)*gpt2DModel+(v*4+j : ℕ)).toNat = k*gpt2DModel+v*4+j := by
    rw [Nat.add_assoc]
    exact Int.toNat_natCast (k*gpt2DModel+(v*4+j))
  rw [hindex]
  rfl

variable {rows positionRows a : ℕ} {wte : DevicePtr (rows*gpt2DModel)}
  {wpe : DevicePtr (positionRows*gpt2DModel)} {x : DevicePtr a} {ids positions : List ℤ}
  {tokens pos xs : Memory R}

theorem launch_embedding_fills [Add R] (hlen : ids.length = positions.length)
    (hids : ∀ token ∈ ids, InTable rows token)
    (hpositions : ∀ position ∈ positions, InTable positionRows position) :
    ∃ writes, launchEmbedding ids positions (wte.whole tokens) (wpe.whole pos)
        ⟨x.address,ids.length*gpt2DModel,xs⟩ ids.length = some writes ∧
      Fills ids.length gpt2DModel (fun r d =>
        tokens ((ids[r]?.getD 0)*gpt2DModel+(d : ℕ)).toNat+
          pos ((positions[r]?.getD 0)*gpt2DModel+(d : ℕ)).toNat) writes := by
  refine row_grid_fills (gpt2DModel/4) _ fun r hr v hv => ?_
  have hr' : r < positions.length := hlen ▸ hr
  have ha : loadRow4 (wte.whole tokens) ids[r] (v*4) = _ :=
    load_row4_some (hids _ (List.getElem_mem hr)) hv
  have hb : loadRow4 (wpe.whole pos) positions[r] (v*4) = _ :=
    load_row4_some (hpositions _ (List.getElem_mem hr')) hv
  have hcell : v*4+3 < gpt2DModel := by
    show v*4+3 < 768
    have : v < 192 := hv
    omega
  have hsize : r*gpt2DModel+v*4+3 < ids.length*gpt2DModel := by
    rw [Nat.add_assoc]
    exact row_cell_lt hr hcell
  unfold embeddingThread
  rw [List.getElem?_eq_getElem hr, List.getElem?_eq_getElem hr']
  simp only [Option.bind_eq_bind, Option.bind_some, ha, hb]
  rw [Buffer.store4_some _ (x.aligned16 (row_aligned (by decide) r v)) hsize, map_range_four]
  have hwidth : gpt2DModel/4*4 = gpt2DModel := rfl
  simp only [Float4.ofFn, hwidth, Nat.add_assoc, Nat.add_zero, Option.getD_some]

theorem embedding_lookup_filled (W : Gpt2Weights) (hlen : ids.length = positions.length)
    (m : Memory ℝ) : embeddingLookup W ids positions m =
      filled ids.length gpt2DModel (fun r d =>
        W.wte ((ids[r]?.getD 0)*gpt2DModel+(d : ℕ)).toNat+
          W.wpe ((positions[r]?.getD 0)*gpt2DModel+(d : ℕ)).toNat) m := by
  refine filled_eq (fun r hr c hc => ?_) fun cell hcell => ?_
  · have hr' : r < positions.length := hlen ▸ hr
    have hzip : (ids.zip positions)[r]? = some (ids[r],positions[r]) := by
      rw [List.getElem?_zip_eq_some]
      exact ⟨List.getElem?_eq_getElem hr,List.getElem?_eq_getElem hr'⟩
    rw [embeddingLookup, row_cell_div hc, hzip, List.getElem?_eq_getElem hr,
      List.getElem?_eq_getElem hr']
    simp only [embeddingRow, Gpt2Weights.launches, row_cell_mod hc, Option.getD_some]
  · have hnone : (ids.zip positions)[cell/gpt2DModel]? = none := by
      rw [List.getElem?_eq_none_iff, List.length_zip, ← hlen, Nat.min_self]
      exact (Nat.le_div_iff_mul_le (by decide)).mpr hcell
    rw [embeddingLookup, hnone]

end Embedding

section Transposition

variable {R : Type*}

/-- A thread of `transpose_wte_kernel`. -/
def transposeThread (wte wteT : Buffer R) (vocabSize dModel d v : ℕ) :
    Option (List (ℕ × R)) :=
  if d < dModel ∧ v < vocabSize then
    (wte.load (v*dModel+d)).bind (wteT.store (d*vocabSize+v))
  else some []

/-- The launch of `make_wte_t_from_wte`, for any sizes. -/
def launchTranspose (wte wteT : Buffer R) (vocabSize dModel : ℕ) : Option (List (ℕ × R)) :=
  launch ((dModel+16-1)/16) ((vocabSize+16-1)/16) fun dBlock vBlock =>
    gather (List.range 16) fun ty => gather (List.range 16) fun tx =>
      transposeThread wte wteT vocabSize dModel (dBlock*16+tx) (vBlock*16+ty)

def squareCells : List (ℕ × ℕ) :=
  (List.range 16).flatMap fun ty => (List.range 16).map fun tx => (tx,ty)

theorem square_cells_tile : TileCells 16 16 squareCells := by
  refine ⟨?_,?_,?_⟩
  · refine nodup_flat_map Prod.snd List.nodup_range (fun ty _ => ?_) fun ty _ x hx => ?_
    · exact List.nodup_range.map fun tx tx' h => (Prod.mk.inj h).1
    · obtain ⟨tx,_,rfl⟩ := List.mem_map.mp hx
      rfl
  · intro x hx
    obtain ⟨ty,hty,hx⟩ := List.mem_flatMap.mp hx
    obtain ⟨tx,htx,rfl⟩ := List.mem_map.mp hx
    exact ⟨List.mem_range.mp htx,List.mem_range.mp hty⟩
  · intro r hr c hc
    exact List.mem_flatMap.mpr ⟨c,List.mem_range.mpr hc,
      List.mem_map.mpr ⟨r,List.mem_range.mpr hr,rfl⟩⟩

variable {vocabSize dModel : ℕ} {wte wteT : Buffer R}

theorem transpose_thread_some (hwte : wte.size = vocabSize*dModel)
    (hwteT : wteT.size = dModel*vocabSize) (d v : ℕ) :
    transposeThread wte wteT vocabSize dModel d v =
      some (if d < dModel ∧ v < vocabSize then [(d*vocabSize+v,wte.data (v*dModel+d))]
        else []) := by
  unfold transposeThread
  split
  · rename_i h
    have hload : v*dModel+d < wte.size := by
      rw [hwte]
      exact row_cell_lt h.2 h.1
    have hstore : d*vocabSize+v < wteT.size := by
      rw [hwteT]
      exact row_cell_lt h.1 h.2
    rw [Buffer.load_some hload, Option.bind_some, Buffer.store_some _ hstore]
  · rfl

theorem launch_transpose_fills (hwte : wte.size = vocabSize*dModel)
    (hwteT : wteT.size = dModel*vocabSize) :
    ∃ writes, launchTranspose wte wteT vocabSize dModel = some writes ∧
      Fills dModel vocabSize (fun d v => wte.data (v*dModel+d)) writes := by
  have hceil (n : ℕ) : n ≤ (n+16-1)/16*16 := by omega
  have hblock (x : ℕ) (_ : x < (dModel+16-1)/16) (y : ℕ) (_ : y < (vocabSize+16-1)/16) :
      (gather (List.range 16) fun ty => gather (List.range 16) fun tx =>
        transposeThread wte wteT vocabSize dModel (x*16+tx) (y*16+ty)) =
      some (tileStores dModel vocabSize 16 16 (fun d v => wte.data (v*dModel+d)) squareCells
        x y) := by
    rw [gather_some _ fun ty _ => gather_some _ fun tx _ =>
      transpose_thread_some hwte hwteT (x*16+tx) (y*16+ty)]
    simp only [tileStores, squareCells, List.flatMap_assoc, List.flatMap_map]
    rfl
  refine ⟨_,launch_some _ hblock,?_⟩
  exact grid_fills square_cells_tile (hceil dModel) (hceil vocabSize)

theorem gemm_congr {w n : ℕ} {weight weight' : Memory ℝ}
    (h : ∀ i < w, ∀ j < n, weight (i*n+j) = weight' (i*n+j)) (x : Row w) :
    (gemm weight x : Row n) = gemm weight' x := by
  funext j
  exact Finset.sum_congr rfl fun i _ => congrArg (x i*·) (h i i.isLt j j.isLt)

end Transposition

end MiniLlm.Kernels
