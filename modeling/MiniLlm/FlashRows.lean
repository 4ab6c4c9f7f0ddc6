import MiniLlm.CausalAttention
import MiniLlm.DecodeAgrees
import MiniLlm.ForwardPass

/-!
# Prefill attention by rows

What the kernel leaves in a row depends on the rows up to it, and on how the
reductions of the row went. So the launch of a layer is a function of the
rows of its request.
-/

set_option autoImplicit false

namespace MiniLlm

open FlatMemory RowBuffers OnlineSoftmax BlockReduction

theorem LaneOrder.sum_alike {o o' : LaneOrder} (h : o.Together ↔ o'.Together)
    (first second : ℝ) : o.sum first second = o'.sum first second := by
  by_cases ht : o.Together
  · rw [o.sum_together ht, o'.sum_together (h.mp ht)]
  · rw [o.sum_apart ht, o'.sum_apart (mt h.mpr ht)]

namespace FlashAttention

section Components

variable (qkv : Memory ℝ) (hid row : ℕ) {d : ℕ}

theorem query_row (hc : hid*gpt2DHead+d < 3*gpt2DModel) :
    queryAt qkv hid row d = rowAt (3*gpt2DModel) qkv row ⟨hid*gpt2DHead+d,hc⟩ := by
  simp only [queryAt, rowAt, Nat.mul_assoc, Nat.add_assoc]

theorem key_row (hc : gpt2DModel+(hid*gpt2DHead+d) < 3*gpt2DModel) :
    keyAt qkv hid row d = rowAt (3*gpt2DModel) qkv row ⟨gpt2DModel+(hid*gpt2DHead+d),hc⟩ := by
  simp only [keyAt, rowAt, Nat.mul_assoc, Nat.add_assoc]

theorem value_row (hc : 2*gpt2DModel+(hid*gpt2DHead+d) < 3*gpt2DModel) :
    valueAt qkv hid row d =
      rowAt (3*gpt2DModel) qkv row ⟨2*gpt2DModel+(hid*gpt2DHead+d),hc⟩ := by
  simp only [valueAt, rowAt, Nat.mul_assoc, Nat.add_assoc]

end Components

section Rows

variable {qkv qkv' : Memory ℝ} {m : ℕ} (hrows : SameRows (3*gpt2DModel) m qkv 0 qkv' 0)
  {hid q k : ℕ} (hhid : hid < gpt2NHeads)

include hrows hhid

theorem value_same (hk : k < m) {d : ℕ} (hd : d < gpt2DHead) :
    valueAt qkv hid k d = valueAt qkv' hid k d := by
  have hc := component_lt hid d hhid hd
  have hrow := hrows k hk
  rw [Nat.zero_add] at hrow
  rw [value_row qkv hid k (by omega), value_row qkv' hid k (by omega), hrow]

theorem kernel_score_same {scale : ℝ} {order order' : LaneOrders} (hq : q < m) (hk : k < m)
    (halike : (order hid q k).Together ↔ (order' hid q k).Together) :
    kernelScore qkv scale hid q k order = kernelScore qkv' scale hid q k order' := by
  have hquery := hrows q hq
  have hkey := hrows k hk
  rw [Nat.zero_add] at hquery hkey
  have hwarp (warp : ℕ) (hlt : warp < 2) :
      warpProduct qkv hid q k warp = warpProduct qkv' hid q k warp := by
    apply Finset.sum_congr rfl
    intro lane hlane
    have hd : warp*warpSize+lane < gpt2DHead := by
      have := Finset.mem_range.mp hlane
      simp only [warpSize, gpt2DHead, gpt2DModel, gpt2NHeads] at *
      omega
    have hc := component_lt hid _ hhid hd
    rw [query_row qkv hid q (by omega), query_row qkv' hid q (by omega), hquery,
      key_row qkv hid k (by omega), key_row qkv' hid k (by omega), hkey]
  rw [kernelScore, kernelScore, hwarp 0 (by decide), hwarp 1 (by decide),
    LaneOrder.sum_alike halike]

end Rows

def RowAlike (order order' : LaneOrders) (q : ℕ) : Prop :=
  ∀ hid < gpt2NHeads, 0 < q → ∀ k ≤ q, ((order hid q k).Together ↔ (order' hid q k).Together)

/-- A row of the output depends on the rows up to it. -/
theorem flash_row_same {qkv qkv' : Memory ℝ} {m n n' q : ℕ}
    (hrows : SameRows (3*gpt2DModel) m qkv 0 qkv' 0) (hq : q < m) (hn : q < n) (hn' : q < n')
    {order order' : LaneOrders} (halike : RowAlike order order' q) (out out' : Memory ℝ)
    (scale : ℝ) (block block' : BlockState) :
    rowAt gpt2DModel (flashattentionPrefill qkv out n scale order block) q =
      rowAt gpt2DModel (flashattentionPrefill qkv' out' n' scale order' block') q := by
  ext c
  obtain ⟨hhid,hd,hc⟩ := head_component c
  have hvalue := written_value qkv n scale order block out hhid hn hd
  have hvalue' := written_value qkv' n' scale order' block' out' hhid hn' hd
  rw [Nat.add_assoc, hc] at hvalue hvalue'
  rw [rowAt, rowAt, hvalue, hvalue']
  by_cases hpos : 0 < q
  · apply softmax_congr
    · intro k hk
      have hle := Nat.le_of_lt_succ (Finset.mem_range.mp hk)
      exact kernel_score_same hrows hhid hq (hle.trans_lt hq) (halike _ hhid hpos k hle)
    · exact fun k hk => value_same hrows hhid
        ((Nat.le_of_lt_succ (Finset.mem_range.mp hk)).trans_lt hq) hd
  · obtain rfl := Nat.eq_zero_of_not_pos hpos
    rw [softmax_single, softmax_single]
    exact value_same hrows hhid hq hd

/-- The launch of `block_prefill`, with the orders of its reductions by layer. -/
noncomputable def launch (order : Fin gpt2NLayers → LaneOrders) (block : BlockState) :
    PrefillAttention := fun layer n qkv out =>
  flashattentionPrefill qkv out n PagedAttention.headScale (order layer) block

theorem launch_attends_rows (order : Fin gpt2NLayers → LaneOrders) (block : BlockState) :
    AttendsRows (launch order block) fun layer n row =>
      fun t => rowAt gpt2DModel (launch order block layer n (ofRows 0 row) fun _ => 0) t := by
  intro layer n qkv out t
  have hrows : SameRows (3*gpt2DModel) n qkv 0
      (ofRows 0 fun s : Fin n => rowAt (3*gpt2DModel) qkv s) 0 := by
    intro s hs
    rw [Nat.zero_add]
    exact (of_rows_get 0 (fun s : Fin n => rowAt (3*gpt2DModel) qkv s) ⟨s,hs⟩).symm
  exact flash_row_same hrows t.isLt t.isLt t.isLt (fun _ _ _ _ _ => Iff.rfl) _ _ _ _ _

noncomputable def zeroBlock : BlockState := ⟨fun _ => 0,fun _ => 0,fun _ _ => start⟩

noncomputable def promptLaunch : PrefillAttention :=
  launch (fun _ _ _ _ => PagedAttention.promptLanes) zeroBlock

noncomputable def launchedRows : RowAttention := fun layer n row =>
  fun t => rowAt gpt2DModel (promptLaunch layer n (ofRows 0 row) fun _ => 0) t

theorem prompt_launch_rows : AttendsRows promptLaunch launchedRows := launch_attends_rows _ _

end FlashAttention

end MiniLlm
